import Mathlib.Algebra.Order.Ring.Nat
import Mathlib.Algebra.BigOperators.Group.Finset
import Mathlib.Data.Fintype.Fin
import ModularRollup.Handlers

/-! Runs of the two handlers: any sequence of `ChangeGroup` and `FullChangeGroup` transactions,
each applied with `apply_tx` to the state the one before left. Along a run the value of every
token is conserved, the nonces move only by the `ChangeGroup`s that applied, and from a state
whose address index is consistent a run of checked transactions never panics. -/
namespace ModularRollup.Runs
open Primitives TxCommon State Handlers
open Operations (ChangeGroupOp)

/-- A transaction of a run, for the handler it is dispatched to. -/
inductive Tx
  | changeGroup (tx : ChangeGroupTx.ChangeGroup)
  | fullChangeGroup (priorityOp : FullChangeGroup)

variable (crypto : Crypto)

/-- `apply_tx` of the transaction's handler; the error type of `FullChangeGroup` is
`Infallible`. -/
def applyTx : Tx → ExecM ZkSyncState ChangeGroupOpError OpSuccess
  | .changeGroup tx => ChangeGroup.applyTx crypto tx
  | .fullChangeGroup p => fun s =>
    match FullChangeGroup.applyTx p s with
    | .ok r s' => .ok r s'
    | .err e _ => e.elim
    | .panic m => .panic m

/-- A run: `apply_tx` on each transaction in turn, a failed application included. It gives the
last state and, for each transaction, its `OpSuccess` or `none` where it failed; a panic ends
the run with no state. -/
def run : ZkSyncState → List Tx → Option (ZkSyncState × List (Option OpSuccess))
  | s, [] => some (s, [])
  | s, t :: ts =>
    match applyTx crypto t s with
    | .ok r s' => (run s' ts).map (Prod.map id (some r :: ·))
    | .err _ s' => (run s' ts).map (Prod.map id (none :: ·))
    | .panic _ => none

lemma run_cons_eq_some {s s' : ZkSyncState} {t : Tx} {ts : List Tx}
    {rs : List (Option OpSuccess)} (h : run crypto s (t :: ts) = some (s', rs)) :
    (∃ r s₁ rs', applyTx crypto t s = .ok r s₁ ∧ run crypto s₁ ts = some (s', rs') ∧
      rs = some r :: rs') ∨
    (∃ e s₁ rs', applyTx crypto t s = .err e s₁ ∧ run crypto s₁ ts = some (s', rs') ∧
      rs = none :: rs') := by
  simp only [run] at h
  split at h
  next r s₁ hs =>
    obtain ⟨⟨s'', rs'⟩, hrun, hp⟩ := Option.map_eq_some'.mp h
    cases hp
    exact .inl ⟨r, s₁, rs', hs, hrun, rfl⟩
  next e s₁ hs =>
    obtain ⟨⟨s'', rs'⟩, hrun, hp⟩ := Option.map_eq_some'.mp h
    cases hp
    exact .inr ⟨e, s₁, rs', hs, hrun, rfl⟩
  next => cases h

/-- A failed application leaves the state as it was. -/
lemma applyTx_err_state {t : Tx} {s s' : ZkSyncState} {e : ChangeGroupOpError}
    (h : applyTx crypto t s = .err e s') : s' = s := by
  cases t with
  | changeGroup tx => exact ChangeGroup.applyTx_err crypto h
  | fullChangeGroup p =>
    simp only [applyTx] at h
    split at h
    next => cases h
    next e _ _ => exact e.elim
    next => cases h

/-- What a `FullChangeGroup` that applied did: no fee, and either nothing changed or the
named account was emptied in the op's token. -/
lemma applyTx_fullChangeGroup_ok {p : FullChangeGroup} {s s' : ZkSyncState} {r : OpSuccess}
    (h : applyTx crypto (.fullChangeGroup p) s = .ok r s') :
    ∃ op, op.priorityOp = p ∧ r.fee = none ∧ r.executedOp = .fullChangeGroup op ∧
      ((∃ a, s.getAccount p.accountId = some a ∧
          op.withdrawAmount = some (a.getBalance p.token) ∧
          r.updates = [(p.accountId, .updateBalance (p.token, a.getBalance p.token, 0)
            a.nonce a.nonce)] ∧
          s' = s.insertAccount p.accountId
            { a with balances := Function.update a.balances p.token 0 }) ∨
        (op.withdrawAmount = none ∧ r.updates = [] ∧ s' = s)) := by
  by_cases htoken : p.token ≤ maxTokenId
  · obtain ⟨op, rfl, ⟨a, ha, -, hw, happ⟩ | ⟨-, hw, happ⟩⟩ :=
      FullChangeGroup.applyTx_cases (s := s) htoken
    · simp only [applyTx, happ] at h
      cases h
      exact ⟨op, rfl, rfl, rfl, .inl ⟨a, ha, hw, rfl, rfl⟩⟩
    · simp only [applyTx, happ] at h
      cases h
      exact ⟨op, rfl, rfl, rfl, .inr ⟨hw, rfl, rfl⟩⟩
  · simp [applyTx, FullChangeGroup.applyTx_of_lt (Fin.not_le.mp htoken)] at h

/-! ## Conservation of value -/

/-- The balances in `token` summed over every account of the tree. -/
def totalBalance (token : TokenId) (s : ZkSyncState) : ℕ :=
  ∑ id : AccountId, ((s.getAccount id).map (·.getBalance token)).getD 0

/-- The fee an applied transaction collected in `token`. -/
def feeIn (token : TokenId) (r : OpSuccess) : ℕ :=
  match r.fee with
  | some f => if f.token = token then f.amount else 0
  | none => 0

/-- The value an applied transaction sent out of the group in `token`: the amount of a
`ChangeGroup`, the withdraw amount of a `FullChangeGroup`. -/
def withdrawnIn (token : TokenId) (r : OpSuccess) : ℕ :=
  match r.executedOp with
  | .changeGroup op => if op.tx.token = token then op.tx.amount else 0
  | .fullChangeGroup op => if op.priorityOp.token = token then op.withdrawAmount.getD 0 else 0

/-- Writing back one account moves the total by the difference of its two balances. -/
lemma totalBalance_insertAccount (token : TokenId) {s : ZkSyncState} {id : AccountId}
    {a : Account} (ha : s.getAccount id = some a) (b : Account) :
    totalBalance token (s.insertAccount id b) + a.getBalance token =
      totalBalance token s + b.getBalance token := by
  have e : ∀ i, (((s.insertAccount id b).getAccount i).map (·.getBalance token)).getD 0 =
      Function.update (fun i => ((s.getAccount i).map (·.getBalance token)).getD 0) id
        (b.getBalance token) i := fun i => by
    by_cases h : i = id
    · subst h; simp
    · simp [h]
  simp only [totalBalance, e]
  rw [Finset.sum_update_of_mem (Finset.mem_univ id), ← Finset.add_sum_erase _ _ (Finset.mem_univ id),
    Finset.sdiff_singleton_eq_erase, ha]
  simp only [Option.map_some', Option.getD_some]
  omega

/-- Setting one balance of an account moves the total in that token by the difference, and
leaves the totals in every other token. -/
lemma totalBalance_updateBalance (token : TokenId) {s : ZkSyncState} {id : AccountId}
    {a : Account} (ha : s.getAccount id = some a) (t : TokenId) (v : ℕ) (nonce : Nonce) :
    totalBalance token (s.insertAccount id
        { a with balances := Function.update a.balances t v, nonce := nonce }) +
      (if t = token then a.getBalance t else 0) = totalBalance token s + if t = token then v else 0 := by
  have hsum := totalBalance_insertAccount token ha
    { a with balances := Function.update a.balances t v, nonce := nonce }
  by_cases ht : t = token
  · subst ht
    simpa using hsum
  · rw [if_neg ht, if_neg ht, add_zero, add_zero]
    simp only [Account.getBalance_mk, Function.update_noteq (Ne.symm ht)] at hsum
    exact Nat.add_right_cancel hsum

/-- One applied transaction takes out of the balances exactly its fee and its withdrawn
value. -/
lemma applyTx_ok_totalBalance (token : TokenId) {t : Tx} {s s' : ZkSyncState} {r : OpSuccess}
    (h : applyTx crypto t s = .ok r s') :
    totalBalance token s' + feeIn token r + withdrawnIn token r = totalBalance token s := by
  cases t with
  | changeGroup tx =>
    obtain ⟨op, -, happ, hop⟩ := ChangeGroup.applyTx_ok crypto h
    obtain ⟨a, -, ha, -, hbal, hr, rfl⟩ := ChangeGroup.applyOp_ok happ
    have hsum := totalBalance_updateBalance token ha op.tx.token
      (a.getBalance op.tx.token - (op.tx.amount + op.tx.fee)) (a.nonce + 1)
    have hfee : r.fee = some ⟨op.tx.token, op.tx.fee⟩ := congrArg Prod.fst hr
    simp only [feeIn, withdrawnIn, hfee, hop]
    split_ifs at hsum ⊢ <;> omega
  | fullChangeGroup p =>
    obtain ⟨op, rfl, hfee, hop, ⟨a, ha, hw, -, rfl⟩ | ⟨hw, -, rfl⟩⟩ :=
      applyTx_fullChangeGroup_ok crypto h
    · have hsum := totalBalance_updateBalance token ha op.priorityOp.token 0 a.nonce
      simp only [feeIn, withdrawnIn, hfee, hop, hw, Option.getD_some]
      split_ifs at hsum ⊢ <;> omega
    · simp [feeIn, withdrawnIn, hfee, hop, hw]

/-- Along a run that does not panic, the balances in `token`, the fees collected in it and the
value sent out in it add up to the balances it started from. -/
theorem run_totalBalance (token : TokenId) (s : ZkSyncState) (txs : List Tx) {s' : ZkSyncState}
    {rs : List (Option OpSuccess)} (h : run crypto s txs = some (s', rs)) :
    totalBalance token s' + ((rs.filterMap id).map (feeIn token)).sum +
      ((rs.filterMap id).map (withdrawnIn token)).sum = totalBalance token s := by
  induction txs generalizing s rs with
  | nil =>
    obtain ⟨rfl, rfl⟩ := Prod.mk.inj (Option.some.inj h).symm
    simp
  | cons t ts ih =>
    rcases run_cons_eq_some crypto h with ⟨r, s₁, rs', hs, hrun, rfl⟩ | ⟨e, s₁, rs', hs, hrun, rfl⟩
    · have hstep := applyTx_ok_totalBalance crypto token hs
      have := ih s₁ hrun
      simp only [List.filterMap_cons, id, List.map_cons, List.sum_cons] at this ⊢
      omega
    · obtain rfl := applyTx_err_state crypto hs
      simpa using ih _ hrun

theorem run_totalBalance_sample :
    let crypto : Crypto := ⟨fun _ _ => none, fun _ => default, fun _ _ => none⟩
    let key : PubKeyHash := ⟨⟨List.replicate 20 1, rfl⟩⟩
    let a : Account := ⟨key, H160.zero, fun _ => 10, 2⟩
    let s : ZkSyncState := ⟨fun i => if i = 0 then some a else none, fun _ => some 0, fun _ => none⟩
    let tx : ChangeGroupTx.ChangeGroup := ⟨0, H160.zero, H160.zero, 0, 3, 1, 0, 1, 2, default,
      .cached (some (key, .v1)), false, none⟩
    let txs : List Tx := [.changeGroup tx, .changeGroup tx, .fullChangeGroup ⟨0, H160.zero, 0⟩]
    ∃ s' rs, run crypto s txs = some (s', rs) ∧
      totalBalance 0 s' + ((rs.filterMap id).map (feeIn 0)).sum +
        ((rs.filterMap id).map (withdrawnIn 0)).sum = totalBalance 0 s := by
  intro crypto key a s tx txs
  exact ⟨_, _, rfl, run_totalBalance crypto 0 s txs rfl⟩

/-! ## Nonces -/

/-- The nonce of account `id`, when it exists. -/
def nonceOf (s : ZkSyncState) (id : AccountId) : Option Nonce := (s.getAccount id).map (·.nonce)

/-- The nonce an applied transaction presented for account `id`: that of a `ChangeGroup` from
`id`. -/
def presentedNonce (id : AccountId) (r : OpSuccess) : Option Nonce :=
  match r.executedOp with
  | .changeGroup op => if op.accountId = id then some op.tx.nonce else none
  | .fullChangeGroup _ => none

/-- The nonces presented for account `id` by the transactions of a run that applied, in run
order. -/
def presentedNonces (id : AccountId) (rs : List (Option OpSuccess)) : List Nonce :=
  rs.filterMap fun r => r.bind (presentedNonce id)

/-- One applied transaction: a `ChangeGroup` from `id` presented `id`'s nonce and moved it on by
one; any other leaves `id`'s nonce as it was. -/
lemma applyTx_ok_nonceOf {t : Tx} {s s' : ZkSyncState} {r : OpSuccess}
    (h : applyTx crypto t s = .ok r s') (id : AccountId) :
    (∀ n, presentedNonce id r = some n → nonceOf s id = some n ∧ nonceOf s' id = some (n + 1)) ∧
      (presentedNonce id r = none → nonceOf s' id = nonceOf s id) := by
  cases t with
  | changeGroup tx =>
    obtain ⟨op, -, happ, hop⟩ := ChangeGroup.applyTx_ok crypto h
    obtain ⟨a, -, ha, hn, -, -, rfl⟩ := ChangeGroup.applyOp_ok happ
    by_cases hid : op.accountId = id
    · subst hid
      refine ⟨fun n hp => ?_, fun hp => by simp [presentedNonce, hop] at hp⟩
      simp only [presentedNonce, hop, if_true, Option.some.injEq] at hp
      subst hp
      simp [nonceOf, ha, hn]
    · have hp : presentedNonce id r = none := by simp [presentedNonce, hop, hid]
      simp [hp, nonceOf, Ne.symm hid]
  | fullChangeGroup p =>
    obtain ⟨op, rfl, -, hop, ⟨a, ha, -, -, rfl⟩ | ⟨-, -, rfl⟩⟩ :=
      applyTx_fullChangeGroup_ok crypto h
    · have hp : presentedNonce id r = none := by simp [presentedNonce, hop]
      by_cases hid : id = op.priorityOp.accountId
      · subst hid
        simp [hp, nonceOf, ha]
      · simp [hp, nonceOf, hid]
    · simp [presentedNonce, hop]

lemma add_ofNat_zero (n : Nonce) : n + Fin.ofNat 0 = n := by
  simp only [Fin.ext_iff, Fin.val_add, Fin.ofNat]
  omega

lemma add_ofNat_succ (n : Nonce) (k : ℕ) : n + Fin.ofNat (k + 1) = n + 1 + Fin.ofNat k := by
  simp only [Fin.ext_iff, Fin.val_add, Fin.ofNat, Fin.val_one]
  omega

/-- The `ChangeGroup`s from an existing account that applied in a run presented its nonces
`n, n + 1, …` in order (as `u32`, wrapping), and it ends at `n + k` after `k` of them. -/
lemma presentedNonces_of_run {s s' : ZkSyncState} {txs : List Tx} {rs : List (Option OpSuccess)}
    (h : run crypto s txs = some (s', rs)) (id : AccountId) {n : Nonce}
    (hn : nonceOf s id = some n) :
    presentedNonces id rs =
        (List.range (presentedNonces id rs).length).map (fun k => n + Fin.ofNat k) ∧
      nonceOf s' id = some (n + Fin.ofNat (presentedNonces id rs).length) := by
  induction txs generalizing s rs n with
  | nil =>
    obtain ⟨rfl, rfl⟩ := Prod.mk.inj (Option.some.inj h).symm
    simp [presentedNonces, hn, add_ofNat_zero]
  | cons t ts ih =>
    rcases run_cons_eq_some crypto h with ⟨r, s₁, rs', hs, hrun, rfl⟩ | ⟨e, s₁, rs', hs, hrun, rfl⟩
    · obtain ⟨hsome, hnone⟩ := applyTx_ok_nonceOf crypto hs id
      cases hp : presentedNonce id r with
      | none =>
        have hrest : presentedNonces id (some r :: rs') = presentedNonces id rs' := by
          simp [presentedNonces, hp]
        rw [hrest]
        exact ih hrun ((hnone hp).trans hn)
      | some m =>
        obtain ⟨hm, hm₁⟩ := hsome m hp
        obtain rfl := Option.some.inj (hm.symm.trans hn)
        obtain ⟨hlist, hlast⟩ := ih hrun hm₁
        have hrest : presentedNonces id (some r :: rs') = m :: presentedNonces id rs' := by
          simp [presentedNonces, hp]
        rw [hrest, List.length_cons]
        refine ⟨?_, by rw [hlast, add_ofNat_succ]⟩
        rw [List.range_succ_eq_map, List.map_cons, List.map_map, add_ofNat_zero]
        congr 1
        conv_lhs => rw [hlist]
        exact List.map_congr_left fun k _ => (add_ofNat_succ m k).symm
    · obtain rfl := applyTx_err_state crypto hs
      have hrest : presentedNonces id (none :: rs') = presentedNonces id rs' := rfl
      rw [hrest]
      exact ih hrun hn

lemma nodup_map_add_ofNat (n : Nonce) {k : ℕ} (hk : k ≤ 4294967296) :
    ((List.range k).map fun j => n + Fin.ofNat j).Nodup := by
  refine (List.nodup_range k).map_on fun i hi j hj hij => ?_
  simp only [List.mem_range] at hi hj
  have := congrArg Fin.val hij
  simp only [Fin.val_add, Fin.ofNat] at this
  omega

/-- Along a run that does not panic, the `ChangeGroup`s from an existing account that applied
presented its nonces `n, n + 1, …` in order (as `u32`, wrapping) and left it at `n + k` after
`k` of them; so while fewer than `2^32` of them apply, no nonce of the account is used twice. -/
theorem run_presentedNonces (s : ZkSyncState) (txs : List Tx) {s' : ZkSyncState}
    {rs : List (Option OpSuccess)} (h : run crypto s txs = some (s', rs)) (id : AccountId)
    {n : Nonce} (hn : nonceOf s id = some n) :
    presentedNonces id rs =
        (List.range (presentedNonces id rs).length).map (fun k => n + Fin.ofNat k) ∧
      nonceOf s' id = some (n + Fin.ofNat (presentedNonces id rs).length) ∧
      ((presentedNonces id rs).length ≤ 4294967296 → (presentedNonces id rs).Nodup) := by
  obtain ⟨hlist, hlast⟩ := presentedNonces_of_run crypto h id hn
  exact ⟨hlist, hlast, fun hk => hlist ▸ nodup_map_add_ofNat n hk⟩

theorem run_presentedNonces_sample :
    let crypto : Crypto := ⟨fun _ _ => none, fun _ => default, fun _ _ => none⟩
    let key : PubKeyHash := ⟨⟨List.replicate 20 1, rfl⟩⟩
    let a : Account := ⟨key, H160.zero, fun _ => 10, 2⟩
    let s : ZkSyncState := ⟨fun i => if i = 0 then some a else none, fun _ => some 0, fun _ => none⟩
    let tx : ChangeGroupTx.ChangeGroup := ⟨0, H160.zero, H160.zero, 0, 3, 1, 0, 1, 2, default,
      .cached (some (key, .v1)), false, none⟩
    let txs : List Tx := [.changeGroup tx, .changeGroup tx, .fullChangeGroup ⟨0, H160.zero, 0⟩]
    ∃ s' rs, run crypto s txs = some (s', rs) ∧ nonceOf s 0 = some 2 ∧
      (presentedNonces 0 rs =
          (List.range (presentedNonces 0 rs).length).map (fun k => 2 + Fin.ofNat k) ∧
        nonceOf s' 0 = some (2 + Fin.ofNat (presentedNonces 0 rs).length) ∧
        ((presentedNonces 0 rs).length ≤ 4294967296 → (presentedNonces 0 rs).Nodup)) := by
  intro crypto key a s tx txs
  exact ⟨_, _, rfl, rfl, run_presentedNonces crypto s txs rfl 0 rfl⟩

/-- A run of one `ChangeGroup` from an account at nonce `u32::MAX`: it applies, and the
account's nonce goes down to 0. -/
theorem run_nonce_decreases_at_max :
    let crypto : Crypto := ⟨fun _ _ => none, fun _ => default, fun _ _ => none⟩
    let key : PubKeyHash := ⟨⟨List.replicate 20 1, rfl⟩⟩
    let a : Account := ⟨key, H160.zero, fun _ => 0, 4294967295⟩
    let s : ZkSyncState := ⟨fun i => if i = 0 then some a else none, fun _ => some 0, fun _ => none⟩
    let tx : ChangeGroupTx.ChangeGroup := ⟨0, H160.zero, H160.zero, 0, 0, 0, 0, 1, 4294967295,
      default, .cached (some (key, .v1)), false, none⟩
    nonceOf s 0 = some 4294967295 ∧
      ∃ s' r, run crypto s [.changeGroup tx] = some (s', [some r]) ∧ nonceOf s' 0 = some 0 :=
  ⟨rfl, _, _, rfl, rfl⟩

/-! ## Safety: no panic along a run -/

/-- The accounts of `s'` are those of `s`: the same address index, and under each id an account
with the same address, or none in both. -/
def SameAccounts (s s' : ZkSyncState) : Prop :=
  s'.accountIdByAddress = s.accountIdByAddress ∧
    ∀ id, (s'.getAccount id).map (·.address) = (s.getAccount id).map (·.address)

lemma SameAccounts.refl (s : ZkSyncState) : SameAccounts s s := ⟨rfl, fun _ => rfl⟩

lemma SameAccounts.trans {s₁ s₂ s₃ : ZkSyncState} (h₁ : SameAccounts s₁ s₂)
    (h₂ : SameAccounts s₂ s₃) : SameAccounts s₁ s₃ :=
  ⟨h₂.1.trans h₁.1, fun id => (h₂.2 id).trans (h₁.2 id)⟩

lemma sameAccounts_insertAccount {s : ZkSyncState} {id : AccountId} {a b : Account}
    (ha : s.getAccount id = some a) (hb : b.address = a.address) :
    SameAccounts s (s.insertAccount id b) := by
  refine ⟨rfl, fun i => ?_⟩
  by_cases hi : i = id
  · subst hi
    simp [ha, hb]
  · simp [hi]

/-- Consistency of the index reads only the index and the accounts' addresses. -/
lemma SameAccounts.addressIndexConsistent {s s' : ZkSyncState} (h : SameAccounts s s')
    (hs : s.AddressIndexConsistent) : s'.AddressIndexConsistent := by
  intro address id hid
  obtain ⟨a, ha, rfl⟩ := hs address id (h.1 ▸ hid)
  have hsame := h.2 id
  rw [ha] at hsame
  obtain ⟨b, hb, hab⟩ := Option.map_eq_some'.mp hsame
  exact ⟨b, hb, hab⟩

/-- Neither handler creates, removes or moves an account: a step that applied or failed keeps
the accounts as they were. -/
lemma applyTx_sameAccounts {t : Tx} {s s' : ZkSyncState}
    (h : (∃ r, applyTx crypto t s = .ok r s') ∨ ∃ e, applyTx crypto t s = .err e s') :
    SameAccounts s s' := by
  rcases h with ⟨r, h⟩ | ⟨e, h⟩
  · cases t with
    | changeGroup tx =>
      obtain ⟨op, -, happ, -⟩ := ChangeGroup.applyTx_ok crypto h
      obtain ⟨a, -, ha, -, -, -, rfl⟩ := ChangeGroup.applyOp_ok happ
      exact sameAccounts_insertAccount ha rfl
    | fullChangeGroup p =>
      obtain ⟨-, -, -, -, ⟨a, ha, -, -, rfl⟩ | ⟨-, -, rfl⟩⟩ := applyTx_fullChangeGroup_ok crypto h
      · exact sameAccounts_insertAccount ha rfl
      · exact SameAccounts.refl _
  · obtain rfl := applyTx_err_state crypto h
    exact SameAccounts.refl _

/-- What the stages before the state guarantee of a transaction: a `ChangeGroup` has its signer
cached, as the signature checker leaves it, or bytes that encode; the token of a
`FullChangeGroup` is in range, as the contract enforces. -/
def Tx.Checked : Tx → Prop
  | .changeGroup tx => tx.cachedSigner ≠ .notCached ∨ ∃ bytes, tx.getBytes = .ok bytes
  | .fullChangeGroup p => p.token ≤ maxTokenId

/-- On a consistent state, neither handler panics on a checked transaction. -/
lemma applyTx_ne_panic {t : Tx} {s : ZkSyncState} (hs : s.AddressIndexConsistent)
    (ht : t.Checked) (m : String) : applyTx crypto t s ≠ .panic m := by
  cases t with
  | changeGroup tx => exact ChangeGroup.applyTx_ne_panic crypto hs (verifySignatureWith_isOk ht) m
  | fullChangeGroup p =>
    obtain ⟨op, -, ⟨a, -, -, -, happ⟩ | ⟨-, -, happ⟩⟩ := FullChangeGroup.applyTx_cases (s := s) ht
    all_goals simp [applyTx, happ]

/-- The run lemma: each step keeps the accounts, so the next starts consistent and cannot
panic either. -/
lemma run_checked (s : ZkSyncState) (hs : s.AddressIndexConsistent) (txs : List Tx)
    (htxs : ∀ t ∈ txs, t.Checked) :
    ∃ s' rs, run crypto s txs = some (s', rs) ∧ rs.length = txs.length ∧ SameAccounts s s' ∧
      s'.AddressIndexConsistent := by
  induction txs generalizing s with
  | nil => exact ⟨s, [], rfl, rfl, SameAccounts.refl s, hs⟩
  | cons t ts ih =>
    have hrest : ∀ t ∈ ts, t.Checked := fun t' ht' => htxs t' (List.mem_cons_of_mem t ht')
    rcases happ : applyTx crypto t s with ⟨r, s₁⟩ | ⟨e, s₁⟩ | m
    · have hsame := applyTx_sameAccounts crypto (.inl ⟨r, happ⟩)
      obtain ⟨s', rs, hrun, hlen, hsame', hs'⟩ := ih s₁ (hsame.addressIndexConsistent hs) hrest
      exact ⟨s', some r :: rs, by simp [run, happ, hrun], by simp [hlen], hsame.trans hsame', hs'⟩
    · have hsame := applyTx_sameAccounts crypto (.inr ⟨e, happ⟩)
      obtain ⟨s', rs, hrun, hlen, hsame', hs'⟩ := ih s₁ (hsame.addressIndexConsistent hs) hrest
      exact ⟨s', none :: rs, by simp [run, happ, hrun], by simp [hlen], hsame.trans hsame', hs'⟩
    · exact absurd happ (applyTx_ne_panic crypto hs (htxs t (List.mem_cons_self t ts)) m)

/-- Safety along whole runs: from a state whose address index is consistent, a run of checked
transactions never panics. It gives a result for each transaction, and every account keeps its
id and its address, so the index stays consistent. -/
theorem run_safe (s : ZkSyncState) (hs : s.AddressIndexConsistent) (txs : List Tx)
    (htxs : ∀ t ∈ txs, t.Checked) :
    ∃ s' rs, run crypto s txs = some (s', rs) ∧ rs.length = txs.length ∧ SameAccounts s s' ∧
      s'.AddressIndexConsistent :=
  run_checked crypto s hs txs htxs

/-- Two `ChangeGroup`s with a cached signer, the second failing on its nonce, then a
`FullChangeGroup`, from a state whose index holds the one account: the run returns. -/
theorem run_safe_sample :
    let crypto : Crypto := ⟨fun _ _ => none, fun _ => default, fun _ _ => none⟩
    let key : PubKeyHash := ⟨⟨List.replicate 20 1, rfl⟩⟩
    let a : Account := ⟨key, H160.zero, fun _ => 10, 2⟩
    let s : ZkSyncState := ⟨fun i => if i = 0 then some a else none,
      fun address => if address = H160.zero then some 0 else none, fun _ => none⟩
    let tx : ChangeGroupTx.ChangeGroup := ⟨0, H160.zero, H160.zero, 0, 3, 1, 0, 1, 2, default,
      .cached (some (key, .v1)), false, none⟩
    let txs : List Tx := [.changeGroup tx, .changeGroup tx, .fullChangeGroup ⟨0, H160.zero, 0⟩]
    s.AddressIndexConsistent ∧ (∀ t ∈ txs, t.Checked) ∧
      ∃ s' rs, run crypto s txs = some (s', rs) ∧ rs.length = txs.length ∧ SameAccounts s s' ∧
        s'.AddressIndexConsistent := by
  intro crypto key a s tx txs
  have hs : s.AddressIndexConsistent := ZkSyncState.addressIndexConsistent_single rfl rfl rfl
  have htxs : ∀ t ∈ txs, t.Checked := by
    intro t ht
    simp only [txs, List.mem_cons, List.not_mem_nil, or_false] at ht
    rcases ht with rfl | rfl | rfl
    · exact .inl nofun
    · exact .inl nofun
    · exact (by decide : (0 : TokenId) ≤ maxTokenId)
  exact ⟨hs, htxs, run_safe crypto s hs txs htxs⟩

end ModularRollup.Runs
