import ModularRollup.Operations
import ModularRollup.State

/-! The state transition handlers of `ChangeGroup` and of the priority operation
`FullChangeGroup`: `create_op` validates against the state, `apply_op` is the only step that
writes it, and `apply_tx` runs the two. -/
namespace ModularRollup.Handlers
open Primitives AmountCodec TxCommon ChangeGroupTx State
open Operations (ChangeGroupOp)

/-- Modelled from the spec: the priority operation `FullChangeGroup` (not under src/), with the
fields its handler reads. -/
structure FullChangeGroup where
  accountId : AccountId
  ethAddress : Address
  token : TokenId

/-- Modelled from the spec: `FullChangeGroupOp` (not under src/), with the fields its handler
writes. -/
structure FullChangeGroupOp where
  priorityOp : FullChangeGroup
  withdrawAmount : Option ℕ
  creatorAccountId : Option AccountId
  creatorAddress : Option Address
  serialId : Option U32
  contentHash : Option H256

/-- `ZkSyncOp`, for the two operations modelled here. -/
inductive ZkSyncOp
  | changeGroup (op : ChangeGroupOp)
  | fullChangeGroup (op : FullChangeGroupOp)

structure OpSuccess where
  fee : Option CollectedFee
  updates : AccountUpdates
  executedOp : ZkSyncOp

/-- The handler's `ChangeGroupOpError`. -/
inductive ChangeGroupOpError
  | invalidTokenId
  | invalidFeeTokenId
  | fromAccountNotFound
  | fromAccountLocked
  | invalidSignature
  | fromAccountIncorrect
  | nonceMismatch
  | insufficientBalance
  deriving DecidableEq, Repr

namespace ChangeGroup

variable (crypto : Crypto)

def createOp (s : ZkSyncState) (tx : ChangeGroupTx.ChangeGroup) : Run ChangeGroupOpError ChangeGroupOp := do
  invariant (tx.token ≤ maxFungibleTokenId) ChangeGroupOpError.invalidTokenId
  if tx.fee ≠ 0 then
    invariant (tx.token ≤ maxProcessableToken) ChangeGroupOpError.invalidFeeTokenId
  let (accountId, account) ←
    Run.ofOption .fromAccountNotFound (← s.getAccountByAddress tx.from)
  invariant (account.pubKeyHash ≠ default) ChangeGroupOpError.fromAccountLocked
  if let some (pubKeyHash, _) ← tx.verifySignature crypto then
    if pubKeyHash ≠ account.pubKeyHash then
      throw .invalidSignature
  invariant (accountId = tx.accountId) ChangeGroupOpError.fromAccountIncorrect
  pure ⟨tx, accountId⟩

def applyOp (op : ChangeGroupOp) :
    ExecM ZkSyncState ChangeGroupOpError (Option CollectedFee × AccountUpdates) := do
  invariant (op.accountId ≤ maxAccountId) ChangeGroupOpError.fromAccountIncorrect
  let fromAccount ← Run.expect ((← get).getAccount op.accountId) Run.unwrapNone
  let fromOldBalance := fromAccount.getBalance op.tx.token
  let fromOldNonce := fromAccount.nonce
  invariant (op.tx.nonce = fromOldNonce) ChangeGroupOpError.nonceMismatch
  invariant (op.tx.amount + op.tx.fee ≤ fromOldBalance) ChangeGroupOpError.insufficientBalance
  let fromAccount ← fromAccount.subBalance op.tx.token (op.tx.amount + op.tx.fee)
  let fromAccount := { fromAccount with nonce := fromAccount.nonce + 1 }
  let fromNewBalance := fromAccount.getBalance op.tx.token
  let fromNewNonce := fromAccount.nonce
  modify (·.insertAccount op.accountId fromAccount)
  pure (some ⟨op.tx.token, op.tx.fee⟩,
    [(op.accountId, .updateBalance (op.tx.token, fromOldBalance, fromNewBalance) fromOldNonce
      fromNewNonce)])

def applyTx (tx : ChangeGroupTx.ChangeGroup) : ExecM ZkSyncState ChangeGroupOpError OpSuccess := do
  let op ← createOp crypto (← get) tx
  let (fee, updates) ← applyOp op
  pure ⟨fee, updates, .changeGroup op⟩

/-- What a `create_op` that returns has checked: the token and the fee token are in range, the
sender address names an unlocked account under the transaction's own account id, and a key hash
the signature recovers is that account's. The op is the transaction with that id. -/
lemma createOp_eq_ok {s : ZkSyncState} {tx : ChangeGroupTx.ChangeGroup} {op : ChangeGroupOp}
    (h : createOp crypto s tx = .ok op) :
    tx.token ≤ maxFungibleTokenId ∧ (tx.fee ≠ 0 → tx.token ≤ maxProcessableToken) ∧
    ∃ a, s.getAccountByAddress tx.from = .ok (some (tx.accountId, a)) ∧ a.pubKeyHash ≠ default ∧
      (∀ signer, tx.verifySignature crypto = .ok (some signer) → signer.1 = a.pubKeyHash) ∧
      op = ⟨tx, tx.accountId⟩ := by
  unfold createOp at h
  dsimp only at h
  repeat' (first | (replace h := Run.bind_eq_ok.mp h; obtain ⟨_, _, h⟩ := h) | split at h)
  all_goals
    cases h
    simp only [invariant_eq_ok, Run.lift_eq_ok, Run.ofOption_eq_ok, Run.throw_eq,
      reduceCtorEq] at * <;>
    aesop

/-- On a consistent state, `create_op` panics only where `verify_signature` does. -/
lemma createOp_ne_panic {s : ZkSyncState} {tx : ChangeGroupTx.ChangeGroup}
    (hs : s.AddressIndexConsistent) (hsig : ∃ signer, tx.verifySignature crypto = .ok signer)
    (m : String) : createOp crypto s tx ≠ .panic m := by
  intro h
  obtain ⟨signer, hsig⟩ := hsig
  unfold createOp at h
  dsimp only at h
  repeat' (first | (replace h := Run.bind_eq_panic.mp h; rcases h with h | ⟨_, _, h⟩) | split at h)
  all_goals
    simp only [invariant_ne_panic, Run.lift_eq_panic, Run.ofOption_ne_panic, hsig, Run.throw_eq,
      Run.pure_eq, reduceCtorEq] at h <;>
    exact s.getAccountByAddress_ne_panic hs _ _ h

/-- What `apply_op` does on an account that exists: the three checks in order, each failure
leaving the state as it was, then one debit of `amount + fee` and one nonce increment. -/
theorem applyOp_eq {s : ZkSyncState} {op : ChangeGroupOp} {a : Account}
    (ha : s.getAccount op.accountId = some a) :
    applyOp op s =
      if maxAccountId < op.accountId then .err .fromAccountIncorrect s
      else if op.tx.nonce ≠ a.nonce then .err .nonceMismatch s
      else if a.getBalance op.tx.token < op.tx.amount + op.tx.fee then .err .insufficientBalance s
      else .ok (some ⟨op.tx.token, op.tx.fee⟩, [(op.accountId, .updateBalance (op.tx.token,
          a.getBalance op.tx.token, a.getBalance op.tx.token - (op.tx.amount + op.tx.fee)) a.nonce
          (a.nonce + 1))])
        (s.insertAccount op.accountId { a with
          balances := Function.update a.balances op.tx.token
            (a.getBalance op.tx.token - (op.tx.amount + op.tx.fee))
          nonce := a.nonce + 1 }) := by
  by_cases h1 : maxAccountId < op.accountId
  · simp [applyOp, h1, Fin.not_le.mpr h1]
  by_cases h2 : op.tx.nonce = a.nonce
  · by_cases h3 : a.getBalance op.tx.token < op.tx.amount + op.tx.fee
    · simp [applyOp, h1, h2, h3, ha, Fin.not_lt.mp h1]
    · simp [applyOp, h1, h2, h3, ha, Fin.not_lt.mp h1, Nat.not_lt.mp h3, Account.subBalance_eq (Nat.not_lt.mp h3)]
  · simp [applyOp, h1, h2, ha, Fin.not_lt.mp h1]

/-- `apply_op` at `u32::MAX`: the check passes, and `*nonce += 1` stores and reports a nonce of
0 (a release build wraps; a debug build panics there instead). -/
theorem applyOp_nonce_wraps_at_max :
    let a : Account := ⟨default, H160.zero, fun _ => 0, 4294967295⟩
    let s : ZkSyncState := ⟨fun i => if i = 0 then some a else none, fun _ => none, fun _ => none⟩
    let op : ChangeGroupOp :=
      ⟨⟨0, H160.zero, H160.zero, 0, 0, 0, 0, 0, 4294967295, default, .notCached, false, none⟩, 0⟩
    applyOp op s = .ok (some ⟨0, 0⟩, [(0, .updateBalance (0, 0, 0) 4294967295 0)])
      (s.insertAccount 0 { a with balances := Function.update a.balances 0 0, nonce := 0 }) := by
  intro a s op
  have hwrap : (4294967295 : U32) + 1 = 0 := by decide
  rw [applyOp_eq (show s.getAccount op.accountId = some a from rfl)]
  simp only [a, op, Fin.not_lt_zero, if_false, ne_eq, not_true_eq_false, Account.getBalance, hwrap]
  rfl

lemma applyOp_of_getAccount_none {s : ZkSyncState} {op : ChangeGroupOp}
    (ha : s.getAccount op.accountId = none) (h : op.accountId ≤ maxAccountId) :
    applyOp op s = .panic Run.unwrapNone := by
  simp [applyOp, ha, h]

/-- A successful `apply_op`: the account exists, its nonce and balance checks held, and the
debited account was written back. -/
lemma applyOp_ok {s s' : ZkSyncState} {op : ChangeGroupOp} {r : Option CollectedFee × AccountUpdates}
    (h : applyOp op s = .ok r s') :
    ∃ a, op.accountId ≤ maxAccountId ∧ s.getAccount op.accountId = some a ∧
      op.tx.nonce = a.nonce ∧ op.tx.amount + op.tx.fee ≤ a.getBalance op.tx.token ∧
      r = (some ⟨op.tx.token, op.tx.fee⟩, [(op.accountId, .updateBalance (op.tx.token,
          a.getBalance op.tx.token, a.getBalance op.tx.token - (op.tx.amount + op.tx.fee)) a.nonce
          (a.nonce + 1))]) ∧
      s' = s.insertAccount op.accountId { a with
          balances := Function.update a.balances op.tx.token
            (a.getBalance op.tx.token - (op.tx.amount + op.tx.fee))
          nonce := a.nonce + 1 } := by
  rcases ha : s.getAccount op.accountId with _ | a
  · by_cases hid : op.accountId ≤ maxAccountId
    · rw [applyOp_of_getAccount_none ha hid] at h; cases h
    · simp [applyOp, hid] at h
  · rw [applyOp_eq ha] at h
    split_ifs at h with h1 h2 h3
    cases h
    exact ⟨a, Fin.not_lt.mp h1, rfl, not_not.mp h2, Nat.not_lt.mp h3, rfl, rfl⟩

/-- A failed `apply_op` leaves the state as it was. -/
lemma applyOp_err {s s' : ZkSyncState} {op : ChangeGroupOp} {e : ChangeGroupOpError}
    (h : applyOp op s = .err e s') : s' = s := by
  rcases ha : s.getAccount op.accountId with _ | a
  · by_cases hid : op.accountId ≤ maxAccountId
    · rw [applyOp_of_getAccount_none ha hid] at h; cases h
    · simp [applyOp, hid] at h
      exact h.2.symm
  · rw [applyOp_eq ha] at h
    split_ifs at h <;> (cases h; rfl)

/-- `apply_op` reads only the account id and the token, amount, fee and nonce of its op. -/
lemma applyOp_congr {op₁ op₂ : ChangeGroupOp} (hid : op₁.accountId = op₂.accountId)
    (htoken : op₁.tx.token = op₂.tx.token) (hamount : op₁.tx.amount = op₂.tx.amount)
    (hfee : op₁.tx.fee = op₂.tx.fee) (hnonce : op₁.tx.nonce = op₂.tx.nonce) :
    applyOp op₁ = applyOp op₂ := by
  unfold applyOp
  rw [hid, htoken, hamount, hfee, hnonce]

/-- Replaying an op from its pubdata, with only the nonce added back, is the same transition. -/
theorem applyOp_fromPublicData_eq (s : ZkSyncState) (op : ChangeGroupOp)
    (hamount : op.tx.amount ≤ u128Max) (hfee : isFeeAmountPackable op.tx.fee = true) :
    ∃ data op', op.getPublicData = .ok data ∧ ChangeGroupOp.fromPublicData crypto data = .ok op' ∧
      applyOp { op' with tx := { op'.tx with nonce := op.tx.nonce } } s = applyOp op s := by
  obtain ⟨fee, hpack, hunpack⟩ := isFeeAmountPackable_iff.mp hfee
  refine ⟨_, op.decoded, ChangeGroupOp.getPublicData_eq hamount hpack,
    ChangeGroupOp.fromPublicData_eq crypto hamount (packFeeAmount_length hpack) hunpack, ?_⟩
  exact congrFun (applyOp_congr rfl rfl rfl rfl rfl) s

/-- Account 3 at nonce 4 with 5000 of every token, and a `ChangeGroup` of 1000 with a fee of
2047 from it: `apply_op` applies the op, and the op decoded from its pubdata makes the same
transition. -/
theorem applyOp_fromPublicData_eq_sample :
    let crypto : Crypto := ⟨fun _ _ => none, fun _ => default, fun _ _ => none⟩
    let s : ZkSyncState :=
      ⟨fun i => if i = 3 then some ⟨default, H160.zero, fun _ => 5000, 4⟩ else none,
        fun _ => none, fun _ => none⟩
    let op : ChangeGroupOp :=
      ⟨⟨3, H160.zero, H160.zero, 5, 1000, 2047, 1, 9, 4, default, .notCached, false, none⟩, 3⟩
    (∃ r s', applyOp op s = .ok r s') ∧
    op.tx.amount ≤ u128Max ∧ isFeeAmountPackable op.tx.fee = true ∧
    ∃ data op', op.getPublicData = .ok data ∧ ChangeGroupOp.fromPublicData crypto data = .ok op' ∧
      applyOp { op' with tx := { op'.tx with nonce := op.tx.nonce } } s = applyOp op s :=
  ⟨⟨_, _, rfl⟩, by decide, by decide, applyOp_fromPublicData_eq _ _ _ (by decide) (by decide)⟩

/-- `apply_tx` is `create_op` on the state it starts from, then `apply_op`. -/
lemma applyTx_eq (s : ZkSyncState) (tx : ChangeGroupTx.ChangeGroup) :
    applyTx crypto tx s =
      match createOp crypto s tx with
      | .ok op =>
        match applyOp op s with
        | .ok r s' => .ok ⟨r.1, r.2, .changeGroup op⟩ s'
        | .err e s' => .err e s'
        | .panic m => .panic m
      | .err e => .err e s
      | .panic m => .panic m := by
  simp only [applyTx, ExecM.bind_apply, ExecM.get_apply]
  rcases createOp crypto s tx with op | e | m
  · simp only [ExecM.liftM_apply]
    rcases applyOp op s with r | e | m <;> rfl
  all_goals rfl

lemma applyTx_ok {s s' : ZkSyncState} {tx : ChangeGroupTx.ChangeGroup} {r : OpSuccess}
    (h : applyTx crypto tx s = .ok r s') :
    ∃ op, createOp crypto s tx = .ok op ∧ applyOp op s = .ok (r.fee, r.updates) s' ∧
      r.executedOp = .changeGroup op := by
  rw [applyTx_eq] at h
  split at h
  next =>
    split at h
    next => cases h; exact ⟨_, ‹_›, ‹_›, rfl⟩
    all_goals cases h
  all_goals cases h

/-- A failed `apply_tx` leaves the state as it was. -/
lemma applyTx_err {s s' : ZkSyncState} {tx : ChangeGroupTx.ChangeGroup} {e : ChangeGroupOpError}
    (h : applyTx crypto tx s = .err e s') : s' = s := by
  rw [applyTx_eq] at h
  split at h
  next =>
    split at h
    next => cases h
    next => cases h; exact applyOp_err ‹_›
    next => cases h
  next => cases h; rfl
  next => cases h

/-- `apply_op` on an account that exists does not panic. -/
lemma applyOp_ne_panic {s : ZkSyncState} {op : ChangeGroupOp} {a : Account}
    (ha : s.getAccount op.accountId = some a) (m : String) : applyOp op s ≠ .panic m := by
  rw [applyOp_eq ha]
  split_ifs <;> simp

/-- On a consistent state, `apply_tx` panics only where `verify_signature` does. -/
lemma applyTx_ne_panic {s : ZkSyncState} {tx : ChangeGroupTx.ChangeGroup}
    (hs : s.AddressIndexConsistent) (hsig : ∃ signer, tx.verifySignature crypto = .ok signer)
    (m : String) : applyTx crypto tx s ≠ .panic m := by
  intro h
  rw [applyTx_eq] at h
  split at h
  next op hc =>
    obtain ⟨-, -, a, hg, -, -, rfl⟩ := createOp_eq_ok crypto hc
    split at h
    all_goals try cases h
    exact applyOp_ne_panic (ZkSyncState.getAccountByAddress_eq_ok_some.mp hg).2 m ‹_›
  next => cases h
  next hc => cases h; exact createOp_ne_panic crypto hs hsig m hc

/-- `apply_tx` of a `ChangeGroup` on a state whose address index is consistent: it applies only
a transaction whose token and fee token are in range, whose sender address names an unlocked
account under the transaction's own account id, and whose recovered key hash, if any, is that
account's; the account it debits is that one; when `create_op` rejects, the state is as it was;
and for a transaction whose signer is cached or whose bytes encode, it does not panic. -/
theorem applyTx_authorized {s : ZkSyncState} {tx : ChangeGroupTx.ChangeGroup}
    (hs : s.AddressIndexConsistent) :
    ((tx.cachedSigner ≠ .notCached ∨ ∃ bytes, tx.getBytes = .ok bytes) →
      ∀ m, applyTx crypto tx s ≠ .panic m) ∧
    (∀ r s', applyTx crypto tx s = .ok r s' →
      tx.token ≤ maxFungibleTokenId ∧ (tx.fee = 0 ∨ tx.token ≤ maxProcessableToken) ∧
      ∃ a, s.accountIdByAddress tx.from = some tx.accountId ∧ s.getAccount tx.accountId = some a ∧
        a.address = tx.from ∧ a.pubKeyHash ≠ default ∧
        (∀ signer, tx.verifySignature crypto = .ok (some signer) → signer.1 = a.pubKeyHash) ∧
        r.executedOp = .changeGroup ⟨tx, tx.accountId⟩ ∧
        s' = s.insertAccount tx.accountId { a with
          balances := Function.update a.balances tx.token
            (a.getBalance tx.token - (tx.amount + tx.fee))
          nonce := a.nonce + 1 }) ∧
    (∀ e, createOp crypto s tx = .err e → applyTx crypto tx s = .err e s) := by
  refine ⟨fun hbytes => applyTx_ne_panic crypto hs (verifySignatureWith_isOk hbytes),
    fun r s' h => ?_, fun e he => by rw [applyTx_eq, he]⟩
  obtain ⟨op, hc, happ, hop⟩ := applyTx_ok crypto h
  obtain ⟨htoken, hfee, a, hg, hkey, hsigner, rfl⟩ := createOp_eq_ok crypto hc
  obtain ⟨hid, ha⟩ := ZkSyncState.getAccountByAddress_eq_ok_some.mp hg
  obtain ⟨a', ha', haddr⟩ := hs _ _ hid
  obtain rfl : a = a' := Option.some_injective _ (ha.symm.trans ha')
  obtain ⟨a₀, -, ha₀, -, -, -, rfl⟩ := applyOp_ok happ
  obtain rfl : a = a₀ := Option.some_injective _ (ha.symm.trans ha₀)
  exact ⟨htoken, or_iff_not_imp_left.mpr hfee, a, hid, ha, haddr, hkey, hsigner, hop, rfl⟩

theorem applyTx_authorized_sample :
    let crypto : Crypto := ⟨fun _ _ => none, fun _ => default, fun _ _ => none⟩
    let key : PubKeyHash := ⟨⟨List.replicate 20 1, rfl⟩⟩
    let s : ZkSyncState :=
      ⟨fun i => if i = 0 then some ⟨key, H160.zero, fun _ => 10, 2⟩ else none,
        fun address => if address = H160.zero then some 0 else none, fun _ => none⟩
    let tx : ChangeGroupTx.ChangeGroup := ⟨0, H160.zero, H160.zero, 0, 3, 1, 0, 1, 2, default,
      .cached (some (key, .v1)), false, none⟩
    s.AddressIndexConsistent ∧ (tx.cachedSigner ≠ .notCached ∨ ∃ bytes, tx.getBytes = .ok bytes) ∧
    ((∀ m, applyTx crypto tx s ≠ .panic m) ∧
    (∀ r s', applyTx crypto tx s = .ok r s' →
      tx.token ≤ maxFungibleTokenId ∧ (tx.fee = 0 ∨ tx.token ≤ maxProcessableToken) ∧
      ∃ a, s.accountIdByAddress tx.from = some tx.accountId ∧ s.getAccount tx.accountId = some a ∧
        a.address = tx.from ∧ a.pubKeyHash ≠ default ∧
        (∀ signer, tx.verifySignature crypto = .ok (some signer) → signer.1 = a.pubKeyHash) ∧
        r.executedOp = .changeGroup ⟨tx, tx.accountId⟩ ∧
        s' = s.insertAccount tx.accountId { a with
          balances := Function.update a.balances tx.token
            (a.getBalance tx.token - (tx.amount + tx.fee))
          nonce := a.nonce + 1 }) ∧
    (∀ e, createOp crypto s tx = .err e → applyTx crypto tx s = .err e s)) := by
  intro crypto key s tx
  have hs : s.AddressIndexConsistent := ZkSyncState.addressIndexConsistent_single rfl rfl rfl
  have h := @applyTx_authorized crypto s tx hs
  exact ⟨hs, .inl nofun, h.1 (.inl nofun), h.2⟩

/-- A `ChangeGroup` from an unlocked account of a consistent state, whose signer is not cached
and whose amount is past `u128::MAX`: `apply_tx` panics, in the `to_u128().unwrap()` of the
`get_bytes` that `verify_signature` calls. -/
theorem applyTx_panics_on_uncached_amount :
    let crypto : Crypto := ⟨fun _ _ => none, fun _ => default, fun _ _ => none⟩
    let key : PubKeyHash := ⟨⟨List.replicate 20 1, rfl⟩⟩
    let s : ZkSyncState :=
      ⟨fun i => if i = 0 then some ⟨key, H160.zero, fun _ => 10, 2⟩ else none,
        fun address => if address = H160.zero then some 0 else none, fun _ => none⟩
    let tx : ChangeGroupTx.ChangeGroup := ⟨0, H160.zero, H160.zero, 0, u128Max + 1, 0, 0, 1, 2,
      default, .notCached, false, none⟩
    s.AddressIndexConsistent ∧ applyTx crypto tx s = .panic Run.unwrapNone :=
  ⟨ZkSyncState.addressIndexConsistent_single rfl rfl rfl, rfl⟩

/-- `create_op` reads an account only through the address index and its key hash, so writing
back an account with the same key changes nothing it computes. -/
lemma createOp_insertAccount {s : ZkSyncState} {id : AccountId} {a a' : Account}
    (ha : s.getAccount id = some a) (hkey : a'.pubKeyHash = a.pubKeyHash)
    (tx : ChangeGroupTx.ChangeGroup) :
    createOp crypto (s.insertAccount id a') tx = createOp crypto s tx := by
  unfold createOp ZkSyncState.getAccountByAddress
  rcases hj : s.accountIdByAddress tx.from with _ | j
  · simp [hj]
  · by_cases hji : j = id
    · subst hji
      simp [hj, ha, hkey]
    · simp [hj, hji]

/-- A `ChangeGroup` that applied cannot apply again: re-submitted at once it fails with
`NonceMismatch` and changes nothing. -/
theorem applyTx_resubmit {s s' : ZkSyncState} {tx : ChangeGroupTx.ChangeGroup} {r : OpSuccess}
    (h : applyTx crypto tx s = .ok r s') :
    applyTx crypto tx s' = .err .nonceMismatch s' := by
  obtain ⟨op, hc, happ, -⟩ := applyTx_ok crypto h
  obtain ⟨a, hid, ha, hn, -, -, rfl⟩ := applyOp_ok happ
  have hstep : a.nonce ≠ a.nonce + 1 := by
    intro h
    have h1 : (1 : Nonce).val = 1 := rfl
    have := congrArg Fin.val h
    rw [Fin.val_add, h1] at this
    omega
  rw [applyTx_eq, createOp_insertAccount crypto ha, hc]
  · dsimp only
    rw [applyOp_eq ((ZkSyncState.getAccount_insertAccount _ _ _ _).trans (if_pos rfl))]
    simp [Fin.not_lt.mpr hid, hn, hstep]
  · rfl

theorem applyTx_resubmit_sample :
    let crypto : Crypto := ⟨fun _ _ => none, fun _ => default, fun _ _ => none⟩
    let key : PubKeyHash := ⟨⟨List.replicate 20 1, rfl⟩⟩
    let a : Account := ⟨key, H160.zero, fun _ => 10, 2⟩
    let s : ZkSyncState := ⟨fun i => if i = 0 then some a else none, fun _ => some 0, fun _ => none⟩
    let tx : ChangeGroupTx.ChangeGroup := ⟨0, H160.zero, H160.zero, 0, 3, 1, 0, 1, 2, default,
      .cached (some (key, .v1)), false, none⟩
    ∃ r s', applyTx crypto tx s = .ok r s' ∧ applyTx crypto tx s' = .err .nonceMismatch s' := by
  intro crypto key a s tx
  obtain ⟨r, s', h⟩ : ∃ r s', applyTx crypto tx s = .ok r s' := ⟨_, _, rfl⟩
  exact ⟨r, s', h, applyTx_resubmit crypto h⟩

end ChangeGroup

namespace FullChangeGroup

/-- Authorization of a `FullChangeGroup` is verified on the contract. -/
def createOp (s : ZkSyncState) (priorityOp : FullChangeGroup) : Run Empty FullChangeGroupOp := do
  Run.assert (priorityOp.token ≤ maxTokenId)
    "Full change group token is out of range, this should be enforced by contract"
  let accountBalance := ((s.getAccount priorityOp.accountId).filter
    (·.address == priorityOp.ethAddress)).map (·.getBalance priorityOp.token)
  if maxFungibleTokenId < priorityOp.token ∧ (s.nfts priorityOp.token).isSome then
    let nft ← Run.expect (s.nfts priorityOp.token) Run.unwrapNone
    pure ⟨priorityOp, accountBalance, some nft.creatorId, some nft.creatorAddress,
      some nft.serialId, some nft.contentHash⟩
  else
    pure ⟨priorityOp, accountBalance, none, none, none, none⟩

def applyOp (op : FullChangeGroupOp) :
    ExecM ZkSyncState Empty (Option CollectedFee × AccountUpdates) := do
  let some amount := op.withdrawAmount | pure (none, [])
  let accountId := op.priorityOp.accountId
  let account ← Run.expect ((← get).getAccount accountId) "Full exit account not found"
  let oldBalance := account.getBalance op.priorityOp.token
  let oldNonce := account.nonce
  let account ← account.subBalance op.priorityOp.token amount
  let newBalance := account.getBalance op.priorityOp.token
  Run.assert (newBalance = 0) "Full change group amount is incorrect"
  let newNonce := account.nonce
  modify (·.insertAccount accountId account)
  pure (none, [(accountId, .updateBalance (op.priorityOp.token, oldBalance, newBalance) oldNonce
    newNonce)])

def applyTx (priorityOp : FullChangeGroup) : ExecM ZkSyncState Empty OpSuccess := do
  let op ← createOp (← get) priorityOp
  let (fee, updates) ← applyOp op
  pure ⟨fee, updates, .fullChangeGroup op⟩

/-- With the token in range, `create_op` builds the op, with the balance of the account it names
when that account has the priority op's address. -/
lemma createOp_eq {s : ZkSyncState} {p : FullChangeGroup} (h : p.token ≤ maxTokenId) :
    ∃ op, createOp s p = .ok op ∧ op.priorityOp = p ∧ op.withdrawAmount =
      ((s.getAccount p.accountId).filter (·.address == p.ethAddress)).map (·.getBalance p.token) := by
  simp only [createOp, Run.assert_pos _ h, Run.ok_bind]
  split_ifs with hn
  · obtain ⟨nft, hnft⟩ := Option.isSome_iff_exists.mp hn.2
    simp [hnft]
  · simp

lemma applyOp_none {op : FullChangeGroupOp} (s : ZkSyncState) (h : op.withdrawAmount = none) :
    applyOp op s = .ok (none, []) s := by
  simp [applyOp, h]

lemma applyOp_some {op : FullChangeGroupOp} {s : ZkSyncState} {a : Account}
    (ha : s.getAccount op.priorityOp.accountId = some a)
    (h : op.withdrawAmount = some (a.getBalance op.priorityOp.token)) :
    applyOp op s = .ok (none, [(op.priorityOp.accountId, .updateBalance
        (op.priorityOp.token, a.getBalance op.priorityOp.token, 0) a.nonce a.nonce)])
      (s.insertAccount op.priorityOp.accountId
        { a with balances := Function.update a.balances op.priorityOp.token 0 }) := by
  simp [applyOp, h, ha, Account.subBalance_eq]

/-- `apply_tx` with the token in range: either the named account has the op's address and is
emptied in the op's token, or nothing changes; no fee either way. -/
lemma applyTx_cases {s : ZkSyncState} {p : FullChangeGroup} (h : p.token ≤ maxTokenId) :
    ∃ op, op.priorityOp = p ∧
      ((∃ a, s.getAccount p.accountId = some a ∧ a.address = p.ethAddress ∧
          op.withdrawAmount = some (a.getBalance p.token) ∧
          applyTx p s = .ok ⟨none, [(p.accountId, .updateBalance (p.token, a.getBalance p.token, 0)
            a.nonce a.nonce)], .fullChangeGroup op⟩
            (s.insertAccount p.accountId { a with balances := Function.update a.balances p.token 0 })) ∨
        ((∀ a, s.getAccount p.accountId = some a → a.address ≠ p.ethAddress) ∧
          op.withdrawAmount = none ∧ applyTx p s = .ok ⟨none, [], .fullChangeGroup op⟩ s)) := by
  obtain ⟨op, hc, rfl, hw⟩ := createOp_eq (s := s) h
  refine ⟨op, rfl, ?_⟩
  cases ha : s.getAccount op.priorityOp.accountId with
  | none =>
    simp only [ha, Option.filter_none, Option.map_none'] at hw
    exact .inr ⟨by simp, hw, by simp [applyTx, hc, applyOp_none s hw]⟩
  | some a =>
    by_cases hadr : a.address = op.priorityOp.ethAddress
    · simp only [ha, Option.filter_some, hadr, beq_self_eq_true, if_true, Option.map_some'] at hw
      exact .inl ⟨a, rfl, hadr, hw, by simp [applyTx, hc, applyOp_some ha hw]⟩
    · simp only [ha, Option.filter_some, beq_iff_eq, hadr, if_false, Option.map_none'] at hw
      exact .inr ⟨fun b hb => by cases hb; exact hadr, hw, by simp [applyTx, hc, applyOp_none s hw]⟩

lemma applyTx_of_lt {s : ZkSyncState} {p : FullChangeGroup} (h : maxTokenId < p.token) :
    applyTx p s =
      .panic "Full change group token is out of range, this should be enforced by contract" := by
  simp [applyTx, createOp, Run.assert_neg _ (Fin.not_le.mpr h)]

theorem applyTx_spec (s : ZkSyncState) (p : FullChangeGroup) (htoken : p.token ≤ maxTokenId) :
    ∃ res s', applyTx p s = .ok res s' ∧ res.fee = none ∧
      (∀ a, s.getAccount p.accountId = some a → a.address = p.ethAddress →
        s' = s.insertAccount p.accountId { a with balances := Function.update a.balances p.token 0 } ∧
        res.updates = [(p.accountId, .updateBalance (p.token, a.getBalance p.token, 0) a.nonce a.nonce)]) ∧
      ((∀ a, s.getAccount p.accountId = some a → a.address ≠ p.ethAddress) →
        s' = s ∧ res.updates = []) := by
  obtain ⟨op, -, ⟨a, ha, hadr, -, happ⟩ | ⟨hother, -, happ⟩⟩ := applyTx_cases (s := s) htoken
  · refine ⟨_, _, happ, rfl, fun b hb _ => ?_, fun h => absurd hadr (h a ha)⟩
    obtain rfl := Option.some.inj (hb.symm.trans ha)
    exact ⟨rfl, rfl⟩
  · exact ⟨_, _, happ, rfl, fun b hb hb' => absurd hb' (hother b hb), fun _ => ⟨rfl, rfl⟩⟩

theorem applyTx_spec_sample :
    let a : Account := ⟨default, H160.zero, fun _ => 7, 2⟩
    let s : ZkSyncState := ⟨fun i => if i = 0 then some a else none, fun _ => none, fun _ => none⟩
    let p : FullChangeGroup := ⟨0, H160.zero, 0⟩
    p.token ≤ maxTokenId ∧ ∃ res s', applyTx p s = .ok res s' ∧ res.fee = none ∧
      (∀ a, s.getAccount p.accountId = some a → a.address = p.ethAddress →
        s' = s.insertAccount p.accountId { a with balances := Function.update a.balances p.token 0 } ∧
        res.updates = [(p.accountId, .updateBalance (p.token, a.getBalance p.token, 0) a.nonce a.nonce)]) ∧
      ((∀ a, s.getAccount p.accountId = some a → a.address ≠ p.ethAddress) →
        s' = s ∧ res.updates = []) :=
  ⟨by decide, applyTx_spec _ _ (by decide)⟩

end FullChangeGroup

end ModularRollup.Handlers
