import ModularRollup.SignatureChecker
import ModularRollup.Witness

/-! A block's `ChangeGroup` ops on both levels: `apply_op` on the state, one op after the other,
and `ChangeGroupWitness::apply_tx` on the circuit's account tree, one op after the other. Modelled
from the spec: the loops of the state keeper and of the witness generator that run them are not
under src/. The tree simulates the state: while each op's pubdata exists and no account's nonce is
`u32::MAX`, the tree holds every account's nonce and balances as field elements, and each witness's
pubdata bits are the op's pubdata bytes. The last section follows one `ChangeGroup` through the three
stages: the signature checker's `check_correctness`, the state's `apply_tx` and the witness. -/
namespace ModularRollup.BlockWitness
open Primitives AmountCodec TxCommon State Witness ChangeGroupWitness Transactions SignatureChecker
open ChangeGroupTx (ChangeGroup)
open Operations (ChangeGroupOp)
open Handlers.ChangeGroup (applyOp)

/-- The circuit tree holds the state's accounts: each account's nonce and each of its balances,
as field elements. -/
def Synced (s : ZkSyncState) (tree : CircuitAccountTree) : Prop :=
  ∀ id a, s.getAccount id = some a →
    (tree.leaf id).nonce = (a.nonce : ℕ) ∧ ∀ token, (tree.leaf id).balance token = a.getBalance token

/-- `apply_op` on a block's ops, one after the other. -/
def applyOps : List ChangeGroupOp → ExecM ZkSyncState Handlers.ChangeGroupOpError Unit
  | [] => pure ()
  | op :: ops => do
    let _ ← applyOp op
    applyOps ops

/-- The witnesses of a block's ops, built one after the other on one tree. -/
def applyTxs (hasher : MerkleHasher) :
    List ChangeGroupOp → ExecM CircuitAccountTree Empty (List ChangeGroupWitness)
  | [] => pure []
  | op :: ops => do
    let w ← applyTx hasher op
    let ws ← applyTxs hasher ops
    pure (w :: ws)

/-- The circuit's leaf of an account: its balances, nonce, key hash and address as field
elements. -/
def circuitAccountOf (a : Account) : CircuitAccount :=
  ⟨fun token => some ⟨a.getBalance token⟩, (a.nonce : ℕ), (fromBeBytes a.pubKeyHash.data.bytes : ℕ),
    ethAddressToFr a.address⟩

/-- The circuit tree of a state: a leaf for each account. -/
def circuitTreeOf (treeDepth : ℕ) (s : ZkSyncState) : CircuitAccountTree :=
  ⟨treeDepth, fun id => (s.getAccount id).map circuitAccountOf⟩

/-- Every state has a tree that holds it. -/
lemma synced_circuitTreeOf (treeDepth : ℕ) (s : ZkSyncState) : Synced s (circuitTreeOf treeDepth s) :=
  fun id a h => by
    simp [circuitTreeOf, CircuitAccountTree.leaf, h, circuitAccountOf, CircuitAccount.balance]

variable (hasher : MerkleHasher)

/-- One op: when `apply_op` applies it to a state the tree holds and its pubdata exists, the
witness returns with the op's pubdata bits and leaves a tree that holds the new state, unless the
op's nonce is `u32::MAX`. -/
lemma synced_applyTx {s s' : ZkSyncState} {tree : CircuitAccountTree} {op : ChangeGroupOp}
    {r : Option CollectedFee × AccountUpdates} {data : List UInt8}
    (hop : applyOp op s = .ok r s') (hdata : op.getPublicData = .ok data)
    (hcap : tree.capacity = 2 ^ accountTreeDepth) (hnonce : op.tx.nonce ≠ 4294967295)
    (hsync : Synced s tree) :
    ∃ w, applyTx hasher op tree = .ok w (tree.insert op.accountId
        (changeGroupLeaf (tree.leaf op.accountId) op.tx.token op.tx.amount op.tx.fee)) ∧
      w.getPubdata = .ok (bytesIntoBeBits data) ∧
      Synced s' (tree.insert op.accountId
        (changeGroupLeaf (tree.leaf op.accountId) op.tx.token op.tx.amount op.tx.fee)) := by
  obtain ⟨a, -, ha, hn, hb, -, rfl⟩ := Handlers.ChangeGroup.applyOp_ok hop
  obtain ⟨w, hw, hpub⟩ := getPubdata_applyTx hasher op hcap hdata
  refine ⟨w, hw, hpub, fun id a' h' => ?_⟩
  obtain ⟨hleafNonce, hleafBalance⟩ := hsync _ _ ha
  by_cases hid : id = op.accountId
  · subst hid
    rw [ZkSyncState.getAccount_insertAccount, if_pos rfl, Option.some.injEq] at h'
    subst h'
    refine ⟨?_, fun token => ?_⟩
    · rw [leaf_insert, if_pos rfl, nonce_changeGroupLeaf, hleafNonce]
      exact natCast_add_one_of_ne (hn ▸ hnonce)
    · rw [leaf_insert, if_pos rfl]
      by_cases ht : token = op.tx.token
      · subst ht
        simpa using balance_changeGroupLeaf_of_le (hleafBalance _) hb
      · simp [ht, hleafBalance, Account.getBalance]
  · rw [ZkSyncState.getAccount_insertAccount, if_neg hid] at h'
    rw [leaf_insert, if_neg hid]
    exact hsync _ _ h'

/-- The tree simulates the state along a whole block: when `apply_op` applies every op of the
block, each op's pubdata exists and no op is applied at nonce `u32::MAX`, the witnesses built one
after the other all return, each with its op's pubdata bits, and the tree they leave holds the
state the block leaves. -/
theorem applyTxs_simulates_applyOps {ops : List ChangeGroupOp} {s s' : ZkSyncState}
    {tree : CircuitAccountTree} (hrun : applyOps ops s = .ok () s')
    (hcap : tree.capacity = 2 ^ accountTreeDepth)
    (hdata : ∀ op ∈ ops, ∃ data, op.getPublicData = .ok data)
    (hnonce : ∀ op ∈ ops, op.tx.nonce ≠ 4294967295) (hsync : Synced s tree) :
    ∃ ws tree', applyTxs hasher ops tree = .ok ws tree' ∧ Synced s' tree' ∧
      List.Forall₂ (fun op w => ∃ data, op.getPublicData = .ok data ∧
        w.getPubdata = .ok (bytesIntoBeBits data)) ops ws := by
  induction ops generalizing s tree with
  | nil =>
    cases hrun
    exact ⟨[], tree, rfl, hsync, .nil⟩
  | cons op ops ih =>
    obtain ⟨r, s₁, hop, hrun⟩ := ExecM.bind_eq_ok.mp hrun
    obtain ⟨data, hd⟩ := hdata op (List.mem_cons_self _ _)
    obtain ⟨w, hw, hpub, hsync₁⟩ :=
      synced_applyTx hasher hop hd hcap (hnonce op (List.mem_cons_self _ _)) hsync
    obtain ⟨ws, tree', hws, hsync', hall⟩ := ih hrun (by simpa using hcap)
      (fun o ho => hdata o (List.mem_cons_of_mem _ ho))
      (fun o ho => hnonce o (List.mem_cons_of_mem _ ho)) hsync₁
    refine ⟨w :: ws, tree', ?_, hsync', .cons ⟨data, hd, hpub⟩ hall⟩
    simp only [applyTxs, ExecM.bind_apply, hw, hws, ExecM.pure_apply]

theorem applyTxs_simulates_applyOps_sample :
    let hasher : MerkleHasher := ⟨fun _ => 0, fun _ _ _ => ([], [])⟩
    let a : Account := ⟨default, H160.zero, fun _ => 5000, 7⟩
    let s : ZkSyncState := ⟨fun i => if i = 3 then some a else none, fun _ => none, fun _ => none⟩
    let op₁ : ChangeGroupOp :=
      ⟨⟨3, H160.zero, H160.zero, 5, 40, 2047, 1, 9, 7, default, .notCached, false, none⟩, 3⟩
    let op₂ : ChangeGroupOp := { op₁ with tx := { op₁.tx with nonce := 8 } }
    ∃ s', applyOps [op₁, op₂] s = .ok () s' ∧
      (circuitTreeOf accountTreeDepth s).capacity = 2 ^ accountTreeDepth ∧
      (∀ op ∈ [op₁, op₂], ∃ data, op.getPublicData = .ok data) ∧
      (∀ op ∈ [op₁, op₂], op.tx.nonce ≠ 4294967295) ∧ Synced s (circuitTreeOf accountTreeDepth s) ∧
      ∃ ws tree', applyTxs hasher [op₁, op₂] (circuitTreeOf accountTreeDepth s) = .ok ws tree' ∧
        Synced s' tree' ∧ List.Forall₂ (fun op w => ∃ data, op.getPublicData = .ok data ∧
          w.getPubdata = .ok (bytesIntoBeBits data)) [op₁, op₂] ws :=
  ⟨_, rfl, rfl, by simp only [List.forall_mem_cons]; exact ⟨⟨_, rfl⟩, ⟨_, rfl⟩, nofun⟩, by decide,
    synced_circuitTreeOf _ _, applyTxs_simulates_applyOps _ (by exact rfl) (by exact rfl)
      (by simp only [List.forall_mem_cons]; exact ⟨⟨_, rfl⟩, ⟨_, rfl⟩, nofun⟩) (by decide)
      (synced_circuitTreeOf _ _)⟩

/-! ## From the signature checker to the circuit -/

section Pipeline

variable (crypto : Crypto) (config : ServerConfig) (checks : OtherChecks) (storage : Storage)

/-- A `ChangeGroup` that passed `check_correctness` (as every member of a request that `verify`
admits did) and that the state's `apply_tx` then applied ran as an op of that transaction whose
pubdata exists; on a tree of the configured depth the op's witness returns, with the pubdata's
bits. The check's `u128` amount and packable fee rule out the fees on which the witness panics. -/
theorem applyTx_witness_of_passedCheck {stx stx' : SignedZkSyncTx} {tx : ChangeGroup}
    {s s' : ZkSyncState} {r : Handlers.OpSuccess} {tree : CircuitAccountTree}
    (hpass : PassedCheck crypto config checks storage stx stx') (htx : stx'.tx = .changeGroup tx)
    (happ : Handlers.ChangeGroup.applyTx crypto tx s = .ok r s')
    (hcap : tree.capacity = 2 ^ accountTreeDepth) :
    ∃ op data w, r.executedOp = .changeGroup op ∧ op.tx = tx ∧ op.getPublicData = .ok data ∧
      applyTx hasher op tree = .ok w (tree.insert op.accountId
        (changeGroupLeaf (tree.leaf op.accountId) op.tx.token op.tx.amount op.tx.fee)) ∧
      w.getPubdata = .ok (bytesIntoBeBits data) := by
  obtain ⟨_, _, _, -, -, -, hcheck, -⟩ := hpass
  rw [htx] at hcheck
  obtain ⟨t, -, ht⟩ := ZkSyncTx.checkCorrectness_eq_changeGroup crypto config checks hcheck
  obtain ⟨hamount, hpack, signer, -, rfl⟩ := t.checkCorrectness_ok crypto config ht
  obtain ⟨op, hc, -, hop⟩ := Handlers.ChangeGroup.applyTx_ok crypto happ
  obtain ⟨-, -, -, -, -, -, hopTx⟩ := Handlers.ChangeGroup.createOp_eq_ok crypto hc
  replace hopTx : op.tx = _ := congrArg ChangeGroupOp.tx hopTx
  obtain ⟨fee, hfee, -⟩ := isFeeAmountPackable_iff.mp hpack
  have hdata := ChangeGroupOp.getPublicData_eq
    (show op.tx.amount ≤ u128Max by rw [hopTx]; exact hamount)
    (show packFeeAmount op.tx.fee = .ok fee by rw [hopTx]; exact hfee)
  obtain ⟨w, hw, hpub⟩ := getPubdata_applyTx hasher op hcap hdata
  exact ⟨op, _, w, hop, hopTx, hdata, hw, hpub⟩

theorem applyTx_witness_of_passedCheck_sample :
    let hasher : MerkleHasher := ⟨fun _ => 0, fun _ _ _ => ([], [])⟩
    let crypto : Crypto := ⟨fun _ _ => none, fun _ => default, fun _ _ => none⟩
    let config : ServerConfig := ⟨0, false⟩
    let checks : OtherChecks := ⟨(.ok () ·), (.ok () ·), (.ok () ·), (.ok () ·),
      fun _ _ t => .ok () t, (.ok () ·)⟩
    let storage : Storage := ⟨.ok (), fun _ => .ok true⟩
    let key : PubKeyHash := ⟨⟨List.replicate 20 1, rfl⟩⟩
    let s : ZkSyncState :=
      ⟨fun i => if i = 0 then some ⟨key, H160.zero, fun _ => 10, 2⟩ else none, fun _ => some 0,
        fun _ => none⟩
    let tx : ChangeGroup := ⟨0, H160.zero, H160.zero, 0, 3, 1, 0, 1, 2, default,
      .cached (some (key, .v1)), false, none⟩
    let stx : SignedZkSyncTx := ⟨.changeGroup tx, none⟩
    let tree : CircuitAccountTree := ⟨accountTreeDepth, fun _ => none⟩
    ∃ r s', PassedCheck crypto config checks storage stx stx ∧ stx.tx = .changeGroup tx ∧
      Handlers.ChangeGroup.applyTx crypto tx s = .ok r s' ∧ tree.capacity = 2 ^ accountTreeDepth ∧
      ∃ op data w, r.executedOp = .changeGroup op ∧ op.tx = tx ∧ op.getPublicData = .ok data ∧
        applyTx hasher op tree = .ok w (tree.insert op.accountId
          (changeGroupLeaf (tree.leaf op.accountId) op.tx.token op.tx.amount op.tx.fee)) ∧
        w.getPubdata = .ok (bytesIntoBeBits data) := by
  intro hasher crypto config checks storage key s tx stx tree
  have hpass : PassedCheck crypto config checks storage stx stx :=
    ⟨H160.zero, true, true, rfl, rfl, rfl,
      Exec.map_eq_ok.mpr ⟨_, checkAndCacheSigner_ok.mpr ⟨by decide, _, rfl, rfl⟩, rfl⟩, rfl⟩
  obtain ⟨r, s', happ⟩ : ∃ r s', Handlers.ChangeGroup.applyTx crypto tx s = .ok r s' := ⟨_, _, rfl⟩
  exact ⟨r, s', hpass, rfl, happ, rfl,
    applyTx_witness_of_passedCheck hasher crypto config checks storage hpass rfl happ rfl⟩

end Pipeline

end ModularRollup.BlockWitness
