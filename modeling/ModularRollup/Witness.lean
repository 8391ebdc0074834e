import Mathlib.Data.ZMod.Basic
import ModularRollup.Handlers

/-! The circuit witness of a `ChangeGroupOp`: `ChangeGroupWitness::apply_tx` replays the operation
on the circuit's account tree over the scalar field of BN254, and `get_pubdata` lays out the bits
the circuit commits to. Modelled from the spec: the field, the account tree, `apply_leaf_operation`
and the bit helpers of `zksync_crypto::circuit` are not under src/; the tree's root hash and audit
paths are parameters. -/
namespace ModularRollup.Witness
open Primitives AmountCodec TxCommon ChangeGroupTx State
open Operations (ChangeGroupOp resize)

/-! ## The scalar field and its bits -/

/-- The order of `Fr`, the scalar field of BN254. -/
def frModulus : ℕ :=
  21888242871839275222246405745257275088548364400416034343698204186575808495617

abbrev Fr := ZMod frModulus

instance : NeZero frModulus := ⟨by decide⟩

abbrev U128 := Fin (u128Max + 1)

/-- `to_u128()`. -/
def toU128 (n : ℕ) : Option U128 := if h : n ≤ u128Max then some ⟨n, Nat.lt_succ_of_le h⟩ else none

/-- `fr_from`: the field element of an integer's decimal digits; every integer passed to it here
is a `u128` or narrower, below the modulus. -/
def frFrom (n : ℕ) : Fr := n

/-- `eth_address_to_fr`: the address read as a big-endian integer. -/
def ethAddressToFr (address : Address) : Fr := fromBeBytes address.bytes

/-- The low `width` bits of `n`, least significant first. -/
def leBits : ℕ → ℕ → List Bool
  | 0, _ => []
  | w + 1, n => (n % 2 == 1) :: leBits w (n / 2)

/-- The number that bits spell, least significant first. -/
def bitsValue : List Bool → ℕ
  | [] => 0
  | b :: bs => b.toNat + 2 * bitsValue bs

/-- `BitIterator::new(x.into_repr())`: the 256 bits of the representation, most significant
first. -/
def bitIterator (x : Fr) : List Bool := (leBits 256 x.val).reverse

/-- `append_be_fixed_width`: the bits of `x` least significant first, resized to `width`, and
appended most significant first. -/
def appendBeFixedWidth (content : List Bool) (x : Fr) (width : ℕ) : List Bool :=
  let tokenBits := (bitIterator x).reverse
  content ++ (resize tokenBits width false).reverse

/-- `le_bit_vector_into_field_element`: double and add, least significant bit first. -/
def leBitVectorIntoFieldElement (bits : List Bool) : Fr :=
  (bits.foldl (fun (acc : Fr × Fr) bit => (if bit then acc.1 + acc.2 else acc.1, acc.2 + acc.2))
    (0, 1)).1

/-- `resize_grow_only`: a vector longer than `newSize` fails the assertion. -/
def resizeGrowOnly (toResize : List Bool) (newSize : ℕ) (padWith : Bool) : Run Empty (List Bool) := do
  Run.assert (toResize.length ≤ newSize) "assertion failed: to_resize.len() <= new_size"
  pure (resize toResize newSize padWith)

/-- The bits `FloatConversions::to_float` returns: the exponent's, then the mantissa's, each
least significant first. -/
def toFloatBits (exponentLength mantissaLength integer : ℕ) : Except ConversionError (List Bool) :=
  (toFloat exponentLength mantissaLength integer).map fun float =>
    leBits exponentLength float.1 ++ leBits mantissaLength float.2

/-- `to_float(..).unwrap()`, which panics with the error's `Debug` text. -/
def toFloatUnwrap (exponentLength mantissaLength integer : ℕ) : Run Empty (List Bool) :=
  match toFloatBits exponentLength mantissaLength integer with
  | .ok bits => pure bits
  | .error .tooBigInteger =>
    .panic "called `Result::unwrap()` on an `Err` value: TooBigInteger"

/-- The big-endian bit expansion of bytes: each byte's bits, most significant first. -/
def bytesIntoBeBits (bytes : List UInt8) : List Bool :=
  bytes.flatMap fun b => (leBits 8 b.toNat).reverse

/-- `slice.chunks(size)`: consecutive pieces of `size` elements, the last one possibly shorter. -/
def chunks {α : Type} (v : List α) (size : ℕ) : List (List α) :=
  (List.range ((v.length + size - 1) / size)).map fun i => (v.drop (i * size)).take size

/-- `v[i]`, which panics past the end. -/
def index {α : Type} (v : List α) (i : ℕ) : Run Empty α :=
  match v[i]? with
  | some a => pure a
  | none => .panic "index out of bounds"

@[simp] lemma length_leBits (w n : ℕ) : (leBits w n).length = w := by
  induction w generalizing n with
  | zero => rfl
  | succ w ih => simp [leBits, ih]

lemma leBits_add (a b n : ℕ) : leBits (a + b) n = leBits a n ++ leBits b (n / 2 ^ a) := by
  induction a generalizing n with
  | zero => simp [leBits]
  | succ a ih =>
    rw [Nat.add_right_comm]
    simp only [leBits, ih, Nat.div_div_eq_div_mul, pow_succ', List.cons_append]

/-- Only the low `w` bits of `n` are read. -/
lemma leBits_mod_two_pow (w n : ℕ) : leBits w (n % 2 ^ w) = leBits w n := by
  induction w generalizing n with
  | zero => rfl
  | succ w ih => simp only [leBits, pow_succ', Nat.mod_mul_right_mod, Nat.mod_mul_right_div_self, ih]

lemma take_leBits {w n : ℕ} (h : w ≤ n) (v : ℕ) : (leBits n v).take w = leBits w v := by
  obtain ⟨k, rfl⟩ := Nat.exists_eq_add_of_le h
  rw [leBits_add, List.take_left' (length_leBits w v)]

lemma bitsValue_append (xs ys : List Bool) :
    bitsValue (xs ++ ys) = bitsValue xs + 2 ^ xs.length * bitsValue ys := by
  induction xs with
  | nil => simp [bitsValue]
  | cons b bs ih =>
    rw [List.cons_append, bitsValue, bitsValue, ih, List.length_cons, pow_succ]
    ring

lemma bitsValue_leBits (w n : ℕ) : bitsValue (leBits w n) = n % 2 ^ w := by
  induction w generalizing n with
  | zero => simp [leBits, bitsValue, Nat.mod_one]
  | succ w ih =>
    rw [leBits, bitsValue, ih, pow_succ', Nat.mod_mul]
    rcases Nat.mod_two_eq_zero_or_one n with h | h <;> simp [h]

/-- The loop of `le_bit_vector_into_field_element` from any accumulator and base. -/
lemma foldl_doubleAdd (bits : List Bool) (fe base : Fr) :
    bits.foldl (fun (acc : Fr × Fr) bit => (if bit then acc.1 + acc.2 else acc.1, acc.2 + acc.2))
      (fe, base) = (fe + base * bitsValue bits, base * 2 ^ bits.length) := by
  induction bits generalizing fe base with
  | nil => simp [bitsValue]
  | cons b bs ih =>
    rw [List.foldl_cons, ih]
    cases b <;> simp only [bitsValue, List.length_cons, pow_succ, Bool.toNat_false,
      Bool.toNat_true, if_true, if_false] <;> push_cast <;>
      exact Prod.ext (by ring) (by ring)

lemma leBitVectorIntoFieldElement_eq (bits : List Bool) :
    leBitVectorIntoFieldElement bits = bitsValue bits := by
  simp [leBitVectorIntoFieldElement, foldl_doubleAdd]

lemma val_frFrom {n : ℕ} (h : n < frModulus) : (frFrom n).val = n := ZMod.val_natCast_of_lt h

/-- For the widths the circuit uses, `append_be_fixed_width` appends the low `width` bits most
significant first. -/
lemma appendBeFixedWidth_eq (content : List Bool) (x : Fr) {width : ℕ} (h : width ≤ 256) :
    appendBeFixedWidth content x width = content ++ (leBits width x.val).reverse := by
  simp only [appendBeFixedWidth, bitIterator, List.reverse_reverse, resize, take_leBits h,
    length_leBits, Nat.sub_eq_zero_of_le h, List.replicate_zero, List.append_nil]

@[simp] lemma bytesIntoBeBits_append (xs ys : List UInt8) :
    bytesIntoBeBits (xs ++ ys) = bytesIntoBeBits xs ++ bytesIntoBeBits ys :=
  List.flatMap_append _ _ _

/-- The bits of bytes are the bits of the integer they spell. -/
lemma bytesIntoBeBits_eq (bs : List UInt8) :
    bytesIntoBeBits bs = (leBits (8 * bs.length) (fromBeBytes bs)).reverse := by
  induction bs using List.reverseRecOn with
  | nil => rfl
  | append_singleton bs b ih =>
    have hb : b.toNat < 256 := b.val.isLt
    have hlow : (fromBeBytes bs * 256 + b.toNat) % 2 ^ 8 = b.toNat % 2 ^ 8 := by norm_num; omega
    have hhigh : (fromBeBytes bs * 256 + b.toNat) / 2 ^ 8 = fromBeBytes bs := by norm_num; omega
    rw [bytesIntoBeBits_append, ih, fromBeBytes_append_byte, List.length_append,
      List.length_singleton, Nat.mul_succ, Nat.add_comm _ 8, leBits_add, List.reverse_append,
      ← leBits_mod_two_pow 8, hlow, leBits_mod_two_pow, hhigh]
    simp [bytesIntoBeBits]

lemma bytesIntoBeBits_toBeBytes (w n : ℕ) :
    bytesIntoBeBits (toBeBytes w n) = (leBits (8 * w) n).reverse := by
  rw [bytesIntoBeBits_eq, length_toBeBytes, fromBeBytes_toBeBytes,
    show 256 ^ w = 2 ^ (8 * w) by rw [pow_mul]; norm_num, leBits_mod_two_pow]

@[simp] lemma length_bytesIntoBeBits (bs : List UInt8) :
    (bytesIntoBeBits bs).length = 8 * bs.length := by
  induction bs with
  | nil => rfl
  | cons b bs ih =>
    simp only [bytesIntoBeBits, List.flatMap_cons, List.length_append, List.length_reverse,
      length_leBits, List.length_cons] at ih ⊢
    rw [ih]
    ring

lemma bytesIntoBeBits_drop (n : ℕ) (bs : List UInt8) :
    bytesIntoBeBits (bs.drop n) = (bytesIntoBeBits bs).drop (8 * n) := by
  induction n generalizing bs with
  | zero => rfl
  | succ n ih =>
    cases bs with
    | nil => simp [bytesIntoBeBits]
    | cons b bs =>
      rw [List.drop_succ_cons, ih, show b :: bs = [b] ++ bs from rfl, bytesIntoBeBits_append,
        Nat.mul_succ, Nat.add_comm, ← List.drop_drop, List.drop_left' (by simp [bytesIntoBeBits])]

lemma bytesIntoBeBits_take (n : ℕ) (bs : List UInt8) :
    bytesIntoBeBits (bs.take n) = (bytesIntoBeBits bs).take (8 * n) := by
  induction n generalizing bs with
  | zero => rfl
  | succ n ih =>
    cases bs with
    | nil => simp [bytesIntoBeBits]
    | cons b bs =>
      rw [List.take_succ_cons, show b :: bs.take n = [b] ++ bs.take n from rfl,
        show b :: bs = [b] ++ bs from rfl, bytesIntoBeBits_append, bytesIntoBeBits_append, ih,
        Nat.mul_succ, Nat.add_comm, List.take_append_eq_append_take]
      simp [bytesIntoBeBits]

/-- A vector of `k` whole chunks splits into exactly those chunks. -/
lemma chunks_eq {α : Type} {v : List α} {k size : ℕ} (hsize : 0 < size) (h : v.length = k * size) :
    chunks v size = (List.range k).map fun i => (v.drop (i * size)).take size := by
  have hk : (v.length + size - 1) / size = k := by
    rw [h]
    apply Nat.div_eq_of_lt_le
    · omega
    · rw [Nat.succ_mul]
      omega
  rw [chunks, hk]

lemma index_eq_ok {α : Type} {v : List α} {i : ℕ} (h : i < v.length) : index v i = .ok v[i] := by
  simp [index, h]

/-! ## The account tree -/

structure Balance where
  value : Fr

structure CircuitAccount where
  subtree : TokenId → Option Balance
  nonce : Fr
  pubKeyHash : Fr
  address : Fr

instance : Inhabited CircuitAccount := ⟨⟨fun _ => none, 0, 0, 0⟩⟩

/-- The balance the circuit reads for `token`: an absent leaf reads as zero. -/
def CircuitAccount.balance (account : CircuitAccount) (token : TokenId) : Fr :=
  ((account.subtree token).map (·.value)).getD 0

/-- The sparse Merkle tree of accounts, with the depth it was built for. -/
structure CircuitAccountTree where
  treeDepth : ℕ
  items : AccountId → Option CircuitAccount

namespace CircuitAccountTree

def capacity (tree : CircuitAccountTree) : ℕ := 2 ^ tree.treeDepth

def remove (tree : CircuitAccountTree) (index : AccountId) : CircuitAccountTree :=
  { tree with items := Function.update tree.items index none }

def insert (tree : CircuitAccountTree) (index : AccountId) (account : CircuitAccount) :
    CircuitAccountTree :=
  { tree with items := Function.update tree.items index (some account) }

/-- The account the circuit reads at `index`: an absent leaf is the default account. -/
def leaf (tree : CircuitAccountTree) (index : AccountId) : CircuitAccount :=
  (tree.items index).getD default

end CircuitAccountTree

/-- The tree's hashes: `root_hash` and `get_audits`, the audit paths of an account and of one
of its balances. -/
structure MerkleHasher where
  rootHash : CircuitAccountTree → Fr
  getAudits : CircuitAccountTree → AccountId → TokenId → List (Option Fr) × List (Option Fr)

structure AccountWitness where
  nonce : Option Fr
  pubKeyHash : Option Fr
  address : Option Fr

def AccountWitness.fromCircuitAccount (account : CircuitAccount) : AccountWitness :=
  ⟨some account.nonce, some account.pubKeyHash, some account.address⟩

/-- `apply_leaf_operation`: takes the account out of the tree (the default one if absent) and
its balance out of its subtree (zero if absent), applies `fb` to the balance and `fa` to the
account, and puts the account back. It returns both account witnesses and both balances. -/
def applyLeafOperation (accountAddress : AccountId) (token : TokenId)
    (fa : CircuitAccount → CircuitAccount) (fb : Balance → Balance) :
    ExecM CircuitAccountTree Empty (AccountWitness × AccountWitness × Fr × Fr) := do
  let account := ((← get).items accountAddress).getD default
  modify (·.remove accountAddress)
  let accountWitnessBefore := AccountWitness.fromCircuitAccount account
  let balance := (account.subtree token).getD ⟨0⟩
  let account := { account with subtree := Function.update account.subtree token none }
  let balanceBefore := balance.value
  let balance := fb balance
  let balanceAfter := balance.value
  let account := { account with subtree := Function.update account.subtree token (some balance) }
  let account := fa account
  let accountWitnessAfter := AccountWitness.fromCircuitAccount account
  modify (·.insert accountAddress account)
  pure (accountWitnessBefore, accountWitnessAfter, balanceBefore, balanceAfter)

/-- `unwrap_or(Balance { value: Fr::zero() })` is the balance the circuit reads. -/
lemma getD_zero_eq (balance : Option Balance) :
    balance.getD ⟨0⟩ = ⟨(balance.map (·.value)).getD 0⟩ := by
  cases balance <;> rfl

@[simp] lemma insert_remove (tree : CircuitAccountTree) (index : AccountId) (account : CircuitAccount) :
    (tree.remove index).insert index account = tree.insert index account := by
  simp [CircuitAccountTree.remove, CircuitAccountTree.insert]

@[simp] lemma items_insert (tree : CircuitAccountTree) (index i : AccountId) (account : CircuitAccount) :
    (tree.insert index account).items i = if i = index then some account else tree.items i := by
  simp [CircuitAccountTree.insert, Function.update_apply]

@[simp] lemma capacity_insert (tree : CircuitAccountTree) (index : AccountId) (account : CircuitAccount) :
    (tree.insert index account).capacity = tree.capacity := rfl

@[simp] lemma leaf_insert (tree : CircuitAccountTree) (index i : AccountId) (account : CircuitAccount) :
    (tree.insert index account).leaf i = if i = index then account else tree.leaf i := by
  by_cases h : i = index <;> simp [CircuitAccountTree.leaf, h]

/-- `apply_leaf_operation` writes back the account it read, with `fb` applied to the balance and
`fa` to the account. -/
lemma applyLeafOperation_apply (accountAddress : AccountId) (token : TokenId)
    (fa : CircuitAccount → CircuitAccount) (fb : Balance → Balance) (tree : CircuitAccountTree) :
    applyLeafOperation accountAddress token fa fb tree =
      let account := tree.leaf accountAddress
      let balance := fb ⟨account.balance token⟩
      let account' := fa { account with
        subtree := Function.update account.subtree token (some balance) }
      .ok (.fromCircuitAccount account, .fromCircuitAccount account', account.balance token,
        balance.value) (tree.insert accountAddress account') := by
  simp only [applyLeafOperation, ExecM.bind_apply, ExecM.get_apply, ExecM.modify_apply,
    ExecM.pure_apply, insert_remove, Function.update_idem, getD_zero_eq]
  rfl

/-! ## `ChangeGroupWitness` -/

structure ChangeGroupData where
  amount : U128
  fee : U128
  token : TokenId
  accountAddress : AccountId
  ethAddress : Fr
  group1 : U16
  group2 : U16
  validFrom : U64
  validUntil : U64

structure OperationBranchWitness where
  accountWitness : AccountWitness
  accountPath : List (Option Fr)
  balanceValue : Option Fr
  balanceSubtreePath : List (Option Fr)

structure OperationBranch where
  address : Option Fr
  token : Option Fr
  witness : OperationBranchWitness

/-- The arguments `apply_data` sets; the others keep their default `None`. -/
structure OperationArguments where
  ethAddress : Option Fr
  amountPacked : Option Fr
  fullAmount : Option Fr
  fee : Option Fr
  a : Option Fr
  b : Option Fr
  group : Option Fr
  group2 : Option Fr
  validFrom : Option Fr
  validUntil : Option Fr

structure ChangeGroupWitness where
  before : OperationBranch
  after : OperationBranch
  args : OperationArguments
  beforeRoot : Option Fr
  afterRoot : Option Fr
  txType : Option Fr

structure SignatureData where
  rPacked : List (Option Bool)
  s : List (Option Bool)

/-- The signature inputs `calculate_operations` copies into every operation. -/
structure SigDataInput where
  firstSigMsg : Fr
  secondSigMsg : Fr
  thirdSigMsg : Fr
  signature : SignatureData
  signerPubKeyPacked : List (Option Bool)

/-- One chunk's operation of the circuit. -/
structure Operation where
  newRoot : Option Fr
  txType : Option Fr
  chunk : Option Fr
  pubdataChunk : Option Fr
  firstSigMsg : Option Fr
  secondSigMsg : Option Fr
  thirdSigMsg : Option Fr
  signatureData : SignatureData
  signerPubKeyPacked : List (Option Bool)
  args : OperationArguments
  lhs : OperationBranch
  rhs : OperationBranch

namespace ChangeGroupWitness

variable (hasher : MerkleHasher)

def applyData (changeGroup : ChangeGroupData) :
    ExecM CircuitAccountTree Empty ChangeGroupWitness := do
  let beforeRoot := hasher.rootHash (← get)
  let (auditPathBefore, auditBalancePathBefore) :=
    hasher.getAudits (← get) changeGroup.accountAddress changeGroup.token
  let capacity := (← get).capacity
  Run.assert (capacity = 2 ^ accountTreeDepth) "assertion `left == right` failed"
  let accountAddressFe := frFrom changeGroup.accountAddress
  let tokenFe := frFrom changeGroup.token
  let amountAsFieldElement := frFrom changeGroup.amount
  let group1 := frFrom changeGroup.group1
  let group2 := frFrom changeGroup.group2
  let amountBits ←
    toFloatUnwrap amountExponentBitWidth amountMantissaBitWidth changeGroup.amount
  let amountEncoded := leBitVectorIntoFieldElement amountBits
  let feeAsFieldElement := frFrom changeGroup.fee
  let feeBits ← toFloatUnwrap feeExponentBitWidth feeMantissaBitWidth changeGroup.fee
  let feeEncoded := leBitVectorIntoFieldElement feeBits
  let (accountWitnessBefore, accountWitnessAfter, balanceBefore, balanceAfter) ←
    applyLeafOperation changeGroup.accountAddress changeGroup.token
      (fun acc => { acc with nonce := acc.nonce + frFrom 1 })
      (fun bal => ⟨bal.value - amountAsFieldElement - feeAsFieldElement⟩)
  let afterRoot := hasher.rootHash (← get)
  let (auditPathAfter, auditBalancePathAfter) :=
    hasher.getAudits (← get) changeGroup.accountAddress changeGroup.token
  let a := balanceBefore
  let b := amountAsFieldElement + feeAsFieldElement
  pure {
    before := ⟨some accountAddressFe, some tokenFe,
      ⟨accountWitnessBefore, auditPathBefore, some balanceBefore, auditBalancePathBefore⟩⟩
    after := ⟨some accountAddressFe, some tokenFe,
      ⟨accountWitnessAfter, auditPathAfter, some balanceAfter, auditBalancePathAfter⟩⟩
    args := {
      ethAddress := some changeGroup.ethAddress
      amountPacked := some amountEncoded
      fullAmount := some amountAsFieldElement
      fee := some feeEncoded
      a := some a
      b := some b
      group := some group1
      group2 := some group2
      validFrom := some (frFrom changeGroup.validFrom)
      validUntil := some (frFrom changeGroup.validUntil) }
    beforeRoot := some beforeRoot
    afterRoot := some afterRoot
    txType := some (frFrom ChangeGroupOp.OP_CODE.toNat) }

def applyTx (changeGroup : ChangeGroupOp) : ExecM CircuitAccountTree Empty ChangeGroupWitness := do
  let (validFrom, validUntil) :=
    let timeRange := changeGroup.tx.timeRange.getD default
    (timeRange.validFrom, timeRange.validUntil)
  let changeGroupData : ChangeGroupData := {
    amount := ← Run.expect (toU128 changeGroup.tx.amount) Run.unwrapNone
    fee := ← Run.expect (toU128 changeGroup.tx.fee) Run.unwrapNone
    token := changeGroup.tx.token
    accountAddress := changeGroup.accountId
    ethAddress := ethAddressToFr changeGroup.tx.to
    group1 := changeGroup.tx.group1
    group2 := changeGroup.tx.group2
    validFrom
    validUntil }
  applyData hasher changeGroupData

def getPubdata (w : ChangeGroupWitness) : Run Empty (List Bool) := do
  let pubdataBits := appendBeFixedWidth [] (← Run.expect w.txType Run.unwrapNone) txTypeBitWidth
  let pubdataBits := appendBeFixedWidth pubdataBits
    (← Run.expect w.before.address Run.unwrapNone) accountIdBitWidth
  let pubdataBits := appendBeFixedWidth pubdataBits
    (← Run.expect w.before.token Run.unwrapNone) tokenBitWidth
  let pubdataBits := appendBeFixedWidth pubdataBits
    (← Run.expect w.args.fullAmount Run.unwrapNone) balanceBitWidth
  let pubdataBits := appendBeFixedWidth pubdataBits
    (← Run.expect w.args.fee Run.unwrapNone) (feeMantissaBitWidth + feeExponentBitWidth)
  let pubdataBits := appendBeFixedWidth pubdataBits
    (← Run.expect w.args.ethAddress Run.unwrapNone) ethAddressBitWidth
  let pubdataBits := appendBeFixedWidth pubdataBits
    (← Run.expect w.args.group2 Run.unwrapNone) (groupLen * 8)
  resizeGrowOnly pubdataBits (ChangeGroupOp.CHUNKS * chunkBitWidth) false

/-- The operation of one chunk, as `calculate_operations` builds it from the chunk's number, its
pubdata chunk and the branch it reads. -/
def operation (w : ChangeGroupWitness) (input : SigDataInput) (chunk : ℕ) (pubdataChunk : Fr)
    (branch : OperationBranch) : Operation where
  newRoot := w.afterRoot
  txType := w.txType
  chunk := some (frFrom chunk)
  pubdataChunk := some pubdataChunk
  firstSigMsg := some input.firstSigMsg
  secondSigMsg := some input.secondSigMsg
  thirdSigMsg := some input.thirdSigMsg
  signatureData := input.signature
  signerPubKeyPacked := input.signerPubKeyPacked
  args := w.args
  lhs := branch
  rhs := branch

/-- `calculate_operations`: one operation per chunk of the pubdata, each carrying the chunk read
as a little-endian field element; the first reads the branch before the update, the others the
branch after it. -/
def calculateOperations (w : ChangeGroupWitness) (input : SigDataInput) : Run Empty (List Operation) := do
  let pubdataChunks := (chunks (← w.getPubdata) chunkBitWidth).map leBitVectorIntoFieldElement
  let operationZero := w.operation input 0 (← index pubdataChunks 0) w.before
  let restOperations ← (List.range' 1 (ChangeGroupOp.CHUNKS - 1)).mapM fun chunk => do
    pure (w.operation input chunk (← index pubdataChunks chunk) w.after)
  pure (operationZero :: restOperations)

/-- `get_offset_commitment_data`: one byte per chunk, with the flag bit of the first byte set. -/
def getOffsetCommitmentData (_w : ChangeGroupWitness) : List Bool :=
  (List.replicate (ChangeGroupOp.CHUNKS * 8) false).set 7 true


/-- The leaf `apply_data` writes: `amount` and `fee` taken from the balance of `token` and the
nonce plus one, in the field. -/
def changeGroupLeaf (account : CircuitAccount) (token : TokenId) (amount fee : ℕ) : CircuitAccount :=
  { account with
    subtree := Function.update account.subtree token
      (some ⟨account.balance token - frFrom amount - frFrom fee⟩)
    nonce := account.nonce + frFrom 1 }

@[simp] lemma nonce_changeGroupLeaf (account : CircuitAccount) (token : TokenId) (amount fee : ℕ) :
    (changeGroupLeaf account token amount fee).nonce = account.nonce + 1 := by
  simp [changeGroupLeaf, frFrom]

@[simp] lemma balance_changeGroupLeaf (account : CircuitAccount) (token : TokenId) (amount fee : ℕ) :
    (changeGroupLeaf account token amount fee).balance token =
      account.balance token - amount - fee := by
  simp [changeGroupLeaf, CircuitAccount.balance, frFrom]

/-- When the account can pay, the field subtraction `apply_data` makes is the balance
`apply_op` stores. -/
lemma balance_changeGroupLeaf_of_le {account : CircuitAccount} {token : TokenId}
    {amount fee balance : ℕ} (hbalance : account.balance token = balance)
    (h : amount + fee ≤ balance) :
    (changeGroupLeaf account token amount fee).balance token = ((balance - (amount + fee) : ℕ) : Fr) := by
  rw [balance_changeGroupLeaf, hbalance, Nat.cast_sub h, Nat.cast_add]
  ring

@[simp] lemma balance_changeGroupLeaf_of_ne (account : CircuitAccount) {token t : TokenId}
    (amount fee : ℕ) (h : t ≠ token) :
    (changeGroupLeaf account token amount fee).balance t = account.balance t := by
  simp [changeGroupLeaf, CircuitAccount.balance, h]

lemma lt_frModulus {n : ℕ} (h : n ≤ u128Max) : n < frModulus := by
  unfold u128Max frModulus at *
  omega

lemma toFloatBits_of_ok {e m n : ℕ} {float : ℕ × ℕ} (h : toFloat e m n = .ok float) :
    toFloatBits e m n = .ok (leBits e float.1 ++ leBits m float.2) := by
  simp [toFloatBits, h, Except.map]

lemma toFloatUnwrap_of_ok {e m n : ℕ} {bits : List Bool} (h : toFloatBits e m n = .ok bits) :
    toFloatUnwrap e m n = .ok bits := by
  simp [toFloatUnwrap, h]

/-- A `u128` amount always fits the amount float, so its `to_float(..).unwrap()` returns. -/
lemma toFloatUnwrap_amount (amount : U128) :
    ∃ bits, toFloatUnwrap amountExponentBitWidth amountMantissaBitWidth amount = .ok bits := by
  have hle : (amount : ℕ) ≤ (2 ^ amountMantissaBitWidth - 1) * 10 ^ (2 ^ amountExponentBitWidth - 1) := by
    have := amount.isLt
    unfold u128Max at this
    simp only [amountMantissaBitWidth, amountExponentBitWidth]
    omega
  obtain ⟨float, hf⟩ := toFloat_isOk hle
  exact ⟨_, toFloatUnwrap_of_ok (toFloatBits_of_ok hf)⟩

lemma toU128_of_le {n : ℕ} (h : n ≤ u128Max) : toU128 n = some ⟨n, Nat.lt_succ_of_le h⟩ := dif_pos h

/-- What `apply_data` computes on a tree of the configured depth when the fee fits the float:
the account's leaf written back with `amount` and `fee` taken from the balance and the nonce
incremented, and a witness with the fields `get_pubdata` reads. -/
lemma applyData_ok (data : ChangeGroupData) {tree : CircuitAccountTree}
    (hcap : tree.capacity = 2 ^ accountTreeDepth) {feeBits : List Bool}
    (hfee : toFloatBits feeExponentBitWidth feeMantissaBitWidth data.fee = .ok feeBits) :
    ∃ w, applyData hasher data tree = .ok w (tree.insert data.accountAddress
        (changeGroupLeaf (tree.leaf data.accountAddress) data.token data.amount data.fee)) ∧
      w.txType = some (frFrom ChangeGroupOp.OP_CODE.toNat) ∧
      w.before.address = some (frFrom data.accountAddress) ∧
      w.before.token = some (frFrom data.token) ∧
      w.args.fullAmount = some (frFrom data.amount) ∧
      w.args.fee = some (leBitVectorIntoFieldElement feeBits) ∧
      w.args.ethAddress = some data.ethAddress ∧
      w.args.group2 = some (frFrom data.group2) := by
  obtain ⟨amountBits, hamount⟩ := toFloatUnwrap_amount data.amount
  simp only [applyData, ExecM.bind_apply, ExecM.get_apply, ExecM.liftM_empty_apply, hcap,
    Run.assert_pos, hamount, toFloatUnwrap_of_ok hfee, applyLeafOperation_apply, ExecM.pure_apply]
  exact ⟨_, rfl, rfl, rfl, rfl, rfl, rfl, rfl, rfl⟩

/-- `apply_tx` on an op with `u128` amount and fee whose fee fits the float: `apply_data` on the
op's fields. -/
lemma applyTx_ok (op : ChangeGroupOp) {tree : CircuitAccountTree}
    (hcap : tree.capacity = 2 ^ accountTreeDepth) (hamount : op.tx.amount ≤ u128Max)
    (hfeeMax : op.tx.fee ≤ u128Max) {feeBits : List Bool}
    (hfee : toFloatBits feeExponentBitWidth feeMantissaBitWidth op.tx.fee = .ok feeBits) :
    ∃ w, applyTx hasher op tree = .ok w (tree.insert op.accountId
        (changeGroupLeaf (tree.leaf op.accountId) op.tx.token op.tx.amount op.tx.fee)) ∧
      w.txType = some (frFrom ChangeGroupOp.OP_CODE.toNat) ∧
      w.before.address = some (frFrom op.accountId) ∧
      w.before.token = some (frFrom op.tx.token) ∧
      w.args.fullAmount = some (frFrom op.tx.amount) ∧
      w.args.fee = some (leBitVectorIntoFieldElement feeBits) ∧
      w.args.ethAddress = some (ethAddressToFr op.tx.to) ∧
      w.args.group2 = some (frFrom op.tx.group2) := by
  simp only [applyTx, toU128_of_le hamount, toU128_of_le hfeeMax, Run.expect_some,
    ExecM.bind_apply, ExecM.liftM_empty_apply]
  exact applyData_ok hasher _ hcap hfee

/-- A fee above the largest fee float makes `apply_data` panic at `to_float(..).unwrap()`. -/
lemma applyData_panic_of_fee (data : ChangeGroupData) {tree : CircuitAccountTree}
    (hcap : tree.capacity = 2 ^ accountTreeDepth)
    (hfee : (2 ^ feeMantissaBitWidth - 1) * 10 ^ (2 ^ feeExponentBitWidth - 1) < (data.fee : ℕ)) :
    applyData hasher data tree =
      .panic "called `Result::unwrap()` on an `Err` value: TooBigInteger" := by
  obtain ⟨amountBits, hamount⟩ := toFloatUnwrap_amount data.amount
  have hfee' : toFloatUnwrap feeExponentBitWidth feeMantissaBitWidth data.fee =
      .panic "called `Result::unwrap()` on an `Err` value: TooBigInteger" := by
    simp [toFloatUnwrap, toFloatBits, toFloat_eq_error hfee, Except.map]
  simp only [applyData, ExecM.bind_apply, ExecM.get_apply, ExecM.liftM_empty_apply, hcap,
    Run.assert_pos, hamount, hfee']

lemma applyTx_panic_of_fee (op : ChangeGroupOp) {tree : CircuitAccountTree}
    (hcap : tree.capacity = 2 ^ accountTreeDepth) (hamount : op.tx.amount ≤ u128Max)
    (hfeeMax : op.tx.fee ≤ u128Max)
    (hfee : (2 ^ feeMantissaBitWidth - 1) * 10 ^ (2 ^ feeExponentBitWidth - 1) < op.tx.fee) :
    applyTx hasher op tree =
      .panic "called `Result::unwrap()` on an `Err` value: TooBigInteger" := by
  simp only [applyTx, toU128_of_le hamount, toU128_of_le hfeeMax, Run.expect_some,
    ExecM.bind_apply, ExecM.liftM_empty_apply]
  exact applyData_panic_of_fee hasher _ hcap hfee

/-- `to_u128().unwrap()` on an amount or a fee past `u128::MAX` panics. -/
lemma applyTx_panic_of_u128 (op : ChangeGroupOp) (tree : CircuitAccountTree)
    (h : u128Max < op.tx.amount ∨ u128Max < op.tx.fee) :
    applyTx hasher op tree = .panic Run.unwrapNone := by
  by_cases hamount : op.tx.amount ≤ u128Max
  · have hfee : ¬op.tx.fee ≤ u128Max := by omega
    simp [applyTx, toU128, hamount, hfee]
  · simp [applyTx, toU128, hamount]

/-- `get_pubdata` of a witness that has the fields it reads: each field's low bits, most
significant first, in the widths of the layout, padded with zeros to `CHUNKS` chunks. -/
lemma getPubdata_eq {w : ChangeGroupWitness} {txType address token amount fee ethAddress group2 : Fr}
    (h₁ : w.txType = some txType) (h₂ : w.before.address = some address)
    (h₃ : w.before.token = some token) (h₄ : w.args.fullAmount = some amount)
    (h₅ : w.args.fee = some fee) (h₆ : w.args.ethAddress = some ethAddress)
    (h₇ : w.args.group2 = some group2) :
    w.getPubdata = .ok ((leBits 8 txType.val).reverse ++ (leBits 32 address.val).reverse ++
      (leBits 32 token.val).reverse ++ (leBits 128 amount.val).reverse ++
      (leBits 16 fee.val).reverse ++ (leBits 160 ethAddress.val).reverse ++
      (leBits 16 group2.val).reverse ++ List.replicate 88 false) := by
  simp [getPubdata, h₁, h₂, h₃, h₄, h₅, h₆, h₇, appendBeFixedWidth_eq, resizeGrowOnly,
    ChangeGroupOp.resize_of_length_le,
    txTypeBitWidth, accountIdBitWidth, tokenBitWidth, balanceBitWidth, feeMantissaBitWidth,
    feeExponentBitWidth, ethAddressBitWidth, groupLen, ChangeGroupOp.CHUNKS, chunkBitWidth,
    chunkBytes]

/-- The fee's field element carries the bits `pack_fee_amount` packs from the same float. -/
lemma leBits_feeEncoded {n : ℕ} {float : ℕ × ℕ}
    (hf : toFloat feeExponentBitWidth feeMantissaBitWidth n = .ok float) :
    leBits 16 (leBitVectorIntoFieldElement
        (leBits feeExponentBitWidth float.1 ++ leBits feeMantissaBitWidth float.2)).val =
      leBits 16 (encodeFloat feeExponentBitWidth float) := by
  have he := toFloat_exponent_lt hf
  simp only [feeExponentBitWidth, feeMantissaBitWidth] at he ⊢
  have hlt : float.1 % 2 ^ 5 + 2 ^ 5 * (float.2 % 2 ^ 11) < frModulus := by
    unfold frModulus
    omega
  rw [leBitVectorIntoFieldElement_eq, bitsValue_append, bitsValue_leBits, bitsValue_leBits,
    length_leBits, ZMod.val_natCast_of_lt hlt, ← leBits_mod_two_pow 16,
    ← leBits_mod_two_pow 16 (encodeFloat 5 float), encodeFloat]
  congr 1
  omega

/-- On a tree of the configured depth, `apply_tx` returns whenever `get_public_data` does, and
the bits of its `get_pubdata` are the pubdata's bytes, each most significant bit first. -/
lemma getPubdata_applyTx (op : ChangeGroupOp) {tree : CircuitAccountTree} {data : List UInt8}
    (hcap : tree.capacity = 2 ^ accountTreeDepth) (hdata : op.getPublicData = .ok data) :
    ∃ w, applyTx hasher op tree = .ok w (tree.insert op.accountId
        (changeGroupLeaf (tree.leaf op.accountId) op.tx.token op.tx.amount op.tx.fee)) ∧
      w.getPubdata = .ok (bytesIntoBeBits data) := by
  obtain ⟨hamount, fee, hpack, rfl⟩ := ChangeGroupOp.getPublicData_eq_ok hdata
  obtain ⟨hfeeMax, float, hfloat, rfl⟩ := packFeeAmount_eq_ok hpack
  obtain ⟨w, hw, h₁, h₂, h₃, h₄, h₅, h₆, h₇⟩ :=
    applyTx_ok hasher op hcap hamount hfeeMax (toFloatBits_of_ok hfloat)
  refine ⟨w, hw, ?_⟩
  have hu32 (x : U32) : (x : ℕ) ≤ u128Max := by unfold u128Max; omega
  have hu16 (x : U16) : (x : ℕ) ≤ u128Max := by unfold u128Max; omega
  have haddr : fromBeBytes op.tx.to.bytes < frModulus := by
    have := fromBeBytes_lt op.tx.to.bytes
    rw [op.tx.to.length_bytes] at this
    unfold frModulus
    omega
  rw [getPubdata_eq h₁ h₂ h₃ h₄ h₅ h₆ h₇, val_frFrom (lt_frModulus (hu32 _)),
    val_frFrom (lt_frModulus (hu32 _)), val_frFrom (lt_frModulus hamount),
    val_frFrom (lt_frModulus (hu16 _)), leBits_feeEncoded hfloat, ethAddressToFr,
    ZMod.val_natCast_of_lt haddr, val_frFrom (by decide)]
  simp only [bytesIntoBeBits_append, bytesIntoBeBits_toBeBytes, bytesIntoBeBits_eq op.tx.to.bytes,
    op.tx.to.length_bytes, List.append_assoc]
  rfl

/-- On a tree of the configured depth, `apply_tx` returns exactly when `get_public_data` does:
both need a `u128` amount and a fee no larger than the largest fee float. -/
theorem applyTx_returns_iff_getPublicData (op : ChangeGroupOp) {tree : CircuitAccountTree}
    (hcap : tree.capacity = 2 ^ accountTreeDepth) :
    (∃ w tree', applyTx hasher op tree = .ok w tree') ↔ ∃ data, op.getPublicData = .ok data := by
  constructor
  · rintro ⟨w, tree', h⟩
    have hu128 : op.tx.amount ≤ u128Max ∧ op.tx.fee ≤ u128Max := by
      by_contra hu
      rw [applyTx_panic_of_u128 hasher op tree (by omega)] at h
      cases h
    have hfloat : op.tx.fee ≤ (2 ^ feeMantissaBitWidth - 1) * 10 ^ (2 ^ feeExponentBitWidth - 1) := by
      by_contra hf
      rw [applyTx_panic_of_fee hasher op hcap hu128.1 hu128.2 (Nat.lt_of_not_le hf)] at h
      cases h
    obtain ⟨fee, hfee⟩ := packFeeAmount_isOk hu128.2 hfloat
    exact ⟨_, ChangeGroupOp.getPublicData_eq hu128.1 hfee⟩
  · rintro ⟨data, hdata⟩
    obtain ⟨w, hw, -⟩ := getPubdata_applyTx hasher op hcap hdata
    exact ⟨w, _, hw⟩

theorem applyTx_returns_iff_getPublicData_sample :
    let hasher : MerkleHasher := ⟨fun _ => 0, fun _ _ _ => ([], [])⟩
    let tree : CircuitAccountTree := ⟨accountTreeDepth, fun _ => none⟩
    let op : ChangeGroupOp :=
      ⟨⟨3, H160.zero, H160.zero, 5, 40, u128Max, 1, 9, 7, default, .notCached, false, none⟩, 3⟩
    tree.capacity = 2 ^ accountTreeDepth ∧
      ((∃ w tree', applyTx hasher op tree = .ok w tree') ↔ ∃ data, op.getPublicData = .ok data) :=
  ⟨rfl, applyTx_returns_iff_getPublicData _ _ (by exact rfl)⟩

/-- On a tree of the configured depth and an op whose `get_public_data` returns,
`calculate_operations` returns one operation per chunk: the `i`-th carries the number `i` and the
`i`-th `CHUNK_BYTES` bytes of the pubdata, as the little-endian field element of their
big-endian bits, and reads the branch before the update for `i = 0` and after it otherwise. -/
theorem calculateOperations_pubdataChunks (op : ChangeGroupOp) {tree : CircuitAccountTree}
    {data : List UInt8} (hcap : tree.capacity = 2 ^ accountTreeDepth)
    (hdata : op.getPublicData = .ok data) (input : SigDataInput) :
    ∃ w tree' ops, applyTx hasher op tree = .ok w tree' ∧ w.calculateOperations input = .ok ops ∧
      ops.length = ChangeGroupOp.CHUNKS ∧
      ∀ i (hi : i < ops.length), ops[i].chunk = some (frFrom i) ∧
        ops[i].pubdataChunk = some (leBitVectorIntoFieldElement
          (bytesIntoBeBits ((data.drop (i * chunkBytes)).take chunkBytes))) ∧
        ops[i].lhs = (if i = 0 then w.before else w.after) ∧ ops[i].rhs = ops[i].lhs := by
  obtain ⟨w, hw, hpub⟩ := getPubdata_applyTx hasher op hcap hdata
  have hlen : data.length = ChangeGroupOp.CHUNKS * chunkBytes := by
    obtain ⟨-, fee, hfee, rfl⟩ := ChangeGroupOp.getPublicData_eq_ok hdata
    simp [packFeeAmount_length hfee, op.tx.to.length_bytes, ChangeGroupOp.CHUNKS, chunkBytes]
  set chunk : ℕ → Fr := fun i =>
    leBitVectorIntoFieldElement (bytesIntoBeBits ((data.drop (i * chunkBytes)).take chunkBytes))
  have hchunks : (chunks (bytesIntoBeBits data) chunkBitWidth).map leBitVectorIntoFieldElement =
      (List.range ChangeGroupOp.CHUNKS).map chunk := by
    rw [chunks_eq (k := ChangeGroupOp.CHUNKS) (by decide)
      (by rw [length_bytesIntoBeBits, hlen]; rfl), List.map_map]
    congr 1
    funext i
    simp only [Function.comp_apply, chunk]
    rw [bytesIntoBeBits_take, bytesIntoBeBits_drop, chunkBitWidth,
      Nat.mul_comm 8 chunkBytes, show 8 * (i * chunkBytes) = i * (chunkBytes * 8) by ring]
  have hindex (i : ℕ) (hi : i < ChangeGroupOp.CHUNKS) :
      index ((List.range ChangeGroupOp.CHUNKS).map chunk) i = .ok (chunk i) := by
    rw [index_eq_ok (by simpa using hi), List.getElem_map, List.getElem_range]
  have hcalc : w.calculateOperations input = .ok (w.operation input 0 (chunk 0) w.before ::
      (List.range' 1 (ChangeGroupOp.CHUNKS - 1)).map fun i => w.operation input i (chunk i) w.after) := by
    simp only [calculateOperations, hpub, Run.ok_bind, hchunks, hindex 0 (by decide)]
    rw [Run.mapM_eq_ok _ fun i hi => by
      rw [hindex i (by simp [List.mem_range'] at hi; omega)]; rfl]
    rfl
  refine ⟨w, _, _, hw, hcalc, by simp [ChangeGroupOp.CHUNKS], ?_⟩
  rintro (_ | i) hi
  · exact ⟨rfl, rfl, rfl, rfl⟩
  · simp only [List.getElem_cons_succ, List.getElem_map, List.getElem_range']
    refine ⟨by simp [operation, Nat.add_comm], by simp [operation, chunk, Nat.add_comm], ?_, rfl⟩
    simp [operation]

theorem calculateOperations_pubdataChunks_sample :
    let hasher : MerkleHasher := ⟨fun _ => 0, fun _ _ _ => ([], [])⟩
    let tree : CircuitAccountTree := ⟨accountTreeDepth, fun _ => none⟩
    let op : ChangeGroupOp :=
      ⟨⟨3, H160.zero, H160.zero, 5, 40, 2047, 1, 9, 7, default, .notCached, false, none⟩, 3⟩
    let input : SigDataInput := ⟨0, 0, 0, ⟨[], []⟩, []⟩
    tree.capacity = 2 ^ accountTreeDepth ∧ ∃ data, op.getPublicData = .ok data ∧
      ∃ w tree' ops, applyTx hasher op tree = .ok w tree' ∧
        w.calculateOperations input = .ok ops ∧ ops.length = ChangeGroupOp.CHUNKS ∧
        ∀ i (hi : i < ops.length), ops[i].chunk = some (frFrom i) ∧
          ops[i].pubdataChunk = some (leBitVectorIntoFieldElement
            (bytesIntoBeBits ((data.drop (i * chunkBytes)).take chunkBytes))) ∧
          ops[i].lhs = (if i = 0 then w.before else w.after) ∧ ops[i].rhs = ops[i].lhs :=
  ⟨rfl, _, rfl, calculateOperations_pubdataChunks _ _ (by exact rfl) (by exact rfl) _⟩

/-- Below `u32::MAX` the field's `n + 1` is the value of the `u32` increment. -/
lemma natCast_add_one_of_ne {n : U32} (h : n ≠ 4294967295) :
    ((n : ℕ) : Fr) + 1 = ((n + 1 : U32) : ℕ) := by
  have hlt : (n : ℕ) + 1 < 4294967296 := by
    have hne : (n : ℕ) ≠ 4294967295 := fun hn => h (Fin.ext hn)
    omega
  rw [Fin.val_add_one_of_lt (by rw [Fin.lt_iff_val_lt_val, Fin.val_last]; omega)]
  simp

end ChangeGroupWitness

open ChangeGroupWitness

end ModularRollup.Witness
