import ModularRollup.TxEncoding

/-! `ChangeGroupOp`, a verified `ChangeGroup` with the id of the account it debits, and its
pubdata: the fixed layout the block commitment carries and the circuit reproduces. -/
namespace ModularRollup.Operations
open Primitives AmountCodec TxCommon ChangeGroupTx

/-- `Vec::resize`: pads with `value` up to `n`, or truncates to `n`. -/
def resize {α : Type} (v : List α) (n : ℕ) (value : α) : List α :=
  v.take n ++ List.replicate (n - v.length) value

/-- `&bytes[start..stop]`, which panics outside the slice. -/
def slice (bytes : List UInt8) (start stop : ℕ) : Run Empty (List UInt8) :=
  if start ≤ stop ∧ stop ≤ bytes.length then pure ((bytes.drop start).take (stop - start))
  else .panic "range end index out of range for slice"

/-- Modelled from the spec: `FromBytes::from_bytes` for the unsigned integers, the big-endian
value of exactly `width` bytes. -/
def fromBytes (width : ℕ) (bytes : List UInt8) : Option ℕ :=
  if bytes.length = width then some (fromBeBytes bytes) else none

/-- `H160::from_slice`, which asserts a length of 20. -/
def H160.fromSlice (bytes : List UInt8) : Run Empty H160 :=
  if h : bytes.length = 20 then pure ⟨bytes, h⟩
  else .panic "assertion `left == right` failed"

inductive ChangeGroupOpError
  | pubdataSizeMismatch
  | cannotGetAccountId
  | cannotGetTokenId
  | cannotGetAmount
  | cannotGetFee
  | cannotGetGroupId
  deriving DecidableEq, Repr

structure ChangeGroupOp where
  tx : ChangeGroup
  accountId : AccountId

namespace ChangeGroupOp

def CHUNKS : ℕ := 6
def OP_CODE : UInt8 := 0x0c
def WITHDRAW_DATA_PREFIX : List UInt8 := [1]

def getPublicData (op : ChangeGroupOp) : Run Empty (List UInt8) := do
  let amount ← if op.tx.amount ≤ u128Max then pure (toBeBytes 16 op.tx.amount)
    else .panic Run.unwrapNone
  let fee ← packFeeAmount op.tx.fee
  pure (resize ([OP_CODE] ++ toBeBytes 4 op.accountId ++ toBeBytes 4 op.tx.token ++ amount ++
    fee ++ op.tx.to.bytes ++ toBeBytes 2 op.tx.group2) (CHUNKS * chunkBytes) 0)

def getWithdrawalData (op : ChangeGroupOp) : Run Empty (List UInt8) := do
  let amount ← if op.tx.amount ≤ u128Max then pure (toBeBytes 16 op.tx.amount)
    else .panic Run.unwrapNone
  pure (WITHDRAW_DATA_PREFIX ++ op.tx.to.bytes ++ toBeBytes 4 op.tx.token ++ amount ++
    toBeBytes 2 op.tx.group1 ++ toBeBytes 2 op.tx.group2)

variable (crypto : Crypto)

def parsePubData (bytes : List UInt8) (tokenBitWidth chunkBytes : ℕ) :
    Run ChangeGroupOpError ChangeGroupOp := do
  if bytes.length ≠ CHUNKS * chunkBytes then .err .pubdataSizeMismatch else
  let accountOffset := 1
  let tokenIdOffset := accountOffset + accountIdBitWidth / 8
  let amountOffset := tokenIdOffset + tokenBitWidth / 8
  let feeOffset := amountOffset + balanceBitWidth / 8
  let ethAddressOffset := feeOffset + (feeExponentBitWidth + feeMantissaBitWidth) / 8
  let groupOffset := ethAddressOffset + ethAddressBitWidth / 8
  let accountId ← .ofOption .cannotGetAccountId <| fromBytes 4
    (← slice bytes accountOffset (accountOffset + accountIdBitWidth / 8))
  let «from» := H160.zero
  let token ← .ofOption .cannotGetTokenId <| fromBytes 4
    (← slice bytes tokenIdOffset (tokenIdOffset + tokenBitWidth / 8))
  let «to» ← H160.fromSlice
    (← slice bytes ethAddressOffset (ethAddressOffset + ethAddressBitWidth / 8))
  let amount ← .ofOption .cannotGetAmount <| fromBytes 16
    (← slice bytes amountOffset (amountOffset + balanceBitWidth / 8))
  let fee ← .ofOption .cannotGetFee <| unpackFeeAmount
    (← slice bytes feeOffset (feeOffset + (feeExponentBitWidth + feeMantissaBitWidth) / 8))
  let group2 ← .ofOption .cannotGetGroupId <| fromBytes 2
    (← slice bytes groupOffset (groupOffset + groupLen))
  let tx ← ChangeGroup.new crypto (Fin.ofNat accountId) «from» «to» (Fin.ofNat token) amount fee
    0 (Fin.ofNat group2) 0 default none
  pure ⟨tx, Fin.ofNat accountId⟩

def fromPublicData (bytes : List UInt8) : Run ChangeGroupOpError ChangeGroupOp :=
  parsePubData crypto bytes tokenBitWidth chunkBytes

def fromLegacyPublicData (bytes : List UInt8) : Run ChangeGroupOpError ChangeGroupOp :=
  parsePubData crypto bytes legacyTokenBitWidth legacyChunkBytes

def getUpdatedAccountIds (op : ChangeGroupOp) : List AccountId := [op.accountId]

lemma resize_of_length_le {α : Type} {v : List α} {n : ℕ} (x : α) (h : v.length ≤ n) :
    resize v n x = v ++ List.replicate (n - v.length) x := by
  simp [resize, List.take_of_length_le h]

/-- What decoding `op`'s pubdata gives: the fields the pubdata carries, and the defaults of
`ChangeGroup::new` for the others. -/
def decoded (op : ChangeGroupOp) : ChangeGroupOp :=
  ⟨⟨op.accountId, H160.zero, op.tx.to, op.tx.token, op.tx.amount, op.tx.fee, 0, op.tx.group2, 0,
    default, .notCached, false, some default⟩, op.accountId⟩

lemma getPublicData_eq {op : ChangeGroupOp} {fee : List UInt8} (hamount : op.tx.amount ≤ u128Max)
    (hfee : packFeeAmount op.tx.fee = .ok fee) :
    op.getPublicData = .ok ([OP_CODE] ++ toBeBytes 4 op.accountId ++ toBeBytes 4 op.tx.token ++
      toBeBytes 16 op.tx.amount ++ fee ++ op.tx.to.bytes ++ toBeBytes 2 op.tx.group2 ++
      List.replicate 11 0) := by
  have hl := packFeeAmount_length hfee
  simp only [getPublicData, hamount, if_true, hfee, Run.pure_eq, Run.ok_bind]
  rw [resize_of_length_le _ (by simp [hl, op.tx.to.length_bytes, CHUNKS, chunkBytes])]
  simp [hl, op.tx.to.length_bytes, CHUNKS, chunkBytes]

/-- `get_public_data` returns only for a `u128` amount and a fee `pack_fee_amount` packs, and
then it is the layout of `getPublicData_eq`. -/
lemma getPublicData_eq_ok {op : ChangeGroupOp} {data : List UInt8} (h : op.getPublicData = .ok data) :
    op.tx.amount ≤ u128Max ∧ ∃ fee, packFeeAmount op.tx.fee = .ok fee ∧
      data = [OP_CODE] ++ toBeBytes 4 op.accountId ++ toBeBytes 4 op.tx.token ++
        toBeBytes 16 op.tx.amount ++ fee ++ op.tx.to.bytes ++ toBeBytes 2 op.tx.group2 ++
        List.replicate 11 0 := by
  by_cases hamount : op.tx.amount ≤ u128Max
  · rcases hfee : packFeeAmount op.tx.fee with fee | e | m
    · rw [getPublicData_eq hamount hfee] at h
      cases h
      exact ⟨hamount, fee, rfl, rfl⟩
    · exact e.elim
    · simp [getPublicData, hamount, hfee] at h
  · simp [getPublicData, hamount] at h

lemma fromPublicData_eq {op : ChangeGroupOp} {fee : List UInt8} (hamount : op.tx.amount ≤ u128Max)
    (hl : fee.length = 2) (hfee : unpackFeeAmount fee = some op.tx.fee) :
    fromPublicData crypto ([OP_CODE] ++ toBeBytes 4 op.accountId ++ toBeBytes 4 op.tx.token ++
      toBeBytes 16 op.tx.amount ++ fee ++ op.tx.to.bytes ++ toBeBytes 2 op.tx.group2 ++
      List.replicate 11 0) = .ok op.decoded := by
  have ha : op.tx.amount < 256 ^ 16 := by simp only [u128Max] at hamount; omega
  have hid : (op.accountId : ℕ) < 256 ^ 4 := op.accountId.isLt
  have htok : (op.tx.token : ℕ) < 256 ^ 4 := op.tx.token.isLt
  have hg : (op.tx.group2 : ℕ) < 256 ^ 2 := op.tx.group2.isLt
  simp [fromPublicData, parsePubData, slice, fromBytes, H160.fromSlice, hl, op.tx.to.length_bytes,
    List.drop_append_eq_append_drop, List.take_append_eq_append_take, List.drop_eq_nil_of_le,
    fromBeBytes_toBeBytes_of_lt ha, fromBeBytes_toBeBytes_of_lt hid,
    fromBeBytes_toBeBytes_of_lt htok, fromBeBytes_toBeBytes_of_lt hg, hfee, ChangeGroup.new, CHUNKS, chunkBytes,
    accountIdBitWidth, tokenBitWidth, balanceBitWidth, feeExponentBitWidth, feeMantissaBitWidth,
    ethAddressBitWidth, groupLen, Run.ofOption, decoded]

/-- The pubdata of an op with a `u128` amount and a packable fee has the fixed size, the field
layout of the spec with zeros after `group2`, and decodes to the fields it carries. -/
theorem fromPublicData_getPublicData (op : ChangeGroupOp) (hamount : op.tx.amount ≤ u128Max)
    (hfee : isFeeAmountPackable op.tx.fee = true) :
    ∃ data, op.getPublicData = .ok data ∧ data.length = CHUNKS * chunkBytes ∧
      (∃ fee, packFeeAmount op.tx.fee = .ok fee ∧
        data = [OP_CODE] ++ toBeBytes 4 op.accountId ++ toBeBytes 4 op.tx.token ++
          toBeBytes 16 op.tx.amount ++ fee ++ op.tx.to.bytes ++ toBeBytes 2 op.tx.group2 ++
          List.replicate 11 0) ∧
      ∃ op', fromPublicData crypto data = .ok op' ∧ op'.accountId = op.accountId ∧
        op'.tx.accountId = op.accountId ∧ op'.tx.token = op.tx.token ∧
        op'.tx.amount = op.tx.amount ∧ op'.tx.fee = op.tx.fee ∧ op'.tx.to = op.tx.to ∧
        op'.tx.group2 = op.tx.group2 := by
  obtain ⟨fee, hpack, hunpack⟩ := isFeeAmountPackable_iff.mp hfee
  have hl := packFeeAmount_length hpack
  refine ⟨_, getPublicData_eq hamount hpack, ?_, ⟨fee, hpack, rfl⟩, op.decoded,
    fromPublicData_eq crypto hamount hl hunpack, rfl, rfl, rfl, rfl, rfl, rfl, rfl⟩
  simp [hl, op.tx.to.length_bytes, CHUNKS, chunkBytes]

theorem fromPublicData_getPublicData_sample :
    let crypto : Crypto := ⟨fun _ _ => none, fun _ => default, fun _ _ => none⟩
    let op : ChangeGroupOp :=
      ⟨⟨3, H160.zero, H160.zero, 5, 1000, 2047, 1, 9, 4, default, .notCached, false, none⟩, 3⟩
    op.tx.amount ≤ u128Max ∧ isFeeAmountPackable op.tx.fee = true ∧
    ∃ data, op.getPublicData = .ok data ∧ data.length = CHUNKS * chunkBytes ∧
      (∃ fee, packFeeAmount op.tx.fee = .ok fee ∧
        data = [OP_CODE] ++ toBeBytes 4 op.accountId ++ toBeBytes 4 op.tx.token ++
          toBeBytes 16 op.tx.amount ++ fee ++ op.tx.to.bytes ++ toBeBytes 2 op.tx.group2 ++
          List.replicate 11 0) ∧
      ∃ op', fromPublicData crypto data = .ok op' ∧ op'.accountId = op.accountId ∧
        op'.tx.accountId = op.accountId ∧ op'.tx.token = op.tx.token ∧
        op'.tx.amount = op.tx.amount ∧ op'.tx.fee = op.tx.fee ∧ op'.tx.to = op.tx.to ∧
        op'.tx.group2 = op.tx.group2 :=
  ⟨by decide, by decide, fromPublicData_getPublicData _ _ (by decide) (by decide)⟩

/-! ## The withdrawal record -/

section Withdrawal
open TxEncoding

/-- `get_withdrawal_data` returns only for a `u128` amount, and then it is the prefix, the
recipient, the token, the amount and the two groups. -/
lemma getWithdrawalData_eq_ok {op : ChangeGroupOp} {data : List UInt8}
    (h : op.getWithdrawalData = .ok data) :
    op.tx.amount ≤ u128Max ∧ data = WITHDRAW_DATA_PREFIX ++ op.tx.to.bytes ++
      toBeBytes 4 op.tx.token ++ toBeBytes 16 op.tx.amount ++ toBeBytes 2 op.tx.group1 ++
      toBeBytes 2 op.tx.group2 := by
  by_cases hamount : op.tx.amount ≤ u128Max
  · simp only [getWithdrawalData, if_pos hamount, Run.pure_eq, Run.ok_bind] at h
    exact ⟨hamount, (Run.ok.inj h).symm⟩
  · simp [getWithdrawalData, hamount] at h

/-- Two ops with the same withdrawal record agree on every field it holds. -/
lemma getWithdrawalData_inj {op₁ op₂ : ChangeGroupOp} {data : List UInt8}
    (h₁ : op₁.getWithdrawalData = .ok data) (h₂ : op₂.getWithdrawalData = .ok data) :
    op₁.tx.to = op₂.tx.to ∧ op₁.tx.token = op₂.tx.token ∧ op₁.tx.amount = op₂.tx.amount ∧
      op₁.tx.group1 = op₂.tx.group1 ∧ op₁.tx.group2 = op₂.tx.group2 := by
  obtain ⟨ha₁, rfl⟩ := getWithdrawalData_eq_ok h₁
  obtain ⟨ha₂, h⟩ := getWithdrawalData_eq_ok h₂
  obtain ⟨h, hgroup2⟩ := append_toBeBytes_fin_inj u16_le h
  obtain ⟨h, hgroup1⟩ := append_toBeBytes_fin_inj u16_le h
  obtain ⟨h, hamount⟩ := List.append_inj' h (by simp)
  obtain ⟨h, htoken⟩ := append_toBeBytes_fin_inj u32_le h
  obtain ⟨-, hto⟩ := append_H160_inj h
  exact ⟨hto, htoken, toBeBytes_inj (amount_lt_of_le_u128Max ha₁) (amount_lt_of_le_u128Max ha₂)
    hamount, hgroup1, hgroup2⟩

/-- What the two records of an op bind. The withdrawal record is 45 bytes naming the recipient,
the token, the amount and both groups, and ops with the same record agree on all five. The
pubdata, which the circuit reproduces, names no `group1`: an op that differs only there has the
same pubdata and another withdrawal record. -/
theorem getWithdrawalData_binds :
    (∀ (op₁ op₂ : ChangeGroupOp) (data : List UInt8), op₁.getWithdrawalData = .ok data →
      op₂.getWithdrawalData = .ok data →
      data.length = 45 ∧ op₁.tx.to = op₂.tx.to ∧ op₁.tx.token = op₂.tx.token ∧
        op₁.tx.amount = op₂.tx.amount ∧ op₁.tx.group1 = op₂.tx.group1 ∧
        op₁.tx.group2 = op₂.tx.group2) ∧
    ∀ (op : ChangeGroupOp) (group1 : U16), op.tx.amount ≤ u128Max → group1 ≠ op.tx.group1 →
      let op' : ChangeGroupOp := { op with tx := { op.tx with group1 := group1 } }
      op'.getPublicData = op.getPublicData ∧ op'.getWithdrawalData ≠ op.getWithdrawalData := by
  refine ⟨fun op₁ op₂ data h₁ h₂ => ⟨?_, getWithdrawalData_inj h₁ h₂⟩,
    fun op group1 hamount hne => ⟨rfl, fun h => hne ?_⟩⟩
  · obtain ⟨-, rfl⟩ := getWithdrawalData_eq_ok h₁
    simp [WITHDRAW_DATA_PREFIX, H160.length_bytes]
  · obtain ⟨data, hok⟩ : ∃ data, op.getWithdrawalData = .ok data :=
      ⟨_, by simp only [getWithdrawalData, if_pos hamount, Run.pure_eq, Run.ok_bind]; rfl⟩
    exact (getWithdrawalData_inj (h.trans hok) hok).2.2.2.1

/-- An op out of group 1 into group 9, and the same op out of group 2: one pubdata, two
withdrawal records. -/
theorem getWithdrawalData_binds_sample :
    let op : ChangeGroupOp :=
      ⟨⟨3, H160.zero, H160.zero, 5, 1000, 2047, 1, 9, 4, default, .notCached, false, none⟩, 3⟩
    op.tx.amount ≤ u128Max ∧ (2 : U16) ≠ op.tx.group1 ∧
      let op' : ChangeGroupOp := { op with tx := { op.tx with group1 := 2 } }
      op'.getPublicData = op.getPublicData ∧ op'.getWithdrawalData ≠ op.getWithdrawalData :=
  ⟨by decide, by decide, getWithdrawalData_binds.2 _ 2 (by decide) (by decide)⟩

end Withdrawal

end ChangeGroupOp

end ModularRollup.Operations
