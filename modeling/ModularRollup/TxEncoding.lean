import Mathlib.Tactic.NormNum
import ModularRollup.Transactions

/-! The bytes that `ChangeGroup`, `Transfer` and `MintNFT` sign. Every field of their
`get_bytes` has a fixed width, except `ChangeGroup`'s optional time range, which is the
whole tail, and the packed amounts, which the packability checks of `check_correctness` make
exact. So on the transactions those checks pass, `get_bytes` is injective in every field it
signs, and the type byte that opens it keeps the three kinds apart. -/
namespace ModularRollup.TxEncoding
open Primitives AmountCodec TxCommon ChangeGroupTx Transactions

/-! ## Fields -/

lemma toBeBytes_inj {w m n : ℕ} (hm : m < 256 ^ w) (hn : n < 256 ^ w)
    (h : toBeBytes w m = toBeBytes w n) : m = n := by
  rw [← fromBeBytes_toBeBytes_of_lt hm, h, fromBeBytes_toBeBytes_of_lt hn]

lemma toBeBytes_fin_inj {k w : ℕ} (hk : k ≤ 256 ^ w) {a b : Fin k}
    (h : toBeBytes w a = toBeBytes w b) : a = b :=
  Fin.ext (toBeBytes_inj (a.isLt.trans_le hk) (b.isLt.trans_le hk) h)

/-- Peels a big-endian `Fin k` field, `k ≤ 256 ^ w`, off the end of two equal byte strings. -/
lemma append_toBeBytes_fin_inj {p q : List UInt8} {k w : ℕ} (hk : k ≤ 256 ^ w) {a b : Fin k}
    (h : p ++ toBeBytes w a = q ++ toBeBytes w b) : p = q ∧ a = b := by
  obtain ⟨hp, hab⟩ := List.append_inj' h (by simp)
  exact ⟨hp, toBeBytes_fin_inj hk hab⟩

lemma append_H160_inj {p q : List UInt8} {a b : H160} (h : p ++ a.bytes = q ++ b.bytes) :
    p = q ∧ a = b := by
  obtain ⟨hp, hab⟩ := List.append_inj' h (a.length_bytes.trans b.length_bytes.symm)
  exact ⟨hp, H160.ext_bytes hab⟩

lemma append_H256_inj {p q : List UInt8} {a b : H256} (h : p ++ a.bytes = q ++ b.bytes) :
    p = q ∧ a = b := by
  obtain ⟨hp, hab⟩ := List.append_inj' h (a.length_bytes.trans b.length_bytes.symm)
  exact ⟨hp, H256.ext_bytes hab⟩

lemma u64_le : 18446744073709551616 ≤ 256 ^ 8 := by norm_num
lemma u32_le : 4294967296 ≤ 256 ^ 4 := by norm_num
lemma u16_le : 65536 ≤ 256 ^ 2 := by norm_num

lemma asBeBytes_inj {r r' : TimeRange} (h : r.asBeBytes = r'.asBeBytes) : r = r' := by
  obtain ⟨hfrom, huntil⟩ := append_toBeBytes_fin_inj u64_le h
  cases r
  cases r'
  rw [TimeRange.mk.injEq]
  exact ⟨toBeBytes_fin_inj u64_le hfrom, huntil⟩

@[simp] lemma length_asBeBytes (r : TimeRange) : r.asBeBytes.length = 16 := by
  simp [TimeRange.asBeBytes]

/-- `ChangeGroup` signs its time range only when it has one: no bytes for none, sixteen for a
window, so the length tells the two apart. -/
lemma optionAsBeBytes_inj {o o' : Option TimeRange}
    (h : (o.map TimeRange.asBeBytes).getD [] = (o'.map TimeRange.asBeBytes).getD []) :
    o = o' := by
  rcases o with _ | r <;> rcases o' with _ | r' <;>
    simp only [Option.map_none', Option.map_some', Option.getD_none, Option.getD_some] at h
  · rfl
  · exact absurd (congrArg List.length h) (by simp)
  · exact absurd (congrArg List.length h) (by simp)
  · rw [asBeBytes_inj h]

lemma amount_lt_of_le_u128Max {n : ℕ} (h : n ≤ u128Max) : n < 256 ^ 16 :=
  h.trans_lt (by norm_num [u128Max])

/-! ## Layouts -/

namespace ChangeGroup

lemma getBytes_eq {tx : ChangeGroup} {fee : List UInt8} (hamount : tx.amount ≤ u128Max)
    (hfee : packFeeAmount tx.fee = .ok fee) :
    tx.getBytes = .ok ([255 - ChangeGroup.TX_TYPE] ++ toBeBytes 4 tx.accountId ++
      tx.from.bytes ++ tx.to.bytes ++ toBeBytes 4 tx.token ++ toBeBytes 16 tx.amount ++ fee ++
      toBeBytes 2 tx.group1 ++ toBeBytes 2 tx.group2 ++ toBeBytes 4 tx.nonce ++
      (tx.timeRange.map TimeRange.asBeBytes).getD []) := by
  simp only [ChangeGroup.getBytes, if_pos hamount, Run.pure_eq, Run.ok_bind, hfee]

/-- The signed fields of two checked `ChangeGroup`s with the same bytes are equal. -/
lemma getBytes_inj {t₁ t₂ : ChangeGroup} (ha₁ : t₁.amount ≤ u128Max)
    (hf₁ : isFeeAmountPackable t₁.fee) (ha₂ : t₂.amount ≤ u128Max)
    (hf₂ : isFeeAmountPackable t₂.fee) (h : t₁.getBytes = t₂.getBytes) :
    t₁.accountId = t₂.accountId ∧ t₁.from = t₂.from ∧ t₁.to = t₂.to ∧ t₁.token = t₂.token ∧
      t₁.amount = t₂.amount ∧ t₁.fee = t₂.fee ∧ t₁.group1 = t₂.group1 ∧
      t₁.group2 = t₂.group2 ∧ t₁.nonce = t₂.nonce ∧ t₁.timeRange = t₂.timeRange := by
  obtain ⟨fee₁, hfee₁, -⟩ := isFeeAmountPackable_iff.mp hf₁
  obtain ⟨fee₂, hfee₂, -⟩ := isFeeAmountPackable_iff.mp hf₂
  rw [getBytes_eq ha₁ hfee₁, getBytes_eq ha₂ hfee₂, Run.ok.injEq] at h
  have hlen := (packFeeAmount_length hfee₁).trans (packFeeAmount_length hfee₂).symm
  obtain ⟨h, htime⟩ := List.append_inj h (by simp [hlen, H160.length_bytes])
  obtain ⟨h, hnonce⟩ := append_toBeBytes_fin_inj u32_le h
  obtain ⟨h, hgroup2⟩ := append_toBeBytes_fin_inj u16_le h
  obtain ⟨h, hgroup1⟩ := append_toBeBytes_fin_inj u16_le h
  obtain ⟨h, hfee⟩ := List.append_inj' h hlen
  obtain ⟨h, hamount⟩ := List.append_inj' h (by simp)
  obtain ⟨h, htoken⟩ := append_toBeBytes_fin_inj u32_le h
  obtain ⟨h, hto⟩ := append_H160_inj h
  obtain ⟨h, hfrom⟩ := append_H160_inj h
  obtain ⟨-, hid⟩ := append_toBeBytes_fin_inj u32_le h
  exact ⟨hid, hfrom, hto, htoken,
    toBeBytes_inj (amount_lt_of_le_u128Max ha₁) (amount_lt_of_le_u128Max ha₂) hamount,
    packFeeAmount_inj hf₁ hf₂ hfee₁ (hfee ▸ hfee₂), hgroup1, hgroup2, hnonce,
    optionAsBeBytes_inj htime⟩

/-- Whatever it signs, `ChangeGroup` opens with its type byte. -/
lemma head_getBytes {tx : ChangeGroup} {b : List UInt8} (h : tx.getBytes = .ok b) :
    b.head? = some (255 - ChangeGroup.TX_TYPE) := by
  unfold ChangeGroup.getBytes at h
  dsimp only at h
  repeat' (first | (replace h := Run.bind_eq_ok.mp h; obtain ⟨_, _, h⟩ := h) | split at h)
  all_goals cases h; rfl

end ChangeGroup

namespace Transfer

lemma getBytes_eq {tx : Transfer} {amount fee : List UInt8}
    (hamount : packTokenAmount tx.amount = .ok amount) (hfee : packFeeAmount tx.fee = .ok fee) :
    tx.getBytes = .ok ([255 - Transfer.TX_TYPE, currentTxVersion] ++ toBeBytes 4 tx.accountId ++
      tx.from.bytes ++ tx.to.bytes ++ toBeBytes 4 tx.token ++ amount ++ fee ++
      toBeBytes 2 tx.group ++ toBeBytes 4 tx.nonce ++ (tx.timeRange.getD default).asBeBytes) := by
  simp only [Transfer.getBytes, Run.pure_eq, Run.ok_bind, hamount, hfee]

/-- The signed fields of two checked `Transfer`s with the same bytes are equal; an absent time
range is signed as the default one. -/
lemma getBytes_inj {t₁ t₂ : Transfer} (ha₁ : isTokenAmountPackable t₁.amount)
    (hf₁ : isFeeAmountPackable t₁.fee) (ha₂ : isTokenAmountPackable t₂.amount)
    (hf₂ : isFeeAmountPackable t₂.fee) (h : t₁.getBytes = t₂.getBytes) :
    t₁.accountId = t₂.accountId ∧ t₁.from = t₂.from ∧ t₁.to = t₂.to ∧ t₁.token = t₂.token ∧
      t₁.amount = t₂.amount ∧ t₁.fee = t₂.fee ∧ t₁.group = t₂.group ∧ t₁.nonce = t₂.nonce ∧
      t₁.timeRange.getD default = t₂.timeRange.getD default := by
  obtain ⟨amount₁, hamount₁, -⟩ := isTokenAmountPackable_iff.mp ha₁
  obtain ⟨amount₂, hamount₂, -⟩ := isTokenAmountPackable_iff.mp ha₂
  obtain ⟨fee₁, hfee₁, -⟩ := isFeeAmountPackable_iff.mp hf₁
  obtain ⟨fee₂, hfee₂, -⟩ := isFeeAmountPackable_iff.mp hf₂
  rw [getBytes_eq hamount₁ hfee₁, getBytes_eq hamount₂ hfee₂, Run.ok.injEq] at h
  obtain ⟨h, htime⟩ := List.append_inj' h (by simp)
  obtain ⟨h, hnonce⟩ := append_toBeBytes_fin_inj u32_le h
  obtain ⟨h, hgroup⟩ := append_toBeBytes_fin_inj u16_le h
  obtain ⟨h, hfee⟩ := List.append_inj' h
    ((packFeeAmount_length hfee₁).trans (packFeeAmount_length hfee₂).symm)
  obtain ⟨h, hamount⟩ := List.append_inj' h
    ((packTokenAmount_length hamount₁).trans (packTokenAmount_length hamount₂).symm)
  obtain ⟨h, htoken⟩ := append_toBeBytes_fin_inj u32_le h
  obtain ⟨h, hto⟩ := append_H160_inj h
  obtain ⟨h, hfrom⟩ := append_H160_inj h
  obtain ⟨-, hid⟩ := append_toBeBytes_fin_inj u32_le h
  exact ⟨hid, hfrom, hto, htoken, packTokenAmount_inj ha₁ ha₂ hamount₁ (hamount ▸ hamount₂),
    packFeeAmount_inj hf₁ hf₂ hfee₁ (hfee ▸ hfee₂), hgroup, hnonce, asBeBytes_inj htime⟩

lemma head_getBytes {tx : Transfer} {b : List UInt8} (h : tx.getBytes = .ok b) :
    b.head? = some (255 - Transfer.TX_TYPE) := by
  unfold Transfer.getBytes at h
  obtain ⟨_, -, h⟩ := Run.bind_eq_ok.mp h
  obtain ⟨_, -, h⟩ := Run.bind_eq_ok.mp h
  cases h
  rfl

end Transfer

namespace MintNFT

lemma getBytes_eq {tx : MintNFT} {fee : List UInt8} (hfee : packFeeAmount tx.fee = .ok fee) :
    tx.getBytes = .ok ([255 - MintNFT.TX_TYPE, currentTxVersion] ++ toBeBytes 4 tx.creatorId ++
      tx.creatorAddress.bytes ++ tx.contentHash.bytes ++ tx.recipient.bytes ++
      toBeBytes 4 tx.feeToken ++ fee ++ toBeBytes 2 tx.group ++ toBeBytes 4 tx.nonce) := by
  simp only [MintNFT.getBytes, Run.pure_eq, Run.ok_bind, hfee]

/-- The signed fields of two checked `MintNFT`s with the same bytes are equal. -/
lemma getBytes_inj {t₁ t₂ : MintNFT} (hf₁ : isFeeAmountPackable t₁.fee)
    (hf₂ : isFeeAmountPackable t₂.fee) (h : t₁.getBytes = t₂.getBytes) :
    t₁.creatorId = t₂.creatorId ∧ t₁.creatorAddress = t₂.creatorAddress ∧
      t₁.contentHash = t₂.contentHash ∧ t₁.recipient = t₂.recipient ∧
      t₁.feeToken = t₂.feeToken ∧ t₁.fee = t₂.fee ∧ t₁.group = t₂.group ∧
      t₁.nonce = t₂.nonce := by
  obtain ⟨fee₁, hfee₁, -⟩ := isFeeAmountPackable_iff.mp hf₁
  obtain ⟨fee₂, hfee₂, -⟩ := isFeeAmountPackable_iff.mp hf₂
  rw [getBytes_eq hfee₁, getBytes_eq hfee₂, Run.ok.injEq] at h
  obtain ⟨h, hnonce⟩ := append_toBeBytes_fin_inj u32_le h
  obtain ⟨h, hgroup⟩ := append_toBeBytes_fin_inj u16_le h
  obtain ⟨h, hfee⟩ := List.append_inj' h
    ((packFeeAmount_length hfee₁).trans (packFeeAmount_length hfee₂).symm)
  obtain ⟨h, hfeeToken⟩ := append_toBeBytes_fin_inj u32_le h
  obtain ⟨h, hrecipient⟩ := append_H160_inj h
  obtain ⟨h, hcontent⟩ := append_H256_inj h
  obtain ⟨h, hcreator⟩ := append_H160_inj h
  obtain ⟨-, hid⟩ := append_toBeBytes_fin_inj u32_le h
  exact ⟨hid, hcreator, hcontent, hrecipient, hfeeToken,
    packFeeAmount_inj hf₁ hf₂ hfee₁ (hfee ▸ hfee₂),
    hgroup, hnonce⟩

lemma head_getBytes {tx : MintNFT} {b : List UInt8} (h : tx.getBytes = .ok b) :
    b.head? = some (255 - MintNFT.TX_TYPE) := by
  unfold MintNFT.getBytes at h
  obtain ⟨_, -, h⟩ := Run.bind_eq_ok.mp h
  cases h
  rfl

end MintNFT

/-! ## The three kinds -/

/-- On transactions whose amounts pass the checks of their kind's `check_correctness`,
`get_bytes` determines every field it signs, and no bytes of one kind are bytes of another. -/
theorem getBytes_binds_signed_fields :
    (∀ t₁ t₂ : ChangeGroup, t₁.amount ≤ u128Max → isFeeAmountPackable t₁.fee →
      t₂.amount ≤ u128Max → isFeeAmountPackable t₂.fee → t₁.getBytes = t₂.getBytes →
      t₁.accountId = t₂.accountId ∧ t₁.from = t₂.from ∧ t₁.to = t₂.to ∧ t₁.token = t₂.token ∧
        t₁.amount = t₂.amount ∧ t₁.fee = t₂.fee ∧ t₁.group1 = t₂.group1 ∧
        t₁.group2 = t₂.group2 ∧ t₁.nonce = t₂.nonce ∧ t₁.timeRange = t₂.timeRange) ∧
    (∀ t₁ t₂ : Transfer, isTokenAmountPackable t₁.amount → isFeeAmountPackable t₁.fee →
      isTokenAmountPackable t₂.amount → isFeeAmountPackable t₂.fee →
      t₁.getBytes = t₂.getBytes →
      t₁.accountId = t₂.accountId ∧ t₁.from = t₂.from ∧ t₁.to = t₂.to ∧ t₁.token = t₂.token ∧
        t₁.amount = t₂.amount ∧ t₁.fee = t₂.fee ∧ t₁.group = t₂.group ∧ t₁.nonce = t₂.nonce ∧
        t₁.timeRange.getD default = t₂.timeRange.getD default) ∧
    (∀ t₁ t₂ : MintNFT, isFeeAmountPackable t₁.fee → isFeeAmountPackable t₂.fee →
      t₁.getBytes = t₂.getBytes →
      t₁.creatorId = t₂.creatorId ∧ t₁.creatorAddress = t₂.creatorAddress ∧
        t₁.contentHash = t₂.contentHash ∧ t₁.recipient = t₂.recipient ∧
        t₁.feeToken = t₂.feeToken ∧ t₁.fee = t₂.fee ∧ t₁.group = t₂.group ∧
        t₁.nonce = t₂.nonce) ∧
    (∀ (t₁ : ChangeGroup) (t₂ : Transfer) b, t₁.getBytes = .ok b → t₂.getBytes ≠ .ok b) ∧
    (∀ (t₁ : ChangeGroup) (t₂ : MintNFT) b, t₁.getBytes = .ok b → t₂.getBytes ≠ .ok b) ∧
    (∀ (t₁ : Transfer) (t₂ : MintNFT) b, t₁.getBytes = .ok b → t₂.getBytes ≠ .ok b) := by
  refine ⟨fun _ _ => ChangeGroup.getBytes_inj, fun _ _ => Transfer.getBytes_inj,
    fun _ _ => MintNFT.getBytes_inj, ?_, ?_, ?_⟩
  · exact fun _ _ _ h₁ h₂ =>
      absurd ((ChangeGroup.head_getBytes h₁).symm.trans (Transfer.head_getBytes h₂)) (by decide)
  · exact fun _ _ _ h₁ h₂ =>
      absurd ((ChangeGroup.head_getBytes h₁).symm.trans (MintNFT.head_getBytes h₂)) (by decide)
  · exact fun _ _ _ h₁ h₂ =>
      absurd ((Transfer.head_getBytes h₁).symm.trans (MintNFT.head_getBytes h₂)) (by decide)

end ModularRollup.TxEncoding
