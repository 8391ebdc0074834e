import Mathlib.Algebra.Order.Group.Nat
import ModularRollup.AmountCodec

/-! What the amount codec stands for: a float of `mantissaLen` and `exponentLen` bits is the
amount `mantissa * 10^exponent`, and `to_float` picks the largest such amount not above its
input. From it, the packable amounts are exactly the floats, and `closest_packable_*_amount`,
which the SDK's amount and fee setters round through, rounds down to the closest packable
amount. Modelled from the spec: `closest_packable_*_amount` of `zksync_types::helpers` are not
under src/. -/
namespace ModularRollup.AmountCodec
open Primitives

/-- `closest_packable_fee_amount`: the fee packed, then unpacked again. -/
def closestPackableFeeAmount (amount : ℕ) : Run Empty ℕ := do
  let feePacked ← packFeeAmount amount
  Run.expect (unpackFeeAmount feePacked) "fee repacking"

/-- `closest_packable_token_amount`. -/
def closestPackableTokenAmount (amount : ℕ) : Run Empty ℕ := do
  let packed ← packTokenAmount amount
  Run.expect (unpackTokenAmount packed) "token amount repacking"

/-- The amounts a float with these widths stands for. -/
def Representable (exponentLen mantissaLen n : ℕ) : Prop :=
  ∃ mantissa exponent, mantissa < 2 ^ mantissaLen ∧ exponent < 2 ^ exponentLen ∧
    n = mantissa * 10 ^ exponent

/-- The `while` loop of `to_float` stops at the first exponent whose range holds `integer`. -/
lemma floatExponent_spec (maxMantissa integer fuel start : ℕ) :
    start ≤ floatExponent maxMantissa integer fuel start ∧
    floatExponent maxMantissa integer fuel start ≤ start + fuel ∧
    (∀ e, start ≤ e → e < floatExponent maxMantissa integer fuel start →
      maxMantissa * 10 ^ e < integer) ∧
    (floatExponent maxMantissa integer fuel start < start + fuel →
      integer ≤ maxMantissa * 10 ^ floatExponent maxMantissa integer fuel start) := by
  induction fuel generalizing start with
  | zero =>
    simp only [floatExponent]
    exact ⟨le_rfl, le_rfl, fun e h h' => absurd h' (by omega), fun h => absurd h (by omega)⟩
  | succ fuel ih =>
    unfold floatExponent
    split_ifs with hle
    · exact ⟨le_rfl, by omega, fun e h h' => absurd h' (by omega), fun _ => hle⟩
    · obtain ⟨h₁, h₂, h₃, h₄⟩ := ih (start + 1)
      refine ⟨by omega, by omega, fun e he he' => ?_, fun h => h₄ (by omega)⟩
      rcases Nat.eq_or_lt_of_le he with rfl | he
      · exact Nat.lt_of_not_le hle
      · exact h₃ e he he'

section ToFloat

variable {exponentLen mantissaLen n : ℕ}

/-- `to_float` on an amount in range: a float within the widths, not above the amount, and
not below any other such float that is not above the amount. -/
lemma toFloat_spec (hn : n ≤ (2 ^ mantissaLen - 1) * 10 ^ (2 ^ exponentLen - 1)) :
    ∃ exponent mantissa, toFloat exponentLen mantissaLen n = .ok (exponent, mantissa) ∧
      mantissa ≤ 2 ^ mantissaLen - 1 ∧ exponent ≤ 2 ^ exponentLen - 1 ∧
      mantissa * 10 ^ exponent ≤ n ∧
      ∀ m e, m ≤ 2 ^ mantissaLen - 1 → e ≤ 2 ^ exponentLen - 1 → m * 10 ^ e ≤ n →
        m * 10 ^ e ≤ mantissa * 10 ^ exponent := by
  simp only [toFloat, if_neg (Nat.not_lt.mpr hn)]
  set M := 2 ^ mantissaLen - 1
  set P := 2 ^ exponentLen - 1
  obtain ⟨-, hrP, hbelow, hstop⟩ := floatExponent_spec M n P 0
  set r := floatExponent M n P 0
  have hr : n ≤ M * 10 ^ r := by
    rcases Nat.lt_or_ge r P with h | h
    · exact hstop (by omega)
    · rwa [show r = P by omega]
  have hpos : 0 < 10 ^ r := Nat.pos_pow_of_pos _ (by decide)
  have hq : n / 10 ^ r * 10 ^ r ≤ n := Nat.div_mul_le_self _ _
  have hqM : n / 10 ^ r ≤ M := Nat.div_le_of_le_mul (by rwa [Nat.mul_comm])
  -- a float not above `n` with exponent at least `r` is not above `n / 10^r * 10^r`
  have hhigh : ∀ m e, r ≤ e → m * 10 ^ e ≤ n → m * 10 ^ e ≤ n / 10 ^ r * 10 ^ r := by
    intro m e he hle
    have hsplit : m * 10 ^ e = m * 10 ^ (e - r) * 10 ^ r := by
      rw [Nat.mul_assoc, ← Nat.pow_add, Nat.sub_add_cancel he]
    rw [hsplit] at hle ⊢
    exact Nat.mul_le_mul_right _ ((Nat.le_div_iff_mul_le hpos).mpr hle)
  -- a float with exponent below `r` is at most `M * 10^(r - 1)`, which is below `n`
  have hlow : ∀ m e, m ≤ M → e < r → m * 10 ^ e ≤ M * 10 ^ (r - 1) := fun m e hm he =>
    Nat.mul_le_mul hm (Nat.pow_le_pow_right (by decide) (by omega))
  split_ifs with hc
  · have hMn : M * 10 ^ (r - 1) < n := hbelow _ (Nat.zero_le _) (by omega)
    have hqlt : n / 10 ^ r * 10 ^ r < M * 10 ^ (r - 1) := by
      rw [Nat.mul_comm (10 ^ (r - 1)), Nat.mul_comm (10 ^ r)] at hc
      omega
    refine ⟨_, _, rfl, le_rfl, by omega, hMn.le, fun m e hm he hle => ?_⟩
    rcases Nat.lt_or_ge e r with her | her
    · exact hlow m e hm her
    · exact (hhigh m e her hle).trans hqlt.le
  · have hge : r ≠ 0 → M * 10 ^ (r - 1) ≤ n / 10 ^ r * 10 ^ r := fun hr0 => by
      have hMn : M * 10 ^ (r - 1) < n := hbelow _ (Nat.zero_le _) (by omega)
      rw [Nat.mul_comm (10 ^ (r - 1)), Nat.mul_comm (10 ^ r)] at hc
      omega
    refine ⟨_, _, rfl, hqM, by omega, hq, fun m e hm he hle => ?_⟩
    rcases Nat.lt_or_ge e r with her | her
    · exact (hlow m e hm her).trans (hge (by omega))
    · exact hhigh m e her hle

/-- A float in range is read back by `unpack` from the bytes `pack` writes. -/
lemma unpack_toBeBytes_encodeFloat {exponent mantissa : ℕ} (h8 : (exponentLen + mantissaLen) % 8 = 0)
    (he : exponent < 2 ^ exponentLen) (hm : mantissa < 2 ^ mantissaLen)
    (hv : mantissa * 10 ^ exponent ≤ u128Max) :
    unpack (toBeBytes ((exponentLen + mantissaLen) / 8) (encodeFloat exponentLen (exponent, mantissa)))
      exponentLen mantissaLen = some (mantissa * 10 ^ exponent) := by
  have hbytes : 256 ^ ((exponentLen + mantissaLen) / 8) = 2 ^ mantissaLen * 2 ^ exponentLen := by
    rw [← Nat.pow_add, show 256 = 2 ^ 8 from rfl, ← Nat.pow_mul]
    congr 1
    omega
  have hlt : encodeFloat exponentLen (exponent, mantissa) < 2 ^ mantissaLen * 2 ^ exponentLen :=
    calc mantissa * 2 ^ exponentLen + exponent
        < mantissa * 2 ^ exponentLen + 2 ^ exponentLen := by omega
      _ = (mantissa + 1) * 2 ^ exponentLen := by rw [Nat.succ_mul]
      _ ≤ 2 ^ mantissaLen * 2 ^ exponentLen := Nat.mul_le_mul_right _ hm
  have hpos : 0 < 2 ^ exponentLen := Nat.pos_pow_of_pos _ (by decide)
  have hdiv : (mantissa * 2 ^ exponentLen + exponent) / 2 ^ exponentLen = mantissa := by
    rw [Nat.mul_comm, Nat.mul_add_div hpos, Nat.div_eq_of_lt he, Nat.add_zero]
  have hmod : (mantissa * 2 ^ exponentLen + exponent) % 2 ^ exponentLen = exponent := by
    rw [Nat.mul_comm, Nat.mul_add_mod, Nat.mod_eq_of_lt he]
  rw [unpack, if_pos (by rw [length_toBeBytes]; omega), fromBeBytes_toBeBytes_of_lt (hbytes ▸ hlt)]
  simp only [encodeFloat, hdiv, hmod, if_pos hv]

/-- What `unpack` returns is a float within the widths, in `u128`. -/
lemma representable_of_unpack {bs : List UInt8} {v : ℕ}
    (h : unpack bs exponentLen mantissaLen = some v) :
    Representable exponentLen mantissaLen v ∧ v ≤ u128Max := by
  simp only [unpack] at h
  split_ifs at h with hlen hv
  cases h
  have hpos : 0 < 2 ^ exponentLen := Nat.pos_pow_of_pos _ (by decide)
  have hbits : fromBeBytes bs < 2 ^ exponentLen * 2 ^ mantissaLen := by
    have := fromBeBytes_lt bs
    rwa [show 256 = 2 ^ 8 from rfl, ← Nat.pow_mul, Nat.mul_comm, hlen, Nat.pow_add] at this
  exact ⟨⟨_, _, Nat.div_lt_of_lt_mul hbits, Nat.mod_lt _ hpos, rfl⟩, hv⟩

/-- `pack` then `unpack` on an amount in range: the largest float not above the amount. -/
lemma unpack_pack (h8 : (exponentLen + mantissaLen) % 8 = 0)
    (hn : n ≤ (2 ^ mantissaLen - 1) * 10 ^ (2 ^ exponentLen - 1)) (hu : n ≤ u128Max) :
    ∃ bs c, pack n exponentLen mantissaLen = .ok bs ∧ unpack bs exponentLen mantissaLen = some c ∧
      c ≤ n ∧ Representable exponentLen mantissaLen c ∧
      ∀ v, Representable exponentLen mantissaLen v → v ≤ n → v ≤ c := by
  obtain ⟨e, m, hf, hm, he, hle, hmax⟩ := toFloat_spec hn
  have hpos : 0 < 2 ^ exponentLen := Nat.pos_pow_of_pos _ (by decide)
  have hmpos : 0 < 2 ^ mantissaLen := Nat.pos_pow_of_pos _ (by decide)
  refine ⟨_, _, by rw [pack, hf], unpack_toBeBytes_encodeFloat h8 (by omega) (by omega)
    (hle.trans hu), hle, ⟨m, e, by omega, by omega, rfl⟩, ?_⟩
  rintro v ⟨m', e', hm', he', rfl⟩ hv
  exact hmax m' e' (by omega) (by omega) hv

/-- Every float within the widths is in range for `to_float`. -/
lemma le_maxFloat {exponentLen mantissaLen v : ℕ} (h : Representable exponentLen mantissaLen v) :
    v ≤ (2 ^ mantissaLen - 1) * 10 ^ (2 ^ exponentLen - 1) := by
  obtain ⟨m, e, hm, he, rfl⟩ := h
  exact Nat.mul_le_mul (by omega) (Nat.pow_le_pow_right (by decide) (by omega))

end ToFloat

/-- The packable fees are exactly the floats of 11 mantissa and 5 exponent bits. -/
lemma isFeeAmountPackable_iff_representable {n : ℕ} :
    isFeeAmountPackable n = true ↔ Representable feeExponentBitWidth feeMantissaBitWidth n := by
  have hmax : (2 ^ feeMantissaBitWidth - 1) * 10 ^ (2 ^ feeExponentBitWidth - 1) ≤ u128Max := by
    decide
  rw [isFeeAmountPackable_iff]
  constructor
  · rintro ⟨bs, -, hu⟩
    exact (representable_of_unpack hu).1
  · intro hr
    have hn := le_maxFloat hr
    obtain ⟨bs, c, hp, hu, hc, -, hcmax⟩ := unpack_pack (by decide) hn (hn.trans hmax)
    refine ⟨bs, by rw [packFeeAmount, if_pos (hn.trans hmax), hp], ?_⟩
    rw [unpackFeeAmount, hu, le_antisymm hc (hcmax n hr le_rfl)]

/-- The packable token amounts are exactly the floats of 35 mantissa and 5 exponent bits that
fit in `u128`. -/
lemma isTokenAmountPackable_iff_representable {n : ℕ} :
    isTokenAmountPackable n = true ↔
      n ≤ u128Max ∧ Representable amountExponentBitWidth amountMantissaBitWidth n := by
  rw [isTokenAmountPackable_iff]
  constructor
  · rintro ⟨bs, -, hu⟩
    exact ⟨(representable_of_unpack hu).2, (representable_of_unpack hu).1⟩
  · rintro ⟨hu, hr⟩
    obtain ⟨bs, c, hp, hun, hc, -, hcmax⟩ := unpack_pack (by decide) (le_maxFloat hr) hu
    refine ⟨bs, by rw [packTokenAmount, if_pos hu, hp], ?_⟩
    rw [unpackTokenAmount, hun, le_antisymm hc (hcmax n hr le_rfl)]

/-- The amounts the packed formats hold are exactly the decimal floats of their widths: a fee is
packable iff it is `m * 10 ^ e` with an 11-bit mantissa and a 5-bit exponent, and a token amount
iff it fits `u128` and is `m * 10 ^ e` with a 35-bit mantissa and a 5-bit exponent. -/
theorem packable_iff_representable (n : ℕ) :
    (isFeeAmountPackable n = true ↔ Representable feeExponentBitWidth feeMantissaBitWidth n) ∧
      (isTokenAmountPackable n = true ↔
        n ≤ u128Max ∧ Representable amountExponentBitWidth amountMantissaBitWidth n) :=
  ⟨isFeeAmountPackable_iff_representable, isTokenAmountPackable_iff_representable⟩

lemma closestPackableFeeAmount_eq_ok {amount : ℕ}
    (h : amount ≤ (2 ^ feeMantissaBitWidth - 1) * 10 ^ (2 ^ feeExponentBitWidth - 1)) :
    ∃ c, closestPackableFeeAmount amount = .ok c ∧ isFeeAmountPackable c = true ∧
      c ≤ amount ∧ ∀ v, isFeeAmountPackable v = true → v ≤ amount → v ≤ c := by
  have hmax : (2 ^ feeMantissaBitWidth - 1) * 10 ^ (2 ^ feeExponentBitWidth - 1) ≤ u128Max := by
    decide
  obtain ⟨bs, c, hp, hu, hc, hr, hcmax⟩ := unpack_pack (by decide) h (h.trans hmax)
  refine ⟨c, ?_, isFeeAmountPackable_iff_representable.mpr hr, hc, fun v hv hvle =>
    hcmax v (isFeeAmountPackable_iff_representable.mp hv) hvle⟩
  simp only [closestPackableFeeAmount, packFeeAmount, if_pos (h.trans hmax), hp, Run.ok_bind,
    unpackFeeAmount, hu, Run.expect_some]

/-- `closest_packable_fee_amount` rounds a fee down to the largest packable fee not above it,
and panics on a fee above the largest float. -/
theorem closestPackableFeeAmount_spec (amount : ℕ) :
    (amount ≤ (2 ^ feeMantissaBitWidth - 1) * 10 ^ (2 ^ feeExponentBitWidth - 1) →
      ∃ c, closestPackableFeeAmount amount = .ok c ∧ isFeeAmountPackable c = true ∧
        c ≤ amount ∧ ∀ v, isFeeAmountPackable v = true → v ≤ amount → v ≤ c) ∧
    ((2 ^ feeMantissaBitWidth - 1) * 10 ^ (2 ^ feeExponentBitWidth - 1) < amount →
      ∃ m, closestPackableFeeAmount amount = .panic m) := by
  refine ⟨closestPackableFeeAmount_eq_ok, fun h => ?_⟩
  by_cases hu : amount ≤ u128Max
  · exact ⟨"packing error", by simp only [closestPackableFeeAmount, packFeeAmount, if_pos hu,
      pack, toFloat_eq_error h, Run.panic_bind]⟩
  · exact ⟨Run.unwrapNone, by
      simp only [closestPackableFeeAmount, packFeeAmount, if_neg hu, Run.panic_bind]⟩

theorem closestPackableFeeAmount_spec_sample :
    (123456 ≤ (2 ^ feeMantissaBitWidth - 1) * 10 ^ (2 ^ feeExponentBitWidth - 1) ∧
      ∃ c, closestPackableFeeAmount 123456 = .ok c ∧ isFeeAmountPackable c = true ∧
        c ≤ 123456 ∧ ∀ v, isFeeAmountPackable v = true → v ≤ 123456 → v ≤ c) ∧
    ((2 ^ feeMantissaBitWidth - 1) * 10 ^ (2 ^ feeExponentBitWidth - 1) < 10 ^ 35 ∧
      ∃ m, closestPackableFeeAmount (10 ^ 35) = .panic m) :=
  ⟨⟨by decide, (closestPackableFeeAmount_spec 123456).1 (by decide)⟩,
    ⟨by decide, (closestPackableFeeAmount_spec (10 ^ 35)).2 (by decide)⟩⟩

example : closestPackableFeeAmount 123456 = .ok 123400 := rfl

lemma closestPackableTokenAmount_eq_ok {amount : ℕ} (h : amount ≤ u128Max) :
    ∃ c, closestPackableTokenAmount amount = .ok c ∧ isTokenAmountPackable c = true ∧
      c ≤ amount ∧ ∀ v, isTokenAmountPackable v = true → v ≤ amount → v ≤ c := by
  have hmax : u128Max ≤ (2 ^ amountMantissaBitWidth - 1) * 10 ^ (2 ^ amountExponentBitWidth - 1) := by
    decide
  obtain ⟨bs, c, hp, hu, hc, hr, hcmax⟩ := unpack_pack (by decide) (h.trans hmax) h
  refine ⟨c, ?_, isTokenAmountPackable_iff_representable.mpr ⟨hc.trans h, hr⟩, hc,
    fun v hv hvle => hcmax v (isTokenAmountPackable_iff_representable.mp hv).2 hvle⟩
  simp only [closestPackableTokenAmount, packTokenAmount, if_pos h, hp, Run.ok_bind,
    unpackTokenAmount, hu, Run.expect_some]

/-- `closest_packable_token_amount` rounds an amount of `u128` down to the largest packable
amount not above it, and panics past `u128`. -/
theorem closestPackableTokenAmount_spec (amount : ℕ) :
    (amount ≤ u128Max →
      ∃ c, closestPackableTokenAmount amount = .ok c ∧ isTokenAmountPackable c = true ∧
        c ≤ amount ∧ ∀ v, isTokenAmountPackable v = true → v ≤ amount → v ≤ c) ∧
    (u128Max < amount → ∃ m, closestPackableTokenAmount amount = .panic m) :=
  ⟨closestPackableTokenAmount_eq_ok, fun h => ⟨Run.unwrapNone, by
    simp only [closestPackableTokenAmount, packTokenAmount, if_neg (Nat.not_le.mpr h),
      Run.panic_bind]⟩⟩

theorem closestPackableTokenAmount_spec_sample :
    (123456789012345 ≤ u128Max ∧
      ∃ c, closestPackableTokenAmount 123456789012345 = .ok c ∧
        isTokenAmountPackable c = true ∧ c ≤ 123456789012345 ∧
        ∀ v, isTokenAmountPackable v = true → v ≤ 123456789012345 → v ≤ c) ∧
    (u128Max < 2 ^ 128 ∧ ∃ m, closestPackableTokenAmount (2 ^ 128) = .panic m) :=
  ⟨⟨by decide, (closestPackableTokenAmount_spec 123456789012345).1 (by decide)⟩,
    ⟨by decide, (closestPackableTokenAmount_spec (2 ^ 128)).2 (by decide)⟩⟩

example : closestPackableTokenAmount 123456789012345 = .ok 123456789010000 := rfl

end ModularRollup.AmountCodec
