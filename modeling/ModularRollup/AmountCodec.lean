import ModularRollup.Primitives

/-! The amount codec: a float `mantissa * 10^exponent` packed in a fixed number of bits.
Modelled from the spec: `FloatConversions` and the `pack_*`/`unpack_*` helpers are not under
src/. A float is written as the number whose little-endian bits are the exponent bits then the
mantissa bits (`to_float`'s bit vector), i.e. `mantissa * 2^exponentLength + exponent`. -/
namespace ModularRollup.AmountCodec
open Primitives

inductive ConversionError
  | tooBigInteger
  deriving DecidableEq, Repr

/-- The `while` loop of `to_float`: the least `e ≥ start` with `integer ≤ maxMantissa * 10^e`,
searching at most `fuel` more exponents. -/
def floatExponent (maxMantissa integer : ℕ) : ℕ → ℕ → ℕ
  | 0, e => e
  | fuel + 1, e =>
    if integer ≤ maxMantissa * 10 ^ e then e else floatExponent maxMantissa integer fuel (e + 1)

/-- `FloatConversions::to_float` with base 10, for an `integer` that fits in `u128`: the
exponent and mantissa of the closest float not above `integer`. -/
def toFloat (exponentLength mantissaLength integer : ℕ) : Except ConversionError (ℕ × ℕ) :=
  let maxPower := 2 ^ exponentLength - 1
  let maxMantissa := 2 ^ mantissaLength - 1
  if maxMantissa * 10 ^ maxPower < integer then .error .tooBigInteger else
  let exponent := floatExponent maxMantissa integer maxPower 0
  let mantissa := integer / 10 ^ exponent
  if exponent ≠ 0 ∧ integer - 10 ^ (exponent - 1) * maxMantissa < integer - 10 ^ exponent * mantissa
  then .ok (exponent - 1, maxMantissa)
  else .ok (exponent, mantissa)

/-- The number whose little-endian bits are `to_float`'s output. -/
def encodeFloat (exponentLength : ℕ) (float : ℕ × ℕ) : ℕ := float.2 * 2 ^ exponentLength + float.1

/-- `FloatConversions::pack`: the float's bits most significant first, in bytes. -/
def pack (number exponentLen mantissaLen : ℕ) : Run Empty (List UInt8) :=
  match toFloat exponentLen mantissaLen number with
  | .ok float => .ok (toBeBytes ((exponentLen + mantissaLen) / 8) (encodeFloat exponentLen float))
  | .error _ => .panic "packing error"

/-- `FloatConversions::unpack`: `None` on a wrong length or a value past `u128`. -/
def unpack (data : List UInt8) (expWidth mantissaWidth : ℕ) : Option ℕ :=
  if data.length * 8 = expWidth + mantissaWidth then
    let bits := fromBeBytes data
    let value := bits / 2 ^ expWidth * 10 ^ (bits % 2 ^ expWidth)
    if value ≤ u128Max then some value else none
  else none

/-- `pack_fee_amount`: `to_u128().unwrap()`, then `pack`. -/
def packFeeAmount (amount : ℕ) : Run Empty (List UInt8) :=
  if amount ≤ u128Max then pack amount feeExponentBitWidth feeMantissaBitWidth
  else .panic Run.unwrapNone

def unpackFeeAmount (data : List UInt8) : Option ℕ :=
  unpack data feeExponentBitWidth feeMantissaBitWidth

/-- `pack_token_amount`. -/
def packTokenAmount (amount : ℕ) : Run Empty (List UInt8) :=
  if amount ≤ u128Max then pack amount amountExponentBitWidth amountMantissaBitWidth
  else .panic Run.unwrapNone

def unpackTokenAmount (data : List UInt8) : Option ℕ :=
  unpack data amountExponentBitWidth amountMantissaBitWidth

/-- `is_fee_amount_packable`: `unpack_fee_amount` gives the amount back from `pack_fee_amount`;
an amount that `pack_fee_amount` cannot pack is not packable. -/
def isFeeAmountPackable (amount : ℕ) : Bool :=
  match packFeeAmount amount with
  | .ok bytes => unpackFeeAmount bytes == some amount
  | _ => false

def isTokenAmountPackable (amount : ℕ) : Bool :=
  match packTokenAmount amount with
  | .ok bytes => unpackTokenAmount bytes == some amount
  | _ => false

lemma pack_length {n e m : ℕ} {bs : List UInt8} (h : pack n e m = .ok bs) :
    bs.length = (e + m) / 8 := by
  unfold pack at h
  split at h <;> cases h
  exact length_toBeBytes _ _

/-- A packable fee packs, and unpacks back to itself. -/
theorem isFeeAmountPackable_iff {n : ℕ} :
    isFeeAmountPackable n = true ↔ ∃ bs, packFeeAmount n = .ok bs ∧ unpackFeeAmount bs = some n := by
  unfold isFeeAmountPackable
  split <;> simp_all

lemma packFeeAmount_length {n : ℕ} {bs : List UInt8} (h : packFeeAmount n = .ok bs) :
    bs.length = 2 := by
  unfold packFeeAmount at h
  split at h
  · exact pack_length h
  · cases h

theorem isTokenAmountPackable_iff {n : ℕ} :
    isTokenAmountPackable n = true ↔
      ∃ bs, packTokenAmount n = .ok bs ∧ unpackTokenAmount bs = some n := by
  unfold isTokenAmountPackable
  split <;> simp_all

lemma packTokenAmount_length {n : ℕ} {bs : List UInt8} (h : packTokenAmount n = .ok bs) :
    bs.length = 5 := by
  unfold packTokenAmount at h
  split at h
  · exact pack_length h
  · cases h

/-- Packable fees with the same packed bytes are equal: `unpack_fee_amount` gives each back. -/
lemma packFeeAmount_inj {m n : ℕ} {bs : List UInt8} (hm : isFeeAmountPackable m = true)
    (hn : isFeeAmountPackable n = true) (hbm : packFeeAmount m = .ok bs)
    (hbn : packFeeAmount n = .ok bs) : m = n := by
  obtain ⟨_, hbm', hum⟩ := isFeeAmountPackable_iff.mp hm
  obtain ⟨_, hbn', hun⟩ := isFeeAmountPackable_iff.mp hn
  cases hbm.symm.trans hbm'
  cases hbn.symm.trans hbn'
  exact Option.some_injective _ (hum.symm.trans hun)

/-- Packable token amounts with the same packed bytes are equal. -/
lemma packTokenAmount_inj {m n : ℕ} {bs : List UInt8} (hm : isTokenAmountPackable m = true)
    (hn : isTokenAmountPackable n = true) (hbm : packTokenAmount m = .ok bs)
    (hbn : packTokenAmount n = .ok bs) : m = n := by
  obtain ⟨_, hbm', hum⟩ := isTokenAmountPackable_iff.mp hm
  obtain ⟨_, hbn', hun⟩ := isTokenAmountPackable_iff.mp hn
  cases hbm.symm.trans hbm'
  cases hbn.symm.trans hbn'
  exact Option.some_injective _ (hum.symm.trans hun)

lemma floatExponent_le (maxMantissa integer fuel start : ℕ) :
    floatExponent maxMantissa integer fuel start ≤ start + fuel := by
  induction fuel generalizing start with
  | zero => exact Nat.le_refl _
  | succ fuel ih =>
    unfold floatExponent
    split
    · omega
    · have := ih (start + 1)
      omega

/-- The exponent `to_float` picks fits in its `exponentLength` bits. -/
lemma toFloat_exponent_lt {e m n : ℕ} {float : ℕ × ℕ} (h : toFloat e m n = .ok float) :
    float.1 < 2 ^ e := by
  have hle := floatExponent_le (2 ^ m - 1) n (2 ^ e - 1) 0
  have hpos := Nat.one_le_two_pow (n := e)
  simp only [toFloat] at h
  split_ifs at h <;> cases h <;> omega

/-- `to_float` fails exactly above the largest float, `(2^m - 1) * 10^(2^e - 1)`. -/
lemma toFloat_eq_error {e m n : ℕ} (h : (2 ^ m - 1) * 10 ^ (2 ^ e - 1) < n) :
    toFloat e m n = .error .tooBigInteger := if_pos h

lemma toFloat_isOk {e m n : ℕ} (h : n ≤ (2 ^ m - 1) * 10 ^ (2 ^ e - 1)) :
    ∃ float, toFloat e m n = .ok float := by
  simp only [toFloat, if_neg (Nat.not_lt.mpr h)]
  split_ifs <;> exact ⟨_, rfl⟩

/-- What `pack_fee_amount` returns: the two big-endian bytes of the float `to_float` picks. -/
lemma packFeeAmount_eq_ok {n : ℕ} {bytes : List UInt8} (h : packFeeAmount n = .ok bytes) :
    n ≤ u128Max ∧ ∃ float, toFloat feeExponentBitWidth feeMantissaBitWidth n = .ok float ∧
      bytes = toBeBytes 2 (encodeFloat feeExponentBitWidth float) := by
  unfold packFeeAmount pack at h
  split_ifs at h with hn
  · split at h
    · cases h
      exact ⟨hn, _, ‹_›, rfl⟩
    · cases h

lemma packFeeAmount_isOk {n : ℕ} (hn : n ≤ u128Max)
    (h : n ≤ (2 ^ feeMantissaBitWidth - 1) * 10 ^ (2 ^ feeExponentBitWidth - 1)) :
    ∃ bytes, packFeeAmount n = .ok bytes := by
  obtain ⟨float, hf⟩ := toFloat_isOk h
  exact ⟨_, by rw [packFeeAmount, if_pos hn, pack, hf]⟩

/-- `pack_fee_amount` panics on a fee past the largest float of its widths. -/
lemma packFeeAmount_eq_panic {n : ℕ}
    (h : (2 ^ feeMantissaBitWidth - 1) * 10 ^ (2 ^ feeExponentBitWidth - 1) < n) :
    ∃ m, packFeeAmount n = .panic m := by
  unfold packFeeAmount
  split_ifs
  · exact ⟨_, by rw [pack, toFloat_eq_error h]⟩
  · exact ⟨_, rfl⟩

end ModularRollup.AmountCodec
