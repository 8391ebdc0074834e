import Mathlib.Data.List.DropRight
import Mathlib.Data.Nat.Digits
import Mathlib.Tactic.IntervalCases
import Mathlib.Tactic.Ring
import ModularRollup.Transactions

/-! The messages a base-chain key signs for `ChangeGroup` and `MintNFT`: the transaction's
fields as text, amounts through `format_units`, addresses and hashes as `{:?}` hex, integers
in decimal. Every printed field is made of characters from `'.'` up, and each is followed by a
space, a comma or a line break, all below `'.'`. So a message reads back field by field, and
for a fixed token symbol and number of decimals it determines every field it prints. -/
namespace ModularRollup.SignMessage
open Primitives ChangeGroupTx Transactions

/-! ## Printing -/

/-- `format_units` of `zksync_utils`, which is not under src/: `wei` in units of
`10 ^ units`, as ethers' `formatUnits` prints it. The decimal digits are padded with zeros to
`units` places, a point goes before the last `units` of them, a zero before a leading point;
trailing zeros are dropped, and a zero follows a trailing point. -/
def formatUnits (wei : ℕ) (units : UInt8) : String :=
  let chars := List.leftpad units.toNat '0' (Nat.repr wei).data
  let chars := chars.take (chars.length - units.toNat) ++ '.' ::
    chars.drop (chars.length - units.toNat)
  let chars := if chars.head? = some '.' then '0' :: chars else chars
  let chars := chars.rdropWhile (· == '0')
  let chars := if chars.getLast? = some '.' then chars ++ ['0'] else chars
  String.mk chars

/-- `{:?}` of `H160` and `H256`: `0x`, then every byte as two lowercase hex digits. -/
def debugHex (bytes : List UInt8) : String :=
  "0x" ++ String.mk (bytes.flatMap fun b =>
    [Nat.digitChar (b.toNat / 16), Nat.digitChar (b.toNat % 16)])

namespace ChangeGroup

/-- The message without its nonce, which a batch appends once for all its transactions. -/
def getEthereumSignMessagePart (tx : ChangeGroup) (tokenSymbol : String) (decimals : UInt8) :
    String :=
  let message :=
    if tx.amount ≠ 0 then
      "ChangeGroup " ++ formatUnits tx.amount decimals ++ " " ++ tokenSymbol ++ " to: " ++
        debugHex tx.to.bytes ++ " from group: " ++ Nat.repr tx.group1 ++ " to group: " ++
        Nat.repr tx.group2
    else ""
  if tx.fee ≠ 0 then
    let message := if message ≠ "" then message.push '\n' else message
    message ++ ("Fee: " ++ formatUnits tx.fee decimals ++ " " ++ tokenSymbol)
  else message

def getEthereumSignMessage (tx : ChangeGroup) (tokenSymbol : String) (decimals : UInt8) :
    String :=
  let message := getEthereumSignMessagePart tx tokenSymbol decimals
  let message := if message ≠ "" then message.push '\n' else message
  message ++ ("Nonce: " ++ Nat.repr tx.nonce)

end ChangeGroup

namespace MintNFT

def getEthereumSignMessagePart (tx : MintNFT) (tokenSymbol : String) (decimals : UInt8) :
    String :=
  let message := "MintNFT " ++ debugHex tx.contentHash.bytes ++ " for: " ++
    debugHex tx.recipient.bytes ++ ", on group: " ++ Nat.repr tx.group
  if tx.fee ≠ 0 then
    message.push '\n' ++ ("Fee: " ++ formatUnits tx.fee decimals ++ " " ++ tokenSymbol)
  else message

def getEthereumSignMessage (tx : MintNFT) (tokenSymbol : String) (decimals : UInt8) : String :=
  let message := getEthereumSignMessagePart tx tokenSymbol decimals
  let message := if message ≠ "" then message.push '\n' else message
  message ++ ("Nonce: " ++ Nat.repr tx.nonce)

end MintNFT

/-! ## Reading digits back -/

/-- Decimal digit characters. -/
def Digits (l : List Char) : Prop := ∀ c ∈ l, 48 ≤ c.toNat ∧ c.toNat < 58

/-- The number that decimal digit characters spell, most significant first. -/
def digitsValue (l : List Char) : ℕ := l.foldl (fun acc c => acc * 10 + (c.toNat - 48)) 0

lemma foldl_digitsValue (acc : ℕ) (l : List Char) :
    l.foldl (fun acc c => acc * 10 + (c.toNat - 48)) acc =
      acc * 10 ^ l.length + digitsValue l := by
  induction l generalizing acc with
  | nil => simp [digitsValue]
  | cons c l ih =>
    simp only [digitsValue, List.foldl_cons, List.length_cons] at ih ⊢
    rw [ih, ih (0 * 10 + _)]
    ring

lemma digitsValue_append (l m : List Char) :
    digitsValue (l ++ m) = digitsValue l * 10 ^ m.length + digitsValue m := by
  rw [digitsValue, List.foldl_append, foldl_digitsValue]
  rfl

lemma digitsValue_singleton (c : Char) : digitsValue [c] = c.toNat - 48 := by
  simp [digitsValue]

lemma digitsValue_replicate_zero (k : ℕ) : digitsValue (List.replicate k '0') = 0 := by
  induction k with
  | zero => rfl
  | succ k ih =>
    rw [List.replicate_succ', digitsValue_append, ih, digitsValue_singleton]
    rfl

lemma digits_append {l m : List Char} (hl : Digits l) (hm : Digits m) : Digits (l ++ m) := by
  intro c hc
  rcases List.mem_append.mp hc with hc | hc
  exacts [hl c hc, hm c hc]

lemma toNat_digitChar {d : ℕ} (h : d < 16) :
    (Nat.digitChar d).toNat = if d < 10 then d + 48 else d + 87 := by
  interval_cases d <;> rfl

lemma toNat_digitChar_of_lt_ten {d : ℕ} (h : d < 10) : (Nat.digitChar d).toNat = d + 48 := by
  rw [toNat_digitChar (by omega), if_pos h]

/-- Each step of `Nat.toDigitsCore` puts the last digit in front of those already printed: with
enough fuel it prints the digits of `n` before `ds`. -/
lemma toDigitsCore_eq {fuel n : ℕ} (ds : List Char) (h : n < fuel) :
    ∃ l, Nat.toDigitsCore 10 fuel n ds = l ++ ds ∧ l ≠ [] ∧ Digits l ∧ digitsValue l = n := by
  induction fuel generalizing n ds with
  | zero => omega
  | succ fuel ih =>
    have hd := toNat_digitChar_of_lt_ten (Nat.mod_lt n (by norm_num : 10 > 0))
    have hdigit : Digits [Nat.digitChar (n % 10)] := by simp [Digits, hd]; omega
    simp only [Nat.toDigitsCore]
    split_ifs with h0
    · refine ⟨_, rfl, List.cons_ne_nil _ _, hdigit, ?_⟩
      rw [digitsValue_singleton, hd]
      omega
    · obtain ⟨l, hl, -, hl_digits, hl_value⟩ :=
        @ih (n / 10) (Nat.digitChar (n % 10) :: ds) (by omega)
      refine ⟨l ++ [Nat.digitChar (n % 10)], by simp [hl], by simp,
        digits_append hl_digits hdigit, ?_⟩
      rw [digitsValue_append, hl_value, digitsValue_singleton, hd]
      simp only [List.length_singleton, pow_one]
      omega

lemma repr_spec (n : ℕ) :
    (Nat.repr n).data ≠ [] ∧ Digits (Nat.repr n).data ∧ digitsValue (Nat.repr n).data = n := by
  obtain ⟨l, hl, hspec⟩ := toDigitsCore_eq [] (Nat.lt_succ_self n)
  rw [List.append_nil] at hl
  have hrepr : (Nat.repr n).data = l := hl
  rw [hrepr]
  exact hspec

lemma repr_inj {m n : ℕ} (h : Nat.repr m = Nat.repr n) : m = n := by
  rw [← (repr_spec m).2.2, h, (repr_spec n).2.2]

/-- A separator found in neither of two prefixes splits two equal lists at the same place. -/
lemma append_cons_cancel {α : Type} {u v r r' : List α} {c : α} (hu : c ∉ u) (hv : c ∉ v)
    (h : u ++ c :: r = v ++ c :: r') : u = v ∧ r = r' := by
  induction u generalizing v with
  | nil =>
    cases v with
    | nil => exact ⟨rfl, (List.cons.inj h).2⟩
    | cons x v => exact absurd (List.cons.inj h).1 (fun hx => hv (hx ▸ List.mem_cons_self _ _))
  | cons x u ih =>
    cases v with
    | nil => exact absurd (List.cons.inj h).1.symm (fun hx => hu (hx ▸ List.mem_cons_self _ _))
    | cons y v =>
      obtain ⟨rfl, htail⟩ := List.cons.inj h
      obtain ⟨rfl, rfl⟩ := ih (fun hm => hu (List.mem_cons_of_mem _ hm))
        (fun hm => hv (List.mem_cons_of_mem _ hm)) htail
      exact ⟨rfl, rfl⟩

/-! ## `format_units` -/

lemma rdropWhile_append_cons {α : Type} {p : α → Bool} {a : α} (l m : List α)
    (ha : p a = false) : (l ++ a :: m).rdropWhile p = l ++ a :: m.rdropWhile p := by
  simp only [List.rdropWhile, List.reverse_append, List.reverse_cons, List.append_assoc,
    List.singleton_append, List.dropWhile_append]
  split <;> simp_all [List.dropWhile_cons]

/-- Dropping the trailing zeros divides the value by ten for each zero dropped. -/
lemma digitsValue_rdropWhile (l : List Char) :
    digitsValue (l.rdropWhile (· == '0')) * 10 ^ (l.length - (l.rdropWhile (· == '0')).length) =
      digitsValue l := by
  induction l using List.reverseRecOn with
  | nil => rfl
  | append_singleton l x ih =>
    have hle := (List.rdropWhile_prefix (· == '0') l).length_le
    rw [List.rdropWhile_concat]
    split_ifs with hx
    · obtain rfl : x = '0' := by simpa using hx
      have h0 : '0'.toNat - 48 = 0 := rfl
      rw [digitsValue_append, ← ih, digitsValue_singleton, h0, List.length_append,
        List.length_singleton, Nat.sub_add_comm hle, pow_succ, pow_one, add_zero, mul_assoc]
    · simp

lemma digits_zero : Digits ['0'] := by
  simp only [Digits, List.mem_singleton, forall_eq]
  decide

/-- The steps of `format_units` after the point is placed, on the digits `I` before it and `F`
after it: the text still has digits on both sides of one point, of the same values once those
after it are read in `F.length` places. -/
lemma formatUnits_tail {I F : List Char} (hI : Digits I) (hF : Digits F) :
    ∃ I' F', (let chars := I ++ '.' :: F
      let chars := if chars.head? = some '.' then '0' :: chars else chars
      let chars := chars.rdropWhile (· == '0')
      if chars.getLast? = some '.' then chars ++ ['0'] else chars) = I' ++ '.' :: F' ∧
      Digits I' ∧ Digits F' ∧ digitsValue I' = digitsValue I ∧
      digitsValue F' * 10 ^ (F.length - F'.length) = digitsValue F := by
  have not_point {c : Char} (hc : 48 ≤ c.toNat) : c ≠ '.' := by
    rintro rfl
    exact absurd hc (by decide)
  obtain ⟨I₁, hI₁, hI₁_digits, hI₁_value⟩ : ∃ I₁, (if (I ++ '.' :: F).head? = some '.' then
      '0' :: (I ++ '.' :: F) else I ++ '.' :: F) = I₁ ++ '.' :: F ∧ Digits I₁ ∧
      digitsValue I₁ = digitsValue I := by
    rcases I with _ | ⟨c, I⟩
    · exact ⟨['0'], rfl, digits_zero, rfl⟩
    · exact ⟨c :: I, by simp [not_point (hI c (List.mem_cons_self _ _)).1], hI, rfl⟩
  dsimp only
  rw [hI₁, rdropWhile_append_cons _ _ rfl]
  have hvalue := digitsValue_rdropWhile F
  rcases List.eq_nil_or_concat (F.rdropWhile (· == '0')) with hF₂ | ⟨L, b, hF₂⟩
  · refine ⟨I₁, ['0'], by simp [hF₂], hI₁_digits, digits_zero, hI₁_value, ?_⟩
    rw [hF₂] at hvalue
    rw [← hvalue, show digitsValue ['0'] = 0 from rfl, zero_mul]
    exact (zero_mul _).symm
  · have hF₂_digits : Digits (F.rdropWhile (· == '0')) :=
      fun c hc => hF c ((List.rdropWhile_prefix _ _).subset hc)
    have hb : b ≠ '.' := not_point (hF₂_digits b (by simp [hF₂])).1
    refine ⟨I₁, _, ?_, hI₁_digits, hF₂_digits, hI₁_value, hvalue⟩
    rw [if_neg, hF₂]
    rw [hF₂, List.concat_eq_append, ← List.cons_append, ← List.append_assoc,
      List.getLast?_concat]
    exact fun h => hb (Option.some_inj.mp h)

/-- `format_units` prints digits, one point, and digits that read back the amount. -/
lemma formatUnits_eq (wei : ℕ) (units : UInt8) :
    ∃ I F, (formatUnits wei units).data = I ++ '.' :: F ∧ Digits I ∧ Digits F ∧
      digitsValue I * 10 ^ units.toNat + digitsValue F * 10 ^ (units.toNat - F.length) = wei := by
  obtain ⟨-, hdigits, hvalue⟩ := repr_spec wei
  have hP_digits : Digits (List.leftpad units.toNat '0' (Nat.repr wei).data) := by
    refine digits_append (fun c hc => ?_) hdigits
    rw [(List.mem_replicate.mp hc).2]
    decide
  have hP_value : digitsValue (List.leftpad units.toNat '0' (Nat.repr wei).data) = wei := by
    rw [List.leftpad, digitsValue_append, digitsValue_replicate_zero, zero_mul, zero_add, hvalue]
  have hP_len := List.leftpad_length units.toNat '0' (Nat.repr wei).data
  unfold formatUnits
  generalize List.leftpad units.toNat '0' (Nat.repr wei).data = P at hP_digits hP_value hP_len ⊢
  have hF_len : (P.drop (P.length - units.toNat)).length = units.toNat := by
    rw [List.length_drop]
    omega
  obtain ⟨I, F, h, hI, hF, hI_value, hF_value⟩ :=
    formatUnits_tail (I := P.take (P.length - units.toNat)) (F := P.drop (P.length - units.toNat))
      (fun c hc => hP_digits c (List.mem_of_mem_take hc))
      (fun c hc => hP_digits c (List.mem_of_mem_drop hc))
  refine ⟨I, F, h, hI, hF, ?_⟩
  rw [hF_len] at hF_value
  calc digitsValue I * 10 ^ units.toNat + digitsValue F * 10 ^ (units.toNat - F.length)
      = digitsValue (P.take (P.length - units.toNat) ++ P.drop (P.length - units.toNat)) := by
        rw [digitsValue_append, hF_len, hI_value, hF_value]
    _ = wei := by rw [List.take_append_drop, hP_value]

example :
    formatUnits 1500000 6 = "1.5" ∧ formatUnits 5 3 = "0.005" ∧ formatUnits 0 0 = "0.0" := by
  decide

/-! ## Fields -/

/-- Characters from `'.'` up: what the printed fields are made of. The separators that follow
them, a space, a comma and a line break, lie below. -/
def Printed (l : List Char) : Prop := ∀ c ∈ l, 46 ≤ c.toNat

lemma Digits.printed {l : List Char} (h : Digits l) : Printed l := fun c hc => by
  have := h c hc
  omega

lemma printed_append {l m : List Char} (hl : Printed l) (hm : Printed m) : Printed (l ++ m) := by
  intro c hc
  rcases List.mem_append.mp hc with hc | hc
  exacts [hl c hc, hm c hc]

lemma printed_formatUnits (wei : ℕ) (units : UInt8) : Printed (formatUnits wei units).data := by
  obtain ⟨I, F, h, hI, hF, -⟩ := formatUnits_eq wei units
  rw [h]
  exact printed_append hI.printed (fun c hc => by
    rcases List.mem_cons.mp hc with rfl | hc
    exacts [by decide, (hF c hc).1.trans' (by norm_num)])

lemma formatUnits_inj {m n : ℕ} {units : UInt8} (h : formatUnits m units = formatUnits n units) :
    m = n := by
  obtain ⟨I, F, hm, hI, -, hm_value⟩ := formatUnits_eq m units
  obtain ⟨I', F', hn, hI', -, hn_value⟩ := formatUnits_eq n units
  have not_mem {J : List Char} (hJ : Digits J) : '.' ∉ J := fun hm => absurd (hJ _ hm).1 (by decide)
  rw [h, hn] at hm
  obtain ⟨rfl, rfl⟩ := append_cons_cancel (not_mem hI') (not_mem hI) hm
  rw [← hm_value, hn_value]

lemma printed_repr (n : ℕ) : Printed (Nat.repr n).data := (repr_spec n).2.1.printed

lemma digitChar_inj {i j : ℕ} (hi : i < 16) (hj : j < 16)
    (h : Nat.digitChar i = Nat.digitChar j) : i = j := by
  have h := congrArg Char.toNat h
  rw [toNat_digitChar hi, toNat_digitChar hj] at h
  split_ifs at h <;> omega

lemma printed_debugHex (bytes : List UInt8) : Printed (debugHex bytes).data := by
  have hprefix : Printed "0x".data := by
    show ∀ c ∈ "0x".data, 46 ≤ c.toNat
    decide
  refine printed_append hprefix fun c hc => ?_
  obtain ⟨b, -, hc⟩ := List.mem_flatMap.mp hc
  have hb : b.toNat < 256 := b.val.isLt
  rcases List.mem_pair.mp hc with rfl | rfl <;> rw [toNat_digitChar (by omega)] <;> split_ifs <;>
    omega

/-- Two bytes each hex digit of which is the same are the same. -/
lemma debugHex_inj {a b : List UInt8} (hlen : a.length = b.length) (h : debugHex a = debugHex b) :
    a = b := by
  replace h := List.append_cancel_left (congrArg String.data h)
  induction a generalizing b with
  | nil => exact (List.length_eq_zero.mp hlen.symm).symm
  | cons x a ih =>
    cases b with
    | nil => cases hlen
    | cons y b =>
      obtain ⟨hhi, h⟩ := List.cons.inj h
      obtain ⟨hlo, h⟩ := List.cons.inj h
      have hx : x.toNat < 256 := x.val.isLt
      have hy : y.toNat < 256 := y.val.isLt
      have hhi := digitChar_inj (by omega) (by omega) hhi
      have hlo := digitChar_inj (by omega) (by omega) hlo
      rw [UInt8.toNat.inj (by omega : x.toNat = y.toNat),
        ih (Nat.succ.inj hlen) h]

/-! ## Reading the messages back -/

lemma split_printed {u v r r' : List Char} {c : Char} (hc : c.toNat < 46) (hu : Printed u)
    (hv : Printed v) (h : u ++ c :: r = v ++ c :: r') : u = v ∧ r = r' :=
  append_cons_cancel (fun hm => absurd (hu c hm) (by omega)) (fun hm => absurd (hv c hm) (by omega))
    h

lemma ne_empty_of_append {s t : String} (hs : s ≠ "") : s ++ t ≠ "" := fun h =>
  hs (String.ext (List.append_eq_nil.mp (congrArg String.data h)).1)

lemma push_ne_empty (s : String) (c : Char) : s.push c ≠ "" := fun h =>
  List.append_ne_nil_of_right_ne_nil s.data (List.cons_ne_nil c []) (congrArg String.data h)

/-- How both messages end: the fee line when the fee is not zero, then the nonce line. -/
def feeAndNonce (fee nonce : ℕ) (tokenSymbol : String) (decimals : UInt8) : List Char :=
  if fee ≠ 0 then
    "Fee: ".data ++ ((formatUnits fee decimals).data ++ ' ' ::
      (tokenSymbol.data ++ '\n' :: ("Nonce: ".data ++ (Nat.repr nonce).data)))
  else "Nonce: ".data ++ (Nat.repr nonce).data

lemma feeAndNonce_inj {fee₁ fee₂ nonce₁ nonce₂ : ℕ} {tokenSymbol : String} {decimals : UInt8}
    (h : feeAndNonce fee₁ nonce₁ tokenSymbol decimals =
      feeAndNonce fee₂ nonce₂ tokenSymbol decimals) :
    fee₁ = fee₂ ∧ nonce₁ = nonce₂ := by
  unfold feeAndNonce at h
  split_ifs at h with hfee₁ hfee₂ hfee₂
  · obtain ⟨hfee, h⟩ := split_printed (by decide) (printed_formatUnits _ _)
      (printed_formatUnits _ _) (List.append_cancel_left h)
    replace h := List.append_cancel_left (List.cons.inj (List.append_cancel_left h)).2
    exact ⟨formatUnits_inj (String.ext hfee), repr_inj (String.ext h)⟩
  · exact absurd (List.cons.inj h).1 (by decide)
  · exact absurd (List.cons.inj h).1 (by decide)
  · exact ⟨by omega, repr_inj (String.ext (List.append_cancel_left h))⟩

namespace ChangeGroup

lemma getEthereumSignMessage_data {tx : ChangeGroup} {tokenSymbol : String} {decimals : UInt8}
    (hamount : tx.amount ≠ 0) :
    (getEthereumSignMessage tx tokenSymbol decimals).data =
      "ChangeGroup ".data ++ ((formatUnits tx.amount decimals).data ++ ' ' ::
        (tokenSymbol.data ++ (" to: ".data ++ ((debugHex tx.to.bytes).data ++ ' ' ::
        ("from group: ".data ++ ((Nat.repr tx.group1).data ++ ' ' ::
        ("to group: ".data ++ ((Nat.repr tx.group2).data ++ '\n' ::
        feeAndNonce tx.fee tx.nonce tokenSymbol decimals)))))))) := by
  have hline : "ChangeGroup " ++ formatUnits tx.amount decimals ++ " " ++ tokenSymbol ++ " to: " ++
      debugHex tx.to.bytes ++ " from group: " ++ Nat.repr tx.group1 ++ " to group: " ++
      Nat.repr tx.group2 ≠ "" := by
    repeat' apply ne_empty_of_append
    decide
  unfold getEthereumSignMessage getEthereumSignMessagePart feeAndNonce
  dsimp only
  rw [if_pos hamount, if_pos hline]
  by_cases hfee : tx.fee = 0
  · rw [if_neg (not_not_intro hfee), if_neg (not_not_intro hfee), if_pos hline]
    simp only [String.data_append, String.data_push, List.append_assoc, List.singleton_append]
    rfl
  · rw [if_pos hfee, if_pos hfee, if_pos (ne_empty_of_append (push_ne_empty _ _))]
    simp only [String.data_append, String.data_push, List.append_assoc, List.singleton_append,
      List.cons_append]
    rfl

/-- A `ChangeGroup` message with an amount determines every field it prints. -/
lemma getEthereumSignMessage_inj {t₁ t₂ : ChangeGroup} {tokenSymbol : String} {decimals : UInt8}
    (h₁ : t₁.amount ≠ 0) (h₂ : t₂.amount ≠ 0)
    (h : getEthereumSignMessage t₁ tokenSymbol decimals =
      getEthereumSignMessage t₂ tokenSymbol decimals) :
    t₁.amount = t₂.amount ∧ t₁.fee = t₂.fee ∧ t₁.to = t₂.to ∧ t₁.group1 = t₂.group1 ∧
      t₁.group2 = t₂.group2 ∧ t₁.nonce = t₂.nonce := by
  replace h := congrArg String.data h
  rw [getEthereumSignMessage_data h₁, getEthereumSignMessage_data h₂] at h
  obtain ⟨hamount, h⟩ := split_printed (by decide) (printed_formatUnits _ _)
    (printed_formatUnits _ _) (List.append_cancel_left h)
  obtain ⟨hto, h⟩ := split_printed (by decide) (printed_debugHex _) (printed_debugHex _)
    (List.append_cancel_left (List.append_cancel_left h))
  obtain ⟨hgroup1, h⟩ := split_printed (by decide) (printed_repr _) (printed_repr _)
    (List.append_cancel_left h)
  obtain ⟨hgroup2, h⟩ := split_printed (by decide) (printed_repr _) (printed_repr _)
    (List.append_cancel_left h)
  obtain ⟨hfee, hnonce⟩ := feeAndNonce_inj h
  exact ⟨formatUnits_inj (String.ext hamount), hfee,
    H160.ext_bytes (debugHex_inj (t₁.to.length_bytes.trans t₂.to.length_bytes.symm)
      (String.ext hto)),
    Fin.ext (repr_inj (String.ext hgroup1)), Fin.ext (repr_inj (String.ext hgroup2)),
    Fin.ext hnonce⟩

end ChangeGroup

namespace MintNFT

lemma getEthereumSignMessage_data {tx : MintNFT} {tokenSymbol : String} {decimals : UInt8} :
    (getEthereumSignMessage tx tokenSymbol decimals).data =
      "MintNFT ".data ++ ((debugHex tx.contentHash.bytes).data ++ ' ' ::
        ("for: ".data ++ ((debugHex tx.recipient.bytes).data ++ ',' ::
        (" on group: ".data ++ ((Nat.repr tx.group).data ++ '\n' ::
        feeAndNonce tx.fee tx.nonce tokenSymbol decimals))))) := by
  have hline : "MintNFT " ++ debugHex tx.contentHash.bytes ++ " for: " ++
      debugHex tx.recipient.bytes ++ ", on group: " ++ Nat.repr tx.group ≠ "" := by
    repeat' apply ne_empty_of_append
    decide
  unfold getEthereumSignMessage getEthereumSignMessagePart feeAndNonce
  dsimp only
  by_cases hfee : tx.fee = 0
  · rw [if_neg (not_not_intro hfee), if_neg (not_not_intro hfee), if_pos hline]
    simp only [String.data_append, String.data_push, List.append_assoc, List.singleton_append]
    rfl
  · rw [if_pos hfee, if_pos hfee, if_pos (ne_empty_of_append (push_ne_empty _ _))]
    simp only [String.data_append, String.data_push, List.append_assoc, List.singleton_append,
      List.cons_append]
    rfl

/-- A `MintNFT` message determines every field it prints. -/
lemma getEthereumSignMessage_inj {t₁ t₂ : MintNFT} {tokenSymbol : String} {decimals : UInt8}
    (h : getEthereumSignMessage t₁ tokenSymbol decimals =
      getEthereumSignMessage t₂ tokenSymbol decimals) :
    t₁.contentHash = t₂.contentHash ∧ t₁.recipient = t₂.recipient ∧ t₁.group = t₂.group ∧
      t₁.fee = t₂.fee ∧ t₁.nonce = t₂.nonce := by
  replace h := congrArg String.data h
  rw [getEthereumSignMessage_data, getEthereumSignMessage_data] at h
  obtain ⟨hcontent, h⟩ := split_printed (by decide) (printed_debugHex _) (printed_debugHex _)
    (List.append_cancel_left h)
  obtain ⟨hrecipient, h⟩ := split_printed (by decide) (printed_debugHex _) (printed_debugHex _)
    (List.append_cancel_left h)
  obtain ⟨hgroup, h⟩ := split_printed (by decide) (printed_repr _) (printed_repr _)
    (List.append_cancel_left h)
  obtain ⟨hfee, hnonce⟩ := feeAndNonce_inj h
  exact ⟨H256.ext_bytes (debugHex_inj
      (t₁.contentHash.length_bytes.trans t₂.contentHash.length_bytes.symm) (String.ext hcontent)),
    H160.ext_bytes (debugHex_inj (t₁.recipient.length_bytes.trans t₂.recipient.length_bytes.symm)
      (String.ext hrecipient)),
    Fin.ext (repr_inj (String.ext hgroup)), hfee, Fin.ext hnonce⟩

end MintNFT

/-! ## The two messages -/

/-- For any token symbol and number of decimals, a `ChangeGroup` message with an amount and a
`MintNFT` message each determine every field they print: a base-chain signature over one
authorizes one set of parameters. -/
theorem getEthereumSignMessage_determines_fields (tokenSymbol : String) (decimals : UInt8) :
    (∀ t₁ t₂ : ChangeGroup, t₁.amount ≠ 0 → t₂.amount ≠ 0 →
      ChangeGroup.getEthereumSignMessage t₁ tokenSymbol decimals =
        ChangeGroup.getEthereumSignMessage t₂ tokenSymbol decimals →
      t₁.amount = t₂.amount ∧ t₁.fee = t₂.fee ∧ t₁.to = t₂.to ∧ t₁.group1 = t₂.group1 ∧
        t₁.group2 = t₂.group2 ∧ t₁.nonce = t₂.nonce) ∧
    (∀ t₁ t₂ : MintNFT, MintNFT.getEthereumSignMessage t₁ tokenSymbol decimals =
        MintNFT.getEthereumSignMessage t₂ tokenSymbol decimals →
      t₁.contentHash = t₂.contentHash ∧ t₁.recipient = t₂.recipient ∧ t₁.group = t₂.group ∧
        t₁.fee = t₂.fee ∧ t₁.nonce = t₂.nonce) :=
  ⟨fun _ _ => ChangeGroup.getEthereumSignMessage_inj,
    fun _ _ => MintNFT.getEthereumSignMessage_inj⟩

end ModularRollup.SignMessage
