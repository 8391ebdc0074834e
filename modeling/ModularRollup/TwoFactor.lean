import ModularRollup.Sdk

/-! Two-factor authentication: `Toggle2FA` of the API (core/lib/api_types/src/v02/transaction.rs),
the request whose message a base-chain key signs to turn the check of its signatures on an
account's transactions on or off, and the account type the storage keeps for it
(core/lib/storage/src/chain/account/records.rs).

The message is ASCII, so its bytes read back as its characters, and they determine the request.
The storage keeps an account type as a kind and an optional key hash. -/
namespace ModularRollup.TwoFactor
open Primitives ChangeGroupTx Transactions SignMessage Sdk

/-! ## Bytes of ASCII text -/

/-- Characters that UTF-8 writes as one byte. -/
def Ascii (l : List Char) : Prop := ∀ c ∈ l, c.toNat < 128

instance (l : List Char) : Decidable (Ascii l) := inferInstanceAs (Decidable (∀ c ∈ l, _))

lemma ascii_append {l m : List Char} (hl : Ascii l) (hm : Ascii m) : Ascii (l ++ m) := by
  intro c hc
  rcases List.mem_append.mp hc with hc | hc
  exacts [hl c hc, hm c hc]

lemma utf8EncodeChar_of_ascii {c : Char} (h : c.toNat < 128) :
    String.utf8EncodeChar c = [c.val.toUInt8] := by
  have hv : c.val ≤ 0x7f := by
    rw [UInt32.le_def, BitVec.le_def]
    exact Nat.le_of_lt_succ h
  simp only [String.utf8EncodeChar, if_pos hv]

lemma toUInt8_inj {c d : Char} (hc : c.toNat < 128) (hd : d.toNat < 128)
    (h : c.val.toUInt8 = d.val.toUInt8) : c = d := by
  have h : c.toNat % 256 = d.toNat % 256 := congrArg UInt8.toNat h
  exact Char.ext (UInt32.toNat.inj (by change c.toNat = d.toNat; omega))

lemma flatMap_utf8EncodeChar_cons {c : Char} (l : List Char) (hc : c.toNat < 128) :
    (c :: l).flatMap String.utf8EncodeChar = c.val.toUInt8 :: l.flatMap String.utf8EncodeChar := by
  rw [List.flatMap_cons, utf8EncodeChar_of_ascii hc, List.singleton_append]

lemma flatMap_utf8EncodeChar_inj {l m : List Char} (hl : Ascii l) (hm : Ascii m)
    (h : l.flatMap String.utf8EncodeChar = m.flatMap String.utf8EncodeChar) : l = m := by
  induction l generalizing m with
  | nil =>
    cases m with
    | nil => rfl
    | cons d m => cases h.trans (flatMap_utf8EncodeChar_cons m (hm d (List.mem_cons_self _ _)))
  | cons c l ih =>
    have hc := hl c (List.mem_cons_self _ _)
    cases m with
    | nil => cases (flatMap_utf8EncodeChar_cons l hc).symm.trans h
    | cons d m =>
      have hd := hm d (List.mem_cons_self _ _)
      rw [flatMap_utf8EncodeChar_cons l hc, flatMap_utf8EncodeChar_cons m hd] at h
      obtain ⟨hcd, h⟩ := List.cons.inj h
      rw [toUInt8_inj hc hd hcd, ih (fun a ha => hl a (List.mem_cons_of_mem _ ha))
        (fun a ha => hm a (List.mem_cons_of_mem _ ha)) h]

/-- ASCII text is the same as its bytes. -/
lemma asBytes_inj {s t : String} (hs : Ascii s.data) (ht : Ascii t.data)
    (h : asBytes s = asBytes t) : s = t :=
  String.ext (flatMap_utf8EncodeChar_inj hs ht h)

/-! ## `Toggle2FA` -/

/-- `PubKeyHash::as_hex` of `zksync_types`, which is not under src/: `sync:`, then the bytes as
`hex::encode` prints them, two lowercase hex digits each. -/
def asHex (hash : PubKeyHash) : String :=
  "sync:" ++ String.mk (hash.data.bytes.flatMap fun b =>
    [Nat.digitChar (b.toNat / 16), Nat.digitChar (b.toNat % 16)])

/-- `Toggle2FA`, with the fields its message reads; the `DateTime<Utc>` timestamp is the
milliseconds `timestamp_millis` gives, the precision `ts_milliseconds` deserialises. -/
structure Toggle2FA where
  enable : Bool
  timestamp : ℤ
  pubKeyHash : Option PubKeyHash
  deriving DecidableEq

namespace Toggle2FA

/-- The text of either branch of `get_ethereum_sign_message`, up to the timestamp. -/
def timestampHeader (enable : Bool) : String :=
  if enable then
    "By signing this message, you are opting into Two-factor Authentication protection by the " ++
      "zkSync Server.\nTransactions now require signatures by both your L1 and L2 private key.\n" ++
      "Timestamp: "
  else
    "You are opting out of Two-factor Authentication protection by the zkSync Server.\n" ++
      "Transactions now only require signatures by your L2 private key.\n" ++
      "BY SIGNING THIS MESSAGE, YOU ARE TRUSTING YOUR WALLET CLIENT TO KEEP YOUR L2 PRIVATE KEY " ++
      "SAFE!\nTimestamp: "

/-- `Toggle2FA::get_ethereum_sign_message`; Rust prints the `i64` of `timestamp_millis` as
`Int.repr` does. -/
def getEthereumSignMessage (t : Toggle2FA) : String :=
  let message := timestampHeader t.enable ++ t.timestamp.repr
  match t.pubKeyHash with
  | some hash => message ++ "\nPubKeyHash: " ++ asHex hash
  | none => message

/-- What follows the timestamp: a line with the key hash, when the request names one. -/
def pubKeyHashLine : Option PubKeyHash → List Char
  | some hash => '\n' :: ("PubKeyHash: ".data ++ (asHex hash).data)
  | none => []

lemma getEthereumSignMessage_data (t : Toggle2FA) : t.getEthereumSignMessage.data =
    (timestampHeader t.enable).data ++ (t.timestamp.repr.data ++ pubKeyHashLine t.pubKeyHash) := by
  unfold getEthereumSignMessage
  cases t.pubKeyHash with
  | none => simp only [pubKeyHashLine, String.data_append, List.append_nil]
  | some hash =>
    simp only [pubKeyHashLine, String.data_append, List.append_assoc]
    rfl

/-! ### Reading the message back -/

lemma timestampHeader_inj {e₁ e₂ : Bool} {r₁ r₂ : List Char}
    (h : (timestampHeader e₁).data ++ r₁ = (timestampHeader e₂).data ++ r₂) : e₁ = e₂ ∧ r₁ = r₂ := by
  cases e₁ <;> cases e₂
  · exact ⟨rfl, List.append_cancel_left h⟩
  · exact absurd (List.cons.inj h).1 (by decide)
  · exact absurd (List.cons.inj h).1 (by decide)
  · exact ⟨rfl, List.append_cancel_left h⟩

lemma repr_data_negSucc (m : ℕ) : (Int.negSucc m).repr.data = '-' :: (Nat.repr (m + 1)).data :=
  rfl

lemma newline_not_mem_repr (z : ℤ) : '\n' ∉ z.repr.data := fun hm => by
  cases z with
  | ofNat m => exact absurd ((repr_spec m).2.1 _ hm).1 (by decide)
  | negSucc m =>
    rw [repr_data_negSucc] at hm
    rcases List.mem_cons.mp hm with h | h
    exacts [absurd h (by decide), absurd ((repr_spec (m + 1)).2.1 _ h).1 (by decide)]

/-- `Display` of an integer is one-to-one: a sign is never a digit. -/
lemma repr_inj {a b : ℤ} (h : a.repr.data = b.repr.data) : a = b := by
  have hminus : ∀ m, '-' ∉ (Nat.repr m).data := fun m hm =>
    absurd ((repr_spec m).2.1 _ hm).1 (by decide)
  cases a with
  | ofNat m =>
    cases b with
    | ofNat n => exact congrArg _ (SignMessage.repr_inj (String.ext h))
    | negSucc n => exact absurd (h ▸ List.mem_cons_self _ _ : '-' ∈ (Nat.repr m).data) (hminus m)
  | negSucc m =>
    cases b with
    | ofNat n => exact absurd (h ▸ List.mem_cons_self _ _ : '-' ∈ (Nat.repr n).data) (hminus n)
    | negSucc n =>
      rw [repr_data_negSucc, repr_data_negSucc] at h
      have := SignMessage.repr_inj (String.ext (List.cons.inj h).2)
      exact congrArg _ (by omega)

lemma asHex_inj {h₁ h₂ : PubKeyHash} (h : asHex h₁ = asHex h₂) : h₁ = h₂ := by
  obtain ⟨d₁⟩ := h₁
  obtain ⟨d₂⟩ := h₂
  have hdigits := List.append_cancel_left (congrArg String.data h)
  have hhex : debugHex d₁.bytes = debugHex d₂.bytes := congrArg (fun l => "0x" ++ String.mk l) hdigits
  exact congrArg _ (H160.ext_bytes (debugHex_inj (d₁.length_bytes.trans d₂.length_bytes.symm) hhex))

lemma timestamp_inj {z₁ z₂ : ℤ} {p₁ p₂ : Option PubKeyHash}
    (h : z₁.repr.data ++ pubKeyHashLine p₁ = z₂.repr.data ++ pubKeyHashLine p₂) :
    z₁ = z₂ ∧ p₁ = p₂ := by
  cases p₁ with
  | none =>
    cases p₂ with
    | none => exact ⟨repr_inj (by simpa [pubKeyHashLine] using h), rfl⟩
    | some hash =>
      simp only [pubKeyHashLine, List.append_nil] at h
      exact absurd (h ▸ List.mem_append_right _ (List.mem_cons_self _ _)) (newline_not_mem_repr z₁)
  | some hash₁ =>
    cases p₂ with
    | none =>
      simp only [pubKeyHashLine, List.append_nil] at h
      exact absurd (h ▸ List.mem_append_right _ (List.mem_cons_self _ _)) (newline_not_mem_repr z₂)
    | some hash₂ =>
      obtain ⟨hz, hline⟩ := append_cons_cancel (newline_not_mem_repr _) (newline_not_mem_repr _) h
      exact ⟨repr_inj hz, congrArg some (asHex_inj (String.ext (List.append_cancel_left hline)))⟩

/-! ### The message is ASCII -/

set_option maxRecDepth 2000 in
lemma ascii_timestampHeader (enable : Bool) : Ascii (timestampHeader enable).data := by
  cases enable <;> decide

lemma ascii_repr (z : ℤ) : Ascii z.repr.data := by
  have hdigits : ∀ m, Ascii (Nat.repr m).data := fun m c hc => by
    have := (repr_spec m).2.1 c hc
    omega
  cases z with
  | ofNat m => exact hdigits m
  | negSucc m =>
    rw [repr_data_negSucc]
    exact ascii_append (l := ['-']) (by decide) (hdigits _)

lemma ascii_pubKeyHashLine (p : Option PubKeyHash) : Ascii (pubKeyHashLine p) := by
  cases p with
  | none => exact fun _ h => absurd h (List.not_mem_nil _)
  | some hash =>
    refine ascii_append (l := "\nPubKeyHash: sync:".data) (by decide) fun c hc => ?_
    obtain ⟨b, -, hc⟩ := List.mem_flatMap.mp hc
    have hb : b.toNat < 256 := b.val.isLt
    rcases List.mem_pair.mp hc with rfl | rfl <;> rw [toNat_digitChar (by omega)] <;> split_ifs <;>
      omega

lemma ascii_getEthereumSignMessage (t : Toggle2FA) : Ascii t.getEthereumSignMessage.data := by
  rw [getEthereumSignMessage_data]
  exact ascii_append (ascii_timestampHeader _) (ascii_append (ascii_repr _) (ascii_pubKeyHashLine _))

/-- The bytes a base-chain key signs for a `Toggle2FA` determine the request: whether 2FA is
turned on or off, the timestamp, and the key hash it names, if any. A signature for one
request never passes for another. -/
theorem getEthereumSignMessage_determines_request :
    Function.Injective fun t : Toggle2FA => asBytes t.getEthereumSignMessage := by
  intro t₁ t₂ h
  have h := congrArg String.data (asBytes_inj (ascii_getEthereumSignMessage t₁)
    (ascii_getEthereumSignMessage t₂) h)
  rw [getEthereumSignMessage_data, getEthereumSignMessage_data] at h
  obtain ⟨henable, h⟩ := timestampHeader_inj h
  obtain ⟨htimestamp, hhash⟩ := timestamp_inj h
  cases t₁
  cases t₂
  rw [Toggle2FA.mk.injEq]
  exact ⟨henable, htimestamp, hhash⟩

end Toggle2FA

/-! ## The account type in storage -/

/-- `DbAccountType`, the `eth_account_type` column. -/
inductive DbAccountType
  | owned
  | create2
  | no2FA
  deriving DecidableEq

/-- `EthAccountType`: whose signatures the server checks on an account's transactions; `No2FA`
may name the one key hash whose transactions go without a base-chain signature. -/
inductive EthAccountType
  | owned
  | create2
  | no2FA (hash : Option PubKeyHash)
  deriving DecidableEq

namespace EthAccountType

def fromDb (accountType : DbAccountType) (pubKeyHash : Option PubKeyHash) : EthAccountType :=
  match accountType with
  | .owned => .owned
  | .create2 => .create2
  | .no2FA => .no2FA pubKeyHash

def intoDbTypes : EthAccountType → DbAccountType × Option PubKeyHash
  | .owned => (.owned, none)
  | .create2 => (.create2, none)
  | .no2FA hash => (.no2FA, hash)

end EthAccountType

end ModularRollup.TwoFactor
