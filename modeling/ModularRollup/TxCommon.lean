import ModularRollup.AmountCodec

/-! What the transaction kinds share: the validity window, the rollup signature with its
signer cache, the Ethereum signature forms, and the primitives and server settings the checks
read. Modelled from the spec: `TimeRange`, `TxSignature`, `VerifiedSignatureCache`,
`TxEthSignature` and the signature primitives are not under src/. -/
namespace ModularRollup.TxCommon
open Primitives

/-- Rust's `u64`. -/
abbrev U64 := Fin 18446744073709551616

structure TimeRange where
  validFrom : U64
  validUntil : U64
  deriving DecidableEq, Repr

/-- `TimeRange::default()`: valid from 0 until `u64::MAX`. -/
instance : Inhabited TimeRange := ⟨⟨0, Fin.last _⟩⟩

/-- `TimeRange::check_correctness`: only the window's own consistency, not the current time. -/
def TimeRange.checkCorrectness (r : TimeRange) : Bool := r.validFrom ≤ r.validUntil

def TimeRange.asBeBytes (r : TimeRange) : List UInt8 :=
  toBeBytes 8 r.validFrom ++ toBeBytes 8 r.validUntil

/-- `TxSignature`: the signer's packed public key and the packed signature. -/
structure TxSignature where
  pubKey : List UInt8
  signature : List UInt8
  deriving DecidableEq, Repr

instance : Inhabited TxSignature := ⟨⟨[], []⟩⟩

inductive TxVersion
  | legacy
  | v1
  deriving DecidableEq, Repr

/-- The signer recovered from a rollup signature, once computed. -/
inductive VerifiedSignatureCache
  | cached (signer : Option (PubKeyHash × TxVersion))
  | notCached
  deriving DecidableEq

/-- `PackedEthSignature`: a recoverable ECDSA signature. -/
structure PackedEthSignature where
  bytes : List UInt8
  deriving DecidableEq, Repr

/-- `EIP1271Signature`: a signature a contract wallet checks itself. -/
structure EIP1271Signature where
  bytes : List UInt8
  deriving DecidableEq, Repr

inductive TxEthSignature
  | ethereumSignature (signature : PackedEthSignature)
  | eip1271Signature (signature : EIP1271Signature)
  deriving DecidableEq, Repr

/-- The signature primitives the checks call. -/
structure Crypto where
  /-- `TxSignature::verify_musig`: the packed public key, when the signature verifies. -/
  verifyMusig : TxSignature → List UInt8 → Option (List UInt8)
  /-- `PubKeyHash::from_pubkey`. -/
  pubKeyHashFromPubkey : List UInt8 → PubKeyHash
  /-- `PackedEthSignature::signature_recover_signer`. -/
  recoverSigner : PackedEthSignature → List UInt8 → Option Address

/-- The settings `check_correctness` reads with `parse_env`. -/
structure ServerConfig where
  serverGroupId : U16
  serverPermissioned : Bool

/-- The uncached recovery every kind's `verify_signature` falls back to:
`signature.verify_musig(bytes).map(|pub_key| (PubKeyHash::from_pubkey(&pub_key), TxVersion::V1))`. -/
def Crypto.musigSigner (crypto : Crypto) (signature : TxSignature) (bytes : List UInt8) :
    Option (PubKeyHash × TxVersion) :=
  (crypto.verifyMusig signature bytes).map fun pubKey => (crypto.pubKeyHashFromPubkey pubKey, .v1)

/-! What the kinds' `verify_signature` and `check_correctness` have in common. -/

/-- `verify_signature` of a transaction kind: the cached signer, or the one recovered from the
signature over the kind's bytes. -/
def verifySignatureWith (crypto : Crypto) (cachedSigner : VerifiedSignatureCache)
    (signature : TxSignature) (getBytes : Run Empty (List UInt8)) :
    Run Empty (Option (PubKeyHash × TxVersion)) :=
  match cachedSigner with
  | .cached signer => pure signer
  | .notCached => do
    let bytes ← getBytes
    pure (crypto.musigSigner signature bytes)

/-- `verify_signature` returns when the signer is cached or the bytes encode. -/
lemma verifySignatureWith_isOk {crypto : Crypto} {cachedSigner : VerifiedSignatureCache}
    {signature : TxSignature} {getBytes : Run Empty (List UInt8)}
    (h : cachedSigner ≠ .notCached ∨ ∃ bytes, getBytes = .ok bytes) :
    ∃ signer, verifySignatureWith crypto cachedSigner signature getBytes = .ok signer := by
  rcases cachedSigner with signer | _
  · exact ⟨signer, rfl⟩
  · obtain ⟨bytes, hb⟩ := h.resolve_left (absurd rfl)
    exact ⟨crypto.musigSigner signature bytes, by
      simp only [verifySignatureWith, hb, Run.ok_bind, Run.pure_eq]⟩

/-- The whitelist checks that open `check_correctness` in permissioned mode. -/
def permissionError {ε : Type} (permissioned senderAutorisation receiverAutorisation : Bool)
    (notAllowedSender notAllowedDestination : ε) : Option ε :=
  if permissioned then
    if !senderAutorisation then some notAllowedSender
    else if !receiverAutorisation then some notAllowedDestination
    else none
  else none

/-- The end of every `check_correctness`: the first failed field check; otherwise the signer
recovered from the signature is cached on the transaction, and its absence is
`WrongSignature`. -/
def checkAndCacheSigner {τ ε : Type} (fieldError : Option ε) (wrongSignature : ε)
    (verifySignature : Run Empty (Option (PubKeyHash × TxVersion)))
    (cacheSigner : VerifiedSignatureCache → τ) (tx : τ) : Exec τ ε Unit :=
  match fieldError, verifySignature with
  | some e, _ => .err e tx
  | none, .ok signer =>
    if signer.isNone then .err wrongSignature (cacheSigner (.cached signer))
    else .ok () (cacheSigner (.cached signer))
  | none, .err e => e.elim
  | none, .panic m => .panic m

lemma permissionError_eq_none {ε : Type} {permissioned s r : Bool} {a b : ε}
    (h : permissionError permissioned s r a b = none) (hp : permissioned = true) :
    s = true ∧ r = true := by
  subst hp
  cases s <;> cases r <;> simp_all [permissionError]

/-- A `check_correctness` that passes had no failed field check, and cached the signer it
recovered. -/
lemma checkAndCacheSigner_ok {τ ε : Type} {fieldError : Option ε} {wrongSignature : ε}
    {verifySignature : Run Empty (Option (PubKeyHash × TxVersion))}
    {cacheSigner : VerifiedSignatureCache → τ} {tx tx' : τ} :
    checkAndCacheSigner fieldError wrongSignature verifySignature cacheSigner tx = .ok () tx' ↔
      fieldError = none ∧ ∃ signer, verifySignature = .ok (some signer) ∧
        tx' = cacheSigner (.cached (some signer)) := by
  rcases fieldError with _ | e <;> rcases verifySignature with (_ | signer) | e' | m <;>
    simp [checkAndCacheSigner, eq_comm]
  exact e'.elim

/-! ## The signer cache

Each signed kind keeps the signer it recovered in `cached_signer`, which only `new`,
`check_correctness` and `wipe_signer_cache` write. Stated once over what the kinds share. -/

/-- What a signed kind's `verify_signature` reads, and the copy of a value with another cache,
which keeps the signature and the bytes. -/
structure SignerCache (τ : Type) where
  cachedSigner : τ → VerifiedSignatureCache
  signature : τ → TxSignature
  getBytes : τ → Run Empty (List UInt8)
  setCache : τ → VerifiedSignatureCache → τ
  cachedSigner_setCache : ∀ tx c, cachedSigner (setCache tx c) = c
  signature_setCache : ∀ tx c, signature (setCache tx c) = signature tx
  getBytes_setCache : ∀ tx c, getBytes (setCache tx c) = getBytes tx

namespace SignerCache

variable {τ ε : Type} (K : SignerCache τ) (crypto : Crypto)

def verifySignature (tx : τ) : Run Empty (Option (PubKeyHash × TxVersion)) :=
  verifySignatureWith crypto (K.cachedSigner tx) (K.signature tx) (K.getBytes tx)

/-- `signature.verify_musig(get_bytes())` mapped to its key hash: recovery past the cache. -/
def recoverSigner (tx : τ) : Run Empty (Option (PubKeyHash × TxVersion)) :=
  K.getBytes tx >>= fun bytes => pure (crypto.musigSigner (K.signature tx) bytes)

/-- The cache agrees with the signature: `verify_signature` gives what recovery gives. -/
def Sound (tx : τ) : Prop := K.verifySignature crypto tx = K.recoverSigner crypto tx

/-- A kind's `check_correctness`, given its field checks. -/
def check (fieldError : τ → Option ε) (wrongSignature : ε) (tx : τ) : Exec τ ε Unit :=
  checkAndCacheSigner (fieldError tx) wrongSignature (K.verifySignature crypto tx) (K.setCache tx)
    tx

lemma sound_of_notCached {tx : τ} (h : K.cachedSigner tx = .notCached) : K.Sound crypto tx := by
  rw [Sound, verifySignature, h]
  rfl

lemma sound_setCache_notCached (tx : τ) : K.Sound crypto (K.setCache tx .notCached) :=
  K.sound_of_notCached crypto (K.cachedSigner_setCache tx _)

lemma recoverSigner_setCache (tx : τ) (c : VerifiedSignatureCache) :
    K.recoverSigner crypto (K.setCache tx c) = K.recoverSigner crypto tx := by
  rw [recoverSigner, K.signature_setCache, K.getBytes_setCache, recoverSigner]

lemma verifySignature_setCache_cached (tx : τ) (signer : Option (PubKeyHash × TxVersion)) :
    K.verifySignature crypto (K.setCache tx (.cached signer)) = .ok signer := by
  rw [verifySignature, K.cachedSigner_setCache]
  rfl

/-- Caching what `verify_signature` returned keeps the cache sound. -/
lemma sound_setCache_cached {tx : τ} {signer : Option (PubKeyHash × TxVersion)}
    (hs : K.Sound crypto tx) (h : K.verifySignature crypto tx = .ok signer) :
    K.Sound crypto (K.setCache tx (.cached signer)) := by
  rw [Sound, verifySignature_setCache_cached, recoverSigner_setCache, ← hs, h]

/-- What every kind's `new` does with the signature it is given: it caches what
`verify_signature` recovers on the value it built, whose cache is empty. -/
lemma sound_new {tx₀ tx : τ} {signature : Option TxSignature}
    (h : (match signature with
      | none => pure tx₀
      | some _ => do
        let signer ← K.verifySignature crypto tx₀
        pure (K.setCache tx₀ (.cached signer))) = Run.ok tx)
    (h₀ : K.cachedSigner tx₀ = .notCached) : K.Sound crypto tx := by
  rcases signature with _ | signature
  · cases h
    exact K.sound_of_notCached crypto h₀
  · obtain ⟨signer, hv, h⟩ := Run.bind_eq_ok.mp h
    cases h
    exact K.sound_setCache_cached crypto (K.sound_of_notCached crypto h₀) hv

lemma state_checkAndCacheSigner_ok {wrongSignature : ε} {signer : Option (PubKeyHash × TxVersion)}
    {cacheSigner : VerifiedSignatureCache → τ} {tx : τ} :
    (checkAndCacheSigner none wrongSignature (.ok signer) cacheSigner tx).state =
      some (cacheSigner (.cached signer)) := by
  simp only [checkAndCacheSigner]
  split_ifs <;> rfl

/-- What a check returns depends on the field checks and the signer only. -/
lemma result_checkAndCacheSigner {fieldError : Option ε} {wrongSignature : ε}
    {verifySignature : Run Empty (Option (PubKeyHash × TxVersion))}
    {cacheSigner cacheSigner' : VerifiedSignatureCache → τ} {tx tx' : τ} :
    (checkAndCacheSigner fieldError wrongSignature verifySignature cacheSigner tx).result =
      (checkAndCacheSigner fieldError wrongSignature verifySignature cacheSigner' tx').result := by
  rcases fieldError with _ | e <;> rcases verifySignature with signer | e' | m
  · simp only [checkAndCacheSigner]
    split_ifs <;> rfl
  · exact e'.elim
  all_goals rfl

section Check

variable {fieldError : τ → Option ε} {wrongSignature : ε}

/-- `check_correctness` keeps the cache sound, whether it passes or fails. -/
lemma sound_check {tx tx' : τ} (hs : K.Sound crypto tx)
    (h : (K.check crypto fieldError wrongSignature tx).state = some tx') : K.Sound crypto tx' := by
  unfold check at h
  rcases hfield : fieldError tx with _ | e <;> rw [hfield] at h
  · rcases hv : K.verifySignature crypto tx with signer | e | m <;> rw [hv] at h
    · rw [state_checkAndCacheSigner_ok, Option.some_inj] at h
      exact h ▸ K.sound_setCache_cached crypto hs hv
    · exact e.elim
    · cases h
  · cases h
    exact hs

variable (hfield : ∀ tx c, fieldError (K.setCache tx c) = fieldError tx)
include hfield

/-- A second `check_correctness` returns what the first returned: it reads the signer the first
one cached, and fields the first one did not change. -/
lemma result_check_twice {tx tx' : τ}
    (h : (K.check crypto fieldError wrongSignature tx).state = some tx') :
    (K.check crypto fieldError wrongSignature tx').result =
      (K.check crypto fieldError wrongSignature tx).result := by
  unfold check at h ⊢
  rcases hfe : fieldError tx with _ | e <;> rw [hfe] at h
  · rcases hv : K.verifySignature crypto tx with signer | e | m <;> rw [hv] at h
    · rw [state_checkAndCacheSigner_ok, Option.some_inj] at h
      subst h
      rw [hfield, hfe, verifySignature_setCache_cached]
      exact result_checkAndCacheSigner
    · exact e.elim
    · cases h
  · cases h
    rw [hfe]

/-- On a sound cache, `check_correctness` returns what it returns on the copy with no cache. -/
lemma result_check_setCache_notCached {tx : τ} (hs : K.Sound crypto tx) :
    (K.check crypto fieldError wrongSignature (K.setCache tx .notCached)).result =
      (K.check crypto fieldError wrongSignature tx).result := by
  have hv : K.verifySignature crypto (K.setCache tx .notCached) = K.verifySignature crypto tx := by
    rw [K.sound_setCache_notCached crypto tx, recoverSigner_setCache, hs]
  rw [check, check, hfield, hv]
  exact result_checkAndCacheSigner

end Check

end SignerCache

end ModularRollup.TxCommon
