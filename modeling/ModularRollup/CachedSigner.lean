import ModularRollup.Transactions

/-! The signer cache of `ChangeGroup`, `Transfer` and `MintNFT`. On every value a program holds
without writing its fields, `verify_signature` gives what recovery over the bytes gives, so the
cache is never the only source of the signer: `check_correctness` returns the same the second
time, and the same on a copy with no cache. -/
namespace ModularRollup.CachedSigner
open Primitives TxCommon ChangeGroupTx Transactions

variable (crypto : Crypto)

namespace ChangeGroup

def signerCache : SignerCache ChangeGroup where
  cachedSigner := ChangeGroup.cachedSigner
  signature := ChangeGroup.signature
  getBytes := ChangeGroup.getBytes
  setCache tx c := { tx with cachedSigner := c }
  cachedSigner_setCache _ _ := rfl
  signature_setCache _ _ := rfl
  getBytes_setCache _ _ := rfl

lemma fieldError_setCache (config : ServerConfig) (tx : ChangeGroup)
    (c : VerifiedSignatureCache) :
    ChangeGroup.fieldError config (signerCache.setCache tx c) = ChangeGroup.fieldError config tx :=
  rfl

/-- The `ChangeGroup`s a program holds without writing their fields: made by `new`, with a
signature or without, by `new_signed`, or by deserialization, which skips the cache; then taken
through any run of `check_correctness` and `wipe_signer_cache`. -/
inductive Reachable : ChangeGroup → Prop
  | new {accountId : AccountId} {«from» «to» : Address} {token : TokenId} {amount fee : ℕ}
      {group1 group2 : U16} {nonce : Nonce} {timeRange : TimeRange}
      {signature : Option TxSignature} {tx : ChangeGroup} :
      ChangeGroup.new crypto accountId «from» «to» token amount fee group1 group2 nonce timeRange
        signature = .ok tx → Reachable tx
  | newSigned {config : ServerConfig} {signMusig : List UInt8 → TxSignature}
      {accountId : AccountId} {«from» «to» : Address} {token : TokenId} {amount fee : ℕ}
      {group1 group2 : U16} {nonce : Nonce} {timeRange : TimeRange} {tx : ChangeGroup} :
      ChangeGroup.newSigned crypto config signMusig accountId «from» «to» token amount fee group1
        group2 nonce timeRange = .ok tx → Reachable tx
  | deserialized {tx : ChangeGroup} : tx.cachedSigner = .notCached → Reachable tx
  | checkCorrectness {config : ServerConfig} {tx tx' : ChangeGroup} :
      Reachable tx → (tx.checkCorrectness crypto config).state = some tx' → Reachable tx'
  | wipeSignerCache {tx : ChangeGroup} : Reachable tx → Reachable tx.wipeSignerCache

lemma sound_checkCorrectness {config : ServerConfig} {tx tx' : ChangeGroup}
    (hs : signerCache.Sound crypto tx) (h : (tx.checkCorrectness crypto config).state = some tx') :
    signerCache.Sound crypto tx' :=
  signerCache.sound_check crypto hs h

lemma sound_newSigned {config : ServerConfig} {signMusig : List UInt8 → TxSignature}
    {accountId : AccountId} {«from» «to» : Address} {token : TokenId} {amount fee : ℕ}
    {group1 group2 : U16} {nonce : Nonce} {timeRange : TimeRange} {tx : ChangeGroup}
    (h : ChangeGroup.newSigned crypto config signMusig accountId «from» «to» token amount fee
      group1 group2 nonce timeRange = .ok tx) : signerCache.Sound crypto tx := by
  unfold ChangeGroup.newSigned at h
  obtain ⟨tx₀, h₀, h⟩ := Run.bind_eq_ok.mp h
  have hnc : tx₀.cachedSigner = .notCached := by
    cases Run.lift_eq_ok.mp h₀
    rfl
  obtain ⟨bytes, -, h⟩ := Run.bind_eq_ok.mp h
  dsimp only at h
  split at h
  next tx' hc =>
    cases h
    have hs : signerCache.Sound crypto { tx₀ with signature := signMusig bytes } :=
      signerCache.sound_of_notCached crypto hnc
    exact sound_checkCorrectness crypto hs (congrArg Exec.state hc)
  all_goals cases h

theorem Reachable.sound {tx : ChangeGroup} (h : Reachable crypto tx) :
    signerCache.Sound crypto tx := by
  induction h with
  | new h => exact signerCache.sound_new crypto h rfl
  | newSigned h => exact sound_newSigned crypto h
  | deserialized h => exact signerCache.sound_of_notCached crypto h
  | checkCorrectness _ h ih => exact sound_checkCorrectness crypto ih h
  | wipeSignerCache _ => exact signerCache.sound_setCache_notCached crypto _

/-- On a reachable `ChangeGroup`, `verify_signature` gives what recovery over the bytes gives,
a second `check_correctness` returns what the first returned, and wiping the cache changes no
result. -/
lemma Reachable.spec {tx : ChangeGroup} (h : Reachable crypto tx) :
    tx.verifySignature crypto =
        (tx.getBytes >>= fun bytes => pure (crypto.musigSigner tx.signature bytes)) ∧
      (∀ config tx', (tx.checkCorrectness crypto config).state = some tx' →
        (tx'.checkCorrectness crypto config).result = (tx.checkCorrectness crypto config).result) ∧
      ∀ config, (tx.wipeSignerCache.checkCorrectness crypto config).result =
        (tx.checkCorrectness crypto config).result :=
  ⟨h.sound, fun config _ => signerCache.result_check_twice crypto (fieldError_setCache config),
    fun config =>
      signerCache.result_check_setCache_notCached crypto (fieldError_setCache config) h.sound⟩

end ChangeGroup

namespace Transfer

def signerCache : SignerCache Transfer where
  cachedSigner := Transfer.cachedSigner
  signature := Transfer.signature
  getBytes := Transfer.getBytes
  setCache tx c := { tx with cachedSigner := c }
  cachedSigner_setCache _ _ := rfl
  signature_setCache _ _ := rfl
  getBytes_setCache _ _ := rfl

lemma fieldError_setCache (config : ServerConfig) (senderAutorisation receiverAutorisation : Bool)
    (tx : Transfer) (c : VerifiedSignatureCache) :
    Transfer.fieldError config senderAutorisation receiverAutorisation (signerCache.setCache tx c) =
      Transfer.fieldError config senderAutorisation receiverAutorisation tx :=
  rfl

/-- The `Transfer`s a program holds without writing their fields, as for `ChangeGroup`; each
`check_correctness` may be called with any authorisation flags. -/
inductive Reachable : Transfer → Prop
  | new {accountId : AccountId} {«from» «to» : Address} {token : TokenId} {amount fee : ℕ}
      {group : U16} {nonce : Nonce} {timeRange : TimeRange} {signature : Option TxSignature}
      {tx : Transfer} :
      Transfer.new crypto accountId «from» «to» token amount fee group nonce timeRange signature =
        .ok tx → Reachable tx
  | newSigned {config : ServerConfig} {signMusig : List UInt8 → TxSignature}
      {accountId : AccountId} {«from» «to» : Address} {token : TokenId} {amount fee : ℕ}
      {group : U16} {nonce : Nonce} {timeRange : TimeRange} {tx : Transfer} :
      Transfer.newSigned crypto config signMusig accountId «from» «to» token amount fee group nonce
        timeRange = .ok tx → Reachable tx
  | deserialized {tx : Transfer} : tx.cachedSigner = .notCached → Reachable tx
  | checkCorrectness {config : ServerConfig} {senderAutorisation receiverAutorisation : Bool}
      {tx tx' : Transfer} : Reachable tx →
      (tx.checkCorrectness crypto config senderAutorisation receiverAutorisation).state =
        some tx' → Reachable tx'
  | wipeSignerCache {tx : Transfer} : Reachable tx → Reachable tx.wipeSignerCache

lemma sound_checkCorrectness {config : ServerConfig}
    {senderAutorisation receiverAutorisation : Bool} {tx tx' : Transfer} (hs : signerCache.Sound crypto tx)
    (h : (tx.checkCorrectness crypto config senderAutorisation receiverAutorisation).state =
      some tx') :
    signerCache.Sound crypto tx' :=
  signerCache.sound_check crypto hs h

lemma sound_newSigned {config : ServerConfig} {signMusig : List UInt8 → TxSignature}
    {accountId : AccountId} {«from» «to» : Address} {token : TokenId} {amount fee : ℕ}
    {group : U16} {nonce : Nonce} {timeRange : TimeRange} {tx : Transfer}
    (h : Transfer.newSigned crypto config signMusig accountId «from» «to» token amount fee group
      nonce timeRange = .ok tx) : signerCache.Sound crypto tx := by
  unfold Transfer.newSigned at h
  obtain ⟨tx₀, h₀, h⟩ := Run.bind_eq_ok.mp h
  have hnc : tx₀.cachedSigner = .notCached := by
    cases Run.lift_eq_ok.mp h₀
    rfl
  obtain ⟨bytes, -, h⟩ := Run.bind_eq_ok.mp h
  dsimp only at h
  split at h
  next tx' hc =>
    cases h
    have hs : signerCache.Sound crypto { tx₀ with signature := signMusig bytes } :=
      signerCache.sound_of_notCached crypto hnc
    exact sound_checkCorrectness crypto hs (congrArg Exec.state hc)
  all_goals cases h

theorem Reachable.sound {tx : Transfer} (h : Reachable crypto tx) :
    signerCache.Sound crypto tx := by
  induction h with
  | new h => exact signerCache.sound_new crypto h rfl
  | newSigned h => exact sound_newSigned crypto h
  | deserialized h => exact signerCache.sound_of_notCached crypto h
  | checkCorrectness _ h ih => exact sound_checkCorrectness crypto ih h
  | wipeSignerCache _ => exact signerCache.sound_setCache_notCached crypto _

lemma Reachable.spec {tx : Transfer} (h : Reachable crypto tx) :
    tx.verifySignature crypto =
        (tx.getBytes >>= fun bytes => pure (crypto.musigSigner tx.signature bytes)) ∧
      (∀ config s r tx', (tx.checkCorrectness crypto config s r).state = some tx' →
        (tx'.checkCorrectness crypto config s r).result =
          (tx.checkCorrectness crypto config s r).result) ∧
      ∀ config s r, (tx.wipeSignerCache.checkCorrectness crypto config s r).result =
        (tx.checkCorrectness crypto config s r).result :=
  ⟨h.sound, fun config s r _ =>
    signerCache.result_check_twice crypto (fieldError_setCache config s r),
    fun config s r =>
      signerCache.result_check_setCache_notCached crypto (fieldError_setCache config s r) h.sound⟩

end Transfer

namespace MintNFT

def signerCache : SignerCache MintNFT where
  cachedSigner := MintNFT.cachedSigner
  signature := MintNFT.signature
  getBytes := MintNFT.getBytes
  setCache tx c := { tx with cachedSigner := c }
  cachedSigner_setCache _ _ := rfl
  signature_setCache _ _ := rfl
  getBytes_setCache _ _ := rfl

lemma fieldError_setCache (config : ServerConfig) (senderAutorisation receiverAutorisation : Bool)
    (tx : MintNFT) (c : VerifiedSignatureCache) :
    MintNFT.fieldError config senderAutorisation receiverAutorisation (signerCache.setCache tx c) =
      MintNFT.fieldError config senderAutorisation receiverAutorisation tx :=
  rfl

/-- The `MintNFT`s a program holds without writing their fields, as for `Transfer`. -/
inductive Reachable : MintNFT → Prop
  | new {creatorId : AccountId} {creatorAddress : Address} {contentHash : H256}
      {recipient : Address} {fee : ℕ} {feeToken : TokenId} {group : U16} {nonce : Nonce}
      {signature : Option TxSignature} {tx : MintNFT} :
      MintNFT.new crypto creatorId creatorAddress contentHash recipient fee feeToken group nonce
        signature = .ok tx → Reachable tx
  | newSigned {config : ServerConfig} {signMusig : List UInt8 → TxSignature}
      {creatorId : AccountId} {creatorAddress : Address} {contentHash : H256}
      {recipient : Address} {fee : ℕ} {feeToken : TokenId} {group : U16} {nonce : Nonce}
      {tx : MintNFT} :
      MintNFT.newSigned crypto config signMusig creatorId creatorAddress contentHash recipient fee
        feeToken group nonce = .ok tx → Reachable tx
  | deserialized {tx : MintNFT} : tx.cachedSigner = .notCached → Reachable tx
  | checkCorrectness {config : ServerConfig} {senderAutorisation receiverAutorisation : Bool}
      {tx tx' : MintNFT} : Reachable tx →
      (tx.checkCorrectness crypto config senderAutorisation receiverAutorisation).state =
        some tx' → Reachable tx'
  | wipeSignerCache {tx : MintNFT} : Reachable tx → Reachable tx.wipeSignerCache

lemma sound_checkCorrectness {config : ServerConfig}
    {senderAutorisation receiverAutorisation : Bool} {tx tx' : MintNFT} (hs : signerCache.Sound crypto tx)
    (h : (tx.checkCorrectness crypto config senderAutorisation receiverAutorisation).state =
      some tx') :
    signerCache.Sound crypto tx' :=
  signerCache.sound_check crypto hs h

lemma sound_newSigned {config : ServerConfig} {signMusig : List UInt8 → TxSignature}
    {creatorId : AccountId} {creatorAddress : Address} {contentHash : H256}
    {recipient : Address} {fee : ℕ} {feeToken : TokenId} {group : U16} {nonce : Nonce}
    {tx : MintNFT}
    (h : MintNFT.newSigned crypto config signMusig creatorId creatorAddress contentHash recipient
      fee feeToken group nonce = .ok tx) : signerCache.Sound crypto tx := by
  unfold MintNFT.newSigned at h
  obtain ⟨tx₀, h₀, h⟩ := Run.bind_eq_ok.mp h
  have hnc : tx₀.cachedSigner = .notCached := by
    cases Run.lift_eq_ok.mp h₀
    rfl
  obtain ⟨bytes, -, h⟩ := Run.bind_eq_ok.mp h
  dsimp only at h
  split at h
  next tx' hc =>
    cases h
    have hs : signerCache.Sound crypto { tx₀ with signature := signMusig bytes } :=
      signerCache.sound_of_notCached crypto hnc
    exact sound_checkCorrectness crypto hs (congrArg Exec.state hc)
  all_goals cases h

theorem Reachable.sound {tx : MintNFT} (h : Reachable crypto tx) :
    signerCache.Sound crypto tx := by
  induction h with
  | new h => exact signerCache.sound_new crypto h rfl
  | newSigned h => exact sound_newSigned crypto h
  | deserialized h => exact signerCache.sound_of_notCached crypto h
  | checkCorrectness _ h ih => exact sound_checkCorrectness crypto ih h
  | wipeSignerCache _ => exact signerCache.sound_setCache_notCached crypto _

lemma Reachable.spec {tx : MintNFT} (h : Reachable crypto tx) :
    tx.verifySignature crypto =
        (tx.getBytes >>= fun bytes => pure (crypto.musigSigner tx.signature bytes)) ∧
      (∀ config s r tx', (tx.checkCorrectness crypto config s r).state = some tx' →
        (tx'.checkCorrectness crypto config s r).result =
          (tx.checkCorrectness crypto config s r).result) ∧
      ∀ config s r, (tx.wipeSignerCache.checkCorrectness crypto config s r).result =
        (tx.checkCorrectness crypto config s r).result :=
  ⟨h.sound, fun config s r _ =>
    signerCache.result_check_twice crypto (fieldError_setCache config s r),
    fun config s r =>
      signerCache.result_check_setCache_notCached crypto (fieldError_setCache config s r) h.sound⟩

end MintNFT

/-! ## The three kinds -/

/-- On every `ChangeGroup`, `Transfer` and `MintNFT` reached from `new`, `new_signed` or
deserialization through `check_correctness` and `wipe_signer_cache`, `verify_signature` equals
recovery over the bytes, `check_correctness` returns the same when called again, and the same on
the copy whose cache was wiped. -/
theorem verifySignature_eq_recovery_of_reachable :
    (∀ tx : ChangeGroup, ChangeGroup.Reachable crypto tx →
      tx.verifySignature crypto =
          (tx.getBytes >>= fun bytes => pure (crypto.musigSigner tx.signature bytes)) ∧
        (∀ config tx', (tx.checkCorrectness crypto config).state = some tx' →
          (tx'.checkCorrectness crypto config).result =
            (tx.checkCorrectness crypto config).result) ∧
        ∀ config, (tx.wipeSignerCache.checkCorrectness crypto config).result =
          (tx.checkCorrectness crypto config).result) ∧
    (∀ tx : Transfer, Transfer.Reachable crypto tx →
      tx.verifySignature crypto =
          (tx.getBytes >>= fun bytes => pure (crypto.musigSigner tx.signature bytes)) ∧
        (∀ config s r tx', (tx.checkCorrectness crypto config s r).state = some tx' →
          (tx'.checkCorrectness crypto config s r).result =
            (tx.checkCorrectness crypto config s r).result) ∧
        ∀ config s r, (tx.wipeSignerCache.checkCorrectness crypto config s r).result =
          (tx.checkCorrectness crypto config s r).result) ∧
    (∀ tx : MintNFT, MintNFT.Reachable crypto tx →
      tx.verifySignature crypto =
          (tx.getBytes >>= fun bytes => pure (crypto.musigSigner tx.signature bytes)) ∧
        (∀ config s r tx', (tx.checkCorrectness crypto config s r).state = some tx' →
          (tx'.checkCorrectness crypto config s r).result =
            (tx.checkCorrectness crypto config s r).result) ∧
        ∀ config s r, (tx.wipeSignerCache.checkCorrectness crypto config s r).result =
          (tx.checkCorrectness crypto config s r).result) :=
  ⟨fun _ h => h.spec, fun _ h => h.spec, fun _ h => h.spec⟩

end ModularRollup.CachedSigner
