import ModularRollup.AmountRounding
import ModularRollup.SignMessage
import ModularRollup.SignatureChecker

/-! The client side of a `ChangeGroup`: the SDK's `Signer` (sdk/zksync-rs/src/signer.rs), which
signs a transaction with the account's rollup key and, when it has one, its message with the
account's L1 key, and the `ChangeGroupBuilder` of a `Wallet`
(sdk/zksync-rs/src/operations/change_group.rs), which fills in what the caller left out and
calls the signer. What the SDK builds is what the server admits. Modelled from the spec: the
private key, the `EthereumSigner`, the `Provider`, the token cache and the error types are not
under src/. -/
namespace ModularRollup.Sdk
open Primitives TxCommon AmountCodec ChangeGroupTx Transactions
open SignatureChecker (EthereumChecker Storage Order TxAddError)

/-- The zkSync private key, through what the signer asks of it: `TxSignature::sign_musig` with
it, and `PubKeyHash::from_privkey`. -/
structure PrivateKey where
  signMusig : List UInt8 → TxSignature
  pubKeyHash : PubKeyHash

/-- `zksync_eth_signer::error::SignerError`, with the cases the signer makes. -/
inductive SignerError
  | missingEthSigner
  | signingFailed (message : String)
  | noSigningKey
  | customError (message : String)

/-- An `EthereumSigner`: `sign_message` with the account's L1 key. -/
structure EthereumSigner where
  signMessage : List UInt8 → Except SignerError TxEthSignature

/-- A key that signs as the key whose hash it carries: recovery from its signature over any
bytes gives that hash. -/
def PrivateKey.Valid (crypto : Crypto) (privateKey : PrivateKey) : Prop :=
  ∀ bytes, crypto.musigSigner (privateKey.signMusig bytes) bytes = some (privateKey.pubKeyHash, .v1)

/-- An `EthereumSigner` that holds `address`'s key: each ECDSA signature it returns recovers to
`address`. -/
def EthereumSigner.SignsAs (crypto : Crypto) (ethSigner : EthereumSigner) (address : Address) :
    Prop :=
  ∀ bytes signature, ethSigner.signMessage bytes = .ok (.ethereumSignature signature) →
    crypto.recoverSigner signature bytes = some address

/-- `zksync_types::Token`, with the fields the signer reads. -/
structure Token where
  id : TokenId
  symbol : String
  decimals : UInt8

/-- `str::as_bytes`: the UTF-8 bytes of a message. -/
def asBytes (message : String) : List UInt8 := message.toUTF8.data.toList

structure Signer where
  pubkeyHash : PubKeyHash
  address : Address
  privateKey : PrivateKey
  ethSigner : Option EthereumSigner
  accountId : Option AccountId

namespace Signer

def new (privateKey : PrivateKey) (address : Address) (ethSigner : Option EthereumSigner) :
    Signer :=
  ⟨privateKey.pubKeyHash, address, privateKey, ethSigner, none⟩

def setAccountId (signer : Signer) (accountId : Option AccountId) : Signer :=
  { signer with accountId := accountId }

/-- The L1 half of every `sign_*`: with an `EthereumSigner`, its signature of the message, which
must be a plain ECDSA one. -/
def ethSignature (signer : Signer) (message : String) :
    Run SignerError (Option PackedEthSignature) :=
  match signer.ethSigner with
  | some ethSigner =>
    match ethSigner.signMessage (asBytes message) with
    | .ok (.ethereumSignature packedSignature) => pure (some packedSignature)
    | .ok (.eip1271Signature _) => throw .missingEthSigner
    | .error e => throw e
  | none => pure none

/-- The shape `sign_transfer`, `sign_mint_nft`, `sign_change_group` and the other `sign_*`
share: the account id, the kind's `new_signed` with the rollup key, its error as
`SigningFailed` of its text, then the L1 signature of the transaction's message. -/
def signWith {ε τ : Type} (signer : Signer) (newSigned : AccountId → Run ε τ)
    (errorText : ε → String) (message : τ → String) :
    Run SignerError (τ × Option PackedEthSignature) := do
  let accountId ← Run.ofOption .noSigningKey signer.accountId
  let tx ← (newSigned accountId).mapErr fun e => .signingFailed (errorText e)
  let ethSignature ← signer.ethSignature (message tx)
  pure (tx, ethSignature)

variable (crypto : Crypto) (config : ServerConfig)

/-- `sign_change_group`; `errorText` is the `Display` of `TransactionError`, whose texts are
the constants of `tx::error`, not under src/. -/
def signChangeGroup (errorText : ChangeGroup.TransactionError → String) (signer : Signer)
    (token : Token) (amount fee : ℕ) (ethAddress : Address) (group1 group2 : U16) (nonce : Nonce)
    (timeRange : TimeRange) : Run SignerError (ChangeGroup × Option PackedEthSignature) :=
  signer.signWith
    (fun accountId => ChangeGroup.newSigned crypto config signer.privateKey.signMusig accountId
      signer.address ethAddress token.id amount fee group1 group2 nonce timeRange)
    errorText (SignMessage.ChangeGroup.getEthereumSignMessage · token.symbol token.decimals)

/-- `sign_mint_nft`. -/
def signMintNFT (errorText : MintNFT.TransactionError → String) (signer : Signer)
    (recipient : Address) (contentHash : H256) (feeToken : Token) (fee : ℕ) (group : U16)
    (nonce : Nonce) : Run SignerError (MintNFT × Option PackedEthSignature) :=
  signer.signWith
    (fun accountId => MintNFT.newSigned crypto config signer.privateKey.signMusig accountId
      signer.address contentHash recipient fee feeToken.id group nonce)
    errorText (SignMessage.MintNFT.getEthereumSignMessage · feeToken.symbol feeToken.decimals)

end Signer

/-! ## The wallet and the `ChangeGroup` builder -/

/-- `ClientError`, with the cases the builder returns. -/
inductive ClientError
  | missingRequiredField (field : String)
  | unknownToken
  | notPackableValue
  | signingError (e : SignerError)
  | providerError (message : String)

inductive TokenLike
  | id (id : TokenId)
  | address (address : Address)
  | symbol (symbol : String)

/-- The fee types the builder asks the provider about. -/
inductive TxFeeTypes
  | withdraw

structure AccountState where
  nonce : Nonce

structure AccountInfo where
  committed : AccountState

structure Fee where
  totalFee : ℕ

/-- The `Provider` calls of the builder, answered by the server. -/
structure Provider where
  accountInfo : Address → Except ClientError AccountInfo
  getTxFee : TxFeeTypes → Address → TokenId → Except ClientError Fee

/-- The `TokensCache` the wallet resolves tokens with. -/
structure TokensCache where
  resolve : TokenLike → Option Token

structure Wallet where
  provider : Provider
  signer : Signer
  tokens : TokensCache

def Wallet.address (wallet : Wallet) : Address := wallet.signer.address

/-- `?` on a provider call. -/
def ofExcept {ε α : Type} : Except ε α → Run ε α
  | .ok a => .ok a
  | .error e => .err e

structure ChangeGroupBuilder where
  wallet : Wallet
  token : Option Token
  amount : Option ℕ
  fee : Option ℕ
  «to» : Option Address
  group1 : Option U16
  group2 : Option U16
  nonce : Option Nonce
  validFrom : Option U64
  validUntil : Option U64

namespace ChangeGroupBuilder

def new (wallet : Wallet) : ChangeGroupBuilder :=
  ⟨wallet, none, none, none, none, none, none, none, none, none⟩

/-- Sets the token; one the wallet's cache does not know is `UnknownToken`. -/
def setToken (b : ChangeGroupBuilder) (token : TokenLike) : Run ClientError ChangeGroupBuilder := do
  let token ← Run.ofOption .unknownToken (b.wallet.tokens.resolve token)
  pure { b with token := some token }

/-- Sets the amount, rounded down to a packable one. -/
def setAmount (b : ChangeGroupBuilder) (amount : ℕ) : Run Empty ChangeGroupBuilder := do
  let amount ← closestPackableTokenAmount amount
  pure { b with amount := some amount }

/-- Sets the fee, rounded down to a packable one. -/
def setFee (b : ChangeGroupBuilder) (fee : ℕ) : Run Empty ChangeGroupBuilder := do
  let fee ← closestPackableFeeAmount fee
  pure { b with fee := some fee }

/-- `amount_exact`: an amount that is not packable is `NotPackableValue`. -/
def amountExact (b : ChangeGroupBuilder) (amount : ℕ) : Run ClientError ChangeGroupBuilder :=
  if !isTokenAmountPackable amount then throw .notPackableValue
  else pure { b with amount := some amount }

/-- `fee_exact`. -/
def feeExact (b : ChangeGroupBuilder) (fee : ℕ) : Run ClientError ChangeGroupBuilder :=
  if !isFeeAmountPackable fee then throw .notPackableValue
  else pure { b with fee := some fee }

def setTo (b : ChangeGroupBuilder) («to» : Address) : ChangeGroupBuilder := { b with «to» := «to» }

def setGroup1 (b : ChangeGroupBuilder) (group1 : U16) : ChangeGroupBuilder :=
  { b with group1 := group1 }

def setGroup2 (b : ChangeGroupBuilder) (group2 : U16) : ChangeGroupBuilder :=
  { b with group2 := group2 }

def setNonce (b : ChangeGroupBuilder) (nonce : Nonce) : ChangeGroupBuilder :=
  { b with nonce := nonce }

def setValidFrom (b : ChangeGroupBuilder) (validFrom : U64) : ChangeGroupBuilder :=
  { b with validFrom := validFrom }

def setValidUntil (b : ChangeGroupBuilder) (validUntil : U64) : ChangeGroupBuilder :=
  { b with validUntil := validUntil }

/-- A field `tx` cannot do without: `MissingRequiredField` with its name when unset. -/
def required {α : Type} (field : String) (value : Option α) : Run ClientError α :=
  Run.ofOption (.missingRequiredField field) value

/-- The nonce `tx` signs with: the one set, or the committed nonce the provider reports. -/
def nonceOrCommitted (b : ChangeGroupBuilder) : Run ClientError Nonce :=
  match b.nonce with
  | some nonce => pure nonce
  | none => do
    let accountInfo ← ofExcept (b.wallet.provider.accountInfo b.wallet.address)
    pure accountInfo.committed.nonce

/-- The fee `tx` signs with: the one set, or the provider's fee for a withdrawal to `to`. -/
def feeOrQuoted (b : ChangeGroupBuilder) («to» : Address) (token : Token) : Run ClientError ℕ :=
  match b.fee with
  | some fee => pure fee
  | none => do
    let fee ← ofExcept (b.wallet.provider.getTxFee .withdraw «to» token.id)
    pure fee.totalFee

/-- The window `tx` signs: from 0 and until `u64::MAX` unless set. -/
def timeRange (b : ChangeGroupBuilder) : TimeRange :=
  ⟨b.validFrom.getD 0, b.validUntil.getD (Fin.last _)⟩

variable (crypto : Crypto) (config : ServerConfig)
  (errorText : ChangeGroup.TransactionError → String)

/-- `ChangeGroupBuilder::tx`: the signed transaction and its L1 signature. -/
def tx (b : ChangeGroupBuilder) : Run ClientError (ZkSyncTx × Option PackedEthSignature) := do
  let token ← required "token" b.token
  let amount ← required "amount" b.amount
  let «to» ← required "to" b.to
  let group1 ← required "group1" b.group1
  let group2 ← required "group2" b.group2
  let nonce ← b.nonceOrCommitted
  let fee ← b.feeOrQuoted «to» token
  let (tx, sign) ← (b.wallet.signer.signChangeGroup crypto config errorText token amount fee «to»
    group1 group2 nonce b.timeRange).mapErr .signingError
  pure (.changeGroup tx, sign)

end ChangeGroupBuilder

/-! ## What the signer's steps return -/

lemma mapErr_eq_ok {ε ε' α : Type} {f : ε → ε'} {x : Run ε α} {a : α} :
    x.mapErr f = .ok a ↔ x = .ok a := by
  cases x <;> simp [Run.mapErr]

namespace Signer

variable {signer : Signer} {message : String}

lemma ethSignature_eq_ok_some {signature : PackedEthSignature}
    (h : signer.ethSignature message = .ok (some signature)) :
    ∃ ethSigner, signer.ethSigner = some ethSigner ∧
      ethSigner.signMessage (asBytes message) = .ok (.ethereumSignature signature) := by
  unfold ethSignature at h
  split at h
  next ethSigner hs =>
    split at h <;> cases h
    exact ⟨ethSigner, hs, ‹_›⟩
  next => cases h

lemma ethSignature_isOk
    (h : ∀ ethSigner ∈ signer.ethSigner, ∃ signature,
      ethSigner.signMessage (asBytes message) = .ok (.ethereumSignature signature)) :
    ∃ signature, signer.ethSignature message = .ok signature ∧
      (signature.isSome ↔ signer.ethSigner.isSome) := by
  rcases hs : signer.ethSigner with _ | ethSigner
  · exact ⟨none, by simp [ethSignature, hs], by simp⟩
  · obtain ⟨signature, hsig⟩ := h ethSigner hs
    exact ⟨some signature, by simp [ethSignature, hs, hsig], by simp⟩

lemma signWith_eq_ok {ε τ : Type} {newSigned : AccountId → Run ε τ} {errorText : ε → String}
    {message : τ → String} {tx : τ} {signature : Option PackedEthSignature} :
    signer.signWith newSigned errorText message = .ok (tx, signature) ↔
      ∃ accountId, signer.accountId = some accountId ∧ newSigned accountId = .ok tx ∧
        signer.ethSignature (message tx) = .ok signature := by
  constructor
  · intro h
    obtain ⟨accountId, hid, h⟩ := Run.bind_eq_ok.mp h
    obtain ⟨tx', htx, h⟩ := Run.bind_eq_ok.mp h
    obtain ⟨sig, hsig, h⟩ := Run.bind_eq_ok.mp h
    cases h
    exact ⟨accountId, Run.ofOption_eq_ok.mp hid, mapErr_eq_ok.mp htx, hsig⟩
  · rintro ⟨accountId, hid, htx, hsig⟩
    simp [signWith, hid, htx, hsig]

end Signer

namespace ChangeGroup

variable {crypto : Crypto} {config : ServerConfig} {signMusig : List UInt8 → TxSignature}
  {accountId : AccountId} {«from» «to» : Address} {token : TokenId} {amount fee : ℕ}
  {group1 group2 : U16} {nonce : Nonce} {timeRange : TimeRange}

/-- The transaction `new` makes without a signature. -/
def unsigned (accountId : AccountId) («from» «to» : Address) (token : TokenId) (amount fee : ℕ)
    (group1 group2 : U16) (nonce : Nonce) (timeRange : TimeRange) : ChangeGroup :=
  ⟨accountId, «from», «to», token, amount, fee, group1, group2, nonce, default, .notCached, false,
    some timeRange⟩

lemma fieldError_eq_none_of {tx : ChangeGroup} (hamount : tx.amount ≤ u128Max)
    (hfee : isFeeAmountPackable tx.fee = true) (hid : tx.accountId ≤ maxAccountId)
    (htoken : tx.token ≤ maxFungibleTokenId) (hgroup : tx.group1 = config.serverGroupId)
    (htime : (tx.timeRange.map TimeRange.checkCorrectness).getD true = true)
    (hfeeToken : tx.fee ≠ 0 → tx.token ≤ maxProcessableToken) :
    ChangeGroup.fieldError config tx = none := by
  obtain ⟨bs, hpack, -⟩ := isFeeAmountPackable_iff.mp hfee
  have hfeeToken' : ¬(tx.fee ≠ 0 ∧ maxProcessableToken < tx.token) :=
    fun h => absurd (hfeeToken h.1) (not_le.mpr h.2)
  simp [ChangeGroup.fieldError, not_lt.mpr hamount, not_lt.mpr (packFeeAmount_eq_ok hpack).1,
    hfee, not_lt.mpr hid, not_lt.mpr htoken, hgroup, htime, hfeeToken']

/-- `new_signed` with a key that signs in range returns the transaction with its signer
cached. -/
lemma newSigned_eq_ok_of {bytes : List UInt8} {signer : PubKeyHash × TxVersion}
    (hbytes : (unsigned accountId «from» «to» token amount fee group1 group2 nonce
      timeRange).getBytes = .ok bytes)
    (hfield : ChangeGroup.fieldError config (unsigned accountId «from» «to» token amount fee group1
      group2 nonce timeRange) = none)
    (hsigner : crypto.musigSigner (signMusig bytes) bytes = some signer) :
    ChangeGroup.newSigned crypto config signMusig accountId «from» «to» token amount fee group1
      group2 nonce timeRange = .ok { unsigned accountId «from» «to» token amount fee group1 group2
        nonce timeRange with signature := signMusig bytes, cachedSigner := .cached (some signer) } := by
  set tx₀ := unsigned accountId «from» «to» token amount fee group1 group2 nonce timeRange
  have hsig : ({ tx₀ with signature := signMusig bytes } : ChangeGroup).verifySignature crypto =
      .ok (some signer) := by
    show verifySignatureWith crypto .notCached (signMusig bytes) tx₀.getBytes = _
    simp only [verifySignatureWith, hbytes, Run.ok_bind, Run.pure_eq, hsigner]
  have hcheck : ({ tx₀ with signature := signMusig bytes } : ChangeGroup).checkCorrectness crypto
      config = .ok () { tx₀ with signature := signMusig bytes, cachedSigner := .cached (some signer) } := by
    simp only [ChangeGroup.checkCorrectness, checkAndCacheSigner, hsig]
    rw [show ChangeGroup.fieldError config { tx₀ with signature := signMusig bytes } = none from hfield]
    rfl
  unfold ChangeGroup.newSigned
  rw [show ChangeGroup.new crypto accountId «from» «to» token amount fee group1 group2 nonce
    timeRange none = .ok tx₀ from rfl]
  simp only [Run.lift_ok, Run.ok_bind, hbytes, hcheck]
  rfl

lemma getBytes_isOk {bs : List UInt8} (hamount : amount ≤ u128Max)
    (hfee : packFeeAmount fee = .ok bs) :
    ∃ bytes, (unsigned accountId «from» «to» token amount fee group1 group2 nonce
      timeRange).getBytes = .ok bytes :=
  ⟨_, by simp only [ChangeGroup.getBytes, unsigned, if_pos hamount, hfee, Run.pure_eq,
    Run.ok_bind]; rfl⟩

lemma getBytes_eq_panic {m : String} (hamount : amount ≤ u128Max)
    (hfee : packFeeAmount fee = .panic m) :
    (unsigned accountId «from» «to» token amount fee group1 group2 nonce
      timeRange).getBytes = .panic m := by
  simp only [ChangeGroup.getBytes, unsigned, if_pos hamount, hfee, Run.pure_eq, Run.ok_bind,
    Run.panic_bind]

/-- `new_signed` with a fee that is not packable: the check names the fee when it is within the
largest float, whose packing the key signs; past it, packing the bytes to sign panics. -/
lemma newSigned_of_not_packable (hamount : amount ≤ u128Max)
    (hfee : isFeeAmountPackable fee = false) :
    (fee ≤ (2 ^ feeMantissaBitWidth - 1) * 10 ^ (2 ^ feeExponentBitWidth - 1) →
      ChangeGroup.newSigned crypto config signMusig accountId «from» «to» token amount fee group1
        group2 nonce timeRange = .err .feeNotPackable) ∧
    ((2 ^ feeMantissaBitWidth - 1) * 10 ^ (2 ^ feeExponentBitWidth - 1) < fee →
      ∃ m, ChangeGroup.newSigned crypto config signMusig accountId «from» «to» token amount fee
        group1 group2 nonce timeRange = .panic m) := by
  set tx₀ := unsigned accountId «from» «to» token amount fee group1 group2 nonce timeRange
  have hnew : ChangeGroup.new crypto accountId «from» «to» token amount fee group1 group2 nonce
      timeRange none = .ok tx₀ := rfl
  constructor
  · intro hle
    have hu128 : fee ≤ u128Max := hle.trans (by decide)
    obtain ⟨bs, hpack⟩ := packFeeAmount_isOk hu128 hle
    obtain ⟨bytes, hbytes⟩ : ∃ bytes, tx₀.getBytes = .ok bytes := getBytes_isOk hamount hpack
    have hfield : ChangeGroup.fieldError config { tx₀ with signature := signMusig bytes } =
        some .feeNotPackable := by
      simp [ChangeGroup.fieldError, tx₀, unsigned, not_lt.mpr hamount, not_lt.mpr hu128, hfee]
    unfold ChangeGroup.newSigned
    simp only [hnew, hbytes, Run.lift_ok, Run.ok_bind, ChangeGroup.checkCorrectness,
      checkAndCacheSigner, hfield]
    rfl
  · intro hlt
    obtain ⟨m, hpack⟩ := packFeeAmount_eq_panic hlt
    refine ⟨m, ?_⟩
    unfold ChangeGroup.newSigned
    simp only [hnew, getBytes_eq_panic hamount hpack, Run.lift_ok, Run.lift_panic, Run.ok_bind,
      Run.panic_bind]

/-- What `new_signed` returns: the fields it was given, signed by the key over the bytes, with
the recovered signer cached; without the cache, its check passes and gives it back. -/
lemma newSigned_eq_ok {tx : ChangeGroup}
    (h : ChangeGroup.newSigned crypto config signMusig accountId «from» «to» token amount fee
      group1 group2 nonce timeRange = .ok tx) :
    (∃ bytes signer, tx = { unsigned accountId «from» «to» token amount fee group1 group2 nonce
        timeRange with signature := signMusig bytes, cachedSigner := .cached (some signer) }) ∧
      tx.wipeSignerCache.checkCorrectness crypto config = .ok () tx := by
  unfold ChangeGroup.newSigned at h
  obtain ⟨tx₀, h₀, h⟩ := Run.bind_eq_ok.mp h
  cases Run.lift_eq_ok.mp h₀
  obtain ⟨bytes, -, h⟩ := Run.bind_eq_ok.mp h
  dsimp only at h
  split at h
  next tx' hc =>
    cases h
    obtain ⟨-, -, signer, -, rfl⟩ := ChangeGroup.checkCorrectness_ok crypto config hc
    exact ⟨⟨bytes, signer, rfl⟩, hc⟩
  all_goals cases h

end ChangeGroup

namespace Signer

variable {crypto : Crypto} (config : ServerConfig)
  (errorText : ChangeGroupTx.ChangeGroup.TransactionError → String) {signer : Signer}

/-- `sign_change_group` with a valid key, for an account id in range and fields the check
takes, returns the transaction with these fields, signed by the key and with the key's hash as
its cached signer; it carries an L1 signature when the signer has an `EthereumSigner` that
signs. -/
lemma signChangeGroup_eq_ok_of (ethAddress : Address) (group2 : U16) (nonce : Nonce)
    {token : Token} {amount fee : ℕ} {timeRange : TimeRange} {accountId : AccountId}
    (hid : signer.accountId = some accountId) (hidMax : accountId ≤ maxAccountId)
    (hkey : signer.privateKey.Valid crypto)
    (heth : ∀ ethSigner ∈ signer.ethSigner, ∀ bytes, ∃ signature,
      ethSigner.signMessage bytes = .ok (.ethereumSignature signature))
    (hamount : amount ≤ u128Max) (hfee : isFeeAmountPackable fee = true)
    (htoken : token.id ≤ maxFungibleTokenId) (hfeeToken : fee ≠ 0 → token.id ≤ maxProcessableToken)
    (htime : timeRange.checkCorrectness = true) :
    ∃ tx signature, signer.signChangeGroup crypto config errorText token amount fee ethAddress
        config.serverGroupId group2 nonce timeRange = .ok (tx, signature) ∧
      (∃ bytes, tx = { ChangeGroup.unsigned accountId signer.address ethAddress token.id amount fee
        config.serverGroupId group2 nonce timeRange with
        signature := signer.privateKey.signMusig bytes,
        cachedSigner := .cached (some (signer.privateKey.pubKeyHash, .v1)) }) ∧
      (signature.isSome ↔ signer.ethSigner.isSome) := by
  obtain ⟨bs, hpack, -⟩ := isFeeAmountPackable_iff.mp hfee
  obtain ⟨bytes, hbytes⟩ : ∃ bytes, (ChangeGroup.unsigned accountId signer.address ethAddress
      token.id amount fee config.serverGroupId group2 nonce timeRange).getBytes = .ok bytes :=
    ChangeGroup.getBytes_isOk hamount hpack
  obtain ⟨signature, hsig, hsome⟩ := signer.ethSignature_isOk fun ethSigner hes =>
    heth ethSigner hes _
  exact ⟨_, signature, signWith_eq_ok.mpr ⟨accountId, hid, ChangeGroup.newSigned_eq_ok_of hbytes
    (ChangeGroup.fieldError_eq_none_of hamount hfee hidMax htoken rfl (by simpa using htime)
      hfeeToken) (hkey bytes), hsig⟩, ⟨bytes, rfl⟩, hsome⟩

end Signer

/-! ## The server's side -/

/-- The L1 signature data a submitted `ChangeGroup` arrives with: the SDK's signature, with the
message the server computes from the copy it received and the token. -/
def ethSignData (tx : ChangeGroup) (token : Token) (signature : Option PackedEthSignature) :
    Option EthSignData :=
  signature.map fun signature => ⟨.ethereumSignature signature,
    asBytes (SignMessage.ChangeGroup.getEthereumSignMessage tx.wipeSignerCache token.symbol
      token.decimals)⟩

/-- Modelled from the spec: the request the API's transaction sender makes of a `ChangeGroup`
the SDK submitted (not under src/): the copy deserialization gives, which has no cached signer,
with its L1 signature data, and the transaction's account as sender. -/
def changeGroupRequest (tx : ChangeGroup) (token : Token) (signature : Option PackedEthSignature) :
    SignatureChecker.RequestData :=
  .tx ⟨⟨.changeGroup tx.wipeSignerCache, ethSignData tx token signature⟩, tx.from, ⟨token.id⟩⟩

section Server

variable {crypto : Crypto} {config : ServerConfig} {checks : OtherChecks}
  {orderCorrect : Order → Bool} {storage : Storage} {eth : EthereumChecker}

/-- The server admits a `ChangeGroup` that passes its check with no cache, whose L1 signature
is its sender's and whose destination group takes its `to`, and ends with the checked value. -/
lemma verify_changeGroupRequest {tx : ChangeGroup} {token : Token}
    {signature : Option PackedEthSignature}
    (hcheck : tx.wipeSignerCache.checkCorrectness crypto config = .ok () tx)
    (hsig : ∀ s ∈ signature, crypto.recoverSigner s (asBytes
      (SignMessage.ChangeGroup.getEthereumSignMessage tx token.symbol token.decimals)) = some tx.from)
    (hgroup : eth.isUserAllowedToTransferToThisGroup tx.group2 tx.to = .ok true)
    (hconn : storage.establishConnection = .ok ())
    (hauth : ∀ address, ∃ v, storage.isAccountAutorised address = .ok v) :
    SignatureChecker.verify crypto config checks orderCorrect storage eth
      (changeGroupRequest tx token signature) =
      .ok ⟨.tx ⟨.changeGroup tx, ethSignData tx token signature⟩⟩ := by
  have heth : SignatureChecker.verifyEthSignature crypto eth
      (changeGroupRequest tx token signature) = .ok () := by
    rcases signature with _ | s <;>
      simp [changeGroupRequest, ethSignData, SignatureChecker.verifyEthSignature,
        SignatureChecker.verifyEthSignatureSingleTx, SignatureChecker.verifyEthereumSignature,
        ChangeGroup.wipeSignerCache, hgroup]
    exact hsig s rfl
  have hcheck' : ChangeGroup.checkCorrectness crypto config
      { tx with cachedSigner := .notCached } = .ok () tx := hcheck
  obtain ⟨a, ha⟩ := hauth tx.from
  obtain ⟨b, hb⟩ := hauth tx.to
  have hcorr : SignatureChecker.verifyTxCorrectness crypto config checks orderCorrect storage
      (changeGroupRequest tx token signature).getTxVariant =
      .ok () (.tx ⟨.changeGroup tx, ethSignData tx token signature⟩) := by
    simp [changeGroupRequest, SignatureChecker.RequestData.getTxVariant,
      SignatureChecker.verifyTxCorrectness, SignatureChecker.checkWithAutorisation, hconn,
      ZkSyncTx.toAccount, ZkSyncTx.account, ZkSyncTx.checkCorrectness, ChangeGroup.wipeSignerCache,
      ha, hb, Exec.map, hcheck']
  simp [SignatureChecker.verify, heth, hcorr]

end Server

namespace ChangeGroupBuilder

variable {crypto : Crypto} {config : ServerConfig}
  {errorText : ChangeGroupTx.ChangeGroup.TransactionError → String} {b : ChangeGroupBuilder}

/-- The amount setter stores the closest packable amount at or below the one given. -/
lemma setAmount_eq_ok {amount : ℕ} (h : amount ≤ u128Max) :
    ∃ c, b.setAmount amount = .ok { b with amount := some c } ∧
      isTokenAmountPackable c = true ∧ c ≤ amount := by
  obtain ⟨c, hc, hpack, hle, -⟩ := closestPackableTokenAmount_eq_ok h
  exact ⟨c, by simp [setAmount, hc], hpack, hle⟩

/-- The fee setter stores the closest packable fee at or below the one given. -/
lemma setFee_eq_ok {fee : ℕ}
    (h : fee ≤ (2 ^ feeMantissaBitWidth - 1) * 10 ^ (2 ^ feeExponentBitWidth - 1)) :
    ∃ c, b.setFee fee = .ok { b with fee := some c } ∧ isFeeAmountPackable c = true ∧ c ≤ fee := by
  obtain ⟨c, hc, hpack, hle, -⟩ := closestPackableFeeAmount_eq_ok h
  exact ⟨c, by simp [setFee, hc], hpack, hle⟩

/-- `fee_exact` stores only a packable fee. -/
lemma feeExact_eq_ok {fee : ℕ} {b' : ChangeGroupBuilder} (h : b.feeExact fee = .ok b') :
    b' = { b with fee := some fee } ∧ isFeeAmountPackable fee = true := by
  unfold feeExact at h
  split_ifs at h with hp
  cases h
  exact ⟨rfl, by simpa using hp⟩

/-- The window's defaults pass its check: an unset end is `u64::MAX`, an unset start 0. -/
lemma timeRange_checkCorrectness (h : b.validFrom = none ∨ b.validUntil = none) :
    b.timeRange.checkCorrectness = true := by
  simp only [timeRange, TimeRange.checkCorrectness, decide_eq_true_eq]
  rcases h with h | h <;> simp only [h, Option.getD_none]
  · exact Fin.zero_le _
  · exact Fin.le_last _

/-- What `tx` did when it returned: every required field was set, the nonce and the fee were
found, and the signer signed with them. -/
lemma tx_eq_ok {ztx : ZkSyncTx} {signature : Option PackedEthSignature}
    (h : b.tx crypto config errorText = .ok (ztx, signature)) :
    ∃ token amount «to» group1 group2 nonce fee tx, b.token = some token ∧
      b.amount = some amount ∧ b.to = some «to» ∧ b.group1 = some group1 ∧
      b.group2 = some group2 ∧ b.nonceOrCommitted = .ok nonce ∧
      b.feeOrQuoted «to» token = .ok fee ∧
      b.wallet.signer.signChangeGroup crypto config errorText token amount fee «to» group1 group2
        nonce b.timeRange = .ok (tx, signature) ∧ ztx = .changeGroup tx := by
  unfold tx at h
  obtain ⟨token, htoken, h⟩ := Run.bind_eq_ok.mp h
  obtain ⟨amount, hamount, h⟩ := Run.bind_eq_ok.mp h
  obtain ⟨«to», hto, h⟩ := Run.bind_eq_ok.mp h
  obtain ⟨group1, hgroup1, h⟩ := Run.bind_eq_ok.mp h
  obtain ⟨group2, hgroup2, h⟩ := Run.bind_eq_ok.mp h
  obtain ⟨nonce, hnonce, h⟩ := Run.bind_eq_ok.mp h
  obtain ⟨fee, hfee, h⟩ := Run.bind_eq_ok.mp h
  obtain ⟨⟨tx, signature'⟩, hsign, h⟩ := Run.bind_eq_ok.mp h
  cases h
  exact ⟨token, amount, «to», group1, group2, nonce, fee, tx, Run.ofOption_eq_ok.mp htoken,
    Run.ofOption_eq_ok.mp hamount, Run.ofOption_eq_ok.mp hto, Run.ofOption_eq_ok.mp hgroup1,
    Run.ofOption_eq_ok.mp hgroup2, hnonce, hfee, mapErr_eq_ok.mp hsign, rfl⟩

variable (crypto config errorText)

/-- Whatever `ChangeGroupBuilder::tx` returns, the server admits: signed for the wallet's own
address, the transaction passes the server's `check_correctness` (run with the settings the SDK
ran it with) on the copy it receives, and its L1 signature passes when the wallet's
`EthereumSigner` holds the wallet's key; the server ends with the very transaction the SDK
built. The L1 node must let `to` into the destination group, and the database must answer. -/
theorem tx_admitted (b : ChangeGroupBuilder) {ztx : ZkSyncTx}
    {signature : Option PackedEthSignature} (h : b.tx crypto config errorText = .ok (ztx, signature))
    (heth : ∀ ethSigner ∈ b.wallet.signer.ethSigner, ethSigner.SignsAs crypto b.wallet.address)
    (checks : OtherChecks) (orderCorrect : Order → Bool) (storage : Storage) (eth : EthereumChecker)
    (hconn : storage.establishConnection = .ok ())
    (hauth : ∀ address, ∃ v, storage.isAccountAutorised address = .ok v) :
    ∃ tx token, ztx = .changeGroup tx ∧ b.token = some token ∧ tx.from = b.wallet.address ∧
      (eth.isUserAllowedToTransferToThisGroup tx.group2 tx.to = .ok true →
        SignatureChecker.verify crypto config checks orderCorrect storage eth
          (changeGroupRequest tx token signature) =
          .ok ⟨.tx ⟨.changeGroup tx, ethSignData tx token signature⟩⟩) := by
  obtain ⟨token, _, _, _, _, _, _, tx, htoken, -, -, -, -, -, -, hsign, rfl⟩ := tx_eq_ok h
  obtain ⟨accountId, -, hnew, hsig⟩ := Signer.signWith_eq_ok.mp hsign
  obtain ⟨⟨bytes, signer, rfl⟩, hcheck⟩ := ChangeGroup.newSigned_eq_ok hnew
  refine ⟨_, token, rfl, htoken, rfl, fun hgroup => verify_changeGroupRequest hcheck ?_ hgroup
    hconn hauth⟩
  intro s hs
  obtain ⟨ethSigner, hes, hmsg⟩ := Signer.ethSignature_eq_ok_some (Option.mem_def.mp hs ▸ hsig)
  exact heth ethSigner hes _ _ hmsg

/-- A wallet whose keys and L1 signer all answer, building a `ChangeGroup` of everything it
holds to itself: the server admits what it builds. -/
theorem tx_admitted_sample :
    let crypto : Crypto := ⟨fun _ _ => some [], fun _ => default, fun _ _ => some H160.zero⟩
    let config : ServerConfig := ⟨0, false⟩
    let provider : Provider :=
      ⟨fun _ => .error (.providerError ""), fun _ _ _ => .error (.providerError "")⟩
    let signer := (Signer.new ⟨fun _ => default, default⟩ H160.zero
      (some ⟨fun _ => .ok (.ethereumSignature ⟨[]⟩)⟩)).setAccountId (some 0)
    let b : ChangeGroupBuilder := ⟨⟨provider, signer, ⟨fun _ => none⟩⟩, some ⟨0, "ETH", 18⟩,
      some 0, some 0, some H160.zero, some 0, some 1, some 0, none, none⟩
    let checks : OtherChecks := ⟨(.ok () ·), (.ok () ·), (.ok () ·), (.ok () ·),
      fun _ _ t => .ok () t, (.ok () ·)⟩
    let storage : Storage := ⟨.ok (), fun _ => .ok true⟩
    let eth : EthereumChecker := ⟨fun _ _ _ => .ok false, fun _ _ _ => .ok false,
      fun _ _ => .ok true⟩
    ∃ ztx signature, b.tx crypto config (fun _ => "") = .ok (ztx, signature) ∧
      (∀ ethSigner ∈ b.wallet.signer.ethSigner, ethSigner.SignsAs crypto b.wallet.address) ∧
      storage.establishConnection = .ok () ∧
      (∀ address, ∃ v, storage.isAccountAutorised address = .ok v) ∧
      ∃ tx token, ztx = .changeGroup tx ∧ b.token = some token ∧ tx.from = b.wallet.address ∧
        (eth.isUserAllowedToTransferToThisGroup tx.group2 tx.to = .ok true →
          SignatureChecker.verify crypto config checks (fun _ => true) storage eth
            (changeGroupRequest tx token signature) =
            .ok ⟨.tx ⟨.changeGroup tx, ethSignData tx token signature⟩⟩) :=
  ⟨_, _, rfl, fun _ _ _ _ _ => rfl, rfl, fun _ => ⟨true, rfl⟩,
    tx_admitted _ _ (fun _ => "") _ (by exact rfl) (fun _ _ _ _ _ => rfl) _ _ _ _ rfl fun _ => ⟨true, rfl⟩⟩

/-- `ChangeGroupBuilder::tx` returns for every wallet whose rollup key is valid and whose
`EthereumSigner`, if any, signs, with an account id in range, once the required fields are set,
the nonce and the fee are found and the values are ones the check takes: the transaction holds
the values the builder gathered, for the wallet's account and address, signed by the wallet's
key, with that key's hash as its signer. -/
theorem tx_ok (b : ChangeGroupBuilder) {token : Token} {amount : ℕ} {«to» : Address}
    {group2 : U16} {nonce : Nonce} {fee : ℕ} {accountId : AccountId}
    (htoken : b.token = some token) (hamount : b.amount = some amount) (hto : b.to = some «to»)
    (hgroup1 : b.group1 = some config.serverGroupId) (hgroup2 : b.group2 = some group2)
    (hnonce : b.nonceOrCommitted = .ok nonce) (hfee : b.feeOrQuoted «to» token = .ok fee)
    (hid : b.wallet.signer.accountId = some accountId) (hidMax : accountId ≤ maxAccountId)
    (hkey : b.wallet.signer.privateKey.Valid crypto)
    (heth : ∀ ethSigner ∈ b.wallet.signer.ethSigner, ∀ bytes, ∃ signature,
      ethSigner.signMessage bytes = .ok (.ethereumSignature signature))
    (hamountMax : amount ≤ u128Max) (hpackable : isFeeAmountPackable fee = true)
    (htokenMax : token.id ≤ maxFungibleTokenId)
    (hfeeToken : fee ≠ 0 → token.id ≤ maxProcessableToken)
    (htime : b.timeRange.checkCorrectness = true) :
    ∃ tx signature, b.tx crypto config errorText = .ok (.changeGroup tx, signature) ∧
      (∃ bytes, tx = { ChangeGroup.unsigned accountId b.wallet.address «to» token.id amount fee
        config.serverGroupId group2 nonce b.timeRange with
        signature := b.wallet.signer.privateKey.signMusig bytes,
        cachedSigner := .cached (some (b.wallet.signer.privateKey.pubKeyHash, .v1)) }) ∧
      (signature.isSome ↔ b.wallet.signer.ethSigner.isSome) := by
  obtain ⟨tx, signature, hsign, hshape, hsome⟩ := Signer.signChangeGroup_eq_ok_of config errorText
    «to» group2 nonce hid hidMax hkey heth hamountMax hpackable htokenMax hfeeToken htime
  refine ⟨tx, signature, ?_, hshape, hsome⟩
  simp only [ChangeGroupBuilder.tx, required, htoken, hamount, hto, hgroup1, hgroup2, hnonce, hfee,
    Run.ofOption_some,
    Run.ok_bind, hsign, Run.mapErr_ok]
  rfl

/-- A wallet with a key that signs and an L1 signer, a `ChangeGroup` of 1000 with no fee to
group 1: the builder returns it, signed. -/
theorem tx_ok_sample :
    let crypto : Crypto := ⟨fun _ _ => some [], fun _ => default, fun _ _ => none⟩
    let config : ServerConfig := ⟨0, false⟩
    let provider : Provider :=
      ⟨fun _ => .error (.providerError ""), fun _ _ _ => .error (.providerError "")⟩
    let signer := (Signer.new ⟨fun _ => default, default⟩ H160.zero
      (some ⟨fun _ => .ok (.ethereumSignature ⟨[]⟩)⟩)).setAccountId (some 0)
    let token : Token := ⟨0, "ETH", 18⟩
    let b : ChangeGroupBuilder := ⟨⟨provider, signer, ⟨fun _ => none⟩⟩, some token, some 1000,
      some 0, some H160.zero, some 0, some 1, some 7, none, none⟩
    b.nonceOrCommitted = .ok 7 ∧ b.feeOrQuoted H160.zero token = .ok 0 ∧
      b.wallet.signer.privateKey.Valid crypto ∧
      (∀ ethSigner ∈ b.wallet.signer.ethSigner, ∀ bytes, ∃ signature,
        ethSigner.signMessage bytes = .ok (.ethereumSignature signature)) ∧
      1000 ≤ u128Max ∧ isFeeAmountPackable 0 = true ∧ b.timeRange.checkCorrectness = true ∧
      ∃ tx signature, b.tx crypto config (fun _ => "") = .ok (.changeGroup tx, signature) ∧
        (∃ bytes, tx = { ChangeGroup.unsigned 0 b.wallet.address H160.zero token.id 1000 0
          config.serverGroupId 1 7 b.timeRange with
          signature := b.wallet.signer.privateKey.signMusig bytes,
          cachedSigner := .cached (some (b.wallet.signer.privateKey.pubKeyHash, .v1)) }) ∧
        (signature.isSome ↔ b.wallet.signer.ethSigner.isSome) :=
  ⟨rfl, rfl, fun _ => rfl, fun _ h _ => ⟨⟨[]⟩, by cases h; rfl⟩, by decide, by decide, rfl,
    tx_ok _ _ _ _ rfl rfl rfl rfl rfl rfl rfl rfl (by decide) (fun _ => rfl)
      (fun _ h _ => ⟨⟨[]⟩, by cases h; rfl⟩) (by decide) (by decide) (by decide)
      (fun h => absurd rfl h) rfl⟩

/-- `tx` does not round a fee the provider quotes, as the fee setter does: with the required
fields set and the nonce found, a quoted fee that is not packable fails signing with
`FeeNotPackable` when it is within the largest fee float, and past it packing the bytes to sign
panics. -/
theorem tx_quotedFee_not_packable (b : ChangeGroupBuilder) {token : Token} {amount : ℕ}
    {«to» : Address} {group1 group2 : U16} {nonce : Nonce} {quote : Fee} {accountId : AccountId}
    (htoken : b.token = some token) (hamount : b.amount = some amount) (hto : b.to = some «to»)
    (hgroup1 : b.group1 = some group1) (hgroup2 : b.group2 = some group2)
    (hnonce : b.nonceOrCommitted = .ok nonce) (hfee : b.fee = none)
    (hquote : b.wallet.provider.getTxFee .withdraw «to» token.id = .ok quote)
    (hid : b.wallet.signer.accountId = some accountId) (hamountMax : amount ≤ u128Max)
    (hpackable : isFeeAmountPackable quote.totalFee = false) :
    (quote.totalFee ≤ (2 ^ feeMantissaBitWidth - 1) * 10 ^ (2 ^ feeExponentBitWidth - 1) →
      b.tx crypto config errorText =
        .err (.signingError (.signingFailed (errorText .feeNotPackable)))) ∧
    ((2 ^ feeMantissaBitWidth - 1) * 10 ^ (2 ^ feeExponentBitWidth - 1) < quote.totalFee →
      ∃ m, b.tx crypto config errorText = .panic m) := by
  have hquoted : b.feeOrQuoted «to» token = .ok quote.totalFee := by
    simp only [feeOrQuoted, hfee, hquote, ofExcept, Run.ok_bind, Run.pure_eq]
  have hsigned := @ChangeGroup.newSigned_of_not_packable crypto config
    b.wallet.signer.privateKey.signMusig accountId b.wallet.signer.address «to» token.id _ _ group1
    group2 nonce b.timeRange hamountMax hpackable
  simp only [ChangeGroupBuilder.tx, required, htoken, hamount, hto, hgroup1, hgroup2, hnonce,
    hquoted, Run.ofOption_some, Run.ok_bind, Signer.signChangeGroup, Signer.signWith, hid]
  refine ⟨fun hle => by simp only [hsigned.1 hle, Run.mapErr_err, Run.err_bind], fun hlt => ?_⟩
  obtain ⟨m, hm⟩ := hsigned.2 hlt
  exact ⟨m, by simp only [hm, Run.mapErr_panic, Run.panic_bind]⟩

/-- A provider quoting a fee of 2049, which no 11-bit mantissa holds: the builder's transaction
fails signing with `FeeNotPackable`. -/
theorem tx_quotedFee_not_packable_sample :
    let crypto : Crypto := ⟨fun _ _ => some [], fun _ => default, fun _ _ => none⟩
    let provider : Provider := ⟨fun _ => .error (.providerError ""), fun _ _ _ => .ok ⟨2049⟩⟩
    let signer := (Signer.new ⟨fun _ => default, default⟩ H160.zero none).setAccountId (some 0)
    let token : Token := ⟨0, "ETH", 18⟩
    let b : ChangeGroupBuilder := ⟨⟨provider, signer, ⟨fun _ => none⟩⟩, some token, some 1000,
      none, some H160.zero, some 0, some 1, some 7, none, none⟩
    isFeeAmountPackable 2049 = false ∧
      2049 ≤ (2 ^ feeMantissaBitWidth - 1) * 10 ^ (2 ^ feeExponentBitWidth - 1) ∧
      b.tx crypto ⟨0, false⟩ (fun _ => "") = .err (.signingError (.signingFailed "")) :=
  ⟨by decide, by decide, (tx_quotedFee_not_packable _ _ _ _ (by exact rfl) (by exact rfl)
    (by exact rfl) (by exact rfl) (by exact rfl) (by exact rfl) (by exact rfl) (by exact rfl)
    (by exact rfl) (by decide) (by decide)).1 (by decide)⟩

end ChangeGroupBuilder

end ModularRollup.Sdk
