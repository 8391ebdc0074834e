import Mathlib.Data.Option.Basic
import ModularRollup.ChangeGroupTx

/-! The transaction kinds of `ZkSyncTx` and the dispatch of `check_correctness` to them.
`Transfer` and `MintNFT` are modelled from their sources, `ChangeGroup` in `ChangeGroupTx`. The
kinds whose code is not under src/ keep the fields the modelled functions read, and their
`check_correctness` is a parameter. -/
namespace ModularRollup.Transactions
open Primitives AmountCodec TxCommon ChangeGroupTx

/-- `Transfer` moves funds from one account of the group to another. -/
structure Transfer where
  accountId : AccountId
  «from» : Address
  «to» : Address
  token : TokenId
  amount : ℕ
  fee : ℕ
  group : U16
  nonce : Nonce
  timeRange : Option TimeRange
  signature : TxSignature
  cachedSigner : VerifiedSignatureCache

namespace Transfer

def TX_TYPE : UInt8 := 5

def getBytes (tx : Transfer) : Run Empty (List UInt8) := do
  let amount ← packTokenAmount tx.amount
  let fee ← packFeeAmount tx.fee
  pure ([255 - TX_TYPE, currentTxVersion] ++ toBeBytes 4 tx.accountId ++ tx.from.bytes ++
    tx.to.bytes ++ toBeBytes 4 tx.token ++ amount ++ fee ++ toBeBytes 2 tx.group ++
    toBeBytes 4 tx.nonce ++ (tx.timeRange.getD default).asBeBytes)

variable (crypto : Crypto)

def verifySignature (tx : Transfer) : Run Empty (Option (PubKeyHash × TxVersion)) :=
  verifySignatureWith crypto tx.cachedSigner tx.signature tx.getBytes

/-- `Transfer::new`: a given signature is verified at once and its signer cached. -/
def new (accountId : AccountId) («from» «to» : Address) (token : TokenId) (amount fee : ℕ)
    (group : U16) (nonce : Nonce) (timeRange : TimeRange) (signature : Option TxSignature) :
    Run Empty Transfer := do
  let tx : Transfer := ⟨accountId, «from», «to», token, amount, fee, group, nonce, some timeRange,
    signature.getD default, .notCached⟩
  match signature with
  | none => pure tx
  | some _ => do
    let signer ← tx.verifySignature crypto
    pure { tx with cachedSigner := .cached signer }

def wipeSignerCache (tx : Transfer) : Transfer := { tx with cachedSigner := .notCached }

inductive TransactionError
  | wrongAmount
  | amountNotPackable
  | wrongFee
  | feeNotPackable
  | wrongAccountId
  | wrongToken
  | wrongTimeRange
  | wrongSignature
  | wrongToAddress
  | wrongTokenForPayingFee
  | wrongGroup
  | notAllowedSender
  | notAllowedDestination
  deriving DecidableEq, Repr

variable (config : ServerConfig)

/-- The checks `check_correctness` makes before the signature, in its order. -/
def fieldError (senderAutorisation receiverAutorisation : Bool) (tx : Transfer) :
    Option TransactionError :=
  (permissionError config.serverPermissioned senderAutorisation receiverAutorisation
    .notAllowedSender .notAllowedDestination).orElse fun _ =>
  if u128Max < tx.amount then some .wrongAmount
  else if u128Max < tx.fee then some .wrongFee
  else if !isTokenAmountPackable tx.amount then some .amountNotPackable
  else if !isFeeAmountPackable tx.fee then some .feeNotPackable
  else if maxAccountId < tx.accountId then some .wrongAccountId
  else if tx.group ≠ config.serverGroupId then some .wrongGroup
  else if maxTokenId < tx.token then some .wrongToken
  else if tx.to = H160.zero then some .wrongToAddress
  else if !(tx.timeRange.map TimeRange.checkCorrectness).getD true then some .wrongTimeRange
  else if tx.fee ≠ 0 ∧ maxProcessableToken < tx.token then some .wrongTokenForPayingFee
  else none

def checkCorrectness (senderAutorisation receiverAutorisation : Bool) (tx : Transfer) :
    Exec Transfer TransactionError Unit :=
  checkAndCacheSigner (fieldError config senderAutorisation receiverAutorisation tx)
    .wrongSignature (tx.verifySignature crypto) (fun signer => { tx with cachedSigner := signer }) tx

/-- `Transfer::new_signed`: the transfer `new` makes without a signature, signed over its bytes
by the key whose `TxSignature::sign_musig` is `signMusig`, then checked as authorised. -/
def newSigned (signMusig : List UInt8 → TxSignature) (accountId : AccountId) («from» «to» : Address)
    (token : TokenId) (amount fee : ℕ) (group : U16) (nonce : Nonce) (timeRange : TimeRange) :
    Run TransactionError Transfer := do
  let tx ← liftM (new crypto accountId «from» «to» token amount fee group nonce timeRange none)
  let bytes ← liftM tx.getBytes
  let tx := { tx with signature := signMusig bytes }
  match tx.checkCorrectness crypto config true true with
  | .ok () tx => pure tx
  | .err e _ => throw e
  | .panic m => .panic m

end Transfer

/-- `MintNFT` mints an NFT for a recipient. -/
structure MintNFT where
  creatorId : AccountId
  creatorAddress : Address
  contentHash : H256
  recipient : Address
  fee : ℕ
  feeToken : TokenId
  group : U16
  nonce : Nonce
  signature : TxSignature
  cachedSigner : VerifiedSignatureCache

namespace MintNFT

def TX_TYPE : UInt8 := 9

def getBytes (tx : MintNFT) : Run Empty (List UInt8) := do
  let fee ← packFeeAmount tx.fee
  pure ([255 - TX_TYPE, currentTxVersion] ++ toBeBytes 4 tx.creatorId ++ tx.creatorAddress.bytes ++
    tx.contentHash.bytes ++ tx.recipient.bytes ++ toBeBytes 4 tx.feeToken ++ fee ++
    toBeBytes 2 tx.group ++ toBeBytes 4 tx.nonce)

variable (crypto : Crypto)

def verifySignature (tx : MintNFT) : Run Empty (Option (PubKeyHash × TxVersion)) :=
  verifySignatureWith crypto tx.cachedSigner tx.signature tx.getBytes

/-- `MintNFT::new`: a given signature is verified at once and its signer cached. -/
def new (creatorId : AccountId) (creatorAddress : Address) (contentHash : H256)
    (recipient : Address) (fee : ℕ) (feeToken : TokenId) (group : U16) (nonce : Nonce)
    (signature : Option TxSignature) : Run Empty MintNFT := do
  let tx : MintNFT := ⟨creatorId, creatorAddress, contentHash, recipient, fee, feeToken, group,
    nonce, signature.getD default, .notCached⟩
  match signature with
  | none => pure tx
  | some _ => do
    let signer ← tx.verifySignature crypto
    pure { tx with cachedSigner := .cached signer }

def wipeSignerCache (tx : MintNFT) : MintNFT := { tx with cachedSigner := .notCached }

inductive TransactionError
  | wrongFee
  | feeNotPackable
  | wrongCreatorId
  | wrongSignature
  | wrongFeeToken
  | wrongGroup
  | notAllowedSender
  | notAllowedDestination
  deriving DecidableEq, Repr

variable (config : ServerConfig)

/-- The checks `check_correctness` makes before the signature, in its order. -/
def fieldError (senderAutorisation receiverAutorisation : Bool) (tx : MintNFT) :
    Option TransactionError :=
  (permissionError config.serverPermissioned senderAutorisation receiverAutorisation
    .notAllowedSender .notAllowedDestination).orElse fun _ =>
  if u128Max < tx.fee then some .wrongFee
  else if !isFeeAmountPackable tx.fee then some .feeNotPackable
  else if tx.group ≠ config.serverGroupId then some .wrongGroup
  else if maxAccountId < tx.creatorId then some .wrongCreatorId
  else if maxProcessableToken < tx.feeToken then some .wrongFeeToken
  else none

def checkCorrectness (senderAutorisation receiverAutorisation : Bool) (tx : MintNFT) :
    Exec MintNFT TransactionError Unit :=
  checkAndCacheSigner (fieldError config senderAutorisation receiverAutorisation tx)
    .wrongSignature (tx.verifySignature crypto) (fun signer => { tx with cachedSigner := signer }) tx

/-- `MintNFT::new_signed`: the mint `new` makes without a signature, signed over its bytes by
the key whose `TxSignature::sign_musig` is `signMusig`, then checked as authorised. -/
def newSigned (signMusig : List UInt8 → TxSignature) (creatorId : AccountId)
    (creatorAddress : Address) (contentHash : H256) (recipient : Address) (fee : ℕ)
    (feeToken : TokenId) (group : U16) (nonce : Nonce) : Run TransactionError MintNFT := do
  let tx ← liftM (new crypto creatorId creatorAddress contentHash recipient fee feeToken group nonce
    none)
  let bytes ← liftM tx.getBytes
  let tx := { tx with signature := signMusig bytes }
  match tx.checkCorrectness crypto config true true with
  | .ok () tx => pure tx
  | .err e _ => throw e
  | .panic m => .panic m

end MintNFT

/-! Modelled from the spec: the kinds whose code is not under src/, with the fields that
`account`, `to_account` and the Ethereum checks read. -/

structure Withdraw where
  «from» : Address
  «to» : Address

structure Close where
  account : Address

/-- How a `ChangePubKey` is authorized on L1; `Onchain` carries no message signature. -/
inductive ChangePubKeyEthAuthData
  | onchain
  | ecdsa
  | create2

structure ChangePubKey where
  account : Address
  newPkHash : PubKeyHash
  nonce : Nonce
  ethAuthData : ChangePubKeyEthAuthData

def ChangePubKey.isOnchain (tx : ChangePubKey) : Bool :=
  match tx.ethAuthData with
  | .onchain => true
  | _ => false

structure ForcedExit where
  target : Address

structure Swap where
  submitterAddress : Address

structure WithdrawNFT where
  «from» : Address
  «to» : Address

/-- Modelled from the spec: `tx::error::TransactionError`, one case for each kind's own
error. -/
inductive TransactionError
  | transferError (e : Transfer.TransactionError)
  | withdrawError
  | closeError
  | changePubKeyError
  | forcedExitError
  | mintNFTError (e : MintNFT.TransactionError)
  | swapError
  | withdrawNFTError
  | changeGroupError (e : ChangeGroup.TransactionError)
  | orderError

/-- Modelled from the spec: `check_correctness` of the kinds whose code is not under src/, each
with the value it leaves; `Swap`'s also reads the two authorization flags. -/
structure OtherChecks where
  withdraw : Withdraw → Exec Withdraw TransactionError Unit
  close : Close → Exec Close TransactionError Unit
  changePubKey : ChangePubKey → Exec ChangePubKey TransactionError Unit
  forcedExit : ForcedExit → Exec ForcedExit TransactionError Unit
  swap : Bool → Bool → Swap → Exec Swap TransactionError Unit
  withdrawNFT : WithdrawNFT → Exec WithdrawNFT TransactionError Unit

inductive ZkSyncTx
  | transfer (tx : Transfer)
  | withdraw (tx : Withdraw)
  | close (tx : Close)
  | changePubKey (tx : ChangePubKey)
  | forcedExit (tx : ForcedExit)
  | mintNFT (tx : MintNFT)
  | swap (tx : Swap)
  | withdrawNFT (tx : WithdrawNFT)
  | changeGroup (tx : ChangeGroup)

namespace ZkSyncTx

/-- The account affected by the transaction. -/
def account : ZkSyncTx → Address
  | .transfer tx => tx.from
  | .withdraw tx => tx.from
  | .close tx => tx.account
  | .changePubKey tx => tx.account
  | .forcedExit tx => tx.target
  | .swap tx => tx.submitterAddress
  | .mintNFT tx => tx.creatorAddress
  | .withdrawNFT tx => tx.from
  | .changeGroup tx => tx.from

def toAccount : ZkSyncTx → Option Address
  | .transfer tx => some tx.to
  | .withdraw tx => some tx.to
  | .close tx => some tx.account
  | .changePubKey tx => some tx.newPkHash.data
  | .forcedExit tx => some tx.target
  | .swap tx => some tx.submitterAddress
  | .mintNFT tx => some tx.recipient
  | .withdrawNFT tx => some tx.to
  | .changeGroup tx => some tx.to

variable (crypto : Crypto) (config : ServerConfig) (checks : OtherChecks)

/-- `check_correctness(&mut self, sender_autorisation, receiver_autorisation)`: the kind's own
check, its error wrapped with `?`. `ChangeGroup` does not read the two flags. -/
def checkCorrectness (senderAutorisation receiverAutorisation : Bool) :
    ZkSyncTx → Exec ZkSyncTx TransactionError Unit
  | .transfer tx => (tx.checkCorrectness crypto config senderAutorisation receiverAutorisation).map
      .transfer .transferError
  | .withdraw tx => (checks.withdraw tx).map .withdraw id
  | .close tx => (checks.close tx).map .close id
  | .changePubKey tx => (checks.changePubKey tx).map .changePubKey id
  | .forcedExit tx => (checks.forcedExit tx).map .forcedExit id
  | .mintNFT tx => (tx.checkCorrectness crypto config senderAutorisation receiverAutorisation).map
      .mintNFT .mintNFTError
  | .swap tx => (checks.swap senderAutorisation receiverAutorisation tx).map .swap id
  | .withdrawNFT tx => (checks.withdrawNFT tx).map .withdrawNFT id
  | .changeGroup tx => (tx.checkCorrectness crypto config).map .changeGroup .changeGroupError

lemma toAccount_isSome (tx : ZkSyncTx) : tx.toAccount.isSome := by
  cases tx <;> rfl

/-- In permissioned mode a `Transfer` or a `MintNFT` passes `check_correctness` only with both
authorization flags set. -/
lemma checkCorrectness_flags {senderAutorisation receiverAutorisation : Bool} {tx tx' : ZkSyncTx}
    (h : tx.checkCorrectness crypto config checks senderAutorisation receiverAutorisation =
      .ok () tx')
    (hkind : (∃ t, tx = .transfer t) ∨ ∃ t, tx = .mintNFT t)
    (hp : config.serverPermissioned = true) :
    senderAutorisation = true ∧ receiverAutorisation = true := by
  rcases hkind with ⟨t, rfl⟩ | ⟨t, rfl⟩
  · obtain ⟨t', ht, -⟩ := Exec.map_eq_ok.mp h
    obtain ⟨hnone, -⟩ := checkAndCacheSigner_ok.mp ht
    exact permissionError_eq_none ((Option.orElse_eq_none' _ _).mp hnone).1 hp
  · obtain ⟨t', ht, -⟩ := Exec.map_eq_ok.mp h
    obtain ⟨hnone, -⟩ := checkAndCacheSigner_ok.mp ht
    exact permissionError_eq_none ((Option.orElse_eq_none' _ _).mp hnone).1 hp

/-- A check that leaves a `ChangeGroup` was the `ChangeGroup`'s own check. -/
lemma checkCorrectness_eq_changeGroup {senderAutorisation receiverAutorisation : Bool}
    {tx : ZkSyncTx} {tx' : ChangeGroup}
    (h : tx.checkCorrectness crypto config checks senderAutorisation receiverAutorisation =
      .ok () (.changeGroup tx')) :
    ∃ t, tx = .changeGroup t ∧ t.checkCorrectness crypto config = .ok () tx' := by
  cases tx <;> obtain ⟨t', ht, he⟩ := Exec.map_eq_ok.mp h <;> cases he
  exact ⟨_, rfl, ht⟩

end ZkSyncTx

structure EthSignData where
  signature : TxEthSignature
  message : List UInt8

/-- A transaction with the Ethereum signature and message its user signed, if one is needed. -/
structure SignedZkSyncTx where
  tx : ZkSyncTx
  ethSignData : Option EthSignData

end ModularRollup.Transactions
