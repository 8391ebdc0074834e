import ModularRollup.TxCommon

/-! The `ChangeGroup` transaction: a withdrawal from an account of this group to an L1 address
in another group. Its signed bytes, its signer cache and `check_correctness`. -/
namespace ModularRollup.ChangeGroupTx
open Primitives AmountCodec TxCommon

structure ChangeGroup where
  accountId : AccountId
  «from» : Address
  «to» : Address
  token : TokenId
  amount : ℕ
  fee : ℕ
  group1 : U16
  group2 : U16
  nonce : Nonce
  signature : TxSignature
  cachedSigner : VerifiedSignatureCache
  fast : Bool
  timeRange : Option TimeRange

namespace ChangeGroup

def TX_TYPE : UInt8 := 12

def getBytes (tx : ChangeGroup) : Run Empty (List UInt8) := do
  let amount ← if tx.amount ≤ u128Max then pure (toBeBytes 16 tx.amount) else .panic Run.unwrapNone
  let fee ← packFeeAmount tx.fee
  pure ([255 - TX_TYPE] ++ toBeBytes 4 tx.accountId ++ tx.from.bytes ++ tx.to.bytes ++
    toBeBytes 4 tx.token ++ amount ++ fee ++ toBeBytes 2 tx.group1 ++ toBeBytes 2 tx.group2 ++
    toBeBytes 4 tx.nonce ++ (tx.timeRange.map TimeRange.asBeBytes).getD [])

variable (crypto : Crypto)

/-- Restores the `PubKeyHash` from the signature, or returns the cached one. -/
def verifySignature (tx : ChangeGroup) : Run Empty (Option (PubKeyHash × TxVersion)) :=
  verifySignatureWith crypto tx.cachedSigner tx.signature tx.getBytes

/-- `ChangeGroup::new`: a given signature is verified at once and its signer cached. -/
def new (accountId : AccountId) («from» «to» : Address) (token : TokenId) (amount fee : ℕ)
    (group1 group2 : U16) (nonce : Nonce) (timeRange : TimeRange)
    (signature : Option TxSignature) : Run Empty ChangeGroup := do
  let tx : ChangeGroup := ⟨accountId, «from», «to», token, amount, fee, group1, group2, nonce,
    signature.getD default, .notCached, false, some timeRange⟩
  match signature with
  | none => pure tx
  | some _ => do
    let signer ← tx.verifySignature crypto
    pure { tx with cachedSigner := .cached signer }

def wipeSignerCache (tx : ChangeGroup) : ChangeGroup := { tx with cachedSigner := .notCached }

inductive TransactionError
  | wrongAmount
  | amountNotPackable
  | wrongFee
  | feeNotPackable
  | wrongAccountId
  | wrongToken
  | wrongTimeRange
  | wrongSignature
  | wrongTokenForPayingFee
  | wrongGroup
  deriving DecidableEq, Repr

variable (config : ServerConfig)

/-- The checks `check_correctness` makes before the signature, in its order. -/
def fieldError (tx : ChangeGroup) : Option TransactionError :=
  if u128Max < tx.amount then some .wrongAmount
  else if u128Max < tx.fee then some .wrongFee
  else if !isFeeAmountPackable tx.fee then some .feeNotPackable
  else if maxAccountId < tx.accountId then some .wrongAccountId
  else if maxFungibleTokenId < tx.token then some .wrongToken
  else if tx.group1 ≠ config.serverGroupId then some .wrongGroup
  else if !(tx.timeRange.map TimeRange.checkCorrectness).getD true then some .wrongTimeRange
  else if tx.fee ≠ 0 ∧ maxProcessableToken < tx.token then some .wrongTokenForPayingFee
  else none

/-- `check_correctness(&mut self)`: after the field checks it caches the recovered signer,
and fails when there is none. -/
def checkCorrectness (tx : ChangeGroup) : Exec ChangeGroup TransactionError Unit :=
  checkAndCacheSigner (fieldError config tx) .wrongSignature (tx.verifySignature crypto)
    (fun signer => { tx with cachedSigner := signer }) tx

/-- `ChangeGroup::new_signed`: the transaction `new` makes without a signature, signed over its
bytes by the key whose `TxSignature::sign_musig` is `signMusig`, then checked. -/
def newSigned (signMusig : List UInt8 → TxSignature) (accountId : AccountId) («from» «to» : Address)
    (token : TokenId) (amount fee : ℕ) (group1 group2 : U16) (nonce : Nonce)
    (timeRange : TimeRange) : Run TransactionError ChangeGroup := do
  let tx ← liftM (new crypto accountId «from» «to» token amount fee group1 group2 nonce timeRange
    none)
  let bytes ← liftM tx.getBytes
  let tx := { tx with signature := signMusig bytes }
  match tx.checkCorrectness crypto config with
  | .ok () tx => pure tx
  | .err e _ => throw e
  | .panic m => .panic m

/-- No failed field check means a `u128` amount and a packable fee. -/
lemma fieldError_eq_none {tx : ChangeGroup} (h : fieldError config tx = none) :
    tx.amount ≤ u128Max ∧ isFeeAmountPackable tx.fee = true := by
  unfold fieldError at h
  by_cases h₁ : u128Max < tx.amount
  · rw [if_pos h₁] at h
    cases h
  by_cases h₂ : u128Max < tx.fee
  · rw [if_neg h₁, if_pos h₂] at h
    cases h
  refine ⟨Nat.not_lt.mp h₁, ?_⟩
  by_contra h₃
  rw [if_neg h₁, if_neg h₂, if_pos (by simpa using h₃)] at h
  cases h

/-- A `check_correctness` that passes saw a `u128` amount and a packable fee, and changed
nothing but the cached signer. -/
lemma checkCorrectness_ok {tx tx' : ChangeGroup} (h : tx.checkCorrectness crypto config = .ok () tx') :
    tx.amount ≤ u128Max ∧ isFeeAmountPackable tx.fee = true ∧
      ∃ signer, tx.verifySignature crypto = .ok (some signer) ∧
        tx' = { tx with cachedSigner := .cached (some signer) } := by
  obtain ⟨hnone, hsig⟩ := checkAndCacheSigner_ok.mp h
  exact ⟨(fieldError_eq_none config hnone).1, (fieldError_eq_none config hnone).2, hsig⟩

end ChangeGroup

end ModularRollup.ChangeGroupTx
