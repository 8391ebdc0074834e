import Mathlib.Data.Fintype.Card
import ModularRollup.Transactions

/-! The signature checker: `VerifiedTx::verify` admits a request once its Ethereum signatures
and then every transaction's `check_correctness` pass. The L1 oracle and the storage are
parameters; a query that does not reach them panics, as the `expect`s and `unwrap`s do. -/
namespace ModularRollup.SignatureChecker
open Primitives TxCommon Transactions

/-- Modelled from the spec: the L1 oracle `EthereumChecker` (not under src/). A query can fail
to reach the chain, with an error text. -/
structure EthereumChecker where
  isEip1271SignatureCorrect : Address → List UInt8 → EIP1271Signature → Except String Bool
  isNewPubkeyHashAuthorized : Address → Nonce → PubKeyHash → Except String Bool
  isUserAllowedToTransferToThisGroup : U16 → Address → Except String Bool

/-- Modelled from the spec: the storage calls of `verify_tx_correctness` (not under src/). -/
structure Storage where
  establishConnection : Except String Unit
  isAccountAutorised : Address → Except String Bool

/-- Modelled from the spec: `TxAddError`, with the cases the checker returns. -/
inductive TxAddError
  | incorrectEthSignature
  | changePkNotAuthorized
  | userNotWhitelisted
  | incorrectTx (e : TransactionError)
  | other

/-- Modelled from the spec: `EthBatchSignData`, the signatures of a batch over one message. -/
structure EthBatchSignData where
  signatures : List TxEthSignature
  message : List UInt8

/-- Modelled from the spec: `Token`; the checker reads none of its fields. -/
structure Token where
  id : TokenId

/-- Modelled from the spec: `Order`; only its own check reads it. -/
structure Order where
  data : List UInt8

structure TxRequest where
  tx : SignedZkSyncTx
  sender : Address
  token : Token

structure BatchRequest where
  txs : List SignedZkSyncTx
  batchSignData : Option EthBatchSignData
  senders : List Address
  tokens : List Token

structure OrderRequest where
  order : Order
  signData : EthSignData
  sender : Address

structure Toggle2FARequest where
  signData : EthSignData
  sender : Address

inductive RequestData
  | tx (request : TxRequest)
  | batch (request : BatchRequest)
  | order (request : OrderRequest)
  | toggle2FA (request : Toggle2FARequest)

inductive TxVariant
  | tx (tx : SignedZkSyncTx)
  | batch (txs : List SignedZkSyncTx) (batchSignData : Option EthBatchSignData)
  | order (order : Order)
  | toggle2FA

/-- `VerifiedTx`: its field is private, so `verify` is the only way to build one. -/
structure VerifiedTx where
  variant : TxVariant

/-- The transactions a request carries. -/
def RequestData.txs : RequestData → List SignedZkSyncTx
  | .tx request => [request.tx]
  | .batch request => request.txs
  | .order _ => []
  | .toggle2FA _ => []

def RequestData.getTxVariant : RequestData → TxVariant
  | .tx request => .tx request.tx
  | .batch request => .batch request.txs request.batchSignData
  | .order request => .order request.order
  | .toggle2FA _ => .toggle2FA

/-! ## The Ethereum stage -/

section EthStage

variable (crypto : Crypto) (eth : EthereumChecker)

/-- Whether `ethSignature` over `message` is `senderAddress`'s: the recovered address, or the
oracle's answer for a contract wallet. -/
def verifyEthereumSignature (ethSignature : TxEthSignature) (message : List UInt8)
    (senderAddress : Address) : Run Empty Bool :=
  match ethSignature with
  | .ethereumSignature packedSignature =>
    pure (crypto.recoverSigner packedSignature message == some senderAddress)
  | .eip1271Signature signature =>
    Run.expectOk (eth.isEip1271SignatureCorrect senderAddress message signature)
      "Unable to check EIP1271 signature"

def verifyEthSignatureSingleTx (tx : SignedZkSyncTx) (senderAddress : Address) :
    Run TxAddError Unit := do
  if let .changePubKey changePk := tx.tx then
    if changePk.isOnchain then
      let isAuthorized ← Run.expectOk
        (eth.isNewPubkeyHashAuthorized changePk.account changePk.nonce changePk.newPkHash)
        "Unable to check onchain ChangePubKey Authorization"
      if !isAuthorized then throw TxAddError.changePkNotAuthorized
  if let .changeGroup changeGroup := tx.tx then
    let isAuthorized ← Run.expectOk
      (eth.isUserAllowedToTransferToThisGroup changeGroup.group2 changeGroup.to)
      "Unable to check onchain ChangeGroup Authorization"
    if !isAuthorized then throw TxAddError.userNotWhitelisted
  if let some signData := tx.ethSignData then
    let signatureCorrect ←
      verifyEthereumSignature crypto eth signData.signature signData.message senderAddress
    if !signatureCorrect then throw TxAddError.incorrectEthSignature

/-- The inner scan of `verify_eth_signature_txs_batch`: whether a signature, tried in order, is
correct for `sender`; it stops at the first that is. -/
def senderCorrect (message : List UInt8) (sender : Address) :
    List TxEthSignature → Run Empty Bool
  | [] => pure false
  | signature :: signatures => do
    if ← verifyEthereumSignature crypto eth signature message sender then pure true
    else senderCorrect message sender signatures

/-- The loop of `verify_eth_signature_txs_batch` over the senders, with the set `signers` of
those a signature was found for. -/
def verifySenders (batchSignData : EthBatchSignData) :
    List Address → Finset Address → Run TxAddError Unit
  | [], _ => pure ()
  | sender :: senders, signers =>
    if sender ∈ signers then verifySenders batchSignData senders signers
    else if signers.card = batchSignData.signatures.length then
      throw TxAddError.incorrectEthSignature
    else do
      if ← senderCorrect crypto eth batchSignData.message sender batchSignData.signatures then
        verifySenders batchSignData senders (insert sender signers)
      else throw TxAddError.incorrectEthSignature

def verifyEthSignatureTxsBatch (senders : List Address) (batchSignData : EthBatchSignData) :
    Run TxAddError Unit :=
  verifySenders crypto eth batchSignData senders ∅

/-- Some signature of the batch is correct for `sender`. -/
def Covered (batchSignData : EthBatchSignData) (sender : Address) : Prop :=
  ∃ signature ∈ batchSignData.signatures,
    verifyEthereumSignature crypto eth signature batchSignData.message sender = .ok true

section BatchMatcher

variable {crypto eth} {message : List UInt8} {sender : Address}

lemma senderCorrect_eq_true {signatures : List TxEthSignature}
    (h : senderCorrect crypto eth message sender signatures = .ok true) :
    ∃ signature ∈ signatures,
      verifyEthereumSignature crypto eth signature message sender = .ok true := by
  induction signatures with
  | nil => simp [senderCorrect] at h
  | cons signature signatures ih =>
    rcases hv : verifyEthereumSignature crypto eth signature message sender with (_ | _) | e | m
    · simp only [senderCorrect, hv, Run.ok_bind, Bool.false_eq_true, if_false] at h
      obtain ⟨s, hs, hs'⟩ := ih h
      exact ⟨s, List.mem_cons_of_mem _ hs, hs'⟩
    · exact ⟨signature, List.mem_cons_self _ _, hv⟩
    · exact e.elim
    · simp [senderCorrect, hv] at h

/-- When the oracle answers for every signature, the scan returns, and finds a correct
signature when there is one. -/
lemma senderCorrect_of_answers {signatures : List TxEthSignature}
    (hans : ∀ signature ∈ signatures,
      ∃ b, verifyEthereumSignature crypto eth signature message sender = .ok b) :
    ∃ b, senderCorrect crypto eth message sender signatures = .ok b ∧
      ((∃ signature ∈ signatures,
        verifyEthereumSignature crypto eth signature message sender = .ok true) → b = true) := by
  induction signatures with
  | nil => exact ⟨false, rfl, fun ⟨_, h, _⟩ => absurd h (List.not_mem_nil _)⟩
  | cons signature signatures ih =>
    obtain ⟨b, hb⟩ := hans signature (List.mem_cons_self _ _)
    cases b
    · obtain ⟨b', hb', himp⟩ := ih fun s hs => hans s (List.mem_cons_of_mem _ hs)
      refine ⟨b', by simp [senderCorrect, hb, hb'], fun ⟨s, hs, hv⟩ => himp ⟨s, ?_, hv⟩⟩
      rcases List.mem_cons.mp hs with rfl | hs
      · rw [hb] at hv; cases hv
      · exact hs
    · exact ⟨true, by simp [senderCorrect, hb], fun _ => rfl⟩

variable {batchSignData : EthBatchSignData}

/-- The loop admits only senders that some signature is correct for. -/
lemma verifySenders_sound {senders : List Address} {signers : Finset Address}
    (h : verifySenders crypto eth batchSignData senders signers = .ok ())
    (hsigners : ∀ a ∈ signers, Covered crypto eth batchSignData a) :
    ∀ a ∈ senders, Covered crypto eth batchSignData a := by
  induction senders generalizing signers with
  | nil => simp
  | cons sender senders ih =>
    by_cases hin : sender ∈ signers
    · simp only [verifySenders, hin, if_true] at h
      exact List.forall_mem_cons.mpr ⟨hsigners sender hin, ih h hsigners⟩
    by_cases hcard : signers.card = batchSignData.signatures.length
    · simp [verifySenders, hin, hcard] at h
    simp only [verifySenders, hin, hcard, if_false] at h
    obtain ⟨b, hb, h⟩ := Run.bind_eq_ok.mp h
    cases b
    · cases h
    · obtain ⟨s, hs, hv⟩ := senderCorrect_eq_true (Run.lift_eq_ok.mp hb)
      have hcov : Covered crypto eth batchSignData sender := ⟨s, hs, hv⟩
      exact List.forall_mem_cons.mpr ⟨hcov, ih h ((Finset.forall_mem_insert _ _ _).mpr
        ⟨hcov, hsigners⟩)⟩

variable
  (hans : ∀ signature ∈ batchSignData.signatures, ∀ address,
    ∃ b, verifyEthereumSignature crypto eth signature batchSignData.message address = .ok b)
  (huniq : ∀ signature ∈ batchSignData.signatures, ∀ a b,
    verifyEthereumSignature crypto eth signature batchSignData.message a = .ok true →
    verifyEthereumSignature crypto eth signature batchSignData.message b = .ok true → a = b)
include huniq in
/-- The pigeonhole step: when each signature is correct for at most one address, the senders
already matched are fewer than the signatures while a covered sender is still unmatched. -/
lemma card_lt_of_covered {signers : Finset Address}
    (hcov : ∀ a ∈ insert sender signers, Covered crypto eth batchSignData a)
    (hnot : sender ∉ signers) : signers.card < batchSignData.signatures.length := by
  obtain ⟨s₀, hs₀, -⟩ := hcov sender (Finset.mem_insert_self _ _)
  obtain ⟨i₀, -⟩ := List.mem_iff_get.mp hs₀
  have hidx : ∀ a, ∃ i : Fin batchSignData.signatures.length, a ∈ insert sender signers →
      verifyEthereumSignature crypto eth (batchSignData.signatures.get i) batchSignData.message a =
        .ok true := fun a => by
    by_cases ha : a ∈ insert sender signers
    · obtain ⟨s, hs, hv⟩ := hcov a ha
      obtain ⟨i, rfl⟩ := List.mem_iff_get.mp hs
      exact ⟨i, fun _ => hv⟩
    · exact ⟨i₀, fun h => absurd h ha⟩
  choose f hf using hidx
  have hle : (insert sender signers).card ≤ (Finset.univ : Finset (Fin _)).card :=
    Finset.card_le_card_of_injOn f (fun a _ => Finset.mem_univ _) fun a ha b hb hab =>
      huniq _ (List.get_mem _ _ _) a b (hf a ha) (by rw [hab]; exact hf b hb)
  rw [Finset.card_insert_of_not_mem hnot, Finset.card_univ, Fintype.card_fin] at hle
  omega

include hans huniq in
/-- When the oracle answers and each signature is correct for at most one address, the loop
admits every list of covered senders: the pigeonhole exit never fires on one. -/
lemma verifySenders_complete {senders : List Address} {signers : Finset Address}
    (hsenders : ∀ a ∈ senders, Covered crypto eth batchSignData a)
    (hsigners : ∀ a ∈ signers, Covered crypto eth batchSignData a) :
    verifySenders crypto eth batchSignData senders signers = .ok () := by
  induction senders generalizing signers with
  | nil => rfl
  | cons sender senders ih =>
    obtain ⟨hcov, hrest⟩ := List.forall_mem_cons.mp hsenders
    by_cases hin : sender ∈ signers
    · simp only [verifySenders, hin, if_true]
      exact ih hrest hsigners
    · have hins : ∀ a ∈ insert sender signers, Covered crypto eth batchSignData a :=
        (Finset.forall_mem_insert _ _ _).mpr ⟨hcov, hsigners⟩
      have hcard := card_lt_of_covered huniq hins hin
      obtain ⟨b, hb, himp⟩ := senderCorrect_of_answers fun s hs => hans s hs sender
      obtain rfl := himp hcov
      simp only [verifySenders, hin, if_false, hcard.ne, hb, Run.lift_ok, Run.ok_bind, if_true]
      exact ih hrest hins

include hans in
/-- When the oracle answers, the loop accepts or rejects with `IncorrectEthSignature`. -/
lemma verifySenders_cases (senders : List Address) (signers : Finset Address) :
    verifySenders crypto eth batchSignData senders signers = .ok () ∨
      verifySenders crypto eth batchSignData senders signers = .err .incorrectEthSignature := by
  induction senders generalizing signers with
  | nil => exact .inl rfl
  | cons sender senders ih =>
    by_cases hin : sender ∈ signers
    · simp only [verifySenders, hin, if_true]
      exact ih signers
    by_cases hcard : signers.card = batchSignData.signatures.length
    · simp [verifySenders, hin, hcard]
    obtain ⟨b, hb, -⟩ := senderCorrect_of_answers fun s hs => hans s hs sender
    cases b
    · simp [verifySenders, hin, hcard, hb]
    · simp only [verifySenders, hin, hcard, if_false, hb, Run.lift_ok, Run.ok_bind, if_true]
      exact ih _

end BatchMatcher

/-- `verify_eth_signature_txs_batch` admits only batches whose every sender has a correct
signature. When the oracle answers and each signature is correct for at most one address, it
admits exactly those, and its verdict depends only on the set of senders, not on their order
or repetitions. -/
theorem verifyEthSignatureTxsBatch_spec (senders : List Address)
    (batchSignData : EthBatchSignData) :
    (verifyEthSignatureTxsBatch crypto eth senders batchSignData = .ok () →
      ∀ sender ∈ senders, Covered crypto eth batchSignData sender) ∧
    ((∀ signature ∈ batchSignData.signatures, ∀ address, ∃ b,
        verifyEthereumSignature crypto eth signature batchSignData.message address = .ok b) →
      (∀ signature ∈ batchSignData.signatures, ∀ a b,
        verifyEthereumSignature crypto eth signature batchSignData.message a = .ok true →
        verifyEthereumSignature crypto eth signature batchSignData.message b = .ok true → a = b) →
      (verifyEthSignatureTxsBatch crypto eth senders batchSignData = .ok () ↔
        ∀ sender ∈ senders, Covered crypto eth batchSignData sender) ∧
      ∀ senders' : List Address, (∀ a, a ∈ senders' ↔ a ∈ senders) →
        verifyEthSignatureTxsBatch crypto eth senders' batchSignData =
          verifyEthSignatureTxsBatch crypto eth senders batchSignData) := by
  have hsound : ∀ l, verifyEthSignatureTxsBatch crypto eth l batchSignData = .ok () →
      ∀ a ∈ l, Covered crypto eth batchSignData a :=
    fun l h => verifySenders_sound h (by simp)
  refine ⟨hsound senders, fun hans huniq => ?_⟩
  have hiff : ∀ l, verifyEthSignatureTxsBatch crypto eth l batchSignData = .ok () ↔
      ∀ a ∈ l, Covered crypto eth batchSignData a :=
    fun l => ⟨hsound l, fun hl => verifySenders_complete hans huniq hl (by simp)⟩
  refine ⟨hiff senders, fun senders' hmem => ?_⟩
  have hsame : (∀ a ∈ senders', Covered crypto eth batchSignData a) ↔
      ∀ a ∈ senders, Covered crypto eth batchSignData a :=
    ⟨fun h a ha => h a ((hmem a).mpr ha), fun h a ha => h a ((hmem a).mp ha)⟩
  unfold verifyEthSignatureTxsBatch at hiff ⊢
  rcases verifySenders_cases hans senders' ∅ with h' | h' <;>
    rcases verifySenders_cases hans senders ∅ with h | h
  · rw [h', h]
  · exact absurd ((hiff senders).mpr (hsame.mp ((hiff senders').mp h'))) (by rw [h]; simp)
  · exact absurd ((hiff senders').mpr (hsame.mpr ((hiff senders).mp h))) (by rw [h']; simp)
  · rw [h', h]

theorem verifyEthSignatureTxsBatch_spec_sample :
    let crypto : Crypto := ⟨fun _ _ => none, fun _ => default, fun _ _ => some H160.zero⟩
    let eth : EthereumChecker :=
      ⟨fun _ _ _ => .ok false, fun _ _ _ => .ok false, fun _ _ => .ok false⟩
    let batchSignData : EthBatchSignData := ⟨[.ethereumSignature ⟨[]⟩], []⟩
    let senders : List Address := [H160.zero, H160.zero]
    (∀ signature ∈ batchSignData.signatures, ∀ address, ∃ b,
        verifyEthereumSignature crypto eth signature batchSignData.message address = .ok b) ∧
    (∀ signature ∈ batchSignData.signatures, ∀ a b,
        verifyEthereumSignature crypto eth signature batchSignData.message a = .ok true →
        verifyEthereumSignature crypto eth signature batchSignData.message b = .ok true → a = b) ∧
    (verifyEthSignatureTxsBatch crypto eth senders batchSignData = .ok () ↔
        ∀ sender ∈ senders, Covered crypto eth batchSignData sender) ∧
      ∀ senders' : List Address, (∀ a, a ∈ senders' ↔ a ∈ senders) →
        verifyEthSignatureTxsBatch crypto eth senders' batchSignData =
          verifyEthSignatureTxsBatch crypto eth senders batchSignData := by
  intro crypto eth batchSignData senders
  have hans : ∀ signature ∈ batchSignData.signatures, ∀ address, ∃ b,
      verifyEthereumSignature crypto eth signature batchSignData.message address = .ok b := by
    intro signature hs address
    simp only [batchSignData, List.mem_singleton] at hs
    subst hs
    exact ⟨_, rfl⟩
  have huniq : ∀ signature ∈ batchSignData.signatures, ∀ a b,
      verifyEthereumSignature crypto eth signature batchSignData.message a = .ok true →
      verifyEthereumSignature crypto eth signature batchSignData.message b = .ok true → a = b := by
    intro signature hs a b ha hb
    simp only [batchSignData, List.mem_singleton] at hs
    subst hs
    simp [verifyEthereumSignature, crypto] at ha hb
    subst ha
    subst hb
    rfl
  exact ⟨hans, huniq, (verifyEthSignatureTxsBatch_spec crypto eth senders batchSignData).2 hans huniq⟩

/-- The check an order or a 2FA toggle gets: its signature must be its sender's. -/
def verifySignData (signData : EthSignData) (sender : Address) : Run TxAddError Unit := do
  let signatureCorrect ←
    verifyEthereumSignature crypto eth signData.signature signData.message sender
  if !signatureCorrect then throw TxAddError.incorrectEthSignature

def verifyEthSignature : RequestData → Run TxAddError Unit
  | .tx request => verifyEthSignatureSingleTx crypto eth request.tx request.sender
  | .batch request => do
    if request.senders.length ≠ request.txs.length then throw TxAddError.other
    if let some batchSignData := request.batchSignData then
      verifyEthSignatureTxsBatch crypto eth request.senders batchSignData
    ((request.txs.zip request.senders).zip request.tokens).forM fun ((tx, account), _) =>
      verifyEthSignatureSingleTx crypto eth tx account
  | .order request => verifySignData crypto eth request.signData request.sender
  | .toggle2FA request => verifySignData crypto eth request.signData request.sender

/-- What a batch that passes the Ethereum stage has had checked: the senders and the
transactions agree in number, the batch signature covers the senders, and each member whose
index is below the number of tokens passed its own check; the loop zips the transactions with
the tokens, so members past them are not checked. -/
theorem verifyEthSignature_batch_ok {request : BatchRequest}
    (h : verifyEthSignature crypto eth (.batch request) = .ok ()) :
    request.senders.length = request.txs.length ∧
    (∀ batchSignData, request.batchSignData = some batchSignData →
      verifyEthSignatureTxsBatch crypto eth request.senders batchSignData = .ok ()) ∧
    ∀ i (hi : i < request.txs.length) (hs : i < request.senders.length),
      i < request.tokens.length →
      verifyEthSignatureSingleTx crypto eth request.txs[i] request.senders[i] = .ok () := by
  simp only [verifyEthSignature] at h
  by_cases hlen : request.senders.length = request.txs.length
  swap
  · simp [hlen] at h
  simp only [hlen, ne_eq, not_true_eq_false, if_false, Run.pure_eq, Run.ok_bind] at h
  have hparts : (∀ batchSignData, request.batchSignData = some batchSignData →
      verifyEthSignatureTxsBatch crypto eth request.senders batchSignData = .ok ()) ∧
      ((request.txs.zip request.senders).zip request.tokens).forM
        (fun x => verifyEthSignatureSingleTx crypto eth x.1.1 x.1.2) = .ok () := by
    rcases hb : request.batchSignData with _ | batchSignData <;> simp only [hb] at h
    · exact ⟨fun _ h => (by cases h), by simpa using h⟩
    · obtain ⟨⟨⟩, hv, hf⟩ := Run.bind_eq_ok.mp h
      exact ⟨fun _ h => (by cases h; exact hv), hf⟩
  refine ⟨hlen, hparts.1, fun i hi hs ht => ?_⟩
  replace h := hparts.2
  have hmem : ((request.txs[i], request.senders[i]), request.tokens[i]) ∈
      (request.txs.zip request.senders).zip request.tokens := by
    have hz : i < ((request.txs.zip request.senders).zip request.tokens).length := by
      simp only [List.length_zip]
      omega
    simpa using List.getElem_mem hz
  exact Run.forM_eq_ok.mp h _ hmem

theorem verifyEthSignature_batch_ok_sample :
    let crypto : Crypto := ⟨fun _ _ => none, fun _ => default, fun _ _ => none⟩
    let eth : EthereumChecker :=
      ⟨fun _ _ _ => .ok false, fun _ _ _ => .ok false, fun _ _ => .ok false⟩
    let member : SignedZkSyncTx := ⟨.forcedExit ⟨H160.zero⟩, none⟩
    let request : BatchRequest := ⟨[member, member], none, [H160.zero, H160.zero], [⟨0⟩, ⟨0⟩]⟩
    verifyEthSignature crypto eth (.batch request) = .ok () ∧
    request.senders.length = request.txs.length ∧
    (∀ batchSignData, request.batchSignData = some batchSignData →
      verifyEthSignatureTxsBatch crypto eth request.senders batchSignData = .ok ()) ∧
    ∀ i (_ : i < request.txs.length) (_ : i < request.senders.length),
      i < request.tokens.length →
      verifyEthSignatureSingleTx crypto eth request.txs[i] request.senders[i] = .ok () := by
  intro crypto eth member request
  have h : verifyEthSignature crypto eth (.batch request) = .ok () := rfl
  exact ⟨h, verifyEthSignature_batch_ok crypto eth h⟩

/-- A batch of one `ChangeGroup` whose group whitelist check fails, with no tokens: the batch
passes the Ethereum stage while its member fails its own check. -/
theorem verifyEthSignature_batch_skips_member :
    let crypto : Crypto := ⟨fun _ _ => none, fun _ => default, fun _ _ => none⟩
    let eth : EthereumChecker :=
      ⟨fun _ _ _ => .ok false, fun _ _ _ => .ok false, fun _ _ => .ok false⟩
    let changeGroup : ChangeGroupTx.ChangeGroup :=
      ⟨0, H160.zero, H160.zero, 0, 0, 0, 0, 1, 0, default, .notCached, false, none⟩
    let member : SignedZkSyncTx := ⟨.changeGroup changeGroup, none⟩
    verifyEthSignature crypto eth (.batch ⟨[member], none, [H160.zero], []⟩) = .ok () ∧
      verifyEthSignatureSingleTx crypto eth member H160.zero = .err .userNotWhitelisted :=
  ⟨rfl, rfl⟩

end EthStage

/-! ## The correctness stage -/

section Correctness

variable (crypto : Crypto) (config : ServerConfig) (checks : OtherChecks)
  (orderCorrect : Order → Bool) (storage : Storage)

/-- One transaction of `verify_tx_correctness`: the authorization flags of its own account and
of `receiverAccount`, then its `check_correctness` with them. -/
def checkWithAutorisation (receiverAccount : Address) (stx : SignedZkSyncTx) :
    Exec SignedZkSyncTx TxAddError Unit :=
  match Run.unwrapOk (storage.isAccountAutorised stx.tx.account),
    Run.unwrapOk (storage.isAccountAutorised receiverAccount) with
  | .ok senderAutorisation, .ok receiverAutorisation =>
    (stx.tx.checkCorrectness crypto config checks senderAutorisation receiverAutorisation).map
      (fun tx => { stx with tx := tx }) .incorrectTx
  | .panic m, _ => .panic m
  | .ok _, .panic m => .panic m

/-- The loop of `verify_tx_correctness` over a batch, checking each transaction in place. -/
def checkBatch : List SignedZkSyncTx → Exec (List SignedZkSyncTx) TxAddError Unit
  | [] => .ok () []
  | stx :: rest =>
    match Run.expect stx.tx.toAccount Run.unwrapNone with
    | .ok receiverAccount =>
      match checkWithAutorisation crypto config checks storage receiverAccount stx with
      | .ok () stx' => (checkBatch rest).map (stx' :: ·) id
      | .err e stx' => .err e (stx' :: rest)
      | .panic m => .panic m
    | .panic m => .panic m

def verifyTxCorrectness : TxVariant → Exec TxVariant TxAddError Unit
  | .tx stx =>
    match Run.expect stx.tx.toAccount Run.unwrapNone, Run.unwrapOk storage.establishConnection with
    | .ok receiverAccount, .ok () =>
      (checkWithAutorisation crypto config checks storage receiverAccount stx).map .tx id
    | .panic m, _ => .panic m
    | .ok _, .panic m => .panic m
  | .batch batch batchSignData =>
    match Run.unwrapOk storage.establishConnection with
    | .ok () => (checkBatch crypto config checks storage batch).map (.batch · batchSignData) id
    | .panic m => .panic m
  | .order order =>
    if orderCorrect order then .ok () (.order order)
    else .err (.incorrectTx .orderError) (.order order)
  | .toggle2FA => .ok () .toggle2FA

variable (eth : EthereumChecker)

/-- `VerifiedTx::verify`: the Ethereum stage, then the correctness stage on the request's
transactions. -/
def verify (requestData : RequestData) : Run TxAddError VerifiedTx := do
  verifyEthSignature crypto eth requestData
  match verifyTxCorrectness crypto config checks orderCorrect storage requestData.getTxVariant with
  | .ok () txVariant => pure ⟨txVariant⟩
  | .err e _ => throw e
  | .panic m => .panic m

/-- `stx'` is `stx` as its `check_correctness` left it, run with the authorization flags
storage gives for the transaction's own account and destination. -/
def PassedCheck (stx stx' : SignedZkSyncTx) : Prop :=
  ∃ receiverAccount senderAutorisation receiverAutorisation,
    stx.tx.toAccount = some receiverAccount ∧
    storage.isAccountAutorised stx.tx.account = .ok senderAutorisation ∧
    storage.isAccountAutorised receiverAccount = .ok receiverAutorisation ∧
    stx.tx.checkCorrectness crypto config checks senderAutorisation receiverAutorisation =
      .ok () stx'.tx ∧
    stx'.ethSignData = stx.ethSignData

/-- `variant` holds `request`'s transactions in their order, each as its check left it. -/
def Admitted : RequestData → TxVariant → Prop
  | .tx request, .tx stx => PassedCheck crypto config checks storage request.tx stx
  | .batch request, .batch txs batchSignData =>
    batchSignData = request.batchSignData ∧
      List.Forall₂ (PassedCheck crypto config checks storage) request.txs txs
  | .order request, .order order => order = request.order ∧ orderCorrect request.order = true
  | .toggle2FA _, .toggle2FA => True
  | _, _ => False

lemma checkWithAutorisation_ok {receiverAccount : Address} {stx stx' : SignedZkSyncTx}
    (h : checkWithAutorisation crypto config checks storage receiverAccount stx = .ok () stx') :
    ∃ senderAutorisation receiverAutorisation,
      storage.isAccountAutorised stx.tx.account = .ok senderAutorisation ∧
      storage.isAccountAutorised receiverAccount = .ok receiverAutorisation ∧
      stx.tx.checkCorrectness crypto config checks senderAutorisation receiverAutorisation =
        .ok () stx'.tx ∧
      stx'.ethSignData = stx.ethSignData := by
  unfold checkWithAutorisation at h
  rcases hs : storage.isAccountAutorised stx.tx.account with e | senderAutorisation <;>
    rcases hr : storage.isAccountAutorised receiverAccount with e' | receiverAutorisation <;>
    simp only [hs, hr, Run.unwrapOk] at h <;> try cases h
  obtain ⟨tx', htx, rfl⟩ := Exec.map_eq_ok.mp h
  exact ⟨senderAutorisation, receiverAutorisation, rfl, rfl, htx, rfl⟩

lemma checkBatch_ok {txs txs' : List SignedZkSyncTx}
    (h : checkBatch crypto config checks storage txs = .ok () txs') :
    List.Forall₂ (PassedCheck crypto config checks storage) txs txs' := by
  induction txs generalizing txs' with
  | nil => cases h; exact .nil
  | cons stx rest ih =>
    obtain ⟨receiverAccount, hto⟩ := Option.isSome_iff_exists.mp stx.tx.toAccount_isSome
    simp only [checkBatch, hto, Run.expect] at h
    rcases hc : checkWithAutorisation crypto config checks storage receiverAccount stx with
      ⟨⟩ | ⟨e, stx'⟩ | m <;> rw [hc] at h
    · rename_i stx'
      obtain ⟨rest', hrest, rfl⟩ := Exec.map_eq_ok.mp h
      obtain ⟨s, r, hs, hr, hcheck, heth⟩ := checkWithAutorisation_ok crypto config checks storage hc
      exact .cons ⟨receiverAccount, s, r, hto, hs, hr, hcheck, heth⟩ (ih hrest)
    · cases h
    · cases h

lemma verifyTxCorrectness_ok {request : RequestData} {variant : TxVariant}
    (h : verifyTxCorrectness crypto config checks orderCorrect storage request.getTxVariant =
      .ok () variant) :
    Admitted crypto config checks orderCorrect storage request variant := by
  cases request with
  | tx request =>
    obtain ⟨receiverAccount, hto⟩ := Option.isSome_iff_exists.mp request.tx.tx.toAccount_isSome
    rcases hc : storage.establishConnection with e | ⟨⟩ <;>
      simp only [RequestData.getTxVariant, verifyTxCorrectness, hto, hc, Run.expect,
        Run.unwrapOk] at h
    · cases h
    · obtain ⟨stx', hstx, rfl⟩ := Exec.map_eq_ok.mp h
      obtain ⟨s, r, hs, hr, hcheck, heth⟩ :=
        checkWithAutorisation_ok crypto config checks storage hstx
      exact ⟨receiverAccount, s, r, hto, hs, hr, hcheck, heth⟩
  | batch request =>
    rcases hc : storage.establishConnection with e | ⟨⟩ <;>
      simp only [RequestData.getTxVariant, verifyTxCorrectness, hc, Run.unwrapOk] at h
    · cases h
    · obtain ⟨txs', htxs, rfl⟩ := Exec.map_eq_ok.mp h
      exact ⟨rfl, checkBatch_ok crypto config checks storage htxs⟩
  | order request =>
    simp only [RequestData.getTxVariant, verifyTxCorrectness] at h
    split_ifs at h with hok
    cases h
    exact ⟨rfl, hok⟩
  | toggle2FA request =>
    cases h
    trivial

lemma forall₂_exists_left {α β : Type} {R : α → β → Prop} {l : List α} {l' : List β}
    (h : List.Forall₂ R l l') : ∀ a ∈ l, ∃ b, R a b := by
  induction h with
  | nil => exact fun _ ha => absurd ha (List.not_mem_nil _)
  | cons hab _ ih =>
    intro x hx
    rcases List.mem_cons.mp hx with rfl | hmem
    · exact ⟨_, hab⟩
    · exact ih x hmem

/-- Each transaction of an admitted request passed its check. -/
lemma Admitted.passedCheck {request : RequestData} {variant : TxVariant}
    (h : Admitted crypto config checks orderCorrect storage request variant) :
    ∀ stx ∈ request.txs, ∃ stx', PassedCheck crypto config checks storage stx stx' := by
  intro stx hstx
  cases request <;> cases variant <;> simp only [Admitted] at h <;>
    simp only [RequestData.txs, List.mem_singleton, List.not_mem_nil] at hstx
  · subst hstx
    exact ⟨_, h⟩
  · exact forall₂_exists_left h.2 stx hstx

/-- In permissioned mode a `Transfer` or a `MintNFT` passes its check only when storage
authorises both its account and its destination. -/
lemma PassedCheck.authorised {stx stx' : SignedZkSyncTx}
    (h : PassedCheck crypto config checks storage stx stx')
    (hkind : (∃ t, stx.tx = .transfer t) ∨ ∃ t, stx.tx = .mintNFT t)
    (hp : config.serverPermissioned = true) :
    storage.isAccountAutorised stx.tx.account = .ok true ∧ ∃ receiverAccount,
      stx.tx.toAccount = some receiverAccount ∧
      storage.isAccountAutorised receiverAccount = .ok true := by
  obtain ⟨receiverAccount, s, r, hto, hs, hr, hcheck, -⟩ := h
  obtain ⟨rfl, rfl⟩ := stx.tx.checkCorrectness_flags crypto config checks hcheck hkind hp
  exact ⟨hs, receiverAccount, hto, hr⟩

variable (eth : EthereumChecker)

lemma verify_ok {request : RequestData} {v : VerifiedTx}
    (h : verify crypto config checks orderCorrect storage eth request = .ok v) :
    verifyEthSignature crypto eth request = .ok () ∧
      Admitted crypto config checks orderCorrect storage request v.variant := by
  obtain ⟨⟨⟩, heth, h⟩ := Run.bind_eq_ok.mp h
  refine ⟨heth, ?_⟩
  split at h
  · next variant hv =>
    cases h
    exact verifyTxCorrectness_ok crypto config checks orderCorrect storage hv
  · cases h
  · cases h

/-- `VerifiedTx::verify` returns its Ethereum stage's error without running the correctness
stage, and admits a request only after both stages: the result holds the request's
transactions in their order, each as its `check_correctness` with the flags storage gives for
its own accounts left it; in permissioned mode every `Transfer` and `MintNFT` it admits had
both flags set. -/
theorem verify_spec (request : RequestData) :
    (∀ e, verifyEthSignature crypto eth request = .err e →
      verify crypto config checks orderCorrect storage eth request = .err e) ∧
    ∀ v, verify crypto config checks orderCorrect storage eth request = .ok v →
      verifyEthSignature crypto eth request = .ok () ∧
      Admitted crypto config checks orderCorrect storage request v.variant ∧
      (config.serverPermissioned = true → ∀ stx ∈ request.txs,
        ((∃ t, stx.tx = .transfer t) ∨ ∃ t, stx.tx = .mintNFT t) →
        storage.isAccountAutorised stx.tx.account = .ok true ∧ ∃ receiverAccount,
          stx.tx.toAccount = some receiverAccount ∧
          storage.isAccountAutorised receiverAccount = .ok true) := by
  refine ⟨fun e he => by simp [verify, he], fun v h => ?_⟩
  obtain ⟨heth, hadm⟩ := verify_ok crypto config checks orderCorrect storage eth h
  refine ⟨heth, hadm, fun hp stx hstx hkind => ?_⟩
  obtain ⟨stx', hpass⟩ := hadm.passedCheck crypto config checks orderCorrect storage stx hstx
  exact hpass.authorised crypto config checks storage hkind hp

theorem verify_spec_sample :
    let crypto : Crypto := ⟨fun _ _ => none, fun _ => default, fun _ _ => none⟩
    let eth : EthereumChecker :=
      ⟨fun _ _ _ => .ok false, fun _ _ _ => .ok false, fun _ _ => .ok false⟩
    let config : ServerConfig := ⟨0, true⟩
    let checks : OtherChecks := ⟨(.ok () ·), (.ok () ·), (.ok () ·), (.ok () ·),
      fun _ _ t => .ok () t, (.ok () ·)⟩
    let storage : Storage := ⟨.ok (), fun _ => .ok true⟩
    let key : PubKeyHash := ⟨⟨List.replicate 20 1, rfl⟩⟩
    let transfer : Transfer := ⟨0, H160.zero, ⟨List.replicate 20 1, rfl⟩, 0, 0, 0, 0, 0, none,
      default, .cached (some (key, .v1))⟩
    let request : RequestData := .tx ⟨⟨.transfer transfer, none⟩, H160.zero, ⟨0⟩⟩
    ∃ v, verify crypto config checks (fun _ => true) storage eth request = .ok v ∧
      verifyEthSignature crypto eth request = .ok () ∧
      Admitted crypto config checks (fun _ => true) storage request v.variant ∧
      (config.serverPermissioned = true → ∀ stx ∈ request.txs,
        ((∃ t, stx.tx = .transfer t) ∨ ∃ t, stx.tx = .mintNFT t) →
        storage.isAccountAutorised stx.tx.account = .ok true ∧ ∃ receiverAccount,
          stx.tx.toAccount = some receiverAccount ∧
          storage.isAccountAutorised receiverAccount = .ok true) :=
  ⟨_, rfl, (verify_spec _ _ _ _ _ _ _).2 _ rfl⟩

/-- A batch of one `Transfer` whose Ethereum signature is not its sender's, with no tokens:
`verify` admits it, while the member fails its own Ethereum check. -/
theorem verify_admits_unchecked_member :
    let crypto : Crypto := ⟨fun _ _ => none, fun _ => default, fun _ _ => none⟩
    let eth : EthereumChecker :=
      ⟨fun _ _ _ => .ok false, fun _ _ _ => .ok false, fun _ _ => .ok false⟩
    let config : ServerConfig := ⟨0, false⟩
    let checks : OtherChecks := ⟨(.ok () ·), (.ok () ·), (.ok () ·), (.ok () ·),
      fun _ _ t => .ok () t, (.ok () ·)⟩
    let storage : Storage := ⟨.ok (), fun _ => .ok true⟩
    let key : PubKeyHash := ⟨⟨List.replicate 20 1, rfl⟩⟩
    let transfer : Transfer := ⟨0, H160.zero, ⟨List.replicate 20 1, rfl⟩, 0, 0, 0, 0, 0, none,
      default, .cached (some (key, .v1))⟩
    let member : SignedZkSyncTx := ⟨.transfer transfer, some ⟨.ethereumSignature ⟨[]⟩, []⟩⟩
    (∃ v, verify crypto config checks (fun _ => true) storage eth
        (.batch ⟨[member], none, [H160.zero], []⟩) = .ok v) ∧
      verifyEthSignatureSingleTx crypto eth member H160.zero = .err .incorrectEthSignature :=
  ⟨⟨_, rfl⟩, rfl⟩

end Correctness

end ModularRollup.SignatureChecker
