import ModularRollup.BlockWitness
import ModularRollup.Sdk
import ModularRollup.Runs

/-! A `ChangeGroup` from end to end: the SDK's `ChangeGroupBuilder` builds and signs it, the
signature checker admits it, the state's `apply_tx` applies it, and the witness generator
repeats the step on the circuit's account tree. For a wallet whose valid key is the key of its
account in the state, under the signer's account id, every stage passes once the account's nonce
is the transaction's and its balance covers amount and fee: the state debits the account and
moves its nonce on, and a tree that held the state holds the new one. Over many transactions,
what the checker admits runs through the state's handlers without a panic. -/
namespace ModularRollup.Pipeline
open Primitives AmountCodec TxCommon State ChangeGroupTx Transactions Sdk Witness BlockWitness
open Operations (ChangeGroupOp)
open SignatureChecker (EthereumChecker Storage Order)

variable {crypto : Crypto} {config : ServerConfig}

/-! ## The transaction the SDK builds -/

/-- A chain of checks that found no error passed its first check and the rest. -/
lemma ite_some_eq_none {c : Prop} [Decidable c] {α : Type} {a : α} {rest : Option α}
    (h : (if c then some a else rest) = none) : ¬c ∧ rest = none := by
  split_ifs at h with hc
  exact ⟨hc, h⟩

/-- The bounds a passed `check_correctness` saw, beyond the amount and the fee. -/
lemma checkCorrectness_bounds {tx tx' : ChangeGroup}
    (h : tx.checkCorrectness crypto config = .ok () tx') :
    tx.accountId ≤ maxAccountId ∧ tx.token ≤ maxFungibleTokenId ∧
      (tx.fee ≠ 0 → tx.token ≤ maxProcessableToken) := by
  have h := (checkAndCacheSigner_ok.mp h).1
  unfold ChangeGroup.fieldError at h
  obtain ⟨-, h⟩ := ite_some_eq_none h
  obtain ⟨-, h⟩ := ite_some_eq_none h
  obtain ⟨-, h⟩ := ite_some_eq_none h
  obtain ⟨hid, h⟩ := ite_some_eq_none h
  obtain ⟨htoken, h⟩ := ite_some_eq_none h
  obtain ⟨-, h⟩ := ite_some_eq_none h
  obtain ⟨-, h⟩ := ite_some_eq_none h
  obtain ⟨hfeeToken, -⟩ := ite_some_eq_none h
  exact ⟨not_lt.mp hid, not_lt.mp htoken, fun hfee => not_lt.mp fun hlt => hfeeToken ⟨hfee, hlt⟩⟩

/-- With a key that signs as `signer`, the signer `new_signed` caches is `signer`. -/
lemma newSigned_cachedSigner {signMusig : List UInt8 → TxSignature}
    {signer : PubKeyHash × TxVersion} {accountId : AccountId} {«from» «to» : Address}
    {token : TokenId} {amount fee : ℕ} {group1 group2 : U16} {nonce : Nonce}
    {timeRange : TimeRange} {tx : ChangeGroup}
    (hkey : ∀ bytes, crypto.musigSigner (signMusig bytes) bytes = some signer)
    (h : ChangeGroup.newSigned crypto config signMusig accountId «from» «to» token amount fee
      group1 group2 nonce timeRange = .ok tx) :
    tx.cachedSigner = .cached (some signer) := by
  unfold ChangeGroup.newSigned at h
  obtain ⟨tx₀, h₀, h⟩ := Run.bind_eq_ok.mp h
  cases Run.lift_eq_ok.mp h₀
  obtain ⟨bytes, hbytes, h⟩ := Run.bind_eq_ok.mp h
  dsimp only at h
  split at h
  next tx' hc =>
    cases h
    obtain ⟨-, -, signer', hsig, rfl⟩ := ChangeGroup.checkCorrectness_ok crypto config hc
    simp only [ChangeGroup.verifySignature, verifySignatureWith] at hsig
    obtain ⟨bytes', hbytes', hsig⟩ := Run.bind_eq_ok.mp hsig
    obtain rfl : bytes' = bytes := Run.ok.inj (hbytes'.symm.trans (Run.lift_eq_ok.mp hbytes))
    rw [Run.pure_eq, hkey] at hsig
    cases hsig
    rfl
  all_goals cases h

variable {errorText : ChangeGroup.TransactionError → String} {b : ChangeGroupBuilder}

/-- What `ChangeGroupBuilder::tx` returns for a wallet with a valid key: a transaction for the
signer's account and the wallet's address, with the key's hash cached as its signer, that passes
the server's check on the copy without the cache; its L1 signature, if any, recovers the
wallet's address when the wallet's `EthereumSigner` holds the wallet's key. -/
lemma tx_eq_ok_of_valid {ztx : ZkSyncTx} {signature : Option PackedEthSignature}
    (h : b.tx crypto config errorText = .ok (ztx, signature))
    (hkey : b.wallet.signer.privateKey.Valid crypto)
    (heth : ∀ ethSigner ∈ b.wallet.signer.ethSigner, ethSigner.SignsAs crypto b.wallet.address) :
    ∃ tx token accountId, ztx = .changeGroup tx ∧ b.token = some token ∧
      b.wallet.signer.accountId = some accountId ∧ tx.accountId = accountId ∧
      tx.from = b.wallet.address ∧
      tx.cachedSigner = .cached (some (b.wallet.signer.privateKey.pubKeyHash, .v1)) ∧
      tx.wipeSignerCache.checkCorrectness crypto config = .ok () tx ∧
      ∀ s ∈ signature, crypto.recoverSigner s (asBytes
        (SignMessage.ChangeGroup.getEthereumSignMessage tx token.symbol token.decimals)) =
          some tx.from := by
  obtain ⟨token, _, _, _, _, _, _, tx, htoken, -, -, -, -, -, -, hsign, rfl⟩ :=
    ChangeGroupBuilder.tx_eq_ok h
  obtain ⟨accountId, hid, hnew, hsig⟩ := Signer.signWith_eq_ok.mp hsign
  obtain ⟨⟨bytes, signer, rfl⟩, hcheck⟩ := ChangeGroup.newSigned_eq_ok hnew
  refine ⟨_, token, accountId, rfl, htoken, hid, rfl, rfl, newSigned_cachedSigner hkey hnew,
    hcheck, fun s hs => ?_⟩
  obtain ⟨ethSigner, hes, hmsg⟩ := Signer.ethSignature_eq_ok_some (Option.mem_def.mp hs ▸ hsig)
  exact heth ethSigner hes _ _ hmsg

/-! ## The state's side -/

/-- `apply_tx` of a `ChangeGroup` applies every transaction that passes the checks of
`create_op` and `apply_op`: the token and the fee token in range, the sender's address indexing
an unlocked account under the transaction's account id whose key hash is the signer the
signature gives, an id in range, the account's nonce, and a balance that covers amount and
fee. It debits amount and fee and moves the nonce on. -/
lemma applyTx_eq_ok_of {s : ZkSyncState} {tx : ChangeGroup} {a : Account}
    {signer : Option (PubKeyHash × TxVersion)}
    (htoken : tx.token ≤ maxFungibleTokenId) (hfeeToken : tx.fee ≠ 0 → tx.token ≤ maxProcessableToken)
    (hindex : s.accountIdByAddress tx.from = some tx.accountId)
    (ha : s.getAccount tx.accountId = some a) (hset : a.pubKeyHash ≠ default)
    (hsig : tx.verifySignature crypto = .ok signer) (hsigner : ∀ x ∈ signer, x.1 = a.pubKeyHash)
    (hid : tx.accountId ≤ maxAccountId) (hnonce : tx.nonce = a.nonce)
    (hbalance : tx.amount + tx.fee ≤ a.getBalance tx.token) :
    Handlers.ChangeGroup.applyTx crypto tx s = .ok ⟨some ⟨tx.token, tx.fee⟩,
      [(tx.accountId, .updateBalance (tx.token, a.getBalance tx.token,
        a.getBalance tx.token - (tx.amount + tx.fee)) a.nonce (a.nonce + 1))],
      .changeGroup ⟨tx, tx.accountId⟩⟩
      (s.insertAccount tx.accountId { a with
        balances := Function.update a.balances tx.token
          (a.getBalance tx.token - (tx.amount + tx.fee))
        nonce := a.nonce + 1 }) := by
  have hcreate : Handlers.ChangeGroup.createOp crypto s tx = .ok ⟨tx, tx.accountId⟩ := by
    have hg := ZkSyncState.getAccountByAddress_eq_ok_some.mpr ⟨hindex, ha⟩
    unfold Handlers.ChangeGroup.createOp
    simp only [invariant_pos _ htoken, hg, hsig]
    rcases signer with _ | ⟨pubKeyHash, _⟩
    · by_cases hfee : tx.fee = 0 <;> simp [hfee, hfeeToken, hset]
    · have hkey : pubKeyHash = a.pubKeyHash := hsigner _ rfl
      by_cases hfee : tx.fee = 0 <;> simp [hfee, hfeeToken, hset, hkey]
  have ha' : s.getAccount (⟨tx, tx.accountId⟩ : ChangeGroupOp).accountId = some a := ha
  rw [Handlers.ChangeGroup.applyTx_eq, hcreate]
  dsimp only
  rw [Handlers.ChangeGroup.applyOp_eq ha', if_neg (not_lt.mpr hid), if_neg (not_not.mpr hnonce),
    if_neg (not_lt.mpr hbalance)]

/-! ## From the SDK to the circuit -/

variable (crypto config errorText)

/-- A `ChangeGroup` that a wallet builds with a valid key runs through every stage, for an
account of the state that is the signer's, under the signer's account id, with the hash of the
signer's key. The signature checker admits it, given that the L1 node lets `to` into the
destination group and that the database answers. Once the account's nonce is the transaction's
and its balance covers amount and fee, the state's `apply_tx` applies it: it debits amount and
fee and moves the nonce on. Unless that nonce is `u32::MAX`, the witness of the op returns on a
tree that held the state, with the op's pubdata as its bits, and leaves a tree that holds the
new state. -/
theorem tx_executes (b : ChangeGroupBuilder) {ztx : ZkSyncTx}
    {signature : Option PackedEthSignature} (h : b.tx crypto config errorText = .ok (ztx, signature))
    (hkey : b.wallet.signer.privateKey.Valid crypto)
    (heth : ∀ ethSigner ∈ b.wallet.signer.ethSigner, ethSigner.SignsAs crypto b.wallet.address)
    (checks : OtherChecks) (orderCorrect : Order → Bool) (storage : Storage) (eth : EthereumChecker)
    (hconn : storage.establishConnection = .ok ())
    (hauth : ∀ address, ∃ v, storage.isAccountAutorised address = .ok v)
    {s : ZkSyncState} {accountId : AccountId} {a : Account}
    (hid : b.wallet.signer.accountId = some accountId)
    (hindex : s.accountIdByAddress b.wallet.address = some accountId)
    (ha : s.getAccount accountId = some a)
    (hkeyHash : a.pubKeyHash = b.wallet.signer.privateKey.pubKeyHash) (hset : a.pubKeyHash ≠ default)
    (hasher : MerkleHasher) {tree : CircuitAccountTree} (hcap : tree.capacity = 2 ^ accountTreeDepth)
    (hsync : Synced s tree) :
    ∃ tx token, ztx = .changeGroup tx ∧ b.token = some token ∧ tx.accountId = accountId ∧
      (eth.isUserAllowedToTransferToThisGroup tx.group2 tx.to = .ok true →
        SignatureChecker.verify crypto config checks orderCorrect storage eth
          (changeGroupRequest tx token signature) =
          .ok ⟨.tx ⟨.changeGroup tx, ethSignData tx token signature⟩⟩) ∧
      (tx.nonce = a.nonce → tx.amount + tx.fee ≤ a.getBalance tx.token →
        let s' := s.insertAccount accountId { a with
          balances := Function.update a.balances tx.token
            (a.getBalance tx.token - (tx.amount + tx.fee))
          nonce := a.nonce + 1 }
        ∃ r, Handlers.ChangeGroup.applyTx crypto tx s = .ok r s' ∧
          r.executedOp = .changeGroup ⟨tx, accountId⟩ ∧
          (tx.nonce ≠ 4294967295 → ∃ w data tree',
            (⟨tx, accountId⟩ : ChangeGroupOp).getPublicData = .ok data ∧
            Witness.ChangeGroupWitness.applyTx hasher ⟨tx, accountId⟩ tree = .ok w tree' ∧
            w.getPubdata = .ok (bytesIntoBeBits data) ∧ Synced s' tree')) := by
  obtain ⟨tx, token, accountId', rfl, htoken, hid', haid, hfrom, hcached, hcheck, hsig⟩ :=
    tx_eq_ok_of_valid h hkey heth
  obtain rfl : accountId' = accountId := Option.some_injective _ (hid'.symm.trans hid)
  subst haid
  refine ⟨tx, token, rfl, htoken, rfl,
    fun hgroup => verify_changeGroupRequest hcheck hsig hgroup hconn hauth,
    fun hnonce hbalance => ?_⟩
  have hbounds := checkCorrectness_bounds hcheck
  obtain ⟨hidMax, htokenMax, hfeeToken⟩ : tx.accountId ≤ maxAccountId ∧
      tx.token ≤ maxFungibleTokenId ∧ (tx.fee ≠ 0 → tx.token ≤ maxProcessableToken) := hbounds
  have hpassed := ChangeGroup.checkCorrectness_ok crypto config hcheck
  obtain ⟨hamount, hpack, -⟩ : tx.amount ≤ u128Max ∧ isFeeAmountPackable tx.fee = true ∧ _ :=
    hpassed
  have hverify :
      tx.verifySignature crypto = .ok (some (b.wallet.signer.privateKey.pubKeyHash, .v1)) := by
    simp only [ChangeGroup.verifySignature, hcached, verifySignatureWith, Run.pure_eq]
  have happ := applyTx_eq_ok_of htokenMax hfeeToken (hfrom ▸ hindex) ha hset hverify
    (fun x hx => by obtain rfl := Option.some_injective _ (Option.mem_def.mp hx); exact hkeyHash.symm)
    hidMax hnonce hbalance
  refine ⟨_, happ, rfl, fun hmax => ?_⟩
  obtain ⟨op, hc, hop, hexec⟩ := Handlers.ChangeGroup.applyTx_ok crypto happ
  cases hexec
  obtain ⟨fee, hfee, -⟩ := isFeeAmountPackable_iff.mp hpack
  have hdata : (⟨tx, tx.accountId⟩ : ChangeGroupOp).getPublicData = _ :=
    ChangeGroupOp.getPublicData_eq hamount hfee
  obtain ⟨w, hw, hpub, hsync'⟩ := synced_applyTx hasher hop hdata hcap hmax hsync
  exact ⟨w, _, _, hdata, hw, hpub, hsync'⟩

/-- A wallet whose key hash is the one its account 0 holds, building a `ChangeGroup` of 100 with
a fee of 1 at the account's nonce 7, from a balance of 1000: the builder returns it, and every
stage runs it. -/
theorem tx_executes_sample :
    let key : PubKeyHash := ⟨⟨List.replicate 20 1, rfl⟩⟩
    let crypto : Crypto := ⟨fun _ _ => some [], fun _ => key, fun _ _ => some H160.zero⟩
    let config : ServerConfig := ⟨0, false⟩
    let provider : Provider :=
      ⟨fun _ => .error (.providerError ""), fun _ _ _ => .error (.providerError "")⟩
    let signer := (Signer.new ⟨fun _ => default, key⟩ H160.zero
      (some ⟨fun _ => .ok (.ethereumSignature ⟨[]⟩)⟩)).setAccountId (some 0)
    let b : ChangeGroupBuilder := ⟨⟨provider, signer, ⟨fun _ => none⟩⟩, some ⟨0, "ETH", 18⟩,
      some 100, some 1, some H160.zero, some 0, some 1, some 7, none, none⟩
    let checks : OtherChecks := ⟨(.ok () ·), (.ok () ·), (.ok () ·), (.ok () ·),
      fun _ _ t => .ok () t, (.ok () ·)⟩
    let storage : Storage := ⟨.ok (), fun _ => .ok true⟩
    let eth : EthereumChecker := ⟨fun _ _ _ => .ok false, fun _ _ _ => .ok false,
      fun _ _ => .ok true⟩
    let a : Account := ⟨key, H160.zero, fun _ => 1000, 7⟩
    let s : ZkSyncState := ⟨fun i => if i = 0 then some a else none, fun _ => some 0, fun _ => none⟩
    let hasher : MerkleHasher := ⟨fun _ => 0, fun _ _ _ => ([], [])⟩
    let tree := circuitTreeOf accountTreeDepth s
    ∃ ztx signature, b.tx crypto config (fun _ => "") = .ok (ztx, signature) ∧
      b.wallet.signer.privateKey.Valid crypto ∧
      (∀ ethSigner ∈ b.wallet.signer.ethSigner, ethSigner.SignsAs crypto b.wallet.address) ∧
      storage.establishConnection = .ok () ∧
      (∀ address, ∃ v, storage.isAccountAutorised address = .ok v) ∧
      b.wallet.signer.accountId = some 0 ∧ s.accountIdByAddress b.wallet.address = some 0 ∧
      s.getAccount 0 = some a ∧ a.pubKeyHash = b.wallet.signer.privateKey.pubKeyHash ∧
      a.pubKeyHash ≠ default ∧ tree.capacity = 2 ^ accountTreeDepth ∧ Synced s tree ∧
      ∃ tx token, ztx = .changeGroup tx ∧ b.token = some token ∧ tx.accountId = 0 ∧
        (eth.isUserAllowedToTransferToThisGroup tx.group2 tx.to = .ok true →
          SignatureChecker.verify crypto config checks (fun _ => true) storage eth
            (changeGroupRequest tx token signature) =
            .ok ⟨.tx ⟨.changeGroup tx, ethSignData tx token signature⟩⟩) ∧
        (tx.nonce = a.nonce → tx.amount + tx.fee ≤ a.getBalance tx.token →
          let s' := s.insertAccount 0 { a with
            balances := Function.update a.balances tx.token
              (a.getBalance tx.token - (tx.amount + tx.fee))
            nonce := a.nonce + 1 }
          ∃ r, Handlers.ChangeGroup.applyTx crypto tx s = .ok r s' ∧
            r.executedOp = .changeGroup ⟨tx, 0⟩ ∧
            (tx.nonce ≠ 4294967295 → ∃ w data tree',
              (⟨tx, 0⟩ : ChangeGroupOp).getPublicData = .ok data ∧
              Witness.ChangeGroupWitness.applyTx hasher ⟨tx, 0⟩ tree = .ok w tree' ∧
              w.getPubdata = .ok (bytesIntoBeBits data) ∧ Synced s' tree')) :=
  ⟨_, _, rfl, fun _ => rfl, fun _ _ _ _ _ => rfl, rfl, fun _ => ⟨true, rfl⟩, rfl, rfl, rfl, rfl,
    by decide, rfl, synced_circuitTreeOf _ _,
    tx_executes _ _ (fun _ => "") _ (by exact rfl) (by exact fun _ => rfl)
      (by exact fun _ _ _ _ _ => rfl) _ _ _ _ (by exact rfl) (by exact fun _ => ⟨true, rfl⟩)
      (by exact rfl) (by exact rfl) (by exact rfl) (by exact rfl) (by decide) _ (by exact rfl)
      (synced_circuitTreeOf _ _)⟩

/-! ## From the checker to runs of the state -/

section Runs
variable {checks : OtherChecks} {storage : Storage}

/-- A `ChangeGroup` leaves the checker's `check_correctness` with its signer cached, so the
state's `verify_signature` never encodes it again. -/
lemma cachedSigner_of_passedCheck {stx stx' : SignedZkSyncTx} {tx : ChangeGroup}
    (hpass : SignatureChecker.PassedCheck crypto config checks storage stx stx')
    (htx : stx'.tx = .changeGroup tx) : tx.cachedSigner ≠ .notCached := by
  obtain ⟨_, _, _, -, -, -, hcheck, -⟩ := hpass
  rw [htx] at hcheck
  obtain ⟨t, -, ht⟩ := ZkSyncTx.checkCorrectness_eq_changeGroup crypto config checks hcheck
  obtain ⟨-, -, signer, -, rfl⟩ := t.checkCorrectness_ok crypto config ht
  nofun

variable (checks storage)

/-- What the checker admits, the state runs: from a state whose address index is consistent,
any sequence of `ChangeGroup`s as the signature checker left them and `FullChangeGroup`s whose
token the contract kept in range goes through the handlers without a panic, with a result for
each transaction and the index still consistent. -/
theorem run_admitted (s : ZkSyncState) (hs : s.AddressIndexConsistent) (txs : List Runs.Tx)
    (hadmitted : ∀ t ∈ txs,
      (∃ stx stx' tx, SignatureChecker.PassedCheck crypto config checks storage stx stx' ∧
        stx'.tx = .changeGroup tx ∧ t = .changeGroup tx) ∨
      ∃ p : Handlers.FullChangeGroup, p.token ≤ maxTokenId ∧ t = .fullChangeGroup p) :
    ∃ s' rs, Runs.run crypto s txs = some (s', rs) ∧ rs.length = txs.length ∧
      s'.AddressIndexConsistent := by
  obtain ⟨s', rs, hrun, hlen, -, hs'⟩ := Runs.run_checked crypto s hs txs fun t ht => by
    rcases hadmitted t ht with ⟨stx, stx', tx, hpass, htx, rfl⟩ | ⟨p, hp, rfl⟩
    · exact .inl (cachedSigner_of_passedCheck crypto config hpass htx)
    · exact hp
  exact ⟨s', rs, hrun, hlen, hs'⟩

/-- A `ChangeGroup` the checker passed, then a `FullChangeGroup`, from a state whose index holds
its one account: the run returns. -/
theorem run_admitted_sample :
    let crypto : Crypto := ⟨fun _ _ => none, fun _ => default, fun _ _ => none⟩
    let config : ServerConfig := ⟨0, false⟩
    let checks : OtherChecks := ⟨(.ok () ·), (.ok () ·), (.ok () ·), (.ok () ·),
      fun _ _ t => .ok () t, (.ok () ·)⟩
    let storage : Storage := ⟨.ok (), fun _ => .ok true⟩
    let key : PubKeyHash := ⟨⟨List.replicate 20 1, rfl⟩⟩
    let s : ZkSyncState :=
      ⟨fun i => if i = 0 then some ⟨key, H160.zero, fun _ => 10, 2⟩ else none,
        fun address => if address = H160.zero then some 0 else none, fun _ => none⟩
    let tx : ChangeGroup := ⟨0, H160.zero, H160.zero, 0, 3, 1, 0, 1, 2, default,
      .cached (some (key, .v1)), false, none⟩
    let stx : SignedZkSyncTx := ⟨.changeGroup tx, none⟩
    let txs : List Runs.Tx := [.changeGroup tx, .fullChangeGroup ⟨0, H160.zero, 0⟩]
    SignatureChecker.PassedCheck crypto config checks storage stx stx ∧ s.AddressIndexConsistent ∧
      ∃ s' rs, Runs.run crypto s txs = some (s', rs) ∧ rs.length = txs.length ∧
        s'.AddressIndexConsistent := by
  intro crypto config checks storage key s tx stx txs
  have hpass : SignatureChecker.PassedCheck crypto config checks storage stx stx :=
    ⟨H160.zero, true, true, rfl, rfl, rfl,
      Exec.map_eq_ok.mpr ⟨_, checkAndCacheSigner_ok.mpr ⟨by decide, _, rfl, rfl⟩, rfl⟩, rfl⟩
  have hs : s.AddressIndexConsistent := ZkSyncState.addressIndexConsistent_single rfl rfl rfl
  refine ⟨hpass, hs, run_admitted crypto config checks storage s hs txs fun t ht => ?_⟩
  simp only [txs, List.mem_cons, List.not_mem_nil, or_false] at ht
  rcases ht with rfl | rfl
  · exact .inl ⟨stx, stx, tx, hpass, rfl, rfl⟩
  · exact .inr ⟨_, by decide, rfl⟩

end Runs

end ModularRollup.Pipeline
