import ModularRollup.Primitives

/-! The account state the handlers read and write, and what an applied operation reports.
Modelled from the spec: `Account` and `ZkSyncState` are not under src/. The state holds the
accounts by id, the storage layer's address index, and the minted NFTs. -/
namespace ModularRollup.State
open Primitives

structure Account where
  pubKeyHash : PubKeyHash
  address : Address
  balances : TokenId → ℕ
  nonce : Nonce

namespace Account

/-- `get_balance`: a token the account never held reads as zero. -/
def getBalance (a : Account) (token : TokenId) : ℕ := a.balances token

/-- `sub_balance`: `BigUint` subtraction, which panics below zero. -/
def subBalance (a : Account) (token : TokenId) (amount : ℕ) : Run Empty Account :=
  if amount ≤ a.getBalance token then
    pure { a with balances := Function.update a.balances token (a.getBalance token - amount) }
  else .panic "Cannot subtract b from a because b is larger than a."

lemma subBalance_eq {a : Account} {token : TokenId} {amount : ℕ} (h : amount ≤ a.getBalance token) :
    a.subBalance token amount =
      .ok { a with balances := Function.update a.balances token (a.getBalance token - amount) } :=
  if_pos h

@[simp] lemma getBalance_mk (pubKeyHash : PubKeyHash) (address : Address) (balances : TokenId → ℕ)
    (nonce : Nonce) (token : TokenId) :
    (Account.mk pubKeyHash address balances nonce).getBalance token = balances token := rfl

end Account

/-- A minted NFT, as the storage records it. -/
structure NFT where
  id : TokenId
  serialId : U32
  creatorAddress : Address
  creatorId : AccountId
  address : Address
  symbol : String
  contentHash : H256

structure ZkSyncState where
  /-- `balance_tree`: the accounts by id. -/
  balanceTree : AccountId → Option Account
  accountIdByAddress : Address → Option AccountId
  nfts : TokenId → Option NFT

namespace ZkSyncState

def getAccount (s : ZkSyncState) (id : AccountId) : Option Account := s.balanceTree id

/-- `get_account_by_address`: the indexed id with its account; panics when the index names an
id that holds no account. -/
def getAccountByAddress (s : ZkSyncState) (address : Address) :
    Run Empty (Option (AccountId × Account)) :=
  match s.accountIdByAddress address with
  | none => pure none
  | some id =>
    match s.getAccount id with
    | some a => pure (some (id, a))
    | none => .panic "Failed to get account by cached pubkey"

/-- `insert_account`: stores the account under its id. The handlers re-insert an account
under its own id with its address unchanged, and the address index, which the spec leaves to
the storage layer, is kept as it is. -/
def insertAccount (s : ZkSyncState) (id : AccountId) (a : Account) : ZkSyncState :=
  { s with balanceTree := Function.update s.balanceTree id (some a) }

/-- The address index agrees with the accounts: each id it gives for an address holds an
account with that address. -/
def AddressIndexConsistent (s : ZkSyncState) : Prop :=
  ∀ address id, s.accountIdByAddress address = some id →
    ∃ a, s.getAccount id = some a ∧ a.address = address

lemma getAccountByAddress_eq_ok_some {s : ZkSyncState} {address : Address} {id : AccountId}
    {a : Account} :
    s.getAccountByAddress address = .ok (some (id, a)) ↔
      s.accountIdByAddress address = some id ∧ s.getAccount id = some a := by
  unfold getAccountByAddress
  constructor
  · intro h
    split at h
    · cases h
    · split at h
      · cases h
        exact ⟨‹_›, ‹_›⟩
      · cases h
  · rintro ⟨hid, ha⟩
    simp [hid, ha]

/-- A state whose index holds one address, of an account with that address, is consistent. -/
lemma addressIndexConsistent_single {s : ZkSyncState} {address : Address} {id : AccountId}
    {a : Account} (hindex : s.accountIdByAddress = fun x => if x = address then some id else none)
    (ha : s.getAccount id = some a) (haddress : a.address = address) : s.AddressIndexConsistent := by
  intro x j h
  simp only [hindex] at h
  split_ifs at h with hx
  cases h
  exact ⟨a, ha, hx ▸ haddress⟩

/-- On a consistent state, `get_account_by_address` does not panic. -/
lemma getAccountByAddress_ne_panic {s : ZkSyncState} (hs : s.AddressIndexConsistent)
    (address : Address) (m : String) : s.getAccountByAddress address ≠ .panic m := by
  unfold getAccountByAddress
  rcases hj : s.accountIdByAddress address with _ | j
  · simp
  · obtain ⟨a, ha, -⟩ := hs address j hj
    simp [ha]

@[simp] lemma getAccount_insertAccount (s : ZkSyncState) (id i : AccountId) (a : Account) :
    (s.insertAccount id a).getAccount i = if i = id then some a else s.getAccount i := by
  simp [insertAccount, getAccount, Function.update_apply]

@[simp] lemma accountIdByAddress_insertAccount (s : ZkSyncState) (id : AccountId) (a : Account) :
    (s.insertAccount id a).accountIdByAddress = s.accountIdByAddress := rfl

@[simp] lemma nfts_insertAccount (s : ZkSyncState) (id : AccountId) (a : Account) :
    (s.insertAccount id a).nfts = s.nfts := rfl

end ZkSyncState

structure CollectedFee where
  token : TokenId
  amount : ℕ
  deriving DecidableEq, Repr

/-- The one `AccountUpdate` the modelled handlers emit. -/
inductive AccountUpdate
  | updateBalance (balanceUpdate : TokenId × ℕ × ℕ) (oldNonce newNonce : Nonce)
  deriving DecidableEq, Repr

abbrev AccountUpdates := List (AccountId × AccountUpdate)

end ModularRollup.State
