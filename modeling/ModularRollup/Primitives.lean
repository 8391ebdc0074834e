import Mathlib.Algebra.Group.Nat.Basic
import Mathlib.Logic.Function.Basic
import Mathlib.Data.List.Basic

/-! Machine words, byte strings, the protocol parameters and the outcome of a Rust call.
Fixed-width integers are `Fin` of their size, so `+` wraps as a release build does;
`BigUint` amounts are `ℕ`. -/
namespace ModularRollup.Primitives

/-- Rust's `u16`. -/
abbrev U16 := Fin 65536
/-- Rust's `u32`. -/
abbrev U32 := Fin 4294967296

abbrev AccountId := U32
abbrev TokenId := U32
abbrev Nonce := U32

@[simp] lemma ofNat_val {n : ℕ} (x : Fin (n + 1)) : Fin.ofNat x.val = x :=
  Fin.ext (Nat.mod_eq_of_lt x.isLt)

/-- `u128::MAX`. -/
def u128Max : ℕ := 2 ^ 128 - 1

/-- Twenty bytes, as `H160` holds them. -/
structure H160 where
  bytes : List UInt8
  length_bytes : bytes.length = 20
  deriving DecidableEq

/-- `H160::zero()`. -/
def H160.zero : H160 := ⟨List.replicate 20 0, rfl⟩

lemma H160.ext_bytes {a b : H160} (h : a.bytes = b.bytes) : a = b := by
  cases a
  cases b
  cases h
  rfl

abbrev Address := H160

/-- Thirty-two bytes, as `H256` holds them. -/
structure H256 where
  bytes : List UInt8
  length_bytes : bytes.length = 32
  deriving DecidableEq

lemma H256.ext_bytes {a b : H256} (h : a.bytes = b.bytes) : a = b := by
  cases a
  cases b
  cases h
  rfl

/-- `PubKeyHash`: the hash of a rollup signing key; `PubKeyHash::default()` is all zeros. -/
structure PubKeyHash where
  data : H160
  deriving DecidableEq

instance : Inhabited PubKeyHash := ⟨⟨H160.zero⟩⟩

/-! Modelled from the spec: `zksync_crypto::params` is not under src/. The widths and bounds
below are the ones the encoders' Rust types fix (`u32` ids, `u128` amounts, 20-byte addresses,
`u16` groups), with the tree depths of the upstream parameters. -/

def accountIdBitWidth : ℕ := 32
def tokenBitWidth : ℕ := 32
def legacyTokenBitWidth : ℕ := 16
def balanceBitWidth : ℕ := 128
def feeExponentBitWidth : ℕ := 5
def feeMantissaBitWidth : ℕ := 11
def amountExponentBitWidth : ℕ := 5
def amountMantissaBitWidth : ℕ := 35
def ethAddressBitWidth : ℕ := 160
def txTypeBitWidth : ℕ := 8
def chunkBytes : ℕ := 10
def legacyChunkBytes : ℕ := 9
def chunkBitWidth : ℕ := chunkBytes * 8
def groupLen : ℕ := 2
def accountTreeDepth : ℕ := 24
def currentTxVersion : UInt8 := 1

def maxAccountId : AccountId := Fin.ofNat (2 ^ accountTreeDepth - 1)
def maxTokenId : TokenId := Fin.ofNat (2 ^ 32 - 1)
def maxFungibleTokenId : TokenId := Fin.ofNat (2 ^ 16 - 1)
def maxProcessableToken : TokenId := Fin.ofNat (2 ^ 10 - 1)

/-! ## Big-endian bytes -/

/-- `to_be_bytes` of a `width`-byte integer: the low `width` bytes of `n`, most significant
first. -/
def toBeBytes : ℕ → ℕ → List UInt8
  | 0, _ => []
  | w + 1, n => toBeBytes w (n / 256) ++ [UInt8.ofNat (n % 256)]

/-- The integer that big-endian bytes spell. -/
def fromBeBytes (bs : List UInt8) : ℕ := bs.foldl (fun acc b => acc * 256 + b.toNat) 0

@[simp] lemma length_toBeBytes (w n : ℕ) : (toBeBytes w n).length = w := by
  induction w generalizing n with
  | zero => rfl
  | succ w ih => simp [toBeBytes, ih]

lemma fromBeBytes_append_byte (bs : List UInt8) (b : UInt8) :
    fromBeBytes (bs ++ [b]) = fromBeBytes bs * 256 + b.toNat := by
  simp [fromBeBytes, List.foldl_append]

lemma toNat_ofNat_byte (n : ℕ) : (UInt8.ofNat n).toNat = n % 256 := by
  simp [UInt8.toNat, UInt8.ofNat]

theorem fromBeBytes_toBeBytes (w n : ℕ) : fromBeBytes (toBeBytes w n) = n % 256 ^ w := by
  induction w generalizing n with
  | zero => simp [toBeBytes, fromBeBytes, Nat.mod_one]
  | succ w ih =>
    rw [toBeBytes, fromBeBytes_append_byte, ih, toNat_ofNat_byte, Nat.pow_succ,
      Nat.mul_comm (256 ^ w) 256, Nat.mod_mul]
    omega

lemma fromBeBytes_toBeBytes_of_lt {w n : ℕ} (h : n < 256 ^ w) : fromBeBytes (toBeBytes w n) = n := by
  rw [fromBeBytes_toBeBytes, Nat.mod_eq_of_lt h]

lemma fromBeBytes_lt (bs : List UInt8) : fromBeBytes bs < 256 ^ bs.length := by
  induction bs using List.reverseRecOn with
  | nil => simp [fromBeBytes]
  | append_singleton bs b ih =>
    have hb : b.toNat < 256 := b.val.isLt
    rw [fromBeBytes_append_byte, List.length_append, List.length_singleton, Nat.pow_succ]
    omega

/-! ## Outcomes of Rust calls -/

/-- How a Rust call ends: it returns `Ok`, returns `Err`, or panics with a message. -/
inductive Run (ε α : Type) where
  | ok (a : α)
  | err (e : ε)
  | panic (msg : String)
  deriving DecidableEq, Repr

namespace Run

variable {ε ε' α β : Type}

def bind : Run ε α → (α → Run ε β) → Run ε β
  | ok a, f => f a
  | err e, _ => err e
  | panic m, _ => panic m

instance : Monad (Run ε) where
  pure := ok
  bind := bind

/-- `?` on a `Result` whose error converts with `From`. -/
def mapErr (f : ε → ε') : Run ε α → Run ε' α
  | ok a => ok a
  | err e => err (f e)
  | panic m => panic m

/-- `assert!(cond, msg)`. -/
def assert (cond : Prop) [Decidable cond] (msg : String) : Run Empty Unit :=
  if cond then ok () else panic msg

/-- `Option::expect(msg)`. -/
def expect : Option α → String → Run Empty α
  | some a, _ => ok a
  | none, msg => panic msg

/-- The message of `Option::unwrap` on `None`. -/
def unwrapNone : String := "called `Option::unwrap()` on a `None` value"

/-- `Result::expect(msg)` on a call that can fail with an error text. -/
def expectOk : Except String α → String → Run Empty α
  | .ok a, _ => ok a
  | .error e, msg => panic (msg ++ ": " ++ e)

/-- `Result::unwrap()` on a call that can fail with an error text. -/
def unwrapOk : Except String α → Run Empty α
  | .ok a => ok a
  | .error e => panic ("called `Result::unwrap()` on an `Err` value: " ++ e)

@[simp] lemma assert_pos {cond : Prop} [Decidable cond] (msg : String) (h : cond) :
    assert cond msg = ok () := if_pos h
@[simp] lemma assert_neg {cond : Prop} [Decidable cond] (msg : String) (h : ¬cond) :
    assert cond msg = panic msg := if_neg h
@[simp] lemma expect_some (a : α) (msg : String) : expect (some a) msg = ok a := rfl
@[simp] lemma expect_none (msg : String) : (expect none msg : Run Empty α) = panic msg := rfl
@[simp] lemma expectOk_ok (a : α) (msg : String) : expectOk (.ok a) msg = ok a := rfl
@[simp] lemma unwrapOk_ok (a : α) : unwrapOk (.ok a : Except String α) = ok a := rfl

/-- `ok_or(e)?`: an absent value is the error `e`. -/
def ofOption (e : ε) : Option α → Run ε α
  | some a => ok a
  | none => err e

@[simp] lemma ofOption_some (e : ε) (a : α) : ofOption e (some a) = ok a := rfl
@[simp] lemma ofOption_none (e : ε) : (ofOption e none : Run ε α) = err e := rfl

@[simp] lemma ofOption_eq_ok {e : ε} {o : Option α} {a : α} : ofOption e o = ok a ↔ o = some a := by
  cases o <;> simp

@[simp] lemma ofOption_ne_panic {e : ε} {o : Option α} {m : String} : ofOption e o ≠ panic m := by
  cases o <;> simp

def isOk : Run ε α → Bool
  | ok _ => true
  | _ => false

def isPanic : Run ε α → Bool
  | panic _ => true
  | _ => false

@[simp] lemma pure_eq (a : α) : (pure a : Run ε α) = ok a := rfl
@[simp] lemma ok_bind (a : α) (f : α → Run ε β) : (ok a >>= f) = f a := rfl
@[simp] lemma err_bind (e : ε) (f : α → Run ε β) : (err e >>= f) = err e := rfl
@[simp] lemma panic_bind (m : String) (f : α → Run ε β) : (panic m >>= f) = panic m := rfl

lemma bind_eq_ok {x : Run ε α} {f : α → Run ε β} {b : β} :
    x >>= f = ok b ↔ ∃ a, x = ok a ∧ f a = ok b := by
  cases x <;> simp

lemma bind_eq_panic {x : Run ε α} {f : α → Run ε β} {m : String} :
    x >>= f = panic m ↔ x = panic m ∨ ∃ a, x = ok a ∧ f a = panic m := by
  cases x <;> simp

@[simp] lemma mapErr_ok (f : ε → ε') (a : α) : mapErr f (ok a) = ok a := rfl
@[simp] lemma mapErr_err (f : ε → ε') (e : ε) : mapErr f (err e : Run ε α) = err (f e) := rfl
@[simp] lemma mapErr_panic (f : ε → ε') (m : String) : mapErr f (panic m : Run ε α) = panic m :=
  rfl

/-- A call that returns no `Result` inside one that does: it gives a value or panics. -/
def lift : Run Empty α → Run ε α
  | ok a => ok a
  | panic m => panic m

instance : MonadLift (Run Empty) (Run ε) := ⟨lift⟩

instance : MonadExceptOf ε (Run ε) where
  throw := err
  tryCatch x h := match x with
    | err e => h e
    | x => x

lemma lift_eq_ok {x : Run Empty α} {a : α} : (liftM x : Run ε α) = ok a ↔ x = ok a := by
  cases x with
  | ok b => exact ⟨fun h => (by cases h; rfl), fun h => (by cases h; rfl)⟩
  | err e => exact e.elim
  | panic m => exact ⟨fun h => (by cases h), fun h => (by cases h)⟩

lemma lift_eq_panic {x : Run Empty α} {m : String} : (liftM x : Run ε α) = panic m ↔ x = panic m := by
  cases x with
  | ok b => exact ⟨fun h => (by cases h), fun h => (by cases h)⟩
  | err e => exact e.elim
  | panic m' => exact ⟨fun h => (by cases h; rfl), fun h => (by cases h; rfl)⟩

/-- A `for` loop of fallible calls succeeds when, and only when, every call does. -/
lemma forM_eq_ok {l : List α} {f : α → Run ε PUnit} :
    l.forM f = ok () ↔ ∀ x ∈ l, f x = ok () := by
  induction l with
  | nil => exact ⟨fun _ _ h => absurd h (List.not_mem_nil _), fun _ => rfl⟩
  | cons x xs ih =>
    rw [show (x :: xs).forM f = (f x >>= fun _ => xs.forM f) from rfl, List.forall_mem_cons, ← ih]
    constructor
    · intro h
      obtain ⟨⟨⟩, hx, hxs⟩ := bind_eq_ok.mp h
      exact ⟨hx, hxs⟩
    · rintro ⟨hx, hxs⟩
      rw [hx]
      exact hxs

/-- A `map(..).collect()` whose every call returns. -/
lemma mapM_loop_eq_ok {f : α → Run ε β} {g : α → β} (l : List α) (acc : List β)
    (h : ∀ x ∈ l, f x = ok (g x)) : List.mapM.loop f l acc = ok (acc.reverse ++ l.map g) := by
  induction l generalizing acc with
  | nil => simp [List.mapM.loop]
  | cons x xs ih =>
    rw [List.mapM.loop, h x (List.mem_cons_self x xs)]
    simp [ih (g x :: acc) fun y hy => h y (List.mem_cons_of_mem x hy)]

lemma mapM_eq_ok {f : α → Run ε β} {g : α → β} (l : List α) (h : ∀ x ∈ l, f x = ok (g x)) :
    l.mapM f = ok (l.map g) := by
  simpa using mapM_loop_eq_ok l [] h

@[simp] lemma lift_ok (a : α) : (liftM (ok a : Run Empty α) : Run ε α) = ok a := rfl
@[simp] lemma lift_panic (m : String) : (liftM (panic m : Run Empty α) : Run ε α) = panic m := rfl
@[simp] lemma throw_eq (e : ε) : (throw e : Run ε α) = err e := rfl

end Run

/-- How a call of a Rust method on `&mut σ` ends: `Ok` or `Err`, each with the value the call
leaves in `σ`, or a panic. -/
inductive Exec (σ ε α : Type) where
  | ok (a : α) (s : σ)
  | err (e : ε) (s : σ)
  | panic (msg : String)

/-- A call on a field of `σ`, seen from `σ'`: the value it leaves is put back with `fs` and its
error converted with `fe`. -/
def Exec.map {σ σ' ε ε' α : Type} (fs : σ → σ') (fe : ε → ε') : Exec σ ε α → Exec σ' ε' α
  | .ok a s => .ok a (fs s)
  | .err e s => .err (fe e) (fs s)
  | .panic m => .panic m

lemma Exec.map_eq_ok {σ σ' ε ε' α : Type} {fs : σ → σ'} {fe : ε → ε'} {x : Exec σ ε α} {a : α}
    {s' : σ'} : x.map fs fe = .ok a s' ↔ ∃ s, x = .ok a s ∧ fs s = s' := by
  cases x with
  | ok b s =>
    simp only [Exec.map, Exec.ok.injEq]
    exact ⟨fun ⟨h1, h2⟩ => ⟨s, ⟨h1, rfl⟩, h2⟩, fun ⟨_, ⟨h1, rfl⟩, h2⟩ => ⟨h1, h2⟩⟩
  | err e s => simp [Exec.map]
  | panic m => simp [Exec.map]

/-- The `Result` a call returns, without the value it leaves. -/
def Exec.result {σ ε α : Type} : Exec σ ε α → Run ε α
  | .ok a _ => .ok a
  | .err e _ => .err e
  | .panic m => .panic m

/-- The value a call leaves in `σ`, when it returns. -/
def Exec.state {σ ε α : Type} : Exec σ ε α → Option σ
  | .ok _ s => some s
  | .err _ s => some s
  | .panic _ => none

/-- A Rust method on `&mut σ` returning `Result<α, ε>`, as a function of the value it starts
from. -/
def ExecM (σ ε α : Type) := σ → Exec σ ε α

namespace ExecM

variable {σ ε α β : Type}

instance : Monad (ExecM σ ε) where
  pure a := fun s => .ok a s
  bind x f := fun s =>
    match x s with
    | .ok a s' => f a s'
    | .err e s' => .err e s'
    | .panic m => .panic m

instance : MonadStateOf σ (ExecM σ ε) where
  get := fun s => .ok s s
  set s' := fun _ => .ok () s'
  modifyGet f := fun s => .ok (f s).1 (f s).2

instance : MonadExceptOf ε (ExecM σ ε) where
  throw e := fun s => .err e s
  tryCatch x h := fun s =>
    match x s with
    | .err e s' => h e s'
    | r => r

/-- A call to a `&self` function or a free function: it leaves the state as it is. -/
instance : MonadLift (Run ε) (ExecM σ ε) where
  monadLift x := fun s =>
    match x with
    | .ok a => .ok a s
    | .err e => .err e s
    | .panic m => .panic m

@[simp] lemma pure_apply (a : α) (s : σ) : (pure a : ExecM σ ε α) s = .ok a s := rfl
@[simp] lemma bind_apply (x : ExecM σ ε α) (f : α → ExecM σ ε β) (s : σ) :
    (x >>= f) s = match x s with
      | .ok a s' => f a s'
      | .err e s' => .err e s'
      | .panic m => .panic m := rfl
lemma bind_eq_ok {x : ExecM σ ε α} {f : α → ExecM σ ε β} {s s' : σ} {b : β} :
    (x >>= f) s = .ok b s' ↔ ∃ a s₁, x s = .ok a s₁ ∧ f a s₁ = .ok b s' := by
  rw [bind_apply]
  refine ⟨fun h => ?_, fun ⟨a, s₁, hx, hf⟩ => by rw [hx]; exact hf⟩
  split at h
  next hx => exact ⟨_, _, hx, h⟩
  all_goals cases h
@[simp] lemma get_apply (s : σ) : (get : ExecM σ ε σ) s = .ok s s := rfl
@[simp] lemma modify_apply (f : σ → σ) (s : σ) :
    (modify f : ExecM σ ε Unit) s = .ok () (f s) := rfl
@[simp] lemma throw_apply (e : ε) (s : σ) : (throw e : ExecM σ ε α) s = .err e s := rfl

@[simp] lemma liftM_apply (x : Run ε α) (s : σ) :
    (liftM x : ExecM σ ε α) s = match x with
      | .ok a => .ok a s
      | .err e => .err e s
      | .panic m => .panic m := rfl

@[simp] lemma liftM_empty_apply (x : Run Empty α) (s : σ) :
    (liftM x : ExecM σ ε α) s = match x with
      | .ok a => .ok a s
      | .panic m => .panic m := by
  cases x <;> first | rfl | contradiction

end ExecM

/-- `invariant!(cond, e)`: returns `Err(e)` unless `cond` holds. -/
def invariant {ε : Type} {m : Type → Type} [Monad m] [MonadExceptOf ε m] (cond : Prop) [Decidable cond]
    (e : ε) : m Unit :=
  if cond then pure () else throw e

@[simp] lemma invariant_pos {ε : Type} {m : Type → Type} [Monad m] [MonadExceptOf ε m]
    {cond : Prop} [Decidable cond] (e : ε) (h : cond) : (invariant cond e : m Unit) = pure () :=
  if_pos h

@[simp] lemma invariant_neg {ε : Type} {m : Type → Type} [Monad m] [MonadExceptOf ε m]
    {cond : Prop} [Decidable cond] (e : ε) (h : ¬cond) : (invariant cond e : m Unit) = throw e :=
  if_neg h

lemma invariant_eq_ok {ε : Type} {cond : Prop} [Decidable cond] {e : ε} {u : Unit} :
    (invariant cond e : Run ε Unit) = .ok u ↔ cond := by
  by_cases h : cond <;> simp [h]

lemma invariant_ne_panic {ε : Type} {cond : Prop} [Decidable cond] {e : ε} {m : String} :
    (invariant cond e : Run ε Unit) ≠ .panic m := by
  by_cases h : cond <;> simp [h]

end ModularRollup.Primitives
