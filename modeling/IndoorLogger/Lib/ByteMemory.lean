import Mathlib.Tactic.Common

/-
  Byte-addressed memory with permissions. A load or a store at an address without the
  permission is a fault, so a program that runs without one has accessed only the addresses it
  was given. `BytesAt m a t` says that the bytes `t` are at `a`.
-/

namespace ByteMemory

structure Memory where
  byte : Nat → UInt8
  readable : Nat → Bool
  writable : Nat → Bool

/-- Why a run has no result. -/
inductive Fault where
  | load (a : Nat)
  | store (a : Nat)
  | outOfFuel
  deriving DecidableEq

namespace Memory

/-- The memory after a store. -/
def set (m : Memory) (a : Nat) (b : UInt8) : Memory :=
  { m with byte := fun x => if x = a then b else m.byte x }

def load (m : Memory) (a : Nat) : Except Fault UInt8 :=
  if m.readable a then .ok (m.byte a) else .error (.load a)

def store (m : Memory) (a : Nat) (b : UInt8) : Except Fault Memory :=
  if m.writable a then .ok (m.set a b) else .error (.store a)

/-- The same bytes; only `n` of them from `src` on may be loaded, and from `dst` on stored. -/
def guarded (m : Memory) (dst src n : Nat) : Memory where
  byte := m.byte
  readable a := src ≤ a && a < src + n
  writable a := dst ≤ a && a < dst + n

theorem load_eq {m : Memory} {a : Nat} (h : m.readable a = true) : m.load a = .ok (m.byte a) :=
  if_pos h

theorem store_eq {m : Memory} {a : Nat} (h : m.writable a = true) (b : UInt8) :
    m.store a b = .ok (m.set a b) := if_pos h

@[simp] theorem byte_set_self (m : Memory) (a : Nat) (b : UInt8) : (m.set a b).byte a = b :=
  if_pos rfl

theorem byte_set_of_ne (m : Memory) {a x : Nat} (h : x ≠ a) (b : UInt8) :
    (m.set a b).byte x = m.byte x := if_neg h

end Memory

/-- The bytes `t` are at `a`. -/
def BytesAt (m : Memory) (a : Nat) : List UInt8 → Prop
  | [] => True
  | b :: t => m.byte a = b ∧ BytesAt m (a + 1) t

/-- Whatever else changes, bytes stay where nothing is written. -/
theorem BytesAt.congr {m m' : Memory} {a : Nat} {t : List UInt8} (h : BytesAt m a t)
    (heq : ∀ x, a ≤ x → x < a + t.length → m'.byte x = m.byte x) : BytesAt m' a t := by
  induction t generalizing a with
  | nil => trivial
  | cons b t ih =>
    obtain ⟨hb, ht⟩ := h
    have hlen : (b :: t).length = t.length + 1 := rfl
    refine ⟨?_, ih ht fun x hx hx' => heq x (by omega) (by omega)⟩
    rw [heq a (Nat.le_refl a) (by omega), hb]

/-- A store outside of the bytes. -/
theorem BytesAt.set {m : Memory} {a : Nat} {t : List UInt8} (h : BytesAt m a t) {x : Nat}
    (hx : x < a ∨ a + t.length ≤ x) (b : UInt8) : BytesAt (m.set x b) a t :=
  h.congr fun y hy hy' => m.byte_set_of_ne (by omega) b

end ByteMemory
