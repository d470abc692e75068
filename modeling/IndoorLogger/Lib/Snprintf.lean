import Mathlib.Data.List.Basic

/-
  Text collected by calls of the form `pos += snprintf(buf + pos, size - pos, ..)`. The
  position counts what was asked for, also what was cut off, so one overrun makes the
  unsigned `size - pos` of the next call wrap. As long as all the texts together stay below
  the size, no call is cut (`printAll_eq`).
-/

namespace Snprintf

/-- What a buffer holds as text, and the position the next call prints at. -/
structure Cursor where
  text : List UInt8
  pos : Nat
  deriving DecidableEq

def Cursor.start : Cursor := ⟨[], 0⟩

/-- One call that asks for the text `t`. None when the position is past the end of the buffer:
    the remaining size wraps and the call writes anywhere. -/
def print (size : Nat) (c : Cursor) (t : List UInt8) : Option Cursor :=
  if size < c.pos then none
  else some ⟨c.text ++ t.take (size - c.pos - 1), c.pos + t.length⟩

def printAll (size : Nat) (c : Cursor) (ts : List (List UInt8)) : Option Cursor :=
  ts.foldlM (print size) c

theorem printAll_cons (size : Nat) (c : Cursor) (t : List UInt8) (ts : List (List UInt8)) :
    printAll size c (t :: ts) = (print size c t).bind (printAll size · ts) := rfl

/-- A call whose text fits before the terminating NUL. -/
theorem print_eq {size : Nat} {c : Cursor} {t : List UInt8} (h : c.pos + t.length < size) :
    print size c t = some ⟨c.text ++ t, c.pos + t.length⟩ := by
  unfold print
  rw [if_neg (by omega), List.take_of_length_le (by omega)]

theorem printAll_eq {size : Nat} {c : Cursor} {ts : List (List UInt8)}
    (h : c.pos + ts.flatten.length < size) :
    printAll size c ts = some ⟨c.text ++ ts.flatten, c.pos + ts.flatten.length⟩ := by
  induction ts generalizing c with
  | nil => rw [List.flatten_nil, List.append_nil]; rfl
  | cons t ts ih =>
    rw [List.flatten_cons, List.length_append, ← Nat.add_assoc] at h
    rw [printAll_cons, print_eq (by omega), Option.bind_some, ih h, List.flatten_cons,
      List.length_append, List.append_assoc, Nat.add_assoc]

theorem length_flatten_take_le (ts : List (List UInt8)) (k : Nat) :
    (ts.take k).flatten.length ≤ ts.flatten.length := by
  conv_rhs => rw [← List.take_append_drop k ts, List.flatten_append, List.length_append]
  exact Nat.le_add_right _ _

/-- Texts that together stay below the size: the position is inside the buffer before and
    after every call. -/
theorem pos_lt_of_fits {size : Nat} {ts : List (List UInt8)} (h : ts.flatten.length < size)
    (k : Nat) : ∃ c, printAll size .start (ts.take k) = some c ∧ c.pos < size := by
  have hk : Cursor.start.pos + (ts.take k).flatten.length < size := by
    have := length_flatten_take_le ts k
    rw [Cursor.start, Nat.zero_add]
    omega
  exact ⟨_, printAll_eq hk, hk⟩

/-- Texts that together stay below the size are all in the buffer. -/
theorem printAll_start {size : Nat} {ts : List (List UInt8)} (h : ts.flatten.length < size) :
    printAll size .start ts = some ⟨ts.flatten, ts.flatten.length⟩ := by
  rw [printAll_eq (by rw [Cursor.start, Nat.zero_add]; exact h), Cursor.start, Nat.zero_add,
    List.nil_append]

end Snprintf
