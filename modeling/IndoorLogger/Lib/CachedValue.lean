import Mathlib.Logic.Basic

/-
  A value computed from a key by `f` and kept beside it, with a flag that says whether it may be
  used. The code that owns the three may drop the flag, store another key and recompute the
  value, or exchange the key and recompute the value if the flag is set. However such steps are
  put together, the value that may be used is the one for the present key.
-/

namespace CachedValue

variable {κ ν : Type}

structure Cached (κ ν : Type) where
  key : κ
  value : ν
  valid : Bool

inductive Op (κ : Type) where
  | invalidate
  | fill (k : κ)
  | rekey (k : κ)

variable (f : κ → ν)

def apply (c : Cached κ ν) : Op κ → Cached κ ν
  | .invalidate => { c with valid := false }
  | .fill k => ⟨k, f k, true⟩
  | .rekey k => ⟨k, if c.valid then f k else c.value, c.valid⟩

/-- A value that may be used is the one for the key. -/
def Current (c : Cached κ ν) : Prop := c.valid = true → c.value = f c.key

/-- `c'` comes from `c` by such steps. -/
def Maintains (c c' : Cached κ ν) : Prop := ∃ ops : List (Op κ), c' = ops.foldl (apply f) c

variable {f} {c c' c'' : Cached κ ν}

theorem current_of_invalid (h : c.valid = false) : Current f c := by
  intro hvalid
  rw [h] at hvalid
  cases hvalid

/-- Every step leaves the value current, whatever it finds. -/
theorem current_apply (c : Cached κ ν) (op : Op κ) : Current f (apply f c op) := by
  cases op with
  | invalidate => exact current_of_invalid rfl
  | fill k => exact fun _ => rfl
  | rekey k =>
    intro hvalid
    have hold : c.valid = true := hvalid
    exact if_pos hold

theorem Current.foldl (h : Current f c) (ops : List (Op κ)) :
    Current f (ops.foldl (apply f) c) := by
  induction ops generalizing c with
  | nil => exact h
  | cons op ops ih => exact ih (current_apply c op)

/-- Steps of the three kinds keep the value current. -/
theorem Maintains.current (hm : Maintains f c c') (h : Current f c) : Current f c' := by
  obtain ⟨ops, rfl⟩ := hm
  exact h.foldl ops

theorem Maintains.refl (c : Cached κ ν) : Maintains f c c := ⟨[], rfl⟩

theorem Maintains.trans (h : Maintains f c c') (h' : Maintains f c' c'') : Maintains f c c'' := by
  obtain ⟨ops, rfl⟩ := h
  obtain ⟨ops', rfl⟩ := h'
  exact ⟨ops ++ ops', List.foldl_append.symm⟩

theorem Maintains.step (op : Op κ) : Maintains f c (apply f c op) := ⟨[op], rfl⟩

end CachedValue
