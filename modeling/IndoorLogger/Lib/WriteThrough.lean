import Mathlib.Logic.Basic

/-
  A value in memory with a copy in flash, and a default for where flash has none. A write sets
  both, unless its save fails; a boot forgets the value in memory and takes the copy, or the
  default where it cannot read one. The value last written is in force and safe (`Kept`) until a
  write whose save fails finds another copy in flash, or a boot takes the default in place of
  another copy (`kept_step_iff`).
-/

namespace WriteThrough

variable {ν : Type}

/-- The value last asked for, the value in memory, and the value that a boot would take. -/
@[ext] structure Cell (ν : Type) where
  wanted : ν
  cur : ν
  saved : ν

/-- A write that finds the value in memory is only confirmed; a boot that takes the default may
    save it. -/
inductive Op (ν : Type) where
  | keep
  | write (v : ν) (fails : Bool)
  | confirm (v : ν)
  | boot (fails : Bool)
  | reset (fails : Bool)

def step (default : ν) (c : Cell ν) : Op ν → Cell ν
  | .keep => c
  | .write v fails => ⟨v, v, if fails then c.saved else v⟩
  | .confirm v => { c with wanted := v }
  | .boot fails => { c with cur := if fails then default else c.saved }
  | .reset fails => { c with cur := default, saved := if fails then c.saved else default }

/-- The value last asked for is in force, and a boot would bring it back. -/
def Kept (c : Cell ν) : Prop := c.cur = c.wanted ∧ c.saved = c.wanted

/-- What fails in the operation makes no difference: the save of a value that flash holds, or
    the load of one that is the default. -/
def Harmless (default : ν) (c : Cell ν) : Op ν → Prop
  | .keep => True
  | .write v fails => fails = true → c.saved = v
  | .confirm _ => True
  | .boot fails => fails = true → c.saved = default
  | .reset _ => c.saved = default

variable {default : ν} {c : Cell ν}

/-- A kept value stays kept exactly when the operation is harmless. -/
theorem kept_step_iff (h : Kept c) {op : Op ν} (hconfirm : ∀ v, op = .confirm v → v = c.cur) :
    Kept (step default c op) ↔ Harmless default c op := by
  obtain ⟨hcur, hsaved⟩ := h
  cases op with
  | keep => exact iff_of_true ⟨hcur, hsaved⟩ trivial
  | write v fails =>
    cases fails with
    | true => exact ⟨fun h _ => h.2, fun hsame => ⟨rfl, hsame rfl⟩⟩
    | false => exact iff_of_true ⟨rfl, rfl⟩ nofun
  | confirm v =>
    have hv : v = c.cur := hconfirm v rfl
    exact iff_of_true ⟨hv.symm, hsaved.trans (hcur.symm.trans hv.symm)⟩ trivial
  | boot fails =>
    cases fails with
    | true =>
      exact ⟨fun h _ => hsaved.trans h.1.symm,
        fun hd => ⟨(hd rfl).symm.trans hsaved, hsaved⟩⟩
    | false => exact iff_of_true ⟨hsaved, hsaved⟩ nofun
  | reset fails =>
    constructor
    · exact fun h => hsaved.trans h.1.symm
    · intro hd
      have hdefault : default = c.wanted := Eq.trans (Eq.symm hd) hsaved
      cases fails with
      | true => exact ⟨hdefault, hsaved⟩
      | false => exact ⟨hdefault, hdefault⟩

/-- What holds of the default, of the copy and of all written values holds of the value in
    memory. -/
theorem cur_step {P : ν → Prop} (hdefault : P default) (hcur : P c.cur) (hsaved : P c.saved)
    {op : Op ν} (hwrite : ∀ v fails, op = .write v fails → P v) :
    P (step default c op).cur := by
  cases op with
  | keep => exact hcur
  | write v fails => exact hwrite v fails rfl
  | confirm v => exact hcur
  | boot fails =>
    cases fails with
    | true => exact hdefault
    | false => exact hsaved
  | reset fails => exact hdefault

end WriteThrough
