import Mathlib.Algebra.Order.Group.Defs
import Mathlib.Tactic.Abel

/-
  A clock that is set after a reference from time to time and runs by itself in between, seen as
  its deviation from the reference in an ordered group. What it was late when it was set last and
  what has come to it since make up the deviation (`deviation_since_set`).
-/

namespace ReferenceClock

variable {α : Type} [AddCommGroup α]

/-- The clock gains on the reference, or is set to a time that the reference has left behind. -/
inductive Event (α : Type) where
  | gain (d : α)
  | set (late : α)

/-- The deviation of the clock after an event. -/
def Event.apply (dev : α) : Event α → α
  | .gain d => dev + d
  | .set late => -late

/-- The deviation after a run. -/
def deviation (dev : α) (es : List (Event α)) : α := es.foldl Event.apply dev

/-- What the clock gains while it is not set. -/
def gained : List (Event α) → α
  | [] => 0
  | .gain d :: es => d + gained es
  | .set _ :: es => gained es

/-- No event sets the clock. -/
def Unset (es : List (Event α)) : Prop := ∀ e ∈ es, ∃ d, e = .gain d

omit [AddCommGroup α] in
theorem Unset.tail {e : Event α} {es : List (Event α)} (h : Unset (e :: es)) : Unset es :=
  fun e' he => h e' (List.mem_cons_of_mem e he)

/-- A clock that is not set gains what its events gain. -/
theorem deviation_unset {es : List (Event α)} (h : Unset es) (dev : α) :
    deviation dev es = dev + gained es := by
  induction es generalizing dev with
  | nil => exact (add_zero dev).symm
  | cons e es ih =>
    obtain ⟨d, rfl⟩ := h e List.mem_cons_self
    have hstep : deviation dev (.gain d :: es) = deviation (dev + d) es := rfl
    rw [hstep, ih h.tail, gained, add_assoc]

/-- Nothing from before the clock was set is left in its deviation. -/
theorem deviation_since_set (before : List (Event α)) {late : α} {after : List (Event α)}
    (h : Unset after) (dev : α) :
    deviation dev (before ++ .set late :: after) = gained after - late := by
  have hstep : deviation dev (before ++ .set late :: after) = deviation (-late) after := by
    unfold deviation
    rw [List.foldl_append]
    rfl
  rw [hstep, deviation_unset h]
  abel

variable [LinearOrder α] [IsOrderedAddMonoid α]

/-- What is gained stays within what single events may gain. -/
theorem gained_mem {es : List (Event α)} {lo hi : α} (h : Unset es)
    (hes : ∀ d, .gain d ∈ es → lo ≤ d ∧ d ≤ hi) :
    es.length • lo ≤ gained es ∧ gained es ≤ es.length • hi := by
  induction es with
  | nil => exact ⟨(zero_nsmul lo).le, (zero_nsmul hi).ge⟩
  | cons e es ih =>
    obtain ⟨d, rfl⟩ := h e List.mem_cons_self
    obtain ⟨hlo, hhi⟩ := hes d List.mem_cons_self
    obtain ⟨hlower, hupper⟩ := ih h.tail fun d' hd => hes d' (List.mem_cons_of_mem _ hd)
    rw [List.length_cons, succ_nsmul', succ_nsmul', gained]
    exact ⟨add_le_add hlo hlower, add_le_add hhi hupper⟩

end ReferenceClock
