import Mathlib.Data.List.Basic
import IndoorLogger.Lib.Machine

/-
  Store and forward over a link that loses messages. The sender queues what it takes and
  transfers batches from the front of the queue. A batch leaves the queue when the receiver's
  answer comes back; one that arrives without an answer is sent again. In every run the
  settled items have arrived, in order (`Sound`), and arrivals are the settled items, no more,
  exactly when no batch arrives unanswered (`arrived_eq_settled_iff`).
-/

namespace StoreForward

open Machine

variable {α : Type}

/-- What becomes of a transfer. -/
inductive Fate where
  | lost
  | unanswered
  | answered
  deriving DecidableEq

/-- The sender takes an item, transfers at most `n` items, or does neither. -/
inductive Event (α : Type) where
  | take (a : α)
  | transfer (n : Nat) (fate : Fate)
  | idle

/-- The sender's queue, what has left it, and what has arrived. -/
@[ext] structure Link (α : Type) where
  queue : List α
  settled : List α
  arrived : List α

def Link.empty : Link α := ⟨[], [], []⟩

/-- One event. The output is the batch that arrives. -/
def step (l : Link α) : Event α → Link α × List α
  | .take a => ({ l with queue := l.queue ++ [a] }, [])
  | .transfer _ .lost => (l, [])
  | .transfer n .unanswered =>
    ({ l with arrived := l.arrived ++ l.queue.take n }, l.queue.take n)
  | .transfer n .answered =>
    (⟨l.queue.drop n, l.settled ++ l.queue.take n, l.arrived ++ l.queue.take n⟩, l.queue.take n)
  | .idle => (l, [])

/-- The items taken in a run. -/
def taken (es : List (Event α)) : List α :=
  es.filterMap fun e =>
    match e with
    | .take a => some a
    | _ => none

/-- A batch that is not empty arrives, and the answer is lost. -/
def Repeats (l : Link α) : Event α → Prop
  | .transfer n .unanswered => l.queue.take n ≠ []
  | _ => False

/-! ## Safety -/

/-- The settled items have arrived in order, and nothing arrives that was not taken. -/
structure Link.Sound (l : Link α) : Prop where
  settled_sublist : l.settled.Sublist l.arrived
  arrived_subset : l.arrived ⊆ l.settled ++ l.queue

theorem sound_empty : (Link.empty : Link α).Sound := ⟨.refl _, List.nil_subset _⟩

theorem step_sound {l : Link α} (h : l.Sound) (e : Event α) : (step l e).1.Sound := by
  obtain ⟨hsub, hmem⟩ := h
  cases e with
  | take a =>
    refine ⟨hsub, fun x hx => ?_⟩
    have := hmem hx
    simp only [step, List.mem_append] at this ⊢
    rcases this with h | h
    · exact Or.inl h
    · exact Or.inr (Or.inl h)
  | transfer n fate =>
    cases fate with
    | lost => exact ⟨hsub, hmem⟩
    | unanswered =>
      refine ⟨hsub.trans (List.sublist_append_left _ _), fun x hx => ?_⟩
      rcases List.mem_append.mp hx with hx | hx
      · exact hmem hx
      · exact List.mem_append_right _ (List.mem_of_mem_take hx)
    | answered =>
      refine ⟨hsub.append (.refl _), fun x hx => ?_⟩
      rw [step, List.append_assoc, List.take_append_drop]
      rcases List.mem_append.mp hx with hx | hx
      · exact hmem hx
      · exact List.mem_append_right _ (List.mem_of_mem_take hx)
  | idle => exact ⟨hsub, hmem⟩

theorem run_sound {l : Link α} (h : l.Sound) (es : List (Event α)) :
    (final step l es).Sound := by
  have hrun : Always step Link.Sound l es := always_of_step (fun _ e h => step_sound h e) es h
  exact hrun.final

/-- What has been taken is settled or still in the queue, in the order of taking. -/
theorem step_taken (l : Link α) (e : Event α) :
    (step l e).1.settled ++ (step l e).1.queue = l.settled ++ l.queue ++ taken [e] := by
  cases e with
  | take a => exact (List.append_assoc _ _ _).symm
  | transfer n fate =>
    cases fate with
    | lost => exact (List.append_nil _).symm
    | unanswered => exact (List.append_nil _).symm
    | answered =>
      rw [step, List.append_assoc, List.take_append_drop]
      exact (List.append_nil _).symm
  | idle => exact (List.append_nil _).symm

theorem taken_cons (e : Event α) (es : List (Event α)) :
    taken (e :: es) = taken [e] ++ taken es := by
  rw [← List.singleton_append, taken, List.filterMap_append]
  rfl

theorem run_taken (l : Link α) (es : List (Event α)) :
    (final step l es).settled ++ (final step l es).queue = l.settled ++ l.queue ++ taken es := by
  induction es generalizing l with
  | nil => exact (List.append_nil _).symm
  | cons e es ih => rw [final, ih, step_taken, taken_cons e es, List.append_assoc]

/-! ## Exactly once -/

/-- Arrivals beyond the settled items: a step repeats a batch, or adds as many to both. -/
theorem step_length (l : Link α) (e : Event α) :
    ((step l e).1.arrived.length + l.settled.length =
        l.arrived.length + (step l e).1.settled.length ∧ ¬Repeats l e) ∨
      (l.arrived.length + (step l e).1.settled.length <
        (step l e).1.arrived.length + l.settled.length ∧ Repeats l e) := by
  cases e with
  | take a => exact Or.inl ⟨rfl, fun h => h⟩
  | transfer n fate =>
    cases fate with
    | lost => exact Or.inl ⟨rfl, fun h => h⟩
    | unanswered =>
      by_cases hr : l.queue.take n = []
      · refine Or.inl ⟨?_, not_not_intro hr⟩
        rw [step, hr, List.append_nil]
      · refine Or.inr ⟨?_, hr⟩
        have := List.length_pos_iff.mpr hr
        simp only [step, List.length_append]
        omega
    | answered =>
      refine Or.inl ⟨?_, fun h => h⟩
      simp only [step, List.length_append]
      omega
  | idle => exact Or.inl ⟨rfl, fun h => h⟩

/-- Repeated batches stay: arrivals do not fall back to the settled items. -/
theorem run_length_lt {l : Link α} (h : l.settled.length < l.arrived.length)
    (es : List (Event α)) :
    (final step l es).settled.length < (final step l es).arrived.length := by
  induction es generalizing l with
  | nil => exact h
  | cons e es ih =>
    refine ih ?_
    rcases step_length l e with ⟨h1, -⟩ | ⟨h1, -⟩ <;> omega

/-- **Exactly once.** The settled items have arrived, and nothing else has, exactly when no batch
    arrived unanswered. -/
theorem arrived_eq_settled_iff {l : Link α} (h : l.Sound) (heq : l.arrived = l.settled)
    (es : List (Event α)) :
    (final step l es).arrived = (final step l es).settled ↔
      Meets step (fun l e => ¬Repeats l e) l es := by
  induction es generalizing l with
  | nil => exact iff_of_true heq trivial
  | cons e es ih =>
    have hlen := congrArg List.length heq
    have hnext := step_sound h e
    rcases step_length l e with ⟨h1, hr⟩ | ⟨h1, hr⟩
    · have hsame : (step l e).1.arrived = (step l e).1.settled :=
        (hnext.settled_sublist.eq_of_length (by omega)).symm
      exact (ih hnext hsame).trans ⟨fun hm => ⟨hr, hm⟩, fun hm => hm.2⟩
    · refine iff_of_false (fun hc => ?_) fun hm => hm.1 hr
      have hlt := run_length_lt (l := (step l e).1) (by omega) es
      rw [final] at hc
      rw [hc] at hlt
      exact lt_irrefl _ hlt

/-! ## Progress -/

/-- Answered transfers of `n` items empty the queue from the front. -/
theorem drain (l : Link α) (n k : Nat) :
    final step l (List.replicate k (.transfer n .answered)) =
      ⟨l.queue.drop (k * n), l.settled ++ l.queue.take (k * n),
        l.arrived ++ l.queue.take (k * n)⟩ := by
  induction k generalizing l with
  | zero => simp [final]
  | succ k ih =>
    rw [List.replicate_succ, final, ih]
    have htake : l.queue.take ((k + 1) * n) =
        l.queue.take n ++ (l.queue.drop n).take (k * n) := by
      rw [← List.take_add, Nat.succ_mul, Nat.add_comm]
    have hdrop : l.queue.drop ((k + 1) * n) = (l.queue.drop n).drop (k * n) := by
      rw [List.drop_drop, Nat.succ_mul, Nat.add_comm]
    simp only [step, htake, hdrop, List.append_assoc]

end StoreForward
