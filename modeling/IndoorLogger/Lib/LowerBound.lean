import Mathlib.Data.List.Basic
import Mathlib.Order.Basic
import Mathlib.Tactic.Ring

/-
  Lower-bound search: the loop that halves an interval by the test at its midpoint. On a test
  that holds up to some index and fails from there on, the loop ends at that index after
  probing only indices of the interval, and every unit of fuel halves the interval. For a
  list that is sorted by a key the index cuts off the elements below a bound.
-/

namespace LowerBound

variable {α κ : Type}

/-- `while lo < hi`: the index the search ends at and the indices it probed, none when the fuel
    runs out. -/
def search (below : Nat → Bool) : Nat → Nat → Nat → Option (Nat × List Nat)
  | fuel, lo, hi =>
    if lo < hi then
      match fuel with
      | 0 => none
      | fuel + 1 =>
        let mid := (lo + hi) / 2
        let r := if below mid then search below fuel (mid + 1) hi else search below fuel lo mid
        r.map fun r => (r.1, mid :: r.2)
    else some (lo, [])

/-- What the search from `[lo, hi)` leaves: an index of the interval that parts it, found by
    probes inside it. -/
structure Parts (below : Nat → Bool) (lo hi : Nat) (r : Nat × List Nat) : Prop where
  ge : lo ≤ r.1
  le : r.1 ≤ hi
  before : ∀ j, lo ≤ j → j < r.1 → below j = true
  after : ∀ j, r.1 ≤ j → j < hi → below j = false
  probes : ∀ p ∈ r.2, lo ≤ p ∧ p < hi

/-- Whether the test, once it fails, keeps failing. -/
def Antitone (below : Nat → Bool) : Prop :=
  ∀ i j, i ≤ j → below j = true → below i = true

theorem search_parts {below : Nat → Bool} (hb : Antitone below) (fuel lo hi : Nat)
    (hle : lo ≤ hi) (hfuel : hi - lo < 2 ^ fuel) :
    ∃ r, search below fuel lo hi = some r ∧ Parts below lo hi r := by
  -- the interval below `2 ^ fuel` is the invariant; the test at the midpoint decides its half
  induction fuel generalizing lo hi with
  | zero =>
    have hlo : ¬lo < hi := by omega
    unfold search
    rw [if_neg hlo]
    exact ⟨_, rfl, ⟨Nat.le_refl lo, hle, fun j h h' => by omega, fun j h h' => by omega,
      fun p hp => absurd hp List.not_mem_nil⟩⟩
  | succ fuel ih =>
    unfold search
    by_cases hlt : lo < hi
    · rw [if_pos hlt]
      dsimp only
      rw [Nat.pow_succ] at hfuel
      by_cases hmid : below ((lo + hi) / 2) = true
      · obtain ⟨r, hr, hp⟩ := ih ((lo + hi) / 2 + 1) hi (by omega) (by omega)
        rw [if_pos hmid, hr]
        have hge := hp.ge
        refine ⟨_, rfl, ⟨Nat.le_trans (by omega) hge, hp.le, fun j hj hjr => ?_, hp.after,
          fun p hmem => ?_⟩⟩
        · by_cases hjm : j ≤ (lo + hi) / 2
          · exact hb _ _ hjm hmid
          · exact hp.before j (by omega) hjr
        · rcases List.mem_cons.mp hmem with rfl | hmem
          · omega
          · have := hp.probes p hmem
            omega
      · obtain ⟨r, hr, hp⟩ := ih lo ((lo + hi) / 2) (by omega) (by omega)
        rw [if_neg hmid, hr]
        have hge := hp.ge
        have hpl := hp.le
        refine ⟨_, rfl, ⟨hge, Nat.le_trans hpl (by omega), hp.before, fun j hj hjh => ?_,
          fun p hmem => ?_⟩⟩
        · by_cases hjm : j < (lo + hi) / 2
          · exact hp.after j hj hjm
          · rw [← Bool.not_eq_true]
            exact fun hbj => hmid (hb _ _ (by omega) hbj)
        · rcases List.mem_cons.mp hmem with rfl | hmem
          · omega
          · have := hp.probes p hmem
            omega
    · rw [if_neg hlt]
      exact ⟨_, rfl, ⟨Nat.le_refl lo, hle, fun j h h' => by omega, fun j h h' => by omega,
        fun p hp => absurd hp List.not_mem_nil⟩⟩

/-! ## Sorted lists -/

variable [LinearOrder κ]

/-- The test for an element below `k` in a list. -/
def isBelow (key : α → κ) (k : κ) (l : List α) (i : Nat) : Bool :=
  match l[i]? with
  | some x => key x < k
  | none => false

theorem isBelow_antitone {key : α → κ} (k : κ) {l : List α}
    (h : l.Pairwise fun a b => key a ≤ key b) : Antitone (isBelow key k l) := by
  intro i j hij hj
  unfold isBelow at hj ⊢
  by_cases hlt : j < l.length
  · rw [List.getElem?_eq_getElem hlt] at hj
    rw [List.getElem?_eq_getElem (by omega : i < l.length)]
    simp only [decide_eq_true_eq] at hj ⊢
    rcases Nat.lt_or_eq_of_le hij with hl | rfl
    · exact lt_of_le_of_lt (List.pairwise_iff_getElem.mp h i j (by omega) hlt hl) hj
    · exact hj
  · rw [List.getElem?_eq_none (by omega)] at hj
    exact absurd hj Bool.false_ne_true

/-- The index that parts a list cuts off what is below the bound. -/
theorem filter_eq_drop {key : α → κ} {k : κ} {l : List α} {i : Nat}
    (hbefore : ∀ j, j < i → isBelow key k l j = true)
    (hafter : ∀ j, i ≤ j → j < l.length → isBelow key k l j = false) :
    (l.filter fun x => k ≤ key x) = l.drop i := by
  have htake : ((l.take i).filter fun x => k ≤ key x) = [] := by
    rw [List.filter_eq_nil_iff]
    intro x hx
    obtain ⟨j, hj, hjx⟩ := List.getElem_of_mem hx
    rw [List.length_take] at hj
    have := hbefore j (by omega)
    rw [List.getElem_take] at hjx
    unfold isBelow at this
    rw [List.getElem?_eq_getElem (by omega), hjx, decide_eq_true_eq] at this
    simpa using this
  have hdrop : ((l.drop i).filter fun x => k ≤ key x) = l.drop i := by
    rw [List.filter_eq_self]
    intro x hx
    obtain ⟨j, hj, hjx⟩ := List.getElem_of_mem hx
    rw [List.length_drop] at hj
    have := hafter (i + j) (by omega) (by omega)
    rw [List.getElem_drop] at hjx
    unfold isBelow at this
    rw [List.getElem?_eq_getElem (by omega), hjx, decide_eq_false_iff_not] at this
    simpa using this
  calc l.filter (fun x => k ≤ key x)
      = (l.take i ++ l.drop i).filter fun x => k ≤ key x := by rw [List.take_append_drop]
    _ = l.drop i := by rw [List.filter_append, htake, hdrop, List.nil_append]

/-- On a sorted list the search ends where the elements not below `k` begin. -/
theorem search_sorted {key : α → κ} (k : κ) {l : List α}
    (h : l.Pairwise fun a b => key a ≤ key b) {fuel : Nat} (hfuel : l.length < 2 ^ fuel) :
    ∃ r, search (isBelow key k l) fuel 0 l.length = some r ∧ r.1 ≤ l.length ∧
      (l.filter fun x => k ≤ key x) = l.drop r.1 ∧ ∀ p ∈ r.2, p < l.length := by
  obtain ⟨r, hr, hp⟩ := search_parts (isBelow_antitone k h) fuel 0 l.length (Nat.zero_le _)
    (by rwa [Nat.sub_zero])
  exact ⟨r, hr, hp.le, filter_eq_drop (fun j => hp.before j (Nat.zero_le j)) hp.after,
    fun p hmem => (hp.probes p hmem).2⟩

end LowerBound
