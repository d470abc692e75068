import Mathlib.Tactic.Ring
import Mathlib.Logic.Basic

/-
  Runs of a deterministic machine `step : σ → ι → σ × ο` over a list of inputs: the outputs,
  what holds in every state of a run, and what every step of a run meets. The rules are the
  invariant rule, its exact form (an invariant that a step keeps exactly when the step meets a
  condition), simulation between two machines, a monitor over the outputs, a latch, and a rank.
-/

namespace Machine

variable {σ τ ι ο : Type}

/-- The state after a run. -/
def final (step : σ → ι → σ × ο) (s : σ) : List ι → σ
  | [] => s
  | i :: is => final step (step s i).1 is

/-- The outputs of a run, in order. -/
def outputs (step : σ → ι → σ × ο) (s : σ) : List ι → List ο
  | [] => []
  | i :: is => (step s i).2 :: outputs step (step s i).1 is

/-- `P` holds in the start state and in every state the run reaches. -/
def Always (step : σ → ι → σ × ο) (P : σ → Prop) (s : σ) : List ι → Prop
  | [] => P s
  | i :: is => P s ∧ Always step P (step s i).1 is

/-- Every step of the run meets `C` in the state it starts from. -/
def Meets (step : σ → ι → σ × ο) (C : σ → ι → Prop) (s : σ) : List ι → Prop
  | [] => True
  | i :: is => C s i ∧ Meets step C (step s i).1 is

/-- A monitor that watches a sequence of outputs allows each of them. -/
def Accepts (allows : τ → ο → Prop) (next : τ → ο → τ) (t : τ) : List ο → Prop
  | [] => True
  | o :: os => allows t o ∧ Accepts allows next (next t o) os

variable {step : σ → ι → σ × ο} {P : σ → Prop} {C : σ → ι → Prop}

instance decidableAlways [DecidablePred P] :
    ∀ (s : σ) (is : List ι), Decidable (Always step P s is)
  | s, [] => inferInstanceAs (Decidable (P s))
  | s, i :: is =>
    have := decidableAlways (step s i).1 is
    inferInstanceAs (Decidable (P s ∧ Always step P (step s i).1 is))

instance decidableMeets [∀ s i, Decidable (C s i)] :
    ∀ (s : σ) (is : List ι), Decidable (Meets step C s is)
  | _, [] => inferInstanceAs (Decidable True)
  | s, i :: is =>
    have := decidableMeets (step s i).1 is
    inferInstanceAs (Decidable (C s i ∧ Meets step C (step s i).1 is))

instance decidableAccepts {allows : τ → ο → Prop} {next : τ → ο → τ}
    [∀ t o, Decidable (allows t o)] :
    ∀ (t : τ) (os : List ο), Decidable (Accepts allows next t os)
  | _, [] => inferInstanceAs (Decidable True)
  | t, o :: os =>
    have : Decidable (Accepts allows next (next t o) os) := decidableAccepts (next t o) os
    inferInstanceAs (Decidable (allows t o ∧ Accepts allows next (next t o) os))

theorem final_append (s : σ) (is js : List ι) :
    final step s (is ++ js) = final step (final step s is) js := by
  induction is generalizing s with
  | nil => rfl
  | cons i is ih => exact ih _

/-- The state after one more step of a run. -/
theorem final_take_succ {is : List ι} {k : Nat} {i : ι} (h : is[k]? = some i) (s : σ) :
    final step s (is.take (k + 1)) = (step (final step s (is.take k)) i).1 := by
  rw [List.take_add_one, h, final_append]
  rfl

/-- The output of the `k`-th step of a run. -/
theorem getElem?_outputs (s : σ) (is : List ι) (k : Nat) :
    (outputs step s is)[k]? = is[k]?.map fun i => (step (final step s (is.take k)) i).2 := by
  induction is generalizing s k with
  | nil => rfl
  | cons i is ih =>
    cases k with
    | zero => rfl
    | succ k => exact ih _ k

theorem Always.start {s : σ} {is : List ι} (h : Always step P s is) : P s := by
  cases is with
  | nil => exact h
  | cons i is => exact h.1

theorem Always.final {s : σ} {is : List ι} (h : Always step P s is) : P (final step s is) := by
  induction is generalizing s with
  | nil => exact h
  | cons i is ih => exact ih h.2

theorem Meets.mono {D : σ → ι → Prop} (h : ∀ s i, C s i → D s i) {s : σ} {is : List ι}
    (hc : Meets step C s is) : Meets step D s is := by
  induction is generalizing s with
  | nil => trivial
  | cons i is ih => exact ⟨h _ _ hc.1, ih hc.2⟩

theorem meets_of_forall {is : List ι} (h : ∀ i ∈ is, ∀ s, C s i) {s : σ} : Meets step C s is := by
  induction is generalizing s with
  | nil => trivial
  | cons i is ih => exact ⟨h i (by simp) s, ih fun j hj => h j (by simp [hj])⟩

theorem meets_append {s : σ} {is js : List ι} :
    Meets step C s (is ++ js) ↔ Meets step C s is ∧ Meets step C (final step s is) js := by
  induction is generalizing s with
  | nil => exact ⟨fun h => ⟨trivial, h⟩, And.right⟩
  | cons i is ih => exact (and_congr_right fun _ => ih).trans and_assoc.symm

theorem Meets.and {D : σ → ι → Prop} {s : σ} {is : List ι} (hc : Meets step C s is)
    (hd : Meets step D s is) : Meets step (fun s i => C s i ∧ D s i) s is := by
  induction is generalizing s with
  | nil => trivial
  | cons i is ih => exact ⟨⟨hc.1, hd.1⟩, ih hc.2 hd.2⟩

theorem Always.mono {Q : σ → Prop} (h : ∀ s, P s → Q s) {s : σ} {is : List ι}
    (ha : Always step P s is) : Always step Q s is := by
  induction is generalizing s with
  | nil => exact h s ha
  | cons i is ih => exact ⟨h s ha.1, ih ha.2⟩

/-- What every step does from states with `P`. -/
theorem Always.meets {D : σ → ι → Prop} (h : ∀ s i, P s → C s i → D s i) {s : σ} {is : List ι}
    (ha : Always step P s is) (hc : Meets step C s is) : Meets step D s is := by
  induction is generalizing s with
  | nil => trivial
  | cons i is ih => exact ⟨h s i ha.1 hc.1, ih ha.2 hc.2⟩

/-- The invariant rule, for runs whose steps meet `C`. -/
theorem always_of_meets (hstep : ∀ s i, P s → C s i → P (step s i).1) {s : σ} {is : List ι}
    (hs : P s) (hc : Meets step C s is) : Always step P s is := by
  induction is generalizing s with
  | nil => exact hs
  | cons i is ih => exact ⟨hs, ih (hstep s i hs hc.1) hc.2⟩

/-- The invariant rule. -/
theorem always_of_step (hstep : ∀ s i, P s → P (step s i).1) {s : σ} (is : List ι) (hs : P s) :
    Always step P s is := by
  induction is generalizing s with
  | nil => exact hs
  | cons i is ih => exact ⟨hs, ih (hstep s i hs)⟩

/-- The invariant rule for outputs. -/
theorem forall_outputs {Q : ο → Prop} (hstep : ∀ s i, P s → P (step s i).1 ∧ Q (step s i).2)
    {s : σ} (is : List ι) (hs : P s) : ∀ o ∈ outputs step s is, Q o := by
  induction is generalizing s with
  | nil => nofun
  | cons i is ih =>
    intro o ho
    rcases List.mem_cons.mp ho with rfl | ho
    · exact (hstep s i hs).2
    · exact ih (hstep s i hs).1 o ho

/-- The exact invariant rule. `J` is a standing invariant and `G` a guard all steps of the run
    meet; when a guarded step keeps `P` exactly if it meets `C`, the run keeps `P` exactly if
    all its steps meet `C`. -/
theorem always_iff_meets {J : σ → Prop} {G : σ → ι → Prop}
    (hJ : ∀ s i, J s → P s → G s i → C s i → J (step s i).1)
    (hstep : ∀ s i, J s → P s → G s i → (P (step s i).1 ↔ C s i)) {s : σ} {is : List ι}
    (hj : J s) (hs : P s) (hg : Meets step G s is) :
    Always step P s is ↔ Meets step C s is := by
  induction is generalizing s with
  | nil => exact ⟨fun _ => trivial, fun _ => hs⟩
  | cons i is ih =>
    obtain ⟨hgi, hgr⟩ := hg
    constructor
    · intro h'
      obtain ⟨-, hr⟩ := h'
      have hc := (hstep s i hj hs hgi).mp hr.start
      exact ⟨hc, (ih (hJ s i hj hs hgi hc) hr.start hgr).mp hr⟩
    · intro h
      obtain ⟨hc, hr⟩ := h
      have hp := (hstep s i hj hs hgi).mpr hc
      exact ⟨hs, (ih (hJ s i hj hs hgi hc) hp hgr).mpr hr⟩

/-- Simulation: machines related by `R` have the same outputs as long as their steps meet the
    guards `G` and `H`. -/
theorem outputs_eq_of_simulation {spec : τ → ι → τ × ο} {R : σ → τ → Prop} {G : σ → ι → Prop}
    {H : τ → ι → Prop}
    (hstep : ∀ s t i, R s t → G s i → H t i →
      (step s i).2 = (spec t i).2 ∧ R (step s i).1 (spec t i).1)
    {s : σ} {t : τ} {is : List ι} (hr : R s t) (hg : Meets step G s is) (hh : Meets spec H t is) :
    outputs step s is = outputs spec t is := by
  induction is generalizing s t with
  | nil => rfl
  | cons i is ih =>
    obtain ⟨ho, hr'⟩ := hstep s t i hr hg.1 hh.1
    rw [outputs, outputs, ho, ih hr' hg.2 hh.2]

/-- Simulation: what relatedness implies holds in every state of such a run. -/
theorem always_of_simulation {spec : τ → ι → τ × ο} {R : σ → τ → Prop} {G : σ → ι → Prop}
    {H : τ → ι → Prop}
    (hstep : ∀ s t i, R s t → G s i → H t i →
      (step s i).2 = (spec t i).2 ∧ R (step s i).1 (spec t i).1)
    (hP : ∀ s t, R s t → P s) {s : σ} {t : τ} {is : List ι} (hr : R s t)
    (hg : Meets step G s is) (hh : Meets spec H t is) : Always step P s is := by
  induction is generalizing s t with
  | nil => exact hP s t hr
  | cons i is ih => exact ⟨hP s t hr, ih (hstep s t i hr hg.1 hh.1).2 hg.2 hh.2⟩

/-- The monitor rule: while monitor and machine are related by `R`, an output is allowed exactly
    if the step meets `C`. -/
theorem accepts_iff_meets {allows : τ → ο → Prop} {next : τ → ο → τ} {R : σ → τ → Prop}
    (hallows : ∀ s t i, R s t → (allows t (step s i).2 ↔ C s i))
    (hnext : ∀ s t i, R s t → C s i → R (step s i).1 (next t (step s i).2))
    {s : σ} {t : τ} {is : List ι} (hr : R s t) :
    Accepts allows next t (outputs step s is) ↔ Meets step C s is := by
  induction is generalizing s t with
  | nil => exact Iff.rfl
  | cons i is ih =>
    constructor
    · intro h
      obtain ⟨ha, hs⟩ := h
      have hc := (hallows s t i hr).mp ha
      exact ⟨hc, (ih (hnext s t i hr hc)).mp hs⟩
    · intro h
      obtain ⟨hc, hs⟩ := h
      exact ⟨(hallows s t i hr).mpr hc, (ih (hnext s t i hr hc)).mpr hs⟩

/-- The latch rule. Where a step turns `Q` on if it meets `A`, and else keeps it unless it meets
    `B`, `Q` holds after a run exactly if it held before and no step met `B`, or some step met `A`
    and none since met `B`. -/
theorem final_iff_latched {Q : σ → Prop} {A B : σ → ι → Prop}
    (hP : ∀ s i, P s → P (step s i).1)
    (hstep : ∀ s i, P s → (Q (step s i).1 ↔ A s i ∨ (Q s ∧ ¬B s i)))
    {s : σ} (hs : P s) (is : List ι) :
    Q (final step s is) ↔ (Q s ∧ Meets step (fun s i => ¬B s i) s is) ∨
      ∃ is₁ i is₂, is = is₁ ++ i :: is₂ ∧ A (final step s is₁) i ∧
        Meets step (fun s i => ¬B s i) (step (final step s is₁) i).1 is₂ := by
  induction is generalizing s with
  | nil =>
    refine ⟨fun hq => Or.inl ⟨hq, trivial⟩, fun h => ?_⟩
    rcases h with ⟨hq, -⟩ | ⟨is₁, i, is₂, heq, -⟩
    · exact hq
    · exact absurd heq.symm (List.append_ne_nil_of_right_ne_nil is₁ (List.cons_ne_nil i is₂))
  | cons i is ih =>
    rw [final, ih (hP s i hs), hstep s i hs]
    constructor
    · intro h
      rcases h with ⟨ha | ⟨hq, hb⟩, hkept⟩ | ⟨is₁, j, is₂, rfl, ha, hkept⟩
      · exact Or.inr ⟨[], i, is, rfl, ha, hkept⟩
      · exact Or.inl ⟨hq, hb, hkept⟩
      · exact Or.inr ⟨i :: is₁, j, is₂, rfl, ha, hkept⟩
    · intro h
      rcases h with ⟨hq, hb, hkept⟩ | ⟨is₁, j, is₂, heq, ha, hkept⟩
      · exact Or.inl ⟨Or.inr ⟨hq, hb⟩, hkept⟩
      · cases is₁ with
        | nil =>
          obtain ⟨rfl, rfl⟩ := List.cons.inj heq
          exact Or.inl ⟨Or.inl ha, hkept⟩
        | cons i₁ is₁ =>
          obtain ⟨rfl, rfl⟩ := List.cons.inj heq
          exact Or.inr ⟨is₁, j, is₂, rfl, ha, hkept⟩

/-- The ranking rule: where each step from `P` whose output is not the one waited for keeps `P`
    and costs what it takes off the rank, a run that costs more than the rank has such an
    output. -/
theorem exists_output_of_rank {Q : ο → Prop} {G : ι → Prop} {cost : ι → Nat} {rank : σ → Nat}
    (hstep : ∀ s i, P s → G i → ¬Q (step s i).2 →
      P (step s i).1 ∧ cost i + rank (step s i).1 ≤ rank s)
    {s : σ} {is : List ι} (hs : P s) (hg : ∀ i ∈ is, G i) (h : rank s < (is.map cost).sum) :
    ∃ o ∈ outputs step s is, Q o := by
  induction is generalizing s with
  | nil => exact absurd h (Nat.not_lt_zero _)
  | cons i is ih =>
    by_cases hq : Q (step s i).2
    · exact ⟨_, List.mem_cons_self, hq⟩
    · obtain ⟨hnext, hcost⟩ := hstep s i hs (hg i List.mem_cons_self) hq
      rw [List.map_cons, List.sum_cons] at h
      have hlong : rank (step s i).1 < (is.map cost).sum := by omega
      obtain ⟨o, ho, hqo⟩ := ih hnext (fun j hj => hg j (List.mem_cons_of_mem i hj)) hlong
      exact ⟨o, List.mem_cons_of_mem _ ho, hqo⟩

end Machine
