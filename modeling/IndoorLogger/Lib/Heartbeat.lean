import Mathlib.Order.Nat
import Mathlib.Tactic.Common

/-
  A monitor that is told when a peer is heard, and checks from time to time whether that is too
  long ago. It forgets what it heard before it was started. Whatever the order of reports and
  checks, with a clock that does not go back the flag of a peer is the verdict of the last check
  on its last report (`Judged`).
-/

namespace Heartbeat

/-- When a peer was last heard, and whether it counts as present. -/
structure Peer where
  last : Nat
  online : Bool

/-- A peer heard at `t`. -/
def heard (t : Nat) : Peer := ⟨t, true⟩

/-- A check at `t`. -/
def Peer.check (timeout t : Nat) (p : Peer) : Peer :=
  if p.online && timeout < t - p.last then { p with online := false } else p

/-- The verdict on a peer after the last check at `c`, at the time `now`. `Before` says which
    reports are from before the monitor's start. -/
structure Judged (Before : Nat → Prop) (timeout c now : Nat) (p : Peer) : Prop where
  last_le : p.online = true → p.last ≤ now
  recent : p.online = true → c ≤ p.last + timeout
  overdue : p.online = false → p.last + timeout < c ∨ Before p.last

variable {Before : Nat → Prop} {timeout c now t : Nat} {p : Peer}

theorem judged_heard (h : c ≤ t) : Judged Before timeout c t (heard t) where
  last_le _ := Nat.le_refl t
  recent _ := Nat.le_add_right_of_le h
  overdue := nofun

/-- A peer known from before the start is absent until it is heard. -/
theorem judged_before (hoff : p.online = false) (h : Before p.last) :
    Judged Before timeout c now p where
  last_le hon := absurd (hoff.symm.trans hon) Bool.false_ne_true
  recent hon := absurd (hoff.symm.trans hon) Bool.false_ne_true
  overdue _ := .inr h

theorem Judged.later (h : Judged Before timeout c now p) (ht : now ≤ t) :
    Judged Before timeout c t p :=
  { h with last_le := fun hon => (h.last_le hon).trans ht }

/-- A check passes a peer heard recently, and no other. -/
theorem Judged.check (h : Judged Before timeout c now p) (hc : c ≤ t) (hnow : now ≤ t) :
    Judged Before timeout t t (p.check timeout t) := by
  unfold Peer.check
  cases hon : p.online with
  | false =>
    rw [Bool.false_and, if_neg Bool.false_ne_true]
    refine ⟨fun h => absurd (hon.symm.trans h) Bool.false_ne_true,
      fun h => absurd (hon.symm.trans h) Bool.false_ne_true, fun _ => ?_⟩
    exact (h.overdue hon).imp_left fun hlt => hlt.trans_le hc
  | true =>
    have hlast := (h.last_le hon).trans hnow
    rw [Bool.true_and]
    by_cases hlate : timeout < t - p.last
    · rw [if_pos (decide_eq_true hlate)]
      exact ⟨nofun, nofun, fun _ => .inl (by dsimp only; omega)⟩
    · rw [if_neg (mt of_decide_eq_true hlate)]
      exact ⟨fun _ => hlast, fun _ => by omega,
        fun hoff => absurd (hoff.symm.trans hon) Bool.false_ne_true⟩

/-- The flag of a peer heard since the start. -/
theorem Judged.online_iff (h : Judged Before timeout c now p) (hnew : ¬Before p.last) :
    p.online = true ↔ c ≤ p.last + timeout := by
  refine ⟨h.recent, fun hle => ?_⟩
  by_contra hoff
  rcases h.overdue (Bool.not_eq_true _ ▸ hoff) with hlt | hb
  · exact absurd hle (Nat.not_le.mpr hlt)
  · exact hnew hb

end Heartbeat
