import IndoorLogger.Lib.Machine
import IndoorLogger.Wifi.WifiManager

/-
  What the back-off of the retry task should be, as a monitor over its steps, and when the task
  keeps to it. The test in its wait loop has the wrong sense: the loop is left when no newer
  request is pending, so that a reconnect comes after one second (`backoff_honoured_iff`).
-/

namespace IndoorLogger

open Machine

/-! ## The monitor -/

/-- The request being served: its delay, the seconds waited so far, and whether another one has
    begun. -/
structure Serving where
  delaySec : UInt32
  seconds : Nat
  waiting : Bool

/-- The delay of the newest request that is not served yet, and the request being served. -/
structure Backoff where
  newest : Option UInt32
  serving : Option Serving

def Backoff.start : Backoff := ⟨none, none⟩

/-- The task reconnects once it has waited the requested delay, waits on only as long as no newer
    request is there, and serves the newest one. -/
def Backoff.allows (b : Backoff) : RetryAct → Bool
  | .requested _ _ => true
  | .other => true
  | .blocked => b.serving.isNone && b.newest.isNone
  | .served delaySec => b.serving.isNone && decide (b.newest = some delaySec)
  | .second more => b.serving.any fun s => s.waiting && (!more || b.newest.isNone)
  | .abandoned => b.serving.any fun s => !s.waiting && b.newest.isSome
  | .connected => b.serving.any fun s =>
      !s.waiting && b.newest.isNone && decide (s.delaySec.toNat ≤ s.seconds)

def Backoff.next (b : Backoff) : RetryAct → Backoff
  | .requested reason switched => { b with newest := some (requestedDelay reason switched) }
  | .served delaySec => ⟨none, some ⟨delaySec, 0, true⟩⟩
  | .second more =>
    { b with serving := b.serving.map fun s =>
        { s with seconds := s.seconds + 1, waiting := more } }
  | .abandoned => { b with serving := none }
  | .connected => { b with serving := none }
  | .blocked => b
  | .other => b

/-- A sequence of steps honours the back-off. -/
def Honours (acts : List RetryAct) : Prop :=
  Accepts (fun b act => b.allows act = true) Backoff.next Backoff.start acts

instance (acts : List RetryAct) : Decidable (Honours acts) :=
  inferInstanceAs (Decidable (Accepts _ _ _ _))

/-! ## The task and the monitor -/

/-- Whether a step of the task comes at a time when no second is lost: nothing is pending when
    a second ends, and something is at the test behind the loop. -/
def RetryTask.overtaken (pending : Bool) : RetryTask → Bool
  | .waiting _ _ _ => !pending
  | .waited _ => pending
  | .taking => true
  | .absent => true

/-- No newer request is pending when a second ends, and one is at the test behind the loop. -/
def Overtaken (w : Wifi) : WifiInput → Prop
  | .retryTask => w.task.overtaken w.retryPending = true
  | _ => True

instance (w : Wifi) : ∀ i, Decidable (Overtaken w i)
  | .retryTask => inferInstanceAs (Decidable (_ = true))
  | .staStart => inferInstanceAs (Decidable True)
  | .staDisconnected _ _ => inferInstanceAs (Decidable True)
  | .staGotIp => inferInstanceAs (Decidable True)
  | .rescan _ => inferInstanceAs (Decidable True)

/-- The monitor follows the task: as long as the back-off is honoured no second wait begins. -/
structure Follows (w : Wifi) (b : Backoff) : Prop where
  newest : b.newest = if w.retryPending then some w.retryDelayPendingSec else none
  delay : w.retryPending = true → 5 ≤ w.retryDelayPendingSec.toNat
  notified : w.retryPending = true → w.task ≠ .absent → w.notified = true
  serving : match w.task with
    | .absent => b.serving = none
    | .taking => b.serving = none
    | .waiting _ delaySec i => b.serving = some ⟨delaySec, 0, true⟩ ∧ i = 0 ∧ 5 ≤ delaySec.toNat
    | .waited _ => ∃ delaySec, b.serving = some ⟨delaySec, 1, false⟩ ∧ 5 ≤ delaySec.toNat

theorem Follows.of_keeps {w w' : Wifi} {b : Backoff} (h : Follows w b) (hk : KeepsRetry w w') :
    Follows w' b where
  newest := by rw [hk.pending, hk.delay]; exact h.newest
  delay := by rw [hk.pending, hk.delay]; exact h.delay
  notified := by rw [hk.pending, hk.task, hk.notified]; exact h.notified
  serving := by rw [hk.task]; exact h.serving

theorem le_requestedDelay (reason : UInt8) (switched : Bool) :
    5 ≤ (requestedDelay reason switched).toNat := by
  unfold requestedDelay
  split
  · decide
  · split <;> decide

theorem requestedDelay_eq (reason : UInt8) (switched : Bool) :
    (if switched then 5 else requestedDelay reason false) = requestedDelay reason switched := by
  cases switched <;> rfl

theorem follows_staDisconnected {w : Wifi} {b : Backoff} (h : Follows w b) (reason : UInt8)
    (io : ScanIo) :
    Follows (staDisconnected reason io w).1
      (b.next (.requested reason (staDisconnected reason io w).2)) := by
  obtain ⟨w', hk, -, -, heq, hdelay⟩ := staDisconnected_eq reason io w
  have h' := h.of_keeps hk
  obtain ⟨hpending, -, hd, htask, -, hn⟩ :=
    requestRetry_fields (staDisconnected reason io w).2 w'
  rw [← heq] at hpending hd htask hn
  rw [hdelay, requestedDelay_eq] at hd
  constructor
  · rw [hpending, hd, if_pos rfl]
    rfl
  · rw [hd]
    exact fun _ => le_requestedDelay _ _
  · rw [htask]
    exact fun _ => hn
  · rw [htask]
    exact h'.serving

/-- The monitor allows what the task does exactly when the task is overtaken in time. -/
theorem allows_iff_overtaken {w : Wifi} {b : Backoff} (h : Follows w b) (i : WifiInput) :
    b.allows (wifiStep w i).2 = true ↔ Overtaken w i := by
  obtain ⟨newest, serving⟩ := b
  obtain ⟨hnewest, -, hnotified, hs⟩ := h
  dsimp only at hnewest hs
  cases i with
  | staStart => exact iff_of_true rfl trivial
  | staDisconnected reason io => exact iff_of_true rfl trivial
  | staGotIp => exact iff_of_true rfl trivial
  | rescan io => exact iff_of_true rfl trivial
  | retryTask =>
    rw [wifiStep, Overtaken]
    cases ht : w.task with
    | absent =>
      rw [wifiRetryTask_absent ht]
      exact iff_of_true rfl rfl
    | taking =>
      rw [ht] at hs hnotified
      obtain rfl : serving = none := hs
      refine iff_of_true ?_ rfl
      rw [wifiRetryTask_taking ht]
      by_cases hp : w.retryPending = true
      · rw [if_pos hp] at hnewest
        rw [if_pos ⟨hnotified hp RetryTask.noConfusion, hp⟩]
        exact decide_eq_true hnewest
      · rw [if_neg hp] at hnewest
        rw [if_neg fun hc => hp hc.2, hnewest]
        rfl
    | waiting switched delaySec i =>
      rw [ht] at hs
      obtain ⟨rfl, rfl, hd⟩ := hs
      rw [wifiRetryTask_waiting ht]
      cases hp : w.retryPending with
      | false => exact iff_of_true rfl rfl
      | true =>
        -- one second of at least five is over, so that the loop goes on
        have hlt : (0 : UInt32) + 1 < delaySec := by
          rw [UInt32.lt_iff_toNat_lt]
          exact Nat.lt_of_lt_of_le (by decide) hd
        rw [hp, if_pos rfl] at hnewest
        rw [if_pos rfl, hnewest, decide_eq_true hlt]
        exact iff_of_false Bool.false_ne_true fun hc => nomatch hc
    | waited switched =>
      rw [ht] at hs
      obtain ⟨delaySec, rfl, hd⟩ := hs
      rw [wifiRetryTask_waited ht]
      cases hp : w.retryPending with
      | true =>
        rw [hp, if_pos rfl] at hnewest
        rw [if_pos rfl, hnewest]
        exact iff_of_true rfl rfl
      | false =>
        rw [hp, if_neg Bool.false_ne_true] at hnewest
        rw [if_neg Bool.false_ne_true, hnewest]
        have hlt : ¬delaySec.toNat ≤ 1 := by omega
        have hallows : (Backoff.mk none (some ⟨delaySec, 1, false⟩)).allows .connected =
            decide (delaySec.toNat ≤ 1) := Bool.true_and _
        dsimp only
        rw [hallows, decide_eq_false hlt]
        rfl

theorem follows_step {w : Wifi} {b : Backoff} (h : Follows w b) (i : WifiInput)
    (hc : Overtaken w i) : Follows (wifiStep w i).1 (b.next (wifiStep w i).2) := by
  cases i with
  | staStart => exact h.of_keeps (keepsRetry_staStart w)
  | staDisconnected reason io => exact follows_staDisconnected h reason io
  | staGotIp => exact h.of_keeps (keepsRetry_staGotIp w)
  | rescan io => exact h.of_keeps (keepsRetry_rescan io w)
  | retryTask =>
    obtain ⟨newest, serving⟩ := b
    obtain ⟨hnewest, hdelay, hnotified, hs⟩ := h
    dsimp only at hnewest hs
    rw [Overtaken] at hc
    rw [wifiStep]
    cases ht : w.task with
    | absent =>
      rw [wifiRetryTask_absent ht]
      exact ⟨hnewest, hdelay, hnotified, hs⟩
    | taking =>
      rw [ht] at hs hnotified
      rw [wifiRetryTask_taking ht]
      by_cases hp : w.retryPending = true
      · have hd := hdelay hp
        have hlt : (0 : UInt32) < w.retryDelayPendingSec := by
          rw [UInt32.lt_iff_toNat_lt]
          exact Nat.lt_of_lt_of_le (by decide) hd
        rw [if_pos ⟨hnotified hp RetryTask.noConfusion, hp⟩, loopTest, if_pos hlt]
        exact ⟨rfl, nofun, nofun, rfl, rfl, hd⟩
      · rw [if_neg fun hc => hp hc.2]
        refine ⟨hnewest, hdelay, fun hc => absurd hc hp, ?_⟩
        dsimp only
        rw [ht]
        exact hs
    | waiting switched delaySec i =>
      rw [ht] at hs hc hnotified
      obtain ⟨rfl, -, hd⟩ := hs
      have hp : w.retryPending = false := (Bool.not_eq_true' _).mp hc
      rw [wifiRetryTask_waiting ht, if_neg (hp ▸ Bool.false_ne_true)]
      exact ⟨hnewest, hdelay, fun hc => absurd (hp.symm.trans hc) Bool.false_ne_true,
        delaySec, rfl, hd⟩
    | waited switched =>
      rw [ht] at hs hc hnotified
      have hp : w.retryPending = true := hc
      rw [wifiRetryTask_waited ht, if_pos hp]
      exact ⟨hnewest, hdelay, fun _ _ => hnotified hp RetryTask.noConfusion, rfl⟩

/-! ## Runs -/

theorem follows_start {w : Wifi} (h : WifiStart w) : Follows w Backoff.start := by
  refine ⟨?_, fun hc => ?_, fun hc => ?_, ?_⟩
  · rw [h.pending, if_neg Bool.false_ne_true]
    rfl
  · exact absurd (h.pending.symm.trans hc) Bool.false_ne_true
  · exact absurd (h.pending.symm.trans hc) Bool.false_ne_true
  · rcases h.task with ht | ht
    · rw [ht]
      rfl
    · rw [ht]
      rfl

/-- **Reconnect back-off.** In every run of the handler and the retry task from the start, the
    task honours the back-off exactly when every second it waits is overtaken: no newer
    disconnect is pending when the second ends, and one is at the test behind the loop. -/
theorem backoff_honoured_iff {ssid1 pass1 ssid2 pass2 : List UInt8} {io : ScanIo}
    {taskCreated : Bool} {w : Wifi}
    (h : wifiManagerInitStaDual ssid1 pass1 ssid2 pass2 io taskCreated = some w)
    (is : List WifiInput) :
    Honours (outputs wifiStep w is) ↔ Meets wifiStep Overtaken w is :=
  accepts_iff_meets (R := Follows) (fun _ _ i hf => allows_iff_overtaken hf i)
    (fun _ _ i hf hc => follows_step hf i hc) (follows_start (wifiManagerInitStaDual_start h))

theorem oneNetwork_isSome :
    (wifiManagerInitStaDual (ascii "home") (ascii "secret") [] [] { records := fun _ => none }
      true).isSome := by decide +kernel

/-- The manager with one network. -/
def oneNetwork : Wifi :=
  (wifiManagerInitStaDual (ascii "home") (ascii "secret") [] [] { records := fun _ => none }
    true).get oneNetwork_isSome

/-- A disconnect, its reason given. -/
def disconnect (reason : UInt8) : WifiInput := .staDisconnected reason { records := fun _ => none }

/-- A second disconnect comes between the two tests after the first second. -/
theorem backoff_honoured_overtaken :
    Honours (outputs wifiStep oneNetwork
      [disconnect 204, .retryTask, .retryTask, disconnect 201, .retryTask, .retryTask]) :=
  (backoff_honoured_iff (Option.some_get oneNetwork_isSome).symm _).mpr (by decide +kernel)

/-- After a wrong password the task connects again as soon as one second of the hour is over. -/
theorem backoff_ignored :
    outputs wifiStep oneNetwork [disconnect 204, .retryTask, .retryTask, .retryTask] =
        [.requested 204 false, .served 3600, .second false, .connected] ∧
      ¬Honours (outputs wifiStep oneNetwork [disconnect 204, .retryTask, .retryTask, .retryTask]) ∧
      outputs wifiStep oneNetwork [disconnect 201, .retryTask, disconnect 204, .retryTask] =
        [.requested 201 false, .served 60, .requested 204 false, .second true] ∧
      ¬Honours (outputs wifiStep oneNetwork
        [disconnect 201, .retryTask, disconnect 204, .retryTask]) := by
  decide +kernel

end IndoorLogger
