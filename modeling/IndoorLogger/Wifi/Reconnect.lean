import IndoorLogger.Wifi.Backoff

/-
  No disconnect is forgotten. Whatever has happened before, a disconnect leaves the retry task
  with something to do, and the task reconnects after at most an hour of its seconds and four
  more steps if no further disconnect comes (`reconnect_within`). What is left to do is counted
  down by each step of the task (`stepsLeft`); the other events do not touch it.
-/

namespace IndoorLogger

open Machine

/-! ## What is left to do -/

/-- The steps of the task before it reconnects. A request that comes during a wait is only served
    when this one is over. -/
def RetryTask.stepsLeft (pending : Bool) : RetryTask → Nat
  | .absent => 0
  | .taking => 2
  | .waiting _ delaySec i => if pending then delaySec.toNat - i.toNat + 3 else 1
  | .waited _ => if pending then 3 else 0

def stepsLeft (w : Wifi) : Nat := w.task.stepsLeft w.retryPending

/-- The task runs, no request is without its notification, and no delay is longer than an
    hour. -/
structure RetryReady (w : Wifi) : Prop where
  task : w.task ≠ .absent
  notified : w.retryPending = true → w.notified = true
  delay : w.retryDelayPendingSec.toNat ≤ 3600
  waiting : ∀ switched delaySec i, w.task = .waiting switched delaySec i →
    delaySec.toNat ≤ 3600 ∧ i < delaySec

/-- A reconnect is owed: a request is pending, or one is being served. -/
def Owed (w : Wifi) : Prop := w.retryPending = true ∨ w.task ≠ .taking

theorem RetryReady.of_keeps {w w' : Wifi} (h : RetryReady w) (hk : KeepsRetry w w') :
    RetryReady w' where
  task := hk.task ▸ h.task
  notified := by rw [hk.pending, hk.notified]; exact h.notified
  delay := by rw [hk.delay]; exact h.delay
  waiting := by rw [hk.task]; exact h.waiting

theorem Owed.of_keeps {w w' : Wifi} (h : Owed w) (hk : KeepsRetry w w') : Owed w' := by
  unfold Owed
  rw [hk.pending, hk.task]
  exact h

theorem stepsLeft_of_keeps {w w' : Wifi} (hk : KeepsRetry w w') : stepsLeft w' = stepsLeft w := by
  unfold stepsLeft
  rw [hk.task, hk.pending]

/-- An hour of seconds, at most. -/
theorem stepsLeft_le {w : Wifi} (h : RetryReady w) : stepsLeft w ≤ 3603 := by
  unfold stepsLeft
  cases ht : w.task with
  | absent => exact Nat.zero_le _
  | taking => exact Nat.le_of_ble_eq_true rfl
  | waiting switched delaySec i =>
    have hdelay := (h.waiting switched delaySec i ht).1
    cases w.retryPending with
    | false => exact Nat.le_of_ble_eq_true rfl
    | true =>
      have hleft : (RetryTask.waiting switched delaySec i).stepsLeft true =
          delaySec.toNat - i.toNat + 3 := rfl
      omega
  | waited switched =>
    cases w.retryPending with
    | false => exact Nat.zero_le _
    | true => exact Nat.le_of_ble_eq_true rfl

/-! ## Events -/

theorem requestedDelay_le (reason : UInt8) (switched : Bool) :
    (requestedDelay reason switched).toNat ≤ 3600 := by
  unfold requestedDelay
  split
  · decide
  · split
    · decide
    · decide

/-- A disconnect is owed a reconnect. -/
theorem owed_staDisconnected {w : Wifi} (h : RetryReady w) (reason : UInt8) (io : ScanIo) :
    RetryReady (staDisconnected reason io w).1 ∧ Owed (staDisconnected reason io w).1 := by
  obtain ⟨w', hk, -, -, heq, hdelay⟩ := staDisconnected_eq reason io w
  obtain ⟨hpending, -, hd, htask, -, hnotified⟩ :=
    requestRetry_fields (staDisconnected reason io w).2 w'
  rw [← heq] at hpending hd htask hnotified
  have h' := h.of_keeps hk
  refine ⟨⟨?_, fun _ => hnotified h'.task, ?_, ?_⟩, .inl hpending⟩
  · rw [htask]
    exact h'.task
  · rw [hd, hdelay]
    split
    · decide
    · exact requestedDelay_le reason false
  · rw [htask]
    exact h'.waiting

/-- Where the loop stands after its test. -/
theorem loopTest_cases (switched : Bool) (delaySec i : UInt32) :
    (i < delaySec ∧ loopTest switched delaySec i = .waiting switched delaySec i) ∨
      ¬i < delaySec ∧ loopTest switched delaySec i = .waited switched := by
  by_cases h : i < delaySec
  · exact .inl ⟨h, if_pos h⟩
  · exact .inr ⟨h, if_neg h⟩

theorem ready_of_loopTest {w : Wifi} {switched : Bool} {delaySec i : UInt32}
    (htask : w.task = loopTest switched delaySec i)
    (hnotified : w.retryPending = true → w.notified = true)
    (hdelay : w.retryDelayPendingSec.toNat ≤ 3600) (hd : delaySec.toNat ≤ 3600) :
    RetryReady w := by
  obtain ⟨hlt, htest⟩ | ⟨-, htest⟩ := loopTest_cases switched delaySec i
  · rw [htest] at htask
    refine ⟨by rw [htask]; nofun, hnotified, hdelay, fun switched' delaySec' i' h => ?_⟩
    cases htask.symm.trans h
    exact ⟨hd, hlt⟩
  · rw [htest] at htask
    refine ⟨by rw [htask]; nofun, hnotified, hdelay, fun switched' delaySec' i' h => ?_⟩
    cases htask.symm.trans h

/-- A step of the task keeps it ready. -/
theorem ready_wifiRetryTask {w : Wifi} (h : RetryReady w) : RetryReady (wifiRetryTask w).1 := by
  cases ht : w.task with
  | absent => exact absurd ht h.task
  | taking =>
    rw [wifiRetryTask_taking ht]
    split
    · exact ready_of_loopTest rfl nofun (Nat.zero_le _) h.delay
    case isFalse hidle =>
      refine ⟨h.task, fun hp => absurd ⟨h.notified hp, hp⟩ hidle, h.delay, h.waiting⟩
  | waiting switched delaySec i =>
    rw [wifiRetryTask_waiting ht]
    split
    · exact ready_of_loopTest rfl h.notified h.delay (h.waiting switched delaySec i ht).1
    · exact ⟨nofun, h.notified, h.delay, nofun⟩
  | waited switched =>
    rw [wifiRetryTask_waited ht]
    split
    · exact ⟨nofun, h.notified, h.delay, nofun⟩
    · cases switched with
      | false => exact ⟨nofun, h.notified, h.delay, nofun⟩
      | true =>
        have hk := keepsRetry_applyActiveConfig w
        exact ⟨nofun, (h.of_keeps hk).notified, (h.of_keeps hk).delay, nofun⟩

/-- A step of the task that does not reconnect is one less that is left. -/
theorem stepsLeft_wifiRetryTask {w : Wifi} (h : RetryReady w) (howed : Owed w)
    (hact : (wifiRetryTask w).2 ≠ .connected) :
    Owed (wifiRetryTask w).1 ∧ 1 + stepsLeft (wifiRetryTask w).1 ≤ stepsLeft w := by
  unfold stepsLeft
  cases ht : w.task with
  | absent => exact absurd ht h.task
  | taking =>
    -- the request is served
    have hpending : w.retryPending = true := howed.resolve_right (not_not.mpr ht)
    rw [wifiRetryTask_taking ht, if_pos ⟨h.notified hpending, hpending⟩]
    obtain ⟨-, htest⟩ | ⟨-, htest⟩ :=
      loopTest_cases w.retrySwitchNetwork w.retryDelayPendingSec 0
    · rw [htest]
      exact ⟨.inr nofun, Nat.le_refl 2⟩
    · rw [htest]
      exact ⟨.inr nofun, Nat.le_succ 1⟩
  | waiting switched delaySec i =>
    have hlt := (h.waiting switched delaySec i ht).2
    rw [wifiRetryTask_waiting ht]
    cases hp : w.retryPending with
    | false =>
      rw [if_neg Bool.false_ne_true]
      exact ⟨.inr nofun, Nat.le_refl 1⟩
    | true =>
      rw [if_pos rfl]
      have hlt' := UInt32.lt_iff_toNat_lt.mp hlt
      have hleft : (RetryTask.waiting switched delaySec i).stepsLeft true =
          delaySec.toNat - i.toNat + 3 := rfl
      rw [hleft]
      obtain ⟨hnext, htest⟩ | ⟨-, htest⟩ := loopTest_cases switched delaySec (i + 1)
      · have hnext' := UInt32.lt_iff_toNat_lt.mp hnext
        have hsucc : (i + 1).toNat = i.toNat + 1 := by
          have hmax := delaySec.toNat_lt
          rw [UInt32.toNat_add]
          exact Nat.mod_eq_of_lt (by have := UInt32.toNat_one; omega)
        have hwait : (RetryTask.waiting switched delaySec (i + 1)).stepsLeft true =
            delaySec.toNat - (i + 1).toNat + 3 := rfl
        rw [htest]
        refine ⟨.inl rfl, ?_⟩
        rw [hwait]
        omega
      · have hwaited : (RetryTask.waited switched).stepsLeft true = 3 := rfl
        rw [htest]
        refine ⟨.inl rfl, ?_⟩
        rw [hwaited]
        omega
  | waited switched =>
    rw [wifiRetryTask_waited ht] at hact ⊢
    cases hp : w.retryPending with
    | false =>
      rw [hp] at hact
      exact absurd rfl hact
    | true =>
      rw [if_pos rfl]
      exact ⟨.inl rfl, Nat.le_refl 3⟩

/-! ## Runs -/

/-- The steps of the task are counted. -/
def WifiInput.steps : WifiInput → Nat
  | .retryTask => 1
  | _ => 0

def WifiInput.isDisconnect : WifiInput → Bool
  | .staDisconnected _ _ => true
  | _ => false

theorem ready_wifiStep {w : Wifi} (h : RetryReady w) (i : WifiInput) :
    RetryReady (wifiStep w i).1 := by
  cases i with
  | staStart => exact h.of_keeps (keepsRetry_staStart w)
  | staDisconnected reason io => exact (owed_staDisconnected h reason io).1
  | staGotIp => exact h.of_keeps (keepsRetry_staGotIp w)
  | rescan io => exact h.of_keeps (keepsRetry_rescan io w)
  | retryTask => exact ready_wifiRetryTask h

/-- Without another disconnect only the task changes what is left, and it counts down. -/
theorem stepsLeft_wifiStep {w : Wifi} (h : RetryReady w) (howed : Owed w) {i : WifiInput}
    (hi : i.isDisconnect = false) (hact : (wifiStep w i).2 ≠ .connected) :
    Owed (wifiStep w i).1 ∧ i.steps + stepsLeft (wifiStep w i).1 ≤ stepsLeft w := by
  have hkeeps : ∀ w', KeepsRetry w w' → Owed w' ∧ 0 + stepsLeft w' ≤ stepsLeft w := by
    intro w' hk
    rw [Nat.zero_add, stepsLeft_of_keeps hk]
    exact ⟨howed.of_keeps hk, Nat.le_refl _⟩
  cases i with
  | staStart => exact hkeeps _ (keepsRetry_staStart w)
  | staDisconnected reason io => cases hi
  | staGotIp => exact hkeeps _ (keepsRetry_staGotIp w)
  | rescan io => exact hkeeps _ (keepsRetry_rescan io w)
  | retryTask => exact stepsLeft_wifiRetryTask h howed hact

theorem ready_start {ssid1 pass1 ssid2 pass2 : List UInt8} {io : ScanIo} {w : Wifi}
    (h : wifiManagerInitStaDual ssid1 pass1 ssid2 pass2 io true = some w) : RetryReady w := by
  obtain ⟨-, rfl⟩ := wifiManagerInitStaDual_eq_some h
  obtain ⟨htask, hpending, hdelay⟩ := stored_retry ssid1 pass1 ssid2 pass2 true
  generalize startRetryTaskIfNeeded true (storeNetworks ssid1 pass1 ssid2 pass2 Wifi.boot) =
    stored at htask hpending hdelay
  have htaking : stored.task = .taking := htask
  have hready : RetryReady stored := by
    refine ⟨by rw [htaking]; nofun, fun hc => ?_, by rw [hdelay]; exact Nat.zero_le _, ?_⟩
    · rw [hpending] at hc
      cases hc
    · rw [htaking]
      nofun
  exact hready.of_keeps
    ((scanAndSelectBest_keeps io stored).1.trans (keepsRetry_applyActiveConfig _))

/-- **No disconnect is forgotten.** After any run of the handler and the retry task, a
    disconnect is followed by a reconnect of the task within an hour of its seconds and four
    more steps, as long as no other disconnect comes; the station's other events and scans may
    come at any point. -/
theorem reconnect_within {ssid1 pass1 ssid2 pass2 : List UInt8} {io : ScanIo} {w : Wifi}
    (h : wifiManagerInitStaDual ssid1 pass1 ssid2 pass2 io true = some w) (is : List WifiInput)
    (reason : UInt8) (scan : ScanIo) (js : List WifiInput)
    (hquiet : ∀ j ∈ js, j.isDisconnect = false)
    (hlong : 3604 ≤ (js.map WifiInput.steps).sum) :
    .connected ∈ outputs wifiStep
      (final wifiStep w (is ++ [.staDisconnected reason scan])) js := by
  have hrun : Always wifiStep RetryReady w is :=
    always_of_step (fun _ i hr => ready_wifiStep hr i) is (ready_start h)
  obtain ⟨hready, howed⟩ := owed_staDisconnected hrun.final reason scan
  have hstep : ∀ (w : Wifi) (i : WifiInput), RetryReady w ∧ Owed w → i.isDisconnect = false →
      ¬(wifiStep w i).2 = .connected →
        (RetryReady (wifiStep w i).1 ∧ Owed (wifiStep w i).1) ∧
          i.steps + stepsLeft (wifiStep w i).1 ≤ stepsLeft w := by
    rintro w i ⟨hr, ho⟩ hi hact
    obtain ⟨hnext, hleft⟩ := stepsLeft_wifiStep hr ho hi hact
    exact ⟨⟨ready_wifiStep hr i, hnext⟩, hleft⟩
  rw [final_append]
  obtain ⟨o, ho, rfl⟩ := exists_output_of_rank (P := fun w => RetryReady w ∧ Owed w)
    (Q := (· = RetryAct.connected)) hstep ⟨hready, howed⟩ hquiet
    (Nat.lt_of_le_of_lt (stepsLeft_le hready) hlong)
  exact ho

/-- Disconnected twice, and then only the task runs. -/
theorem reconnect_within_hour :
    .connected ∈ outputs wifiStep
      (final wifiStep oneNetwork ([disconnect 204, .retryTask] ++
        [.staDisconnected 201 { records := fun _ => none }])) (List.replicate 3604 .retryTask) :=
  reconnect_within (Option.some_get oneNetwork_isSome).symm _ _ _ _
    (fun j hj => by rw [List.eq_of_mem_replicate hj]; rfl)
    (by rw [List.map_replicate, List.sum_replicate_nat]; exact Nat.le_refl _)

end IndoorLogger
