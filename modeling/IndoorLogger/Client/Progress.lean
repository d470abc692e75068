import IndoorLogger.Client.SleepTicks

/-
  The other side of the cadence: uploads do not only keep their distance, they also come. From
  any state of the client, and so after any failures, the next upload is at most a bounded number
  of ticks away once WiFi and the sensors work (`upload_within`). Each pass without an upload
  uses up the time that is left (`untilUpload`).
-/

namespace IndoorLogger

open Machine

/-! ## Passes -/

/-- The ticks of a pass. -/
def LoopIo.ticks (io : LoopIo) : Nat := io.before + io.after.counted

/-- A pass of at most `b` ticks in which WiFi and the sensors work. -/
structure LoopIo.Works (b : Nat) (io : LoopIo) : Prop where
  wifiOk : io.wifiOk = true
  sensorOk : io.sensorOk = true
  ticks_le : io.ticks ≤ b

def passStep (cfg : TaskConfig) (s : ClientTask) (io : LoopIo) :
    ClientTask × Option UploadCall :=
  clientTask cfg io s

/-! ## The time that is left -/

/-- The ticks until a timer of `interval` that was set at `last` is seen to have run out, by
    passes of at most `b` ticks. -/
def pending (b : Nat) (now last interval : UInt32) : Nat :=
  if now - last ≥ interval then 0 else interval.toNat - (now - last).toNat + b

/-- `CONFIG_CLIENT_DISCOVER_TIMEOUT_MS` and `CONFIG_CLIENT_RETRY_INTERVAL_MS`, in ticks. -/
def TaskConfig.discoverTicks (cfg : TaskConfig) : UInt32 := pdMsToTicks cfg.hz cfg.discoverTimeoutMs

def TaskConfig.retryTicks (cfg : TaskConfig) : UInt32 := pdMsToTicks cfg.hz cfg.retryIntervalMs

/-- The time until the state machine uploads. A search that failed has to time out first, then
    the next one has to come due. -/
def untilUpload (cfg : TaskConfig) (b : Nat) (s : ClientTask) : Nat :=
  match s.state with
  | .discovering =>
    if s.wifiInitialized then
      pending b s.now s.stateEntered cfg.discoverTicks + cfg.retryTicks.toNat + 2 * b
    else 0
  | .connected =>
    pending b s.now s.lastUploadAttempt (pdMsToTicks cfg.hz (syncIntervalMs s))
  | .autonomous => pending b s.now s.lastDiscoveryAttempt cfg.retryTicks + b

/-- A wake-up from light sleep is followed by a cycle with an upload. -/
def rank (cfg : TaskConfig) (b : Nat) (s : ClientTask) : Nat :=
  if s.wokeByButton || s.wokeByTimer then 0 else untilUpload cfg b s

theorem pdMsToTicks_le (hz ms : UInt32) : (pdMsToTicks hz ms).toNat ≤ 4294967 := by
  have h1000 : (1000 : UInt32).toNat = 1000 := rfl
  have hlt := (ms * hz).toNat_lt
  rw [pdMsToTicks, UInt32.toNat_div, h1000]
  omega

variable {b : Nat} {now last interval : UInt32}

theorem pending_le : pending b now last interval ≤ interval.toNat + b := by
  unfold pending
  split
  · omega
  · omega

/-- Time that passes is time that is no longer left. -/
theorem pending_add {n m : Nat} (hn : n ≤ b) (hb : interval.toNat + b < 2 ^ 32)
    (h : ¬UInt32.ofNat m - last ≥ interval) :
    n + pending b (UInt32.ofNat (m + n)) last interval ≤
      pending b (UInt32.ofNat m) last interval := by
  have hlt : (UInt32.ofNat m - last).toNat < interval.toNat :=
    UInt32.lt_iff_toNat_lt.mp (UInt32.not_le.mp h)
  have hsince : (UInt32.ofNat (m + n) - last).toNat = (UInt32.ofNat m - last).toNat + n := by
    have hlast := last.toNat_lt
    rw [UInt32.toNat_sub, UInt32.toNat_ofNat'] at hlt ⊢
    rw [UInt32.toNat_sub, UInt32.toNat_ofNat']
    omega
  unfold pending
  rw [if_neg h]
  split
  case isTrue => omega
  case isFalse hpending =>
    have hlt' := UInt32.lt_iff_toNat_lt.mp (UInt32.not_le.mp hpending)
    rw [hsince] at hlt' ⊢
    omega

/-- A timer that has just been set. -/
theorem pending_set {n m : Nat} (hn : n ≤ b) (hb : interval.toNat + b < 2 ^ 32) :
    n + pending b (UInt32.ofNat (m + n)) (UInt32.ofNat m) interval ≤ interval.toNat + b := by
  by_cases h : UInt32.ofNat m - UInt32.ofNat m ≥ interval
  · have hzero : interval = 0 := by
      rw [UInt32.sub_self] at h
      exact UInt32.le_zero_iff.mp h
    unfold pending
    rw [hzero, if_pos UInt32.zero_le]
    omega
  · exact (pending_add hn hb h).trans pending_le

theorem le_pending (h : ¬now - last ≥ interval) : b ≤ pending b now last interval := by
  unfold pending
  rw [if_neg h]
  omega

/-! ## One pass -/

/-- Nothing that the time until an upload depends on changes. -/
structure SameTimers (s s' : ClientTask) : Prop where
  counted : s'.counted = s.counted
  state : s'.state = s.state
  wifiInitialized : s'.wifiInitialized = s.wifiInitialized
  stateEntered : s'.stateEntered = s.stateEntered
  lastUploadAttempt : s'.lastUploadAttempt = s.lastUploadAttempt
  lastDiscoveryAttempt : s'.lastDiscoveryAttempt = s.lastDiscoveryAttempt
  syncInterval : s'.syncInterval = s.syncInterval

theorem SameTimers.refl (s : ClientTask) : SameTimers s s := ⟨rfl, rfl, rfl, rfl, rfl, rfl, rfl⟩

theorem SameTimers.trans {s s' s'' : ClientTask} (h : SameTimers s s') (h' : SameTimers s' s'') :
    SameTimers s s'' where
  counted := h'.counted.trans h.counted
  state := h'.state.trans h.state
  wifiInitialized := h'.wifiInitialized.trans h.wifiInitialized
  stateEntered := h'.stateEntered.trans h.stateEntered
  lastUploadAttempt := h'.lastUploadAttempt.trans h.lastUploadAttempt
  lastDiscoveryAttempt := h'.lastDiscoveryAttempt.trans h.lastDiscoveryAttempt
  syncInterval := h'.syncInterval.trans h.syncInterval

variable {cfg : TaskConfig} {io : LoopIo} {s s' : ClientTask}

theorem SameTimers.untilUpload_eq (h : SameTimers s s') :
    untilUpload cfg b s' = untilUpload cfg b s := by
  unfold untilUpload ClientTask.now syncIntervalMs
  rw [h.counted, h.state, h.wifiInitialized, h.stateEntered, h.lastUploadAttempt,
    h.lastDiscoveryAttempt, h.syncInterval]

theorem sameTimers_stepButton : SameTimers s (stepButton cfg io s) := by
  unfold stepButton
  dsimp only
  split
  · exact ⟨rfl, rfl, rfl, rfl, rfl, rfl, rfl⟩
  · exact ⟨rfl, rfl, rfl, rfl, rfl, rfl, rfl⟩

theorem sameTimers_lightSleep : SameTimers s (lightSleep cfg io s) := by
  unfold lightSleep
  dsimp only
  split
  · split
    · exact ⟨rfl, rfl, rfl, rfl, rfl, rfl, rfl⟩
    · exact ⟨rfl, rfl, rfl, rfl, rfl, rfl, rfl⟩
  · exact ⟨rfl, rfl, rfl, rfl, rfl, rfl, rfl⟩

/-- The time that a pass takes. -/
def ClientTask.elapse (n : Nat) (s : ClientTask) : ClientTask := { s with counted := s.counted + n }

/-- What a part of a pass that does not upload does to the time that is left: it leaves enough of
    it once the `n` ticks of the pass are over, and there was time for a pass. -/
def UsesUp (cfg : TaskConfig) (b n : Nat) (s s' : ClientTask) : Prop :=
  n + untilUpload cfg b (s'.elapse n) ≤ untilUpload cfg b s ∧ b ≤ untilUpload cfg b s

section

variable {n : Nat} (hb : b < 4290000000) (hn : n ≤ b)

include hb in
theorem fits_ticks (ms : UInt32) : (pdMsToTicks cfg.hz ms).toNat + b < 2 ^ 32 := by
  have := pdMsToTicks_le cfg.hz ms
  omega

include hb hn

/-- A search that failed times out, and the next one comes due. -/
theorem usesUp_stepDiscovering (hwifi : io.wifiOk = true) (hstate : s.state = .discovering)
    (hcall : (stepDiscovering cfg io s).2 = none) :
    UsesUp cfg b n s (stepDiscovering cfg io s).1 := by
  unfold stepDiscovering at hcall ⊢
  cases hinit : s.wifiInitialized with
  | false =>
    rw [hinit, hwifi] at hcall
    cases hcall
  | true =>
    rw [hinit] at hcall
    cases hip : io.serverIp with
    | true =>
      rw [hip] at hcall
      cases hcall
    | false =>
      have huntil : untilUpload cfg b s =
          pending b s.now s.stateEntered cfg.discoverTicks + cfg.retryTicks.toNat + 2 * b := by
        rw [untilUpload, hstate]
        exact if_pos hinit
      unfold UsesUp
      rw [huntil]
      refine ⟨?_, by omega⟩
      by_cases hdue : s.now - s.stateEntered ≥ pdMsToTicks cfg.hz cfg.discoverTimeoutMs
      · have hset : n + pending b (UInt32.ofNat (s.counted + n)) (UInt32.ofNat s.counted)
            cfg.retryTicks ≤ cfg.retryTicks.toNat + b := pending_set hn (fits_ticks hb _)
        have hleft : untilUpload cfg b (ClientTask.elapse n { s with
              state := .autonomous
              stateEntered := s.now
              lastDiscoveryAttempt := s.now
              wifiInitialized := false }) =
            pending b (UInt32.ofNat (s.counted + n)) (UInt32.ofNat s.counted)
              cfg.retryTicks + b := rfl
        rw [if_neg (by decide), if_neg (by decide), if_pos hdue, hleft]
        omega
      · have hadd : n + pending b (UInt32.ofNat (s.counted + n)) s.stateEntered
            cfg.discoverTicks ≤ pending b s.now s.stateEntered cfg.discoverTicks :=
          pending_add hn (fits_ticks hb _) hdue
        have hleft : untilUpload cfg b (s.elapse n) =
            pending b (UInt32.ofNat (s.counted + n)) s.stateEntered cfg.discoverTicks +
              cfg.retryTicks.toNat + 2 * b := by
          rw [untilUpload, ClientTask.elapse, hstate]
          exact if_pos hinit
        rw [if_neg (by decide), if_neg (by decide), if_neg hdue, hleft]
        omega

/-- An upload that is not due comes due. -/
theorem usesUp_stepConnected (hwifi : io.wifiOk = true) (hstate : s.state = .connected)
    (hcall : (stepConnected cfg io s).2 = none) :
    UsesUp cfg b n s (stepConnected cfg io s).1 := by
  unfold stepConnected at hcall ⊢
  cases hdue : uploadDue cfg s with
  | true =>
    rw [hdue, hwifi] at hcall
    cases hcall
  | false =>
    have hpending := of_decide_eq_false hdue
    have huntil : untilUpload cfg b s =
        pending b s.now s.lastUploadAttempt (pdMsToTicks cfg.hz (syncIntervalMs s)) := by
      rw [untilUpload, hstate]
    have hleft : untilUpload cfg b (s.elapse n) =
        pending b (UInt32.ofNat (s.counted + n)) s.lastUploadAttempt
          (pdMsToTicks cfg.hz (syncIntervalMs s)) := by
      rw [untilUpload, ClientTask.elapse, hstate]
      rfl
    unfold UsesUp
    rw [if_neg (by decide), huntil, hleft]
    exact ⟨pending_add hn (fits_ticks hb _) hpending, le_pending hpending⟩

/-- A retry that is not due comes due, and one that is leads to a search. -/
theorem usesUp_stepAutonomous (hstate : s.state = .autonomous) :
    UsesUp cfg b n s (stepAutonomous cfg s).1 := by
  have huntil : untilUpload cfg b s =
      pending b s.now s.lastDiscoveryAttempt cfg.retryTicks + b := by
    rw [untilUpload, hstate]
  unfold UsesUp stepAutonomous
  rw [huntil]
  refine ⟨?_, by omega⟩
  by_cases hdue : s.now - s.lastDiscoveryAttempt ≥ pdMsToTicks cfg.hz cfg.retryIntervalMs
  · have hleft : untilUpload cfg b (ClientTask.elapse n { s with
        state := .discovering
        stateEntered := s.now
        wifiInitialized := false }) = 0 := rfl
    rw [if_pos hdue, hleft]
    omega
  · have hadd : n + pending b (UInt32.ofNat (s.counted + n)) s.lastDiscoveryAttempt
        cfg.retryTicks ≤ pending b s.now s.lastDiscoveryAttempt cfg.retryTicks :=
      pending_add hn (fits_ticks hb _) hdue
    have hleft : untilUpload cfg b (s.elapse n) =
        pending b (UInt32.ofNat (s.counted + n)) s.lastDiscoveryAttempt cfg.retryTicks + b := by
      rw [untilUpload, ClientTask.elapse, hstate]
      rfl
    rw [if_neg hdue, hleft]
    omega

theorem usesUp_stepState (hwifi : io.wifiOk = true) (hcall : (stepState cfg io s).2 = none) :
    UsesUp cfg b n s (stepState cfg io s).1 := by
  unfold stepState at hcall ⊢
  cases hstate : s.state with
  | discovering =>
    rw [hstate] at hcall
    exact usesUp_stepDiscovering hb hn hwifi hstate hcall
  | connected =>
    rw [hstate] at hcall
    exact usesUp_stepConnected hb hn hwifi hstate hcall
  | autonomous => exact usesUp_stepAutonomous hb hn hstate

end

theorem sameTimers_displayTimeout : SameTimers s (displayTimeout s) := by
  unfold displayTimeout
  split
  · exact ⟨rfl, rfl, rfl, rfl, rfl, rfl, rfl⟩
  · exact .refl s

theorem sameTimers_readSensors : SameTimers s (readSensors cfg s) := by
  unfold readSensors
  split
  · exact ⟨rfl, rfl, rfl, rfl, rfl, rfl, rfl⟩
  · exact .refl s

/-- The check for the timeout of the display changes `display_active` only. -/
theorem displayTimeout_keeps (s : ClientTask) :
    (displayTimeout s).wokeByButton = s.wokeByButton ∧
      (displayTimeout s).wokeByTimer = s.wokeByTimer ∧
      (displayTimeout s).prevButtonRaw = s.prevButtonRaw := by
  unfold displayTimeout
  split
  · exact ⟨rfl, rfl, rfl⟩
  · exact ⟨rfl, rfl, rfl⟩

/-- A pass of the loop, part by part. -/
theorem stepLoop_eq (cfg : TaskConfig) (io : LoopIo) (s : ClientTask) :
    stepLoop cfg io s =
      (lightSleep cfg io (stepButton cfg io (stepState cfg io (readSensors cfg s)).1),
        (stepState cfg io (readSensors cfg s)).2) := by
  unfold stepLoop readSensors sensorsDue
  simp only [decide_eq_true_eq]

/-- The part of a pass that the wake-up before it decides on. -/
def afterWakeUp (cfg : TaskConfig) (io : LoopIo) (s : ClientTask) :
    ClientTask × Option UploadCall :=
  if s.wokeByButton then buttonCycle cfg io s
  else if s.wokeByTimer then timerCycle io s
  else stepLoop cfg io s

/-- A pass uploads in this part, and only time passes behind it. -/
theorem clientTask_afterWakeUp (cfg : TaskConfig) (io : LoopIo) (s : ClientTask) :
    (clientTask cfg io s).2 = (afterWakeUp cfg io (displayTimeout s)).2 ∧
      (clientTask cfg io s).1.displayActive =
        (afterWakeUp cfg io (displayTimeout s)).1.displayActive := ⟨rfl, rfl⟩

/-- Without a wake-up before it a pass uploads where the state machine does. -/
theorem passStep_awake (cfg : TaskConfig) (io : LoopIo) (hbutton : s.wokeByButton = false)
    (htimer : s.wokeByTimer = false) :
    (passStep cfg s io).2 = (stepState cfg io (readSensors cfg (displayTimeout s))).2 ∧
      SameTimers
        ((stepState cfg io (readSensors cfg (displayTimeout s))).1.elapse io.ticks)
        (passStep cfg s io).1 := by
  obtain ⟨hwokeButton, hwokeTimer, -⟩ := displayTimeout_keeps s
  constructor
  · rw [passStep, (clientTask_afterWakeUp cfg io s).1, afterWakeUp, hwokeButton, hwokeTimer,
      hbutton, htimer, stepLoop_eq]
    rfl
  · rw [passStep, clientTask_atSleep cfg io s hbutton htimer]
    have hsame : SameTimers (stepState cfg io (readSensors cfg (displayTimeout s))).1
        (lightSleep cfg io (atSleep cfg io s)) :=
      sameTimers_stepButton.trans sameTimers_lightSleep
    have hcounted : (lightSleep cfg io (atSleep cfg io s)).counted + io.before +
        io.after.counted =
          (stepState cfg io (readSensors cfg (displayTimeout s))).1.counted + io.ticks := by
      rw [hsame.counted, LoopIo.ticks, Nat.add_assoc]
    exact ⟨hcounted, hsame.state, hsame.wifiInitialized, hsame.stateEntered,
      hsame.lastUploadAttempt, hsame.lastDiscoveryAttempt, hsame.syncInterval⟩

/-- A cycle uploads where WiFi and the sensors work. -/
theorem passStep_woke (hwifi : io.wifiOk = true) (hsensor : io.sensorOk = true)
    (hwoke : (s.wokeByButton || s.wokeByTimer) = true) : (passStep cfg s io).2.isSome = true := by
  obtain ⟨hwokeButton, hwokeTimer, -⟩ := displayTimeout_keeps s
  rw [passStep, (clientTask_afterWakeUp cfg io s).1, afterWakeUp, hwokeButton, hwokeTimer]
  cases hbutton : s.wokeByButton with
  | true =>
    unfold buttonCycle
    rw [hsensor, hwifi]
    rfl
  | false =>
    have htimer : s.wokeByTimer = true := by
      rw [hbutton] at hwoke
      exact hwoke
    rw [htimer]
    unfold timerCycle
    rw [hwifi]
    rfl

/-- A pass that does not upload uses up the time that is left. -/
theorem rank_passStep (hb : b < 4290000000) (hworks : io.Works b)
    (hcall : ¬(passStep cfg s io).2.isSome = true) :
    io.ticks + rank cfg b (passStep cfg s io).1 ≤ rank cfg b s := by
  cases hwoke : s.wokeByButton || s.wokeByTimer with
  | true => exact absurd (passStep_woke hworks.wifiOk hworks.sensorOk hwoke) hcall
  | false =>
    obtain ⟨hbutton, htimer⟩ := Bool.or_eq_false_iff.mp hwoke
    obtain ⟨hout, hsame⟩ := passStep_awake cfg io hbutton htimer
    have hread : SameTimers s (readSensors cfg (displayTimeout s)) :=
      sameTimers_displayTimeout.trans sameTimers_readSensors
    rw [hout, Option.not_isSome_iff_eq_none] at hcall
    obtain ⟨hleft, hroom⟩ := usesUp_stepState hb hworks.ticks_le hworks.wifiOk hcall
    rw [hread.untilUpload_eq] at hleft hroom
    have hbefore : rank cfg b s = untilUpload cfg b s := if_neg (by rw [hwoke]; decide)
    rw [hbefore]
    unfold rank
    split
    · exact hworks.ticks_le.trans hroom
    · rw [hsame.untilUpload_eq]
      exact hleft

/-- The time that is left is bounded by the timers that may have to run out. -/
theorem rank_le (cfg : TaskConfig) (b : Nat) (s : ClientTask) :
    rank cfg b s ≤ max (pdMsToTicks cfg.hz (syncIntervalMs s)).toNat
      (cfg.discoverTicks.toNat + cfg.retryTicks.toNat) + 3 * b := by
  unfold rank
  split
  · exact Nat.zero_le _
  · unfold untilUpload
    split
    · split
      · have h : pending b s.now s.stateEntered cfg.discoverTicks ≤ _ := pending_le
        omega
      · exact Nat.zero_le _
    · have h : pending b s.now s.lastUploadAttempt (pdMsToTicks cfg.hz (syncIntervalMs s)) ≤ _ :=
        pending_le
      omega
    · have h : pending b s.now s.lastDiscoveryAttempt cfg.retryTicks ≤ _ := pending_le
      omega

/-! ## Runs -/

/-- **Uploads come.** From any state, whatever led to it, let passes of at most `b` ticks follow
    in which WiFi and the sensors work, each far shorter than the tick count takes to wrap. Once
    they have taken the interval in force, or the time that a failed search and the next retry
    take, and three more passes, there was an upload. -/
theorem upload_within (cfg : TaskConfig) (b : Nat) (hb : b < 4290000000) (s : ClientTask)
    (ios : List LoopIo) (hworks : ∀ io ∈ ios, io.Works b)
    (hlong : max (pdMsToTicks cfg.hz (syncIntervalMs s)).toNat
      (cfg.discoverTicks.toNat + cfg.retryTicks.toNat) + 3 * b < (ios.map LoopIo.ticks).sum) :
    ∃ call ∈ outputs (passStep cfg) s ios, call.isSome = true := by
  have hstep : ∀ (s : ClientTask) (io : LoopIo), True → io.Works b →
      ¬(passStep cfg s io).2.isSome = true →
        True ∧ io.ticks + rank cfg b (passStep cfg s io).1 ≤ rank cfg b s :=
    fun _ _ _ hw hcall => ⟨trivial, rank_passStep hb hw hcall⟩
  exact exists_output_of_rank hstep trivial hworks ((rank_le cfg b s).trans_lt hlong)

/-- After a search that failed, passes of an hour each. -/
theorem upload_within_search :
    ∃ call ∈ outputs (passStep buildConfig) { clientTaskStart 0 with wifiInitialized := true }
        (List.replicate 5 { serverIp := false, buttonHeld := true, after := ticks 360000 }),
      call.isSome = true :=
  upload_within buildConfig 360000 (by decide) _ _ (by
    intro io hio
    obtain rfl := List.eq_of_mem_replicate hio
    exact ⟨rfl, rfl, by decide⟩) (by decide +kernel)

end IndoorLogger
