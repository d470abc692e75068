import Mathlib.Data.UInt
import Mathlib.Tactic.Ring
import IndoorLogger.Client.Cadence
import IndoorLogger.Client.SleepClock

/-
  How long the client sleeps at the end of a pass. Each test for a deadline has just set its timer
  again when the deadline had come, so that none is passed by the time the sleep is computed, and
  the sleep ends before the next one whichever of the ticks have wrapped (`never_oversleeps`).
-/

namespace IndoorLogger

open scoped UInt32.CommRing

/-! ## Up to the sleep -/

section

variable (cfg : TaskConfig) (io : LoopIo) (s : ClientTask)

/-- The display is turned off when its time is over. -/
def displayTimeout : ClientTask :=
  if s.displayActive && s.now ≥ s.displayOnUntil then { s with displayActive := false } else s

/-- The sensors are read when their interval is over. -/
def sensorsDue : Bool := s.now - s.lastSensorRead ≥ sensorTicks cfg

def readSensors : ClientTask :=
  if sensorsDue cfg s then { s with lastSensorRead := s.now } else s

/-- The task where `sleep_ticks` is computed. -/
def atSleep : ClientTask :=
  stepButton cfg io (stepState cfg io (readSensors cfg (displayTimeout s))).1

/-- A pass without a wake-up comes to the sleep. -/
theorem clientTask_atSleep (hb : s.wokeByButton = false) (ht : s.wokeByTimer = false) :
    (clientTask cfg io s).1 =
      let a := lightSleep cfg io (atSleep cfg io s)
      { a with
        real := a.real + io.before + io.after.real
        counted := a.counted + io.before + io.after.counted } := by
  have hwoke : (displayTimeout s).wokeByButton = false ∧
      (displayTimeout s).wokeByTimer = false := by
    unfold displayTimeout
    split <;> exact ⟨hb, ht⟩
  have hcycle : clientTask cfg io s =
      let r :=
        if (displayTimeout s).wokeByButton then buttonCycle cfg io (displayTimeout s)
        else if (displayTimeout s).wokeByTimer then timerCycle io (displayTimeout s)
        else stepLoop cfg io (displayTimeout s)
      ({ r.1 with
          real := r.1.real + io.before + io.after.real
          counted := r.1.counted + io.before + io.after.counted }, r.2) := rfl
  have hloop : stepLoop cfg io (displayTimeout s) =
      (lightSleep cfg io (atSleep cfg io s),
        (stepState cfg io (readSensors cfg (displayTimeout s))).2) := by
    unfold stepLoop atSleep readSensors sensorsDue
    simp only [decide_eq_true_eq]
  rw [hcycle, hwoke.1, hwoke.2, hloop]
  rfl

end

variable {cfg : TaskConfig} {io : LoopIo} {s s' : ClientTask}

/-! ## Deadlines -/

theorem ticksUntil_le (target now : UInt32) : ticksUntil target now ≤ target - now := by
  unfold ticksUntil
  split
  · exact UInt32.le_refl _
  · exact UInt32.zero_le

/-- The time to a deadline is what is left of the interval. -/
theorem remaining_eq (last interval now : UInt32) :
    last + interval - now = interval - (now - last) := by ring

/-- The timer set at `last` has not run out, and `ticks` do not go beyond it. -/
structure Within (now last interval ticks : UInt32) : Prop where
  pending : now - last ≤ interval
  ticks_le : ticks ≤ last + interval - now

/-- The ticks before a deadline are no more than its interval. -/
theorem Within.le_interval {now last interval ticks : UInt32} (h : Within now last interval ticks) :
    ticks ≤ interval := by
  refine UInt32.le_trans h.ticks_le ?_
  rw [remaining_eq]
  exact UInt32.sub_le h.pending

/-- A timer that was tested and set again when it had run out. -/
theorem pending_of_tested {now last interval : UInt32}
    (h : last = now ∨ ¬now - last ≥ interval) : now - last ≤ interval := by
  rcases h with rfl | hlt
  · rw [sub_self]
    exact UInt32.zero_le
  · exact UInt32.le_of_lt (UInt32.not_le.mp hlt)

/-! ## The parts of a pass -/

theorem pressed_congr (io : LoopIo) {s s' : ClientTask} (h : s'.prevButtonRaw = s.prevButtonRaw) :
    pressed io s' = pressed io s := by
  unfold pressed
  rw [h]

/-- What the switch over the state leaves alone. -/
structure KeepsScreen (s s' : ClientTask) : Prop where
  counted : s'.counted = s.counted
  lastSensorRead : s'.lastSensorRead = s.lastSensorRead
  displayActive : s'.displayActive = s.displayActive
  displayOnUntil : s'.displayOnUntil = s.displayOnUntil
  polls : s'.initialPollsRemaining = s.initialPollsRemaining
  prevButtonRaw : s'.prevButtonRaw = s.prevButtonRaw

theorem KeepsScreen.refl (s : ClientTask) : KeepsScreen s s := ⟨rfl, rfl, rfl, rfl, rfl, rfl⟩

theorem KeepsScreen.trans {s s' s'' : ClientTask} (h : KeepsScreen s s')
    (h' : KeepsScreen s' s'') : KeepsScreen s s'' where
  counted := h'.counted.trans h.counted
  lastSensorRead := h'.lastSensorRead.trans h.lastSensorRead
  displayActive := h'.displayActive.trans h.displayActive
  displayOnUntil := h'.displayOnUntil.trans h.displayOnUntil
  polls := h'.polls.trans h.polls
  prevButtonRaw := h'.prevButtonRaw.trans h.prevButtonRaw

theorem KeepsScreen.now (h : KeepsScreen s s') : s'.now = s.now := congrArg UInt32.ofNat h.counted

/-- The timers of the states: the one of the state the client is in was tested and set again. -/
structure Rearmed (cfg : TaskConfig) (s : ClientTask) : Prop where
  upload : s.state = .connected → s.lastUploadAttempt = s.now ∨ uploadDue cfg s = false
  discovery : s.state = .autonomous → s.lastDiscoveryAttempt = s.now ∨
    ¬s.now - s.lastDiscoveryAttempt ≥ pdMsToTicks cfg.hz cfg.retryIntervalMs

theorem uploadUnsynced_screen (io : LoopIo) (s : ClientTask) :
    KeepsScreen s (uploadUnsynced io s) ∧ (uploadUnsynced io s).state = s.state ∧
      (uploadUnsynced io s).lastUploadAttempt = s.lastUploadAttempt := by
  unfold uploadUnsynced
  split
  · split
    · exact ⟨⟨rfl, rfl, rfl, rfl, rfl, rfl⟩, rfl, rfl⟩
    · exact ⟨.refl s, rfl, rfl⟩
  · exact ⟨.refl s, rfl, rfl⟩

theorem enterConnected_screen (io : LoopIo) (s : ClientTask) :
    KeepsScreen s (enterConnected io s).1 ∧ Rearmed cfg (enterConnected io s).1 := by
  obtain ⟨hkeeps, hstate, hlast⟩ := uploadUnsynced_screen io { s with
    state := .connected
    stateEntered := s.now
    uploadFailures := 0
    lastUploadAttempt := s.now }
  have hset : KeepsScreen s { s with
    state := .connected
    stateEntered := s.now
    uploadFailures := 0
    lastUploadAttempt := s.now } := ⟨rfl, rfl, rfl, rfl, rfl, rfl⟩
  refine ⟨hset.trans hkeeps, fun _ => Or.inl ?_, fun ha => ?_⟩
  · exact hlast.trans (hset.trans hkeeps).now.symm
  · cases hstate.symm.trans ha

theorem endAttempt_screen (ok : Bool) (s : ClientTask) :
    KeepsScreen s (endAttempt ok s) ∧
      (s.state = .connected → Rearmed cfg (endAttempt ok s)) := by
  unfold endAttempt
  dsimp only
  split
  · refine ⟨⟨rfl, rfl, rfl, rfl, rfl, rfl⟩, fun hs => ⟨fun _ => Or.inl rfl, fun ha => ?_⟩⟩
    cases hs.symm.trans ha
  · split
    · exact ⟨⟨rfl, rfl, rfl, rfl, rfl, rfl⟩, fun _ => ⟨nofun, fun _ => Or.inl rfl⟩⟩
    · refine ⟨⟨rfl, rfl, rfl, rfl, rfl, rfl⟩, fun hs => ⟨fun _ => Or.inl rfl, fun ha => ?_⟩⟩
      cases hs.symm.trans ha

/-- The switch over the state leaves the timer of the state it ends in set again. -/
theorem stepState_screen (cfg : TaskConfig) (io : LoopIo) (s : ClientTask) :
    KeepsScreen s (stepState cfg io s).1 ∧ Rearmed cfg (stepState cfg io s).1 := by
  unfold stepState
  cases hs : s.state with
  | discovering =>
    dsimp only
    have hnone : ∀ s' : ClientTask, s'.state = .discovering → Rearmed cfg s' := fun s' h =>
      ⟨fun hc => absurd (h.symm.trans hc) ClientState.noConfusion,
        fun ha => absurd (h.symm.trans ha) ClientState.noConfusion⟩
    unfold stepDiscovering
    split
    · split
      · obtain ⟨hkeeps, hrearmed⟩ :=
          @enterConnected_screen cfg io { s with wifiInitialized := true }
        exact ⟨⟨hkeeps.1, hkeeps.2, hkeeps.3, hkeeps.4, hkeeps.5, hkeeps.6⟩, hrearmed⟩
      · exact ⟨⟨rfl, rfl, rfl, rfl, rfl, rfl⟩, hnone _ hs⟩
    · split
      · exact enterConnected_screen io s
      · split
        · exact ⟨⟨rfl, rfl, rfl, rfl, rfl, rfl⟩, nofun, fun _ => Or.inl rfl⟩
        · exact ⟨.refl s, hnone s hs⟩
  | connected =>
    dsimp only
    unfold stepConnected
    split
    · split
      · obtain ⟨hkeeps, hstate, -⟩ := uploadUnsynced_screen io s
        obtain ⟨hkeeps', hrearmed⟩ := @endAttempt_screen cfg io.uploadOk (uploadUnsynced io s)
        exact ⟨hkeeps.trans hkeeps', hrearmed (hstate.trans hs)⟩
      · obtain ⟨hkeeps, hrearmed⟩ := @endAttempt_screen cfg false s
        exact ⟨hkeeps, hrearmed hs⟩
    case isFalse hdue =>
      refine ⟨.refl s, fun _ => Or.inr (Bool.eq_false_of_not_eq_true hdue), fun ha => ?_⟩
      cases hs.symm.trans ha
  | autonomous =>
    dsimp only
    unfold stepAutonomous
    split
    · exact ⟨⟨rfl, rfl, rfl, rfl, rfl, rfl⟩, nofun, nofun⟩
    case isFalse hdue =>
      refine ⟨.refl s, fun hc => ?_, fun _ => Or.inr hdue⟩
      cases hs.symm.trans hc

/-- The button changes the display only. -/
theorem stepButton_keeps (cfg : TaskConfig) (io : LoopIo) (s : ClientTask) :
    ∃ active onUntil raw, stepButton cfg io s =
      { s with displayActive := active, displayOnUntil := onUntil, prevButtonRaw := raw } := by
  unfold stepButton
  dsimp only
  split
  · exact ⟨_, _, _, rfl⟩
  · exact ⟨_, _, _, rfl⟩

/-- What holds of the task where the sleep is computed. -/
structure BeforeSleep (cfg : TaskConfig) (s a : ClientTask) : Prop where
  counted : a.counted = s.counted
  polls : a.initialPollsRemaining = s.initialPollsRemaining
  sensors : a.lastSensorRead = a.now ∨ ¬a.now - a.lastSensorRead ≥ sensorTicks cfg
  rearmed : Rearmed cfg a

theorem beforeSleep_atSleep (cfg : TaskConfig) (io : LoopIo) (s : ClientTask) :
    BeforeSleep cfg s (atSleep cfg io s) := by
  have htimeout : (displayTimeout s).counted = s.counted ∧
      (displayTimeout s).initialPollsRemaining = s.initialPollsRemaining := by
    unfold displayTimeout
    split <;> exact ⟨rfl, rfl⟩
  obtain ⟨hcounted, hpolls⟩ := htimeout
  have hread : (readSensors cfg (displayTimeout s)).counted = s.counted ∧
      (readSensors cfg (displayTimeout s)).initialPollsRemaining = s.initialPollsRemaining ∧
      ((readSensors cfg (displayTimeout s)).lastSensorRead = s.now ∨
        ¬s.now - (readSensors cfg (displayTimeout s)).lastSensorRead ≥ sensorTicks cfg) := by
    have hnow : (displayTimeout s).now = s.now := congrArg UInt32.ofNat hcounted
    unfold readSensors sensorsDue
    split
    · exact ⟨hcounted, hpolls, Or.inl hnow⟩
    case isFalse hdue =>
      rw [decide_eq_true_eq, hnow] at hdue
      exact ⟨hcounted, hpolls, Or.inr hdue⟩
  obtain ⟨hcounted', hpolls', hsensors⟩ := hread
  obtain ⟨hkeeps, hrearmed⟩ := stepState_screen cfg io (readSensors cfg (displayTimeout s))
  obtain ⟨active, onUntil, raw, hbutton⟩ :=
    stepButton_keeps cfg io (stepState cfg io (readSensors cfg (displayTimeout s))).1
  have hnow : (stepState cfg io (readSensors cfg (displayTimeout s))).1.now = s.now :=
    congrArg UInt32.ofNat (hkeeps.counted.trans hcounted')
  unfold atSleep
  rw [hbutton]
  refine ⟨hkeeps.counted.trans hcounted', hkeeps.polls.trans hpolls', ?_, hrearmed.1, hrearmed.2⟩
  rw [← hkeeps.lastSensorRead, ← hnow] at hsensors
  exact hsensors

/-! ## The sleep -/

/-- What the sleep is the least of: the ticks to the next sensor read, to the next upload or the
    next discovery, and to the end of the display. -/
def waits (cfg : TaskConfig) (s : ClientTask) : List UInt32 :=
  [ticksUntil (s.lastSensorRead + sensorTicks cfg) s.now] ++
    (if s.state = .connected then
      [ticksUntil (s.lastUploadAttempt + pdMsToTicks cfg.hz (syncIntervalMs s)) s.now] else []) ++
    (if s.state = .autonomous then
      [ticksUntil (s.lastDiscoveryAttempt + pdMsToTicks cfg.hz cfg.retryIntervalMs) s.now]
    else []) ++
    (if s.displayActive then [s.displayOnUntil - s.now] else [])

/-- One of the waits, and no longer than any of them. -/
def Least (m : UInt32) (ns : List UInt32) : Prop := m ∈ ns ∧ ∀ n ∈ ns, m ≤ n

theorem least_singleton (m : UInt32) : Least m [m] := by
  refine ⟨List.mem_singleton_self m, fun n hn => ?_⟩
  rw [List.mem_singleton.mp hn]
  exact UInt32.le_refl m

theorem Least.min {m : UInt32} {ns : List UInt32} (h : Least m ns) (n : UInt32) :
    Least (min m n) (ns ++ [n]) := by
  obtain ⟨hmem, hle⟩ := h
  rw [UInt32.min_def]
  split
  case isTrue hmn =>
    refine ⟨List.mem_append_left _ hmem, fun k hk => ?_⟩
    rcases List.mem_append.mp hk with hk | hk
    · exact hle k hk
    · rw [List.mem_singleton.mp hk]
      exact hmn
  case isFalse hnm =>
    refine ⟨List.mem_append_right _ (List.mem_singleton_self n), fun k hk => ?_⟩
    rcases List.mem_append.mp hk with hk | hk
    · exact UInt32.le_trans (UInt32.le_of_lt (UInt32.not_le.mp hnm)) (hle k hk)
    · rw [List.mem_singleton.mp hk]
      exact UInt32.le_refl n

/-- A wait that counts under a condition only. -/
theorem Least.ite {m : UInt32} {ns : List UInt32} (h : Least m ns) (p : Prop) [Decidable p]
    (n : UInt32) : Least (if p then Min.min m n else m) (ns ++ if p then [n] else []) := by
  split
  · exact h.min n
  · rw [List.append_nil]
    exact h

/-- Without an override the sleep is the least of the waits. -/
theorem sleepTicks_least {s : ClientTask} (hpolls : s.initialPollsRemaining = 0)
    (hstate : s.state ≠ .discovering) : Least (sleepTicks cfg s) (waits cfg s) := by
  have hpos : ¬s.initialPollsRemaining > 0 := hpolls ▸ Nat.lt_irrefl 0
  unfold sleepTicks
  dsimp only
  rw [if_neg hpos, if_neg hstate]
  exact (((least_singleton _).ite _ _).ite _ _).ite _ _

/-- The sleep passes no deadline of a task whose timers were tested and set again. -/
theorem sleepTicks_within {a : ClientTask} (h : BeforeSleep cfg s a)
    (hpolls : a.initialPollsRemaining = 0) (hstate : a.state ≠ .discovering) :
    Within a.now a.lastSensorRead (sensorTicks cfg) (sleepTicks cfg a) ∧
      (a.state = .connected → Within a.now a.lastUploadAttempt
        (pdMsToTicks cfg.hz (syncIntervalMs a)) (sleepTicks cfg a)) ∧
      (a.state = .autonomous → Within a.now a.lastDiscoveryAttempt
        (pdMsToTicks cfg.hz cfg.retryIntervalMs) (sleepTicks cfg a)) := by
  obtain ⟨-, hle⟩ := @sleepTicks_least cfg a hpolls hstate
  have hwithin : ∀ last interval : UInt32, (last = a.now ∨ ¬a.now - last ≥ interval) →
      ticksUntil (last + interval) a.now ∈ waits cfg a →
      Within a.now last interval (sleepTicks cfg a) := fun last interval htested hmem =>
    ⟨pending_of_tested htested, UInt32.le_trans (hle _ hmem) (ticksUntil_le _ _)⟩
  refine ⟨hwithin _ _ h.sensors (by simp [waits]), fun hs => hwithin _ _ ?_ ?_,
    fun hs => hwithin _ _ (h.rearmed.discovery hs) ?_⟩
  · exact (h.rearmed.upload hs).imp_right of_decide_eq_false
  · simp [waits, hs]
  · simp [waits, hs]

/-- `sleep_us`. -/
def sleepMicros (sleepMs : UInt32) : UInt64 := sleepMs.toUInt64 * 1000

/-- The conversion of at most the sensor interval to milliseconds. -/
theorem toNat_plannedSleepMs {ticks : UInt32} (h : ticks ≤ sensorTicks cfg) :
    ticks.toNat * (1000 / cfg.hz.toNat) ≤ 300000 ∧
      (plannedSleepMs cfg.hz (.loop ticks)).toNat =
        max 1 (ticks.toNat * (1000 / cfg.hz.toNat)) := by
  have h1000 : (1000 : UInt32).toNat = 1000 := rfl
  have hinterval : (300000 : UInt32).toNat = 300000 := rfl
  have hle : ticks.toNat ≤ 300000 * cfg.hz.toNat / 1000 := by
    refine (UInt32.le_iff_toNat_le.mp h).trans ?_
    rw [sensorTicks, pdMsToTicks, UInt32.toNat_div, UInt32.toNat_mul, h1000, hinterval]
    exact Nat.div_le_div_right (Nat.mod_le _ _)
  have hms : ticks.toNat * (1000 / cfg.hz.toNat) ≤ 300000 := by
    calc ticks.toNat * (1000 / cfg.hz.toNat)
        ≤ 300000 * cfg.hz.toNat / 1000 * (1000 / cfg.hz.toNat) := Nat.mul_le_mul_right _ hle
      _ = 1000 / cfg.hz.toNat * (300000 * cfg.hz.toNat / 1000) := Nat.mul_comm _ _
      _ ≤ 1000 / cfg.hz.toNat * (300000 * cfg.hz.toNat) / 1000 :=
        Nat.mul_div_le_mul_div_assoc _ _ _
      _ = 300000 * (cfg.hz.toNat * (1000 / cfg.hz.toNat)) / 1000 := by
        rw [Nat.mul_left_comm, Nat.mul_comm (1000 / _)]
      _ ≤ 300000 * 1000 / 1000 :=
        Nat.div_le_div_right (Nat.mul_le_mul_left _ (Nat.mul_div_le 1000 _))
      _ = 300000 := by decide
  have hmul : (ticks * (1000 / cfg.hz)).toNat = ticks.toNat * (1000 / cfg.hz.toNat) := by
    rw [UInt32.toNat_mul, UInt32.toNat_div, h1000]
    exact Nat.mod_eq_of_lt (by omega)
  refine ⟨hms, ?_⟩
  unfold plannedSleepMs
  dsimp only
  split
  case isTrue h0 =>
    rw [h0] at hmul
    rw [← hmul]
    rfl
  case isFalse h0 =>
    have hpos : (ticks * (1000 / cfg.hz)).toNat ≠ 0 := fun hz => h0 (UInt32.toNat_inj.mp hz)
    rw [hmul] at hpos ⊢
    omega

/-- **No deadline is overslept.** In every pass that comes to the sleep without an override, and
    for all ticks, the sleep ends at the latest with the time left to the next sensor read, to the
    next upload and to the next discovery; it is no longer than the sensor interval, and its
    conversions do not overflow. -/
theorem never_oversleeps (cfg : TaskConfig) (io : LoopIo) (s : ClientTask)
    (hpolls : s.initialPollsRemaining = 0) (hstate : (atSleep cfg io s).state ≠ .discovering) :
    let a := atSleep cfg io s
    let ticks := sleepTicks cfg a
    let sleepMs := plannedSleepMs cfg.hz (.loop ticks)
    a.now = s.now ∧
      Within s.now a.lastSensorRead (sensorTicks cfg) ticks ∧
      (a.state = .connected → Within s.now a.lastUploadAttempt
        (pdMsToTicks cfg.hz (syncIntervalMs a)) ticks) ∧
      (a.state = .autonomous → Within s.now a.lastDiscoveryAttempt
        (pdMsToTicks cfg.hz cfg.retryIntervalMs) ticks) ∧
      ticks ≤ sensorTicks cfg ∧
      sleepMs.toNat = max 1 (ticks.toNat * (1000 / cfg.hz.toNat)) ∧
      (sleepMicros sleepMs).toNat = sleepMs.toNat * 1000 := by
  dsimp only
  have hbefore := beforeSleep_atSleep cfg io s
  have hnow : (atSleep cfg io s).now = s.now := congrArg UInt32.ofNat hbefore.counted
  obtain ⟨hsensors, hupload, hdiscovery⟩ :=
    sleepTicks_within hbefore (hbefore.polls.trans hpolls) hstate
  obtain ⟨hms, hplanned⟩ := toNat_plannedSleepMs hsensors.le_interval
  rw [← hnow]
  refine ⟨rfl, hsensors, hupload, hdiscovery, hsensors.le_interval, hplanned, ?_⟩
  have h1000 : (1000 : UInt64).toNat = 1000 := rfl
  rw [sleepMicros, UInt64.toNat_mul, UInt32.toNat_toUInt64, h1000]
  exact Nat.mod_eq_of_lt (by omega)

/-- A client in CONNECTED whose timers have wrapped. -/
theorem never_oversleeps_wrapped :
    let s : ClientTask := { clientTaskStart 4294967290 with
      state := .connected
      initialPollsRemaining := 0
      lastUploadAttempt := 4294967000 }
    let a := atSleep buildConfig { after := ticks 0 } s
    let ticks := sleepTicks buildConfig a
    let sleepMs := plannedSleepMs buildConfig.hz (.loop ticks)
    a.now = s.now ∧
      Within s.now a.lastSensorRead (sensorTicks buildConfig) ticks ∧
      (a.state = .connected → Within s.now a.lastUploadAttempt
        (pdMsToTicks buildConfig.hz (syncIntervalMs a)) ticks) ∧
      (a.state = .autonomous → Within s.now a.lastDiscoveryAttempt
        (pdMsToTicks buildConfig.hz buildConfig.retryIntervalMs) ticks) ∧
      ticks ≤ sensorTicks buildConfig ∧
      sleepMs.toNat = max 1 (ticks.toNat * (1000 / buildConfig.hz.toNat)) ∧
      (sleepMicros sleepMs).toNat = sleepMs.toNat * 1000 :=
  never_oversleeps buildConfig { after := ticks 0 } _ (by decide) (by decide +kernel)

end IndoorLogger
