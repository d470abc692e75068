import IndoorLogger.Client.SleepTicks

/-
  What the client decides in a pass, and the same pass with all ticks shifted. The tests that
  subtract first do not see the shift; the end of the display and the ticks until a deadline
  compare the ticks themselves, and see it in every pass where they decide anything
  (`shift_invariant_iff`).
-/

namespace IndoorLogger

open scoped UInt32.CommRing

/-! ## Decisions -/

/-- What a pass decides; no ticks for the sleep when it follows a wake-up. -/
structure Decisions where
  displayOff : Bool
  displayAdvance : Bool
  sensorsRead : Bool
  uploadAttempted : Bool
  discoveryAttempted : Bool
  sleepTicks : Option UInt32
  deriving DecidableEq

section

variable (cfg : TaskConfig) (io : LoopIo) (lastScreenSwitch : UInt32) (s : ClientTask)

/-- The display is switched off. -/
def displayOver : Bool := s.displayActive && s.now ≥ s.displayOnUntil

/-- `DISPLAY_SCREEN_INTERVAL_MS` is over, and the next screen is shown. -/
def screenOver : Bool :=
  s.displayActive && !displayOver s &&
    s.now - lastScreenSwitch ≥ pdMsToTicks cfg.hz 4000

/-- STATE_CONNECTED attempts an upload when it is due, and every call uploads. -/
def attemptsUpload : Bool :=
  (stepState cfg io s).2.isSome || (decide (s.state = .connected) && uploadDue cfg s)

/-- The retry interval of AUTONOMOUS is over. -/
def discoveryDue : Bool := s.now - s.lastDiscoveryAttempt ≥ pdMsToTicks cfg.hz cfg.retryIntervalMs

/-- The connection is started, or AUTONOMOUS goes back to it. -/
def attemptsDiscovery : Bool :=
  (decide (s.state = .discovering) && !s.wifiInitialized) ||
    (decide (s.state = .autonomous) && discoveryDue cfg s)

/-- The decisions of a pass. -/
def decisions : Decisions :=
  let off := displayOver s
  let advance := screenOver cfg lastScreenSwitch s
  if s.wokeByButton then ⟨off, advance, true, io.sensorOk, false, none⟩
  else if s.wokeByTimer then ⟨off, advance, true, true, false, none⟩
  else
    ⟨off, advance, sensorsDue cfg s, attemptsUpload cfg io s, attemptsDiscovery cfg s,
      some (sleepTicks cfg (atSleep cfg io s))⟩

end

/-- All ticks are shifted. -/
def ClientTask.shift (c : UInt32) (s : ClientTask) : ClientTask :=
  { s with
    counted := s.counted + c.toNat
    lastSensorRead := s.lastSensorRead + c
    lastUploadAttempt := s.lastUploadAttempt + c
    lastDiscoveryAttempt := s.lastDiscoveryAttempt + c
    stateEntered := s.stateEntered + c
    displayOnUntil := s.displayOnUntil + c }

/-- The shift changes no decision. -/
def ShiftInvariant (cfg : TaskConfig) (io : LoopIo) (lastScreenSwitch : UInt32)
    (s : ClientTask) : Prop :=
  ∀ c, decisions cfg io (lastScreenSwitch + c) (s.shift c) = decisions cfg io lastScreenSwitch s

/-! ## The shift in the parts of a pass -/

variable {cfg : TaskConfig} {io : LoopIo} {s : ClientTask} {c : UInt32}

@[simp] theorem now_shift (c : UInt32) (s : ClientTask) : (s.shift c).now = s.now + c := by
  unfold ClientTask.now ClientTask.shift
  rw [UInt32.ofNat_add, UInt32.ofNat_toNat]

/-- A difference of ticks does not see the shift. -/
theorem elapsed_shift (now last c : UInt32) : now + c - (last + c) = now - last :=
  add_sub_add_right_eq_sub now last c

@[simp] theorem uploadDue_shift (c : UInt32) (s : ClientTask) :
    uploadDue cfg (s.shift c) = uploadDue cfg s := by
  unfold uploadDue
  rw [now_shift, ← elapsed_shift s.now s.lastUploadAttempt c]
  rfl

@[simp] theorem uploadUnsynced_shift (io : LoopIo) (c : UInt32) (s : ClientTask) :
    uploadUnsynced io (s.shift c) = (uploadUnsynced io s).shift c := by
  unfold uploadUnsynced
  split
  · split <;> rfl
  · rfl

/-- Time stamps of a pass are shifted with it. -/
theorem enterConnected_shift (io : LoopIo) (c : UInt32) (s : ClientTask) :
    enterConnected io (s.shift c) =
      ((enterConnected io s).1.shift c, (enterConnected io s).2) := by
  unfold enterConnected
  rw [now_shift, ← uploadUnsynced_shift]
  rfl

theorem endAttempt_shift (ok : Bool) (c : UInt32) (s : ClientTask) :
    endAttempt ok (s.shift c) = (endAttempt ok s).shift c := by
  unfold endAttempt
  rw [now_shift]
  cases ok with
  | true => rfl
  | false =>
    dsimp only
    rw [if_neg Bool.false_ne_true, if_neg Bool.false_ne_true, apply_ite (ClientTask.shift c)]
    refine if_congr Iff.rfl ?_ rfl
    unfold ClientTask.shift ClientTask.now
    dsimp only
    rw [UInt32.ofNat_add, UInt32.ofNat_toNat]

/-- The switch over the state does not see the shift. -/
theorem stepState_shift (cfg : TaskConfig) (io : LoopIo) (c : UInt32) (s : ClientTask) :
    stepState cfg io (s.shift c) = ((stepState cfg io s).1.shift c, (stepState cfg io s).2) := by
  have hstate : (s.shift c).state = s.state := rfl
  unfold stepState
  rw [hstate]
  cases s.state with
  | discovering =>
    have hinit : (s.shift c).wifiInitialized = s.wifiInitialized := rfl
    have hentered : (s.shift c).now - (s.shift c).stateEntered = s.now - s.stateEntered := by
      rw [now_shift]
      exact elapsed_shift s.now s.stateEntered c
    dsimp only
    unfold stepDiscovering
    rw [hinit, hentered, enterConnected_shift]
    split
    · dsimp only
      split
      · exact enterConnected_shift io c { s with wifiInitialized := true }
      · rfl
    · split
      · rfl
      · split
        · rw [now_shift]
          rfl
        · rfl
  | connected =>
    dsimp only
    unfold stepConnected
    rw [uploadDue_shift, uploadUnsynced_shift, endAttempt_shift, endAttempt_shift]
    split
    · split <;> rfl
    · rfl
  | autonomous =>
    have hlast : (s.shift c).now - (s.shift c).lastDiscoveryAttempt =
        s.now - s.lastDiscoveryAttempt := by
      rw [now_shift]
      exact elapsed_shift s.now s.lastDiscoveryAttempt c
    dsimp only
    unfold stepAutonomous
    rw [hlast]
    split
    · rw [now_shift]
      rfl
    · rfl

@[simp] theorem sensorsDue_shift (c : UInt32) (s : ClientTask) :
    sensorsDue cfg (s.shift c) = sensorsDue cfg s := by
  unfold sensorsDue
  rw [now_shift, ← elapsed_shift s.now s.lastSensorRead c]
  rfl

theorem readSensors_shift (cfg : TaskConfig) (c : UInt32) (s : ClientTask) :
    readSensors cfg (s.shift c) = (readSensors cfg s).shift c := by
  unfold readSensors
  rw [sensorsDue_shift, now_shift]
  split <;> rfl

theorem stepButton_shift (cfg : TaskConfig) (io : LoopIo) (c : UInt32) (s : ClientTask) :
    stepButton cfg io (s.shift c) = (stepButton cfg io s).shift c := by
  have hpressed : pressed io (s.shift c) = pressed io s := pressed_congr io rfl
  have hactive : (s.shift c).displayActive = s.displayActive := rfl
  unfold stepButton
  rw [hpressed]
  dsimp only
  rw [hactive]
  split
  · have huntil : (s.shift c).now + displayTicks cfg io = s.now + displayTicks cfg io + c := by
      rw [now_shift]
      ring
    exact congrArg (fun onUntil => ({ s.shift c with
      prevButtonRaw := io.buttonRaw
      displayActive := true
      displayOnUntil := onUntil } : ClientTask)) huntil
  · rfl

/-- The display does not see the shift when it is off, or its end is now. -/
theorem displayOver_shift (h : s.displayActive = true → s.displayOnUntil = s.now) (c : UInt32) :
    displayOver (s.shift c) = displayOver s ∧ displayOver s = s.displayActive := by
  have hactive : (s.shift c).displayActive = s.displayActive := rfl
  unfold displayOver
  rw [hactive, now_shift]
  cases hd : s.displayActive with
  | false => exact ⟨rfl, rfl⟩
  | true =>
    have huntil : (s.shift c).displayOnUntil = s.now + c := congrArg (· + c) (h hd)
    rw [huntil, h hd]
    have hle : ∀ n : UInt32, decide (n ≥ n) = true := fun n => decide_eq_true (UInt32.le_refl n)
    rw [hle, hle]
    exact ⟨rfl, rfl⟩

/-- What the pass makes of the task up to the sleep is shifted with it. -/
theorem atSleep_shift (h : s.displayActive = true → s.displayOnUntil = s.now) (cfg : TaskConfig)
    (io : LoopIo) (c : UInt32) : atSleep cfg io (s.shift c) = (atSleep cfg io s).shift c := by
  have htimeout : displayTimeout (s.shift c) = (displayTimeout s).shift c := by
    have hover : ∀ s : ClientTask, displayTimeout s =
        if displayOver s then { s with displayActive := false } else s := fun s => rfl
    rw [hover, hover, (displayOver_shift h c).1]
    split <;> rfl
  unfold atSleep
  rw [htimeout, readSensors_shift, stepState_shift, stepButton_shift]

/-! ## The waits -/

/-- The time that is left to each deadline, and of the display. -/
def remainings (cfg : TaskConfig) (s : ClientTask) : List UInt32 :=
  [s.lastSensorRead + sensorTicks cfg - s.now] ++
    (if s.state = .connected then
      [s.lastUploadAttempt + pdMsToTicks cfg.hz (syncIntervalMs s) - s.now] else []) ++
    (if s.state = .autonomous then
      [s.lastDiscoveryAttempt + pdMsToTicks cfg.hz cfg.retryIntervalMs - s.now] else []) ++
    (if s.displayActive then [s.displayOnUntil - s.now] else [])

/-- `ticksUntil` compares the ticks: at zero it is the time that is left, and nothing at the
    last tick. -/
theorem ticksUntil_zero (target : UInt32) : ticksUntil target 0 = target := by
  unfold ticksUntil
  split
  · exact sub_zero target
  case isFalse h => exact (UInt32.le_zero_iff.mp (UInt32.not_lt.mp h)).symm

theorem ticksUntil_last (target : UInt32) : ticksUntil target 4294967295 = 0 := by
  unfold ticksUntil
  have hle : target ≤ 4294967295 := by
    rw [UInt32.le_iff_toNat_le]
    exact Nat.le_of_lt_succ target.toNat_lt
  exact if_neg (UInt32.not_lt.mpr hle)

/-- Shifted to the tick zero, the waits are what is left. -/
theorem waits_shift_zero (cfg : TaskConfig) (s : ClientTask) :
    waits cfg (s.shift (-s.now)) = remainings cfg s := by
  have hnow : (s.shift (-s.now)).now = 0 := by rw [now_shift, add_neg_cancel]
  have hwait : ∀ last interval : UInt32,
      ticksUntil (last + -s.now + interval) 0 = last + interval - s.now := by
    intro last interval
    rw [ticksUntil_zero]
    ring
  have hsensors : ticksUntil ((s.shift (-s.now)).lastSensorRead + sensorTicks cfg) 0 =
      s.lastSensorRead + sensorTicks cfg - s.now := hwait _ _
  have hupload : ticksUntil ((s.shift (-s.now)).lastUploadAttempt +
      pdMsToTicks cfg.hz (syncIntervalMs (s.shift (-s.now)))) 0 =
      s.lastUploadAttempt + pdMsToTicks cfg.hz (syncIntervalMs s) - s.now := hwait _ _
  have hdiscovery : ticksUntil ((s.shift (-s.now)).lastDiscoveryAttempt +
      pdMsToTicks cfg.hz cfg.retryIntervalMs) 0 =
      s.lastDiscoveryAttempt + pdMsToTicks cfg.hz cfg.retryIntervalMs - s.now := hwait _ _
  have hdisplay : (s.shift (-s.now)).displayOnUntil - 0 = s.displayOnUntil - s.now := by
    rw [sub_zero]
    exact (sub_eq_add_neg _ _).symm
  unfold waits remainings
  rw [hnow, hsensors, hupload, hdiscovery, hdisplay]
  rfl

/-- Shifted to the last tick, no deadline seems to be left. -/
theorem zero_mem_waits_shift_last (cfg : TaskConfig) (s : ClientTask) :
    0 ∈ waits cfg (s.shift (4294967295 - s.now)) := by
  have hnow : (s.shift (4294967295 - s.now)).now = 4294967295 := by
    rw [now_shift, add_sub_cancel]
  unfold waits
  rw [hnow, ticksUntil_last]
  exact List.mem_append_left _ (List.mem_append_left _ (List.mem_append_left _
    (List.mem_singleton_self 0)))

/-- No wait is longer than what is left. -/
theorem exists_wait_le {n : UInt32} (h : n ∈ remainings cfg s) (c : UInt32) :
    ∃ m ∈ waits cfg (s.shift c), m ≤ n := by
  have hwait : ∀ last interval : UInt32,
      ticksUntil (last + c + interval) (s.shift c).now ≤ last + interval - s.now := by
    intro last interval
    refine UInt32.le_trans (ticksUntil_le _ _) ?_
    have hsame : last + c + interval - (s.now + c) = last + interval - s.now := by ring
    rw [now_shift, hsame]
    exact UInt32.le_refl _
  simp only [remainings, List.mem_append, List.mem_singleton, List.mem_ite_nil_right] at h
  rcases h with ((rfl | ⟨hs, rfl⟩) | ⟨hs, rfl⟩) | ⟨hs, rfl⟩
  · exact ⟨ticksUntil ((s.shift c).lastSensorRead + sensorTicks cfg) (s.shift c).now,
      by simp [waits], hwait s.lastSensorRead _⟩
  · have hs' : (s.shift c).state = .connected := hs
    exact ⟨ticksUntil ((s.shift c).lastUploadAttempt +
        pdMsToTicks cfg.hz (syncIntervalMs (s.shift c))) (s.shift c).now,
      by simp [waits, hs'], hwait s.lastUploadAttempt _⟩
  · have hs' : (s.shift c).state = .autonomous := hs
    exact ⟨ticksUntil ((s.shift c).lastDiscoveryAttempt +
        pdMsToTicks cfg.hz cfg.retryIntervalMs) (s.shift c).now,
      by simp [waits, hs'], hwait s.lastDiscoveryAttempt _⟩
  · have hs' : (s.shift c).displayActive = true := hs
    refine ⟨(s.shift c).displayOnUntil - (s.shift c).now, by simp [waits, hs'], ?_⟩
    rw [now_shift, ← elapsed_shift s.displayOnUntil s.now c]
    exact UInt32.le_refl _

/-- Without an override the sleep does not see the shift exactly when there is no time left. -/
theorem sleepTicks_shift_iff (hpolls : s.initialPollsRemaining = 0)
    (hstate : s.state ≠ .discovering) :
    (∀ c, sleepTicks cfg (s.shift c) = sleepTicks cfg s) ↔ 0 ∈ remainings cfg s := by
  have hleast : ∀ c, Least (sleepTicks cfg (s.shift c)) (waits cfg (s.shift c)) := fun c =>
    sleepTicks_least hpolls hstate
  constructor
  · intro hsame
    have hzero : sleepTicks cfg s = 0 := by
      rw [← hsame (4294967295 - s.now)]
      exact UInt32.le_zero_iff.mp ((hleast _).2 0 (zero_mem_waits_shift_last cfg s))
    rw [← waits_shift_zero, ← hzero, ← hsame (-s.now)]
    exact (hleast _).1
  · intro hzero c
    have hnone : ∀ c, sleepTicks cfg (s.shift c) = 0 := by
      intro c
      obtain ⟨m, hm, hle⟩ := exists_wait_le hzero c
      exact UInt32.le_zero_iff.mp (UInt32.le_trans ((hleast c).2 m hm) hle)
    have hshift : s.shift 0 = s := by
      unfold ClientTask.shift
      simp
    rw [hnone c, ← hnone 0, hshift]

/-! ## Where a pass ends -/

section

variable (cfg : TaskConfig) (io : LoopIo) (s : ClientTask)

/-- The switch over the state ends in DISCOVERING: nothing is found and the time is not over, or
    AUTONOMOUS goes back to it. -/
def EndsDiscovering : Prop :=
  (s.state = .discovering ∧
      if s.wifiInitialized then
        io.serverIp = false ∧ ¬s.now - s.stateEntered ≥ pdMsToTicks cfg.hz cfg.discoverTimeoutMs
      else io.wifiOk = false) ∨
    (s.state = .autonomous ∧ discoveryDue cfg s = true)

/-- It ends in CONNECTED: the server is found, or no third attempt in a row fails. -/
def EndsConnected : Prop :=
  (s.state = .discovering ∧ if s.wifiInitialized then io.serverIp = true else io.wifiOk = true) ∨
    (s.state = .connected ∧
      ¬(uploadDue cfg s = true ∧ ¬(io.wifiOk = true ∧ io.uploadOk = true) ∧ s.uploadFailures ≥ 2))

/-- An upload may bring a new interval. -/
def answered : ClientTask :=
  if s.state = .discovering ∨ (uploadDue cfg s = true ∧ io.wifiOk = true) then uploadUnsynced io s
  else s

/-- An interval that is waited for is no tick long. -/
def NoWait : Prop :=
  sensorTicks cfg = 0 ∨
    (EndsConnected cfg io s ∧ pdMsToTicks cfg.hz (syncIntervalMs (answered cfg io s)) = 0) ∨
    (¬EndsDiscovering cfg io s ∧ ¬EndsConnected cfg io s ∧
      pdMsToTicks cfg.hz cfg.retryIntervalMs = 0) ∨
    (pressed io s = true ∧ displayTicks cfg io = 0)

/-- The ticks are not compared themselves, or it makes no difference: a display that is on ends
    now, and the pass follows a wake-up, is one of the first, ends in DISCOVERING, or has an
    interval of no ticks. -/
def TicksUnseen : Prop :=
  (s.displayActive = true → s.displayOnUntil = s.now) ∧
    (s.wokeByButton = true ∨ s.wokeByTimer = true ∨ s.initialPollsRemaining > 0 ∨
      EndsDiscovering cfg io s ∨ NoWait cfg io s)

end

theorem stepDiscovering_ends (hs : s.state = .discovering) :
    ((stepDiscovering cfg io s).1.state = .discovering ↔ EndsDiscovering cfg io s) ∧
      ((stepDiscovering cfg io s).1.state = .connected ↔ EndsConnected cfg io s) ∧
      ((stepDiscovering cfg io s).1.state = .connected →
        (stepDiscovering cfg io s).1.syncInterval = (answered cfg io s).syncInterval) := by
  have henter : ∀ s' : ClientTask, s'.syncInterval = s.syncInterval →
      (enterConnected io s').1.state = .connected ∧
        (enterConnected io s').1.syncInterval = (answered cfg io s).syncInterval := by
    intro s' h
    unfold enterConnected answered
    rw [if_pos (Or.inl hs)]
    unfold uploadUnsynced
    dsimp only
    split
    · split
      · exact ⟨rfl, rfl⟩
      · exact ⟨rfl, h⟩
    · exact ⟨rfl, h⟩
  unfold stepDiscovering EndsDiscovering EndsConnected
  rw [hs]
  cases hinit : s.wifiInitialized with
  | false =>
    cases hwifi : io.wifiOk with
    | false => simp
    | true =>
      obtain ⟨hconnected, hsync⟩ := henter { s with wifiInitialized := true } rfl
      rw [hs] at hconnected hsync
      simp [hconnected, hsync]
  | true =>
    cases hip : io.serverIp with
    | true =>
      obtain ⟨hconnected, hsync⟩ := henter s rfl
      simp [hconnected, hsync]
    | false =>
      by_cases ht : s.now - s.stateEntered ≥ pdMsToTicks cfg.hz cfg.discoverTimeoutMs
      · simp [ht]
      · simp [ht, hs]

theorem stepConnected_ends (hs : s.state = .connected) :
    ((stepConnected cfg io s).1.state = .discovering ↔ EndsDiscovering cfg io s) ∧
      ((stepConnected cfg io s).1.state = .connected ↔ EndsConnected cfg io s) ∧
      ((stepConnected cfg io s).1.state = .connected →
        (stepConnected cfg io s).1.syncInterval = (answered cfg io s).syncInterval) := by
  have hend : ∀ (ok : Bool) (s' : ClientTask), s'.state = .connected →
      s'.uploadFailures = s.uploadFailures →
      (endAttempt ok s').state ≠ .discovering ∧
        ((endAttempt ok s').state = .connected ↔ ¬(ok = false ∧ s.uploadFailures ≥ 2)) ∧
        (endAttempt ok s').syncInterval = s'.syncInterval := by
    intro ok s' hs' hf
    unfold endAttempt
    cases ok with
    | true => simp [hs']
    | false =>
      by_cases h3 : s.uploadFailures + 1 ≥ 3
      · simp [hf, h3]
        omega
      · simp [hf, h3, hs']
        omega
  unfold stepConnected EndsDiscovering EndsConnected answered
  rw [hs]
  cases hdue : uploadDue cfg s with
  | false => simp [hs]
  | true =>
    cases hwifi : io.wifiOk with
    | false =>
      obtain ⟨hno, hconnected, hsync⟩ := hend false s hs rfl
      simp [hno, hconnected, hsync]
    | true =>
      obtain ⟨hkeeps, hstate, -⟩ := uploadUnsynced_screen io s
      have hfailures : (uploadUnsynced io s).uploadFailures = s.uploadFailures := by
        unfold uploadUnsynced
        split
        · split <;> rfl
        · rfl
      obtain ⟨hno, hconnected, hsync⟩ :=
        hend io.uploadOk (uploadUnsynced io s) (hstate.trans hs) hfailures
      simp [hno, hconnected, hsync]

/-- Where the switch over the state ends, and the interval that is in force then. -/
theorem stepState_ends (cfg : TaskConfig) (io : LoopIo) (s : ClientTask) :
    ((stepState cfg io s).1.state = .discovering ↔ EndsDiscovering cfg io s) ∧
      ((stepState cfg io s).1.state = .connected ↔ EndsConnected cfg io s) ∧
      ((stepState cfg io s).1.state = .connected →
        (stepState cfg io s).1.syncInterval = (answered cfg io s).syncInterval) := by
  unfold stepState
  cases hs : s.state with
  | discovering => exact stepDiscovering_ends hs
  | connected => exact stepConnected_ends hs
  | autonomous =>
    dsimp only
    unfold stepAutonomous EndsDiscovering EndsConnected discoveryDue
    rw [hs]
    by_cases hdue : s.now - s.lastDiscoveryAttempt ≥ pdMsToTicks cfg.hz cfg.retryIntervalMs
    · simp [hdue]
    · simp [hdue, hs]

/-! ## The sleep of a pass -/

/-- The task where the sleep is computed, in terms of the pass. -/
structure SleepAfter (cfg : TaskConfig) (io : LoopIo) (s a : ClientTask) : Prop where
  discovering : a.state = .discovering ↔ EndsDiscovering cfg io s
  connected : a.state = .connected ↔ EndsConnected cfg io s
  interval : a.state = .connected → syncIntervalMs a = syncIntervalMs (answered cfg io s)
  active : a.displayActive = pressed io s
  onUntil : a.displayActive = true → a.displayOnUntil = a.now + displayTicks cfg io

theorem sleepAfter_atSleep (h : s.displayActive = true → s.displayOnUntil = s.now)
    (cfg : TaskConfig) (io : LoopIo) : SleepAfter cfg io s (atSleep cfg io s) := by
  have hread : ∃ last, readSensors cfg (displayTimeout s) =
      { s with displayActive := false, lastSensorRead := last } := by
    have hover : displayTimeout s = { s with displayActive := false } := by
      have hd := (displayOver_shift h 0).2
      unfold displayOver at hd
      unfold displayTimeout
      rw [hd]
      obtain ⟨_, _, _, _, _, _, _, _, active, _⟩ := s
      cases active <;> rfl
    rw [hover]
    unfold readSensors
    split
    · exact ⟨_, rfl⟩
    · exact ⟨_, rfl⟩
  obtain ⟨last, hread⟩ := hread
  obtain ⟨hdiscovering, hconnected, hinterval⟩ :=
    stepState_ends cfg io { s with displayActive := false, lastSensorRead := last }
  obtain ⟨hkeeps, -⟩ :=
    stepState_screen cfg io { s with displayActive := false, lastSensorRead := last }
  have hanswer : (answered cfg io
      { s with displayActive := false, lastSensorRead := last }).syncInterval =
        (answered cfg io s).syncInterval := by
    have hdue : uploadDue cfg { s with displayActive := false, lastSensorRead := last } =
      uploadDue cfg s := rfl
    unfold answered uploadUnsynced
    rw [hdue]
    dsimp only
    split
    · split
      · split <;> rfl
      · rfl
    · rfl
  unfold atSleep
  rw [hread]
  generalize (stepState cfg io { s with displayActive := false, lastSensorRead := last }).1 = s'
    at hdiscovering hconnected hinterval hkeeps
  have hoff : s'.displayActive = false := hkeeps.displayActive
  have hraw : s'.prevButtonRaw = s.prevButtonRaw := hkeeps.prevButtonRaw
  have hms : s'.state = .connected → syncIntervalMs s' = syncIntervalMs (answered cfg io s) :=
    fun hs => by
      unfold syncIntervalMs
      rw [hinterval hs, hanswer]
  unfold stepButton
  dsimp only
  rw [hoff, Bool.not_false, Bool.and_true, pressed_congr io hraw]
  split
  case isTrue hon => exact ⟨hdiscovering, hconnected, hms, hon.symm, fun _ => rfl⟩
  case isFalse hon =>
    have hno := Bool.eq_false_of_not_eq_true hon
    exact ⟨hdiscovering, hconnected, hms, hno.symm, fun hc => absurd hc Bool.false_ne_true⟩

/-- What is left of a timer that was tested and set again. -/
theorem remaining_zero_iff {now last interval : UInt32}
    (h : last = now ∨ ¬now - last ≥ interval) : last + interval - now = 0 ↔ interval = 0 := by
  rcases h with rfl | hlt
  · rw [add_sub_cancel_left]
  · rw [remaining_eq, sub_eq_zero]
    refine iff_of_false (fun he => hlt (he ▸ UInt32.le_refl _)) fun h0 => hlt ?_
    rw [h0]
    exact UInt32.zero_le

/-- No time is left exactly when an interval is no tick long. -/
theorem zero_mem_remainings_iff {a : ClientTask} (hb : BeforeSleep cfg s a)
    (ha : SleepAfter cfg io s a) : 0 ∈ remainings cfg a ↔ NoWait cfg io s := by
  have hdisplay : a.displayActive = true ∧ 0 = a.displayOnUntil - a.now ↔
      pressed io s = true ∧ displayTicks cfg io = 0 := by
    rw [← ha.active]
    refine and_congr_right fun hon => ?_
    rw [ha.onUntil hon, add_sub_cancel_left, eq_comm]
  have hauto : a.state = .autonomous ↔ ¬EndsDiscovering cfg io s ∧ ¬EndsConnected cfg io s := by
    rw [← ha.discovering, ← ha.connected]
    cases a.state <;> simp
  simp only [remainings, List.mem_append, List.mem_singleton, List.mem_ite_nil_right, hdisplay]
  unfold NoWait
  rw [or_assoc, or_assoc, eq_comm, remaining_zero_iff hb.sensors]
  refine or_congr_right (or_congr ?_ (or_congr_left ?_))
  · rw [← ha.connected]
    refine and_congr_right fun hs => ?_
    rw [← ha.interval hs, eq_comm]
    exact remaining_zero_iff ((hb.rearmed.upload hs).imp_right of_decide_eq_false)
  · rw [← and_assoc, ← hauto]
    refine and_congr_right fun hs => ?_
    rw [eq_comm]
    exact remaining_zero_iff (hb.rearmed.discovery hs)

/-- An override does not look at the ticks. -/
theorem sleepTicks_override (h : s.initialPollsRemaining > 0 ∨ s.state = .discovering)
    (c : UInt32) : sleepTicks cfg (s.shift c) = sleepTicks cfg s := by
  have hpolls : (s.shift c).initialPollsRemaining = s.initialPollsRemaining := rfl
  have hstate : (s.shift c).state = s.state := rfl
  unfold sleepTicks
  dsimp only
  rw [hpolls, hstate]
  rcases h with h | h
  · rw [if_pos h, if_pos h]
  · rw [if_pos h, if_pos h]

/-- With a display that does not see the shift, the sleep does not see it when it is overridden
    or there is no wait. -/
theorem sleep_shift_iff (h : s.displayActive = true → s.displayOnUntil = s.now) :
    (∀ c, sleepTicks cfg (atSleep cfg io (s.shift c)) = sleepTicks cfg (atSleep cfg io s)) ↔
      s.initialPollsRemaining > 0 ∨ EndsDiscovering cfg io s ∨ NoWait cfg io s := by
  have hb := beforeSleep_atSleep cfg io s
  have ha := sleepAfter_atSleep h cfg io
  simp only [atSleep_shift h]
  rw [← ha.discovering, ← zero_mem_remainings_iff hb ha, ← hb.polls]
  by_cases hpolls : (atSleep cfg io s).initialPollsRemaining > 0
  · exact iff_of_true (sleepTicks_override (Or.inl hpolls)) (Or.inl hpolls)
  · by_cases hs : (atSleep cfg io s).state = .discovering
    · exact iff_of_true (sleepTicks_override (Or.inr hs)) (Or.inr (Or.inl hs))
    · rw [or_iff_right hpolls, or_iff_right hs]
      exact sleepTicks_shift_iff (Nat.eq_zero_of_not_pos hpolls) hs

/-- A display that is on sees the shift unless it ends now. -/
theorem display_unseen (h : ∀ c, displayOver (s.shift c) = displayOver s) :
    s.displayActive = true → s.displayOnUntil = s.now := by
  intro hon
  have hover : ∀ c, displayOver (s.shift c) = decide (s.now + c ≥ s.displayOnUntil + c) := by
    intro c
    unfold displayOver
    rw [now_shift]
    exact (congrArg (· && _) hon).trans (Bool.true_and _)
  have hlast : displayOver (s.shift (4294967295 - s.now)) = true := by
    rw [hover, add_sub_cancel]
    refine decide_eq_true (UInt32.le_iff_toNat_le.mpr ?_)
    exact Nat.le_of_lt_succ (UInt32.toNat_lt _)
  have hzero := (h (-s.now)).trans ((h (4294967295 - s.now)).symm.trans hlast)
  rw [hover, add_neg_cancel, decide_eq_true_eq] at hzero
  exact sub_eq_zero.mp ((sub_eq_add_neg _ _).trans (UInt32.le_zero_iff.mp hzero))

theorem screenOver_false (h : s.displayActive = true → s.displayOnUntil = s.now)
    (lastScreenSwitch : UInt32) : screenOver cfg lastScreenSwitch s = false := by
  unfold screenOver
  rw [(displayOver_shift h 0).2, Bool.and_not_self, Bool.false_and]

/-- **Shifted ticks.** The decisions of a pass are the same for all shifts of the ticks exactly
    when the ticks are not seen: the display is off or ends now, and the sleep does not depend on
    a deadline. -/
theorem shift_invariant_iff (cfg : TaskConfig) (io : LoopIo) (lastScreenSwitch : UInt32)
    (s : ClientTask) :
    ShiftInvariant cfg io lastScreenSwitch s ↔ TicksUnseen cfg io s := by
  constructor
  · intro hinv
    have hoff : ∀ l s, (decisions cfg io l s).displayOff = displayOver s := by
      intro l s
      unfold decisions
      dsimp only
      split
      · rfl
      · split <;> rfl
    have hdisplay := display_unseen fun c => by
      rw [← hoff (lastScreenSwitch + c), hinv c, hoff]
    refine ⟨hdisplay, ?_⟩
    by_cases hb : s.wokeByButton = true
    · exact Or.inl hb
    · by_cases ht : s.wokeByTimer = true
      · exact Or.inr (Or.inl ht)
      · refine Or.inr (Or.inr ((sleep_shift_iff hdisplay).mp fun c => ?_))
        have hloop : ∀ l s, ¬s.wokeByButton = true → ¬s.wokeByTimer = true →
            (decisions cfg io l s).sleepTicks = some (sleepTicks cfg (atSleep cfg io s)) := by
          intro l s hb ht
          unfold decisions
          dsimp only
          rw [if_neg hb, if_neg ht]
        have hsame := congrArg Decisions.sleepTicks (hinv c)
        rw [hloop _ (s.shift c) hb ht, hloop _ s hb ht] at hsame
        exact Option.some.inj hsame
  · intro hunseen c
    obtain ⟨hdisplay, hsleep⟩ := hunseen
    have hdisplay' : (s.shift c).displayActive = true →
        (s.shift c).displayOnUntil = (s.shift c).now := by
      intro hon
      rw [now_shift, ← hdisplay hon]
      rfl
    have hbutton : (s.shift c).wokeByButton = s.wokeByButton := rfl
    have htimer : (s.shift c).wokeByTimer = s.wokeByTimer := rfl
    unfold decisions
    rw [(displayOver_shift hdisplay c).1, screenOver_false hdisplay, screenOver_false hdisplay',
      hbutton, htimer]
    dsimp only
    split
    · rfl
    case isFalse hb =>
      split
      · rfl
      case isFalse ht =>
        have hticks := (sleep_shift_iff hdisplay).mpr ((hsleep.resolve_left hb).resolve_left ht) c
        have hdiscovery : discoveryDue cfg (s.shift c) = discoveryDue cfg s := by
          unfold discoveryDue
          rw [now_shift, ← elapsed_shift s.now s.lastDiscoveryAttempt c]
          rfl
        have hattempt : attemptsDiscovery cfg (s.shift c) = attemptsDiscovery cfg s := by
          unfold attemptsDiscovery
          rw [hdiscovery]
          rfl
        have hupload : attemptsUpload cfg io (s.shift c) = attemptsUpload cfg io s := by
          unfold attemptsUpload
          rw [stepState_shift, uploadDue_shift]
          rfl
        rw [sensorsDue_shift, hattempt, hupload, hticks]

/-- An hour to the next discovery, from a tick before the wrap: the pass does not sleep, and with
    all ticks shifted by one it sleeps for five minutes. -/
theorem wrap_changes_sleep :
    let s : ClientTask := { clientTaskStart 4294967295 with
      state := .autonomous
      initialPollsRemaining := 0 }
    (decisions buildConfig { after := ticks 0 } 0 s).sleepTicks = some 0 ∧
      (decisions buildConfig { after := ticks 0 } 1 (s.shift 1)).sleepTicks = some 30000 ∧
      ¬ShiftInvariant buildConfig { after := ticks 0 } 0 s := by
  refine ⟨by decide +kernel, by decide +kernel, fun hinv => ?_⟩
  have hsame := congrArg Decisions.sleepTicks (hinv 1)
  revert hsame
  decide +kernel

end IndoorLogger
