import Mathlib.Logic.Basic

/-
  `client_task` of `apps/client/main/main.c`: one pass through its loop, with the connection
  states, the wake-ups from light sleep, and the places where it uploads. What goes on the
  display, the records and the wall clock are left out. Times are in ticks.
-/

namespace IndoorLogger

/-! ## Ticks -/

/-- `pdMS_TO_TICKS`, in the 32 bits of a `TickType_t`. -/
def pdMsToTicks (hz ms : UInt32) : UInt32 := ms * hz / 1000

/-- `TICKS_UNTIL`. -/
def ticksUntil (target now : UInt32) : UInt32 := if target > now then target - now else 0

/-- Time that passes, and the ticks that are counted meanwhile: in light sleep they may stand
    still. -/
structure Elapsed where
  real : Nat
  counted : Nat
  counted_le : counted ≤ real

/-! ## State -/

/-- `client_state_t`. -/
inductive ClientState where
  | discovering
  | connected
  | autonomous
  deriving DecidableEq

/-- `configTICK_RATE_HZ`, `CONFIG_CLIENT_DISCOVER_TIMEOUT_MS` and
    `CONFIG_CLIENT_RETRY_INTERVAL_MS`. -/
structure TaskConfig where
  hz : UInt32
  discoverTimeoutMs : UInt32
  retryIntervalMs : UInt32

/-- The variables of the task, the interval of `wifi_sync.c`, the time and the tick count. -/
structure ClientTask where
  real : Nat
  counted : Nat
  lastSensorRead : UInt32
  lastUploadAttempt : UInt32
  lastDiscoveryAttempt : UInt32
  stateEntered : UInt32
  state : ClientState
  uploadFailures : Nat
  displayActive : Bool
  displayOnUntil : UInt32
  initialPollsRemaining : Nat
  wokeByButton : Bool
  wokeByTimer : Bool
  prevButtonRaw : Bool
  wifiInitialized : Bool
  syncInterval : UInt32
  deriving DecidableEq

/-- `xTaskGetTickCount`. -/
def ClientTask.now (s : ClientTask) : UInt32 := UInt32.ofNat s.counted

/-- The task as it starts, at some tick. -/
def clientTaskStart (start : Nat) : ClientTask where
  real := start
  counted := start
  lastSensorRead := UInt32.ofNat start
  lastUploadAttempt := 0
  lastDiscoveryAttempt := UInt32.ofNat start
  stateEntered := UInt32.ofNat start
  state := .discovering
  uploadFailures := 0
  displayActive := false
  displayOnUntil := 0
  initialPollsRemaining := 6
  wokeByButton := false
  wokeByTimer := false
  prevButtonRaw := true
  wifiInitialized := false
  syncInterval := 600

/-- What one pass finds: the button, the sensors, WiFi and the server, the answer to an upload,
    the ticks before the call of an upload, and what passes behind it, sleep included. -/
structure LoopIo where
  buttonDebounced : Bool := false
  buttonRaw : Bool := false
  buttonHeld : Bool := false
  buttonDown : Bool := false
  basicMode : Bool := false
  sensorOk : Bool := true
  wifiOk : Bool := true
  serverIp : Bool := true
  uploadOk : Bool := true
  syncInterval : Option UInt32 := none
  before : Nat := 0
  after : Elapsed

/-- The places where the task uploads. -/
inductive UploadSite where
  | discovering
  | connected
  | timerCycle
  | buttonCycle
  deriving DecidableEq

/-- A call of `wifi_sync_upload_unsynced`: the time at the start of its pass, the ticks from
    there to the call, and the interval in force. -/
structure UploadCall where
  site : UploadSite
  start : Nat
  wait : Nat
  interval : UInt32
  deriving DecidableEq

/-- The time of the call. -/
def UploadCall.time (c : UploadCall) : Nat := c.start + c.wait

/-! ## One pass -/

section

variable (cfg : TaskConfig) (io : LoopIo) (s : ClientTask)

/-- `wifi_sync_upload_unsynced`, as far as it changes the interval. -/
def uploadUnsynced : ClientTask :=
  match io.syncInterval with
  | some val => if io.uploadOk && val ≥ 60 then { s with syncInterval := val } else s
  | none => s

def uploadCall (site : UploadSite) : UploadCall := ⟨site, s.real, io.before, s.syncInterval⟩

/-- `sync_interval_ms`. -/
def syncIntervalMs : UInt32 :=
  let syncIntervalMs := s.syncInterval * 1000
  if syncIntervalMs < 60000 then 60000 else syncIntervalMs

/-- The test of the state CONNECTED: the interval since the last attempt is over. -/
def uploadDue : Bool :=
  s.now - s.lastUploadAttempt ≥ pdMsToTicks cfg.hz (syncIntervalMs s)

/-- `DISPLAY_SCREEN_INTERVAL_MS * max_screens`, in ticks. -/
def displayTicks : UInt32 := pdMsToTicks cfg.hz (4000 * if io.basicMode then 2 else 3)

/-- `SENSOR_READ_INTERVAL_MS`, in ticks. -/
def sensorTicks : UInt32 := pdMsToTicks cfg.hz 300000

/-- The end of both cycles. -/
def endCycle : ClientTask :=
  { s with
    state := .autonomous
    stateEntered := s.now
    lastDiscoveryAttempt := s.now
    wifiInitialized := false
    uploadFailures := 0 }

/-- The cycle after a wake-up by the button. -/
def buttonCycle : ClientTask × Option UploadCall :=
  let s := { s with lastSensorRead := s.now, displayActive := false, wokeByButton := false }
  if !io.sensorOk then (endCycle s, none)
  else
    let s := { s with displayOnUntil := s.now + displayTicks cfg io, lastUploadAttempt := s.now }
    if io.wifiOk then (endCycle (uploadUnsynced io s), some (uploadCall io s .buttonCycle))
    else (endCycle s, none)

/-- The cycle after a wake-up by the timer. -/
def timerCycle : ClientTask × Option UploadCall :=
  let s := { s with
    lastSensorRead := s.now
    lastUploadAttempt := s.now
    wokeByTimer := false }
  if io.wifiOk then (endCycle (uploadUnsynced io s), some (uploadCall io s .timerCycle))
  else (endCycle s, none)

/-- A server was found: to CONNECTED, with an upload. -/
def enterConnected : ClientTask × Option UploadCall :=
  let s := { s with
    state := .connected
    stateEntered := s.now
    uploadFailures := 0
    lastUploadAttempt := s.now }
  (uploadUnsynced io s, some (uploadCall io s .discovering))

/-- STATE_DISCOVERING. -/
def stepDiscovering : ClientTask × Option UploadCall :=
  if !s.wifiInitialized then
    let s := { s with wifiInitialized := true }
    if io.wifiOk then enterConnected io s else (s, none)
  else if io.serverIp then enterConnected io s
  else if s.now - s.stateEntered ≥ pdMsToTicks cfg.hz cfg.discoverTimeoutMs then
    ({ s with
        state := .autonomous
        stateEntered := s.now
        lastDiscoveryAttempt := s.now
        wifiInitialized := false }, none)
  else (s, none)

/-- The end of an attempt in CONNECTED. The third failure in a row leads to AUTONOMOUS. -/
def endAttempt (ok : Bool) (s : ClientTask) : ClientTask :=
  let s := { s with lastUploadAttempt := s.now }
  if ok then { s with uploadFailures := 0 }
  else
    let s := { s with uploadFailures := s.uploadFailures + 1 }
    if s.uploadFailures ≥ 3 then
      { s with
        state := .autonomous
        stateEntered := s.now
        lastDiscoveryAttempt := s.now
        wifiInitialized := false }
    else s

/-- STATE_CONNECTED. -/
def stepConnected : ClientTask × Option UploadCall :=
  if uploadDue cfg s then
    if io.wifiOk then
      (endAttempt io.uploadOk (uploadUnsynced io s), some (uploadCall io s .connected))
    else (endAttempt false s, none)
  else (s, none)

/-- STATE_AUTONOMOUS. -/
def stepAutonomous : ClientTask × Option UploadCall :=
  if s.now - s.lastDiscoveryAttempt ≥ pdMsToTicks cfg.hz cfg.retryIntervalMs then
    ({ s with state := .discovering, stateEntered := s.now, wifiInitialized := false }, none)
  else (s, none)

/-- The switch over the state. -/
def stepState : ClientTask × Option UploadCall :=
  match s.state with
  | .discovering => stepDiscovering cfg io s
  | .connected => stepConnected cfg io s
  | .autonomous => stepAutonomous cfg s

/-- `button_pressed || button_falling_edge`. -/
def pressed : Bool := io.buttonDebounced || (!s.prevButtonRaw && io.buttonRaw)

/-- The button turns the display on. -/
def stepButton : ClientTask :=
  let used := pressed io s
  let s := { s with prevButtonRaw := io.buttonRaw }
  if used && !s.displayActive then
    { s with displayActive := true, displayOnUntil := s.now + displayTicks cfg io }
  else s

/-- `sleep_ticks`. -/
def sleepTicks : UInt32 :=
  let ticks := ticksUntil (s.lastSensorRead + sensorTicks cfg) s.now
  let ticks :=
    if s.state = .connected then
      min ticks (ticksUntil (s.lastUploadAttempt + pdMsToTicks cfg.hz (syncIntervalMs s)) s.now)
    else ticks
  let ticks :=
    if s.state = .autonomous then
      min ticks (ticksUntil (s.lastDiscoveryAttempt + pdMsToTicks cfg.hz cfg.retryIntervalMs) s.now)
    else ticks
  let ticks := if s.displayActive then min ticks (s.displayOnUntil - s.now) else ticks
  let ticks := if s.initialPollsRemaining > 0 then pdMsToTicks cfg.hz 5000 else ticks
  if s.state = .discovering then pdMsToTicks cfg.hz 1000 else ticks

/-- The light sleep at the end of a pass: every wake-up is one by the button or by the timer. -/
def lightSleep : ClientTask :=
  let ticks := sleepTicks cfg s
  let s := { s with initialPollsRemaining := s.initialPollsRemaining - 1 }
  if ticks > pdMsToTicks cfg.hz 10 && !io.buttonHeld then
    if io.buttonDown then { s with wokeByButton := true } else { s with wokeByTimer := true }
  else s

/-- A pass without a wake-up before it. -/
def stepLoop : ClientTask × Option UploadCall :=
  let s := if s.now - s.lastSensorRead ≥ sensorTicks cfg then { s with lastSensorRead := s.now }
    else s
  let (s, call) := stepState cfg io s
  (lightSleep cfg io (stepButton cfg io s), call)

/-- One pass through the loop of `client_task`. -/
def clientTask : ClientTask × Option UploadCall :=
  let s := if s.displayActive && s.now ≥ s.displayOnUntil then { s with displayActive := false }
    else s
  let (s, call) :=
    if s.wokeByButton then buttonCycle cfg io s
    else if s.wokeByTimer then timerCycle io s
    else stepLoop cfg io s
  ({ s with
      real := s.real + io.before + io.after.real
      counted := s.counted + io.before + io.after.counted }, call)

end

end IndoorLogger
