import IndoorLogger.Lib.WriteThrough
import IndoorLogger.Server.Restart

/-
  The two settings of the server, sync interval and time zone, over runs with power cycles. A
  request sets one in memory and saves it in the NVS namespace "config", a boot loads both; each
  call of NVS may fail, and a boot that finds the NVS partition unusable erases it. Each setting
  is a value with a copy in flash (`WriteThrough`), and the settings in force are those last
  accepted exactly in the runs in which no failing save or load and no erasure makes a difference
  (`settings_kept_iff`).
-/

namespace IndoorLogger

open Decimal Machine WriteThrough

/-! ## Saves and loads -/

/-- The NVS namespace "config". -/
structure ConfigNvs where
  syncInt : Option UInt32
  timezone : Option (CStr 64)
  deriving DecidableEq

/-- Which calls of a save fail. The result of `nvs_commit` is not looked at. -/
structure SettingIo where
  nvsOpen : Bool := false
  set : Bool := false

def SettingIo.fails (io : SettingIo) : Bool := io.nvsOpen || io.set

/-- What the first `nvs_flash_init` of a boot answers. On any other error `ESP_ERROR_CHECK`
    aborts, and the chip starts again. -/
inductive NvsFlashInit where
  | ok
  | noFreePages
  | newVersionFound

/-- The errors on which `app_main` erases the NVS partition. -/
def NvsFlashInit.erases : NvsFlashInit → Bool
  | .ok => false
  | .noFreePages => true
  | .newVersionFound => true

/-- What NVS answers in a boot, and which calls of the two loads fail. -/
structure SettingsLoadIo where
  flashInit : NvsFlashInit := .ok
  openInterval : Bool := false
  getInterval : Bool := false
  openTimezone : Bool := false
  getTimezone : Bool := false

/-- What a save leaves in flash. -/
def storeSetting {ν : Type} (io : SettingIo) (v : ν) (stored : Option ν) : Option ν :=
  if io.nvsOpen then stored
  else if io.set then stored
  else some v

/-- The value that a load takes: one that can be read and is valid, else the default. -/
def loadSetting {ν : Type} (valid : ν → Bool) (default : ν) (nvsOpen get : Bool)
    (stored : Option ν) : ν :=
  if nvsOpen then default
  else
    match nvsGet get stored with
    | some v => if valid v then v else default
    | none => default

/-- What `config_save_sync_interval` saves. -/
def saveSyncInterval (io : SettingIo) (value : UInt32) (nvs : ConfigNvs) : ConfigNvs :=
  let value := if value = 0 then defaultSyncIntervalSec else value
  { nvs with syncInt := storeSetting io value nvs.syncInt }

/-- What `config_save_timezone` saves. -/
def saveTimezone (io : SettingIo) (tz : List UInt8) (nvs : ConfigNvs) : ConfigNvs :=
  let timezone := if cString tz = [] then defaultTimezone else CStr.strncpy tz
  { nvs with timezone := storeSetting io timezone nvs.timezone }

/-- `config_load_sync_interval`: the value that `g_sync_interval` gets. -/
def configLoadSyncInterval (io : SettingsLoadIo) (nvs : ConfigNvs) : UInt32 :=
  loadSetting (· > 0) defaultSyncIntervalSec io.openInterval io.getInterval nvs.syncInt

/-- `config_load_timezone`: the string that `g_timezone` gets. -/
def configLoadTimezone (io : SettingsLoadIo) (nvs : ConfigNvs) : CStr 64 :=
  loadSetting (!·.isEmpty) defaultTimezone io.openTimezone io.getTimezone nvs.timezone

/-! ## Requests for the settings -/

/-- `sync_interval_get_handler`. -/
def syncIntervalGetHandler (s : ServerState) : Response :=
  .json 64 (ascii "\x7b\"sync_interval\":" ++ formatNat s.syncInterval.toNat ++ ascii "\x7d")

/-- `timezone_get_handler`. -/
def timezoneGetHandler (s : ServerState) : Response :=
  .json 128 (ascii "\x7b\"timezone\":\"" ++ s.timezone.bytes ++ ascii "\"\x7d")

/-- The interval that a request sets, none when it is refused. -/
def requestedInterval (uri : List UInt8) : Option UInt32 :=
  let valueStr : CStr 16 := queryParam uri "value" 16
  if valueStr.isEmpty then none
  else if atoi valueStr.bytes ≤ 0 then none
  else some (UInt32.ofInt (atoi valueStr.bytes))

/-- The time zone that a request sets, as the handler hands it on, none when it is refused. -/
def requestedTimezone (uri : List UInt8) : Option (List UInt8) :=
  let valueStr := (getQueryVal (strchr uri 63) (ascii "value") 80).getD []
  if valueStr = [] then none else some valueStr

theorem syncIntervalPostHandler_state (s : ServerState) (uri : List UInt8) :
    (syncIntervalPostHandler s uri).1 =
      ((requestedInterval uri).map (configSaveSyncInterval s)).getD s := by
  unfold syncIntervalPostHandler requestedInterval
  dsimp only
  split
  · rfl
  · split
    · rfl
    · rfl

theorem timezonePostHandler_state (s : ServerState) (uri : List UInt8) :
    (timezonePostHandler s uri).1 =
      ((requestedTimezone uri).map (configSaveTimezone s)).getD s := by
  unfold timezonePostHandler requestedTimezone
  dsimp only
  split
  · rfl
  · rfl

/-! ## The server with its flash -/

structure ServerDevice where
  server : ServerState
  config : ConfigNvs

/-- A request, with the NVS calls of a setting's save, or a power cycle. -/
inductive ServerEvent where
  | request (io : SettingIo) (r : Request)
  | powerCycle (io : SettingsLoadIo)

/-- What a request saves in "config". -/
def Request.saveSetting (io : SettingIo) (nvs : ConfigNvs) : Request → ConfigNvs
  | .syncIntervalPost uri =>
    match requestedInterval uri with
    | some value => saveSyncInterval io value nvs
    | none => nvs
  | .timezonePost uri =>
    match requestedTimezone uri with
    | some tz => saveTimezone io tz nvs
    | none => nvs
  | _ => nvs

/-- `nvs_flash_erase`: the settings and the stored registry are gone, the data files are not. -/
def ServerDevice.nvsFlashErase (d : ServerDevice) : ServerDevice where
  server := { d.server with nvs := ⟨none, none, none, none, none⟩ }
  config := ⟨none, none⟩

/-- The start of `app_main`: NVS is made usable, and both settings and the registry are
    loaded. -/
def ServerDevice.powerCycle (io : SettingsLoadIo) (d : ServerDevice) : ServerDevice :=
  let d := if io.flashInit.erases then d.nvsFlashErase else d
  { d with
    server := { d.server.boot with
      syncInterval := configLoadSyncInterval io d.config
      timezone := configLoadTimezone io d.config } }

def serverDeviceStep (cJSONParse : List UInt8 → Option Json) (g : UInt32) (d : ServerDevice) :
    ServerEvent → ServerDevice × Option Response
  | .request io r =>
    let s := serverStep cJSONParse g d.server r
    (⟨s.1, r.saveSetting io d.config⟩, s.2)
  | .powerCycle io => (d.powerCycle io, none)

/-! ## Settings as values with a copy in flash -/

/-- The device, and the settings that were last accepted. -/
structure Watched where
  device : ServerDevice
  interval : UInt32
  timezone : CStr 64

def Watched.intervalCell (w : Watched) : Cell UInt32 :=
  ⟨w.interval, w.device.server.syncInterval, configLoadSyncInterval {} w.device.config⟩

def Watched.timezoneCell (w : Watched) : Cell (CStr 64) :=
  ⟨w.timezone, w.device.server.timezone, configLoadTimezone {} w.device.config⟩

/-- The interval that a request puts into memory, none when it leaves it. -/
def Request.newInterval : Request → Option UInt32
  | .syncIntervalPost uri =>
    (requestedInterval uri).map fun value => if value = 0 then defaultSyncIntervalSec else value
  | _ => none

/-- The time zone that a request puts into memory, none when it leaves it. -/
def Request.newTimezone : Request → Option (CStr 64)
  | .timezonePost uri =>
    (requestedTimezone uri).map fun tz =>
      if cString tz = [] then defaultTimezone else CStr.strncpy tz
  | _ => none

/-- `atoi` hands on no zero, and a zero would be replaced. -/
theorem newInterval_ne {r : Request} {value : UInt32} (h : r.newInterval = some value) :
    value ≠ 0 := by
  cases r with
  | syncIntervalPost uri =>
    obtain ⟨requested, -, rfl⟩ := Option.map_eq_some_iff.mp h
    split
    case isTrue => decide
    case isFalse hne => exact hne
  | _ => cases h

theorem newTimezone_ne {r : Request} {tz : CStr 64} (h : r.newTimezone = some tz) :
    tz ≠ CStr.empty := by
  cases r with
  | timezonePost uri =>
    obtain ⟨requested, -, rfl⟩ := Option.map_eq_some_iff.mp h
    split
    case isTrue => decide
    case isFalse hcut =>
      intro hempty
      exact hcut ((List.take_eq_nil_iff.mp (CStr.bytes_eq_nil.mpr hempty)).resolve_left
        (by decide))
  | _ => cases h

/-- A request for a setting writes, and fails as a whole if one of its NVS calls does. -/
def writeOp {ν : Type} (io : SettingIo) : Option ν → Op ν
  | some v => .write v io.fails
  | none => .keep

/-- A boot loads what flash holds, unless it erased it. -/
def loadOp {ν : Type} (init : NvsFlashInit) (fails : Bool) : Op ν :=
  if init.erases then .reset false else .boot fails

def intervalOp : ServerEvent → Op UInt32
  | .request io r => writeOp io r.newInterval
  | .powerCycle io => loadOp io.flashInit (io.openInterval || io.getInterval)

def timezoneOp : ServerEvent → Op (CStr 64)
  | .request io r => writeOp io r.newTimezone
  | .powerCycle io => loadOp io.flashInit (io.openTimezone || io.getTimezone)

/-- The settings that an event has accepted. -/
def ServerEvent.newInterval : ServerEvent → Option UInt32
  | .request _ r => r.newInterval
  | .powerCycle _ => none

def ServerEvent.newTimezone : ServerEvent → Option (CStr 64)
  | .request _ r => r.newTimezone
  | .powerCycle _ => none

def watchStep (cJSONParse : List UInt8 → Option Json) (g : UInt32) (w : Watched)
    (e : ServerEvent) : Watched × Option Response :=
  let r := serverDeviceStep cJSONParse g w.device e
  (⟨r.1, e.newInterval.getD w.interval, e.newTimezone.getD w.timezone⟩, r.2)

/-- A device after a boot that can read its flash. -/
def ServerDevice.watched (d : ServerDevice) : Watched :=
  let d := d.powerCycle {}
  ⟨d, d.server.syncInterval, d.server.timezone⟩

/-! ### Loads of what is saved -/

section

variable {ν : Type} (valid : ν → Bool) (default : ν)

theorem loadSetting_eq (nvsOpen get : Bool) (stored : Option ν) :
    loadSetting valid default nvsOpen get stored =
      if nvsOpen || get then default else loadSetting valid default false false stored := by
  cases nvsOpen with
  | true => rfl
  | false =>
    cases get with
    | true => rfl
    | false => rfl

theorem loadSetting_valid (h : valid default = true) (nvsOpen get : Bool) (stored : Option ν) :
    valid (loadSetting valid default nvsOpen get stored) = true := by
  unfold loadSetting
  split
  · exact h
  · split
    · split
      case isTrue hv => exact hv
      case isFalse => exact h
    · exact h

/-- Where nothing is stored, the default is taken. -/
theorem loadSetting_none (nvsOpen get : Bool) :
    loadSetting valid default nvsOpen get none = default := by
  rw [loadSetting_eq]
  exact ite_self default

/-- A valid value that is saved is read back. -/
theorem load_storeSetting {v : ν} (h : valid v = true) (io : SettingIo) (stored : Option ν) :
    loadSetting valid default false false (storeSetting io v stored) =
      if io.fails then loadSetting valid default false false stored else v := by
  unfold storeSetting SettingIo.fails
  cases io.nvsOpen with
  | true => rfl
  | false =>
    cases io.set with
    | true => rfl
    | false => exact if_pos h

end

theorem configLoadSyncInterval_ne (io : SettingsLoadIo) (nvs : ConfigNvs) :
    configLoadSyncInterval io nvs ≠ 0 := by
  have hvalid : decide (configLoadSyncInterval io nvs > 0) = true :=
    loadSetting_valid (· > 0) _ (by decide) io.openInterval io.getInterval nvs.syncInt
  exact UInt32.pos_iff_ne_zero.mp (of_decide_eq_true hvalid)

theorem configLoadTimezone_ne (io : SettingsLoadIo) (nvs : ConfigNvs) :
    configLoadTimezone io nvs ≠ CStr.empty := by
  have hvalid : (!(configLoadTimezone io nvs).isEmpty) = true :=
    loadSetting_valid (!·.isEmpty) _ (by decide) io.openTimezone io.getTimezone nvs.timezone
  rw [Bool.not_eq_true'] at hvalid
  exact CStr.isEmpty_eq_false.mp hvalid

section

variable (cJSONParse : List UInt8 → Option Json) (g : UInt32) (w : Watched)

/-- A boot loads both settings, or leaves the defaults where it erased them. -/
theorem cells_powerCycle (io : SettingsLoadIo) :
    (watchStep cJSONParse g w (.powerCycle io)).1.intervalCell =
        step defaultSyncIntervalSec w.intervalCell (intervalOp (.powerCycle io)) ∧
      (watchStep cJSONParse g w (.powerCycle io)).1.timezoneCell =
        step defaultTimezone w.timezoneCell (timezoneOp (.powerCycle io)) := by
  rw [watchStep, serverDeviceStep, ServerDevice.powerCycle, intervalOp, timezoneOp, loadOp,
    loadOp]
  cases io.flashInit.erases with
  | true =>
    exact ⟨Cell.ext rfl (loadSetting_none _ _ io.openInterval io.getInterval) rfl,
      Cell.ext rfl (loadSetting_none _ _ io.openTimezone io.getTimezone) rfl⟩
  | false =>
    exact ⟨Cell.ext rfl (loadSetting_eq _ _ io.openInterval io.getInterval _) rfl,
      Cell.ext rfl (loadSetting_eq _ _ io.openTimezone io.getTimezone _) rfl⟩

/-- Each event is one operation on each setting and its copy. -/
theorem cells_step (e : ServerEvent) :
    (watchStep cJSONParse g w e).1.intervalCell =
        step defaultSyncIntervalSec w.intervalCell (intervalOp e) ∧
      (watchStep cJSONParse g w e).1.timezoneCell =
        step defaultTimezone w.timezoneCell (timezoneOp e) := by
  cases e with
  | powerCycle io => exact cells_powerCycle cJSONParse g w io
  | request io r =>
    have hother : (∀ uri, r ≠ .syncIntervalPost uri) → (∀ uri, r ≠ .timezonePost uri) →
        r.newInterval = none → r.newTimezone = none →
        r.saveSetting io w.device.config = w.device.config →
        (watchStep cJSONParse g w (.request io r)).1.intervalCell =
            step defaultSyncIntervalSec w.intervalCell (writeOp io r.newInterval) ∧
          (watchStep cJSONParse g w (.request io r)).1.timezoneCell =
            step defaultTimezone w.timezoneCell (writeOp io r.newTimezone) := by
      intro hint htz hnewInt hnewTz hsave
      obtain ⟨hinterval, htimezone⟩ := serverStep_settings cJSONParse g w.device.server hint htz
      rw [hnewInt, hnewTz]
      exact ⟨Cell.ext (congrArg (Option.getD · w.interval) hnewInt) hinterval
          (congrArg (configLoadSyncInterval {}) hsave),
        Cell.ext (congrArg (Option.getD · w.timezone) hnewTz) htimezone
          (congrArg (configLoadTimezone {}) hsave)⟩
    cases r with
    | syncIntervalPost uri =>
      have hstate := syncIntervalPostHandler_state w.device.server uri
      have hnone : (Request.syncIntervalPost uri).newTimezone = none := rfl
      rw [watchStep, serverDeviceStep, serverStep, hstate, Request.saveSetting, intervalOp,
        timezoneOp, ServerEvent.newInterval, ServerEvent.newTimezone, hnone, Request.newInterval]
      cases hreq : requestedInterval uri with
      | none => exact ⟨rfl, rfl⟩
      | some value =>
        have hpos := UInt32.pos_iff_ne_zero.mpr
          (newInterval_ne (r := .syncIntervalPost uri) (congrArg (Option.map _) hreq))
        have hload := load_storeSetting (· > 0) defaultSyncIntervalSec (decide_eq_true hpos) io
          w.device.config.syncInt
        exact ⟨Cell.ext rfl rfl hload, rfl⟩
    | timezonePost uri =>
      have hstate := timezonePostHandler_state w.device.server uri
      have hnone : (Request.timezonePost uri).newInterval = none := rfl
      rw [watchStep, serverDeviceStep, serverStep, hstate, Request.saveSetting, intervalOp,
        timezoneOp, ServerEvent.newInterval, ServerEvent.newTimezone, hnone, Request.newTimezone]
      cases hreq : requestedTimezone uri with
      | none => exact ⟨rfl, rfl⟩
      | some tz =>
        have hne := newTimezone_ne (r := .timezonePost uri) (congrArg (Option.map _) hreq)
        have hempty := CStr.isEmpty_eq_false.mpr hne
        have hload := load_storeSetting (!·.isEmpty) defaultTimezone (congrArg not hempty) io
          w.device.config.timezone
        exact ⟨rfl, Cell.ext rfl rfl hload⟩
    | upload io clock req => exact hother (by simp) (by simp) rfl rfl rfl
    | clientName io now uri => exact hother (by simp) (by simp) rfl rfl rfl
    | clientId io save uri => exact hother (by simp) (by simp) rfl rfl rfl
    | clientDelete io unlinkFails uri => exact hother (by simp) (by simp) rfl rfl rfl
    | basicModePost io now uri => exact hother (by simp) (by simp) rfl rfl rfl
    | checkStale now timeoutSec => exact hother (by simp) (by simp) rfl rfl rfl

end

/-! ## Runs -/

/-- The settings last accepted are in force, and a boot that can read them would bring them
    back. -/
structure Watched.Kept (w : Watched) : Prop where
  interval : w.device.server.syncInterval = w.interval
  timezone : w.device.server.timezone = w.timezone
  bootInterval : (w.device.powerCycle {}).server.syncInterval = w.interval
  bootTimezone : (w.device.powerCycle {}).server.timezone = w.timezone

/-- What fails in the event makes no difference to the settings: the save of a value that flash
    holds, or the load or erasure of one that is the default. -/
def Watched.LosesNothing (w : Watched) (e : ServerEvent) : Prop :=
  Harmless defaultSyncIntervalSec w.intervalCell (intervalOp e) ∧
    Harmless defaultTimezone w.timezoneCell (timezoneOp e)

theorem kept_iff_cells (w : Watched) :
    w.Kept ↔ WriteThrough.Kept w.intervalCell ∧ WriteThrough.Kept w.timezoneCell :=
  ⟨fun h => ⟨⟨h.interval, h.bootInterval⟩, h.timezone, h.bootTimezone⟩,
    fun h => ⟨h.1.1, h.2.1, h.1.2, h.2.2⟩⟩

/-- The operation of a request writes the value it puts into memory. -/
theorem writeOp_eq_write {ν : Type} {io : SettingIo} {new : Option ν} {v : ν} {fails : Bool}
    (h : writeOp io new = .write v fails) : new = some v := by
  cases new with
  | none => cases h
  | some w =>
    cases h
    rfl

theorem writeOp_ne_confirm {ν : Type} {io : SettingIo} {new : Option ν} {v : ν} :
    writeOp io new ≠ .confirm v := by
  intro h
  cases new with
  | none => cases h
  | some w => cases h

/-- A boot neither writes nor confirms. -/
theorem loadOp_ne_write {ν : Type} {init : NvsFlashInit} {fails fails' : Bool} {v : ν} :
    loadOp init fails ≠ .write v fails' := by
  intro h
  unfold loadOp at h
  split at h
  · cases h
  · cases h

theorem loadOp_ne_confirm {ν : Type} {init : NvsFlashInit} {fails : Bool} {v : ν} :
    loadOp init fails ≠ .confirm v := by
  intro h
  unfold loadOp at h
  split at h
  · cases h
  · cases h

section

variable (cJSONParse : List UInt8 → Option Json) (g : UInt32) {w : Watched}

/-- An event keeps the settings exactly when what fails in it makes no difference. -/
theorem kept_watchStep_iff (h : w.Kept) (e : ServerEvent) :
    (watchStep cJSONParse g w e).1.Kept ↔ w.LosesNothing e := by
  obtain ⟨hinterval, htimezone⟩ := (kept_iff_cells w).mp h
  obtain ⟨hi, ht⟩ := cells_step cJSONParse g w e
  have hconfirmInt : ∀ v, intervalOp e = .confirm v → v = w.intervalCell.cur := by
    intro v hv
    cases e with
    | request io r => exact absurd hv writeOp_ne_confirm
    | powerCycle io => exact absurd hv loadOp_ne_confirm
  have hconfirmTz : ∀ v, timezoneOp e = .confirm v → v = w.timezoneCell.cur := by
    intro v hv
    cases e with
    | request io r => exact absurd hv writeOp_ne_confirm
    | powerCycle io => exact absurd hv loadOp_ne_confirm
  rw [kept_iff_cells, hi, ht, kept_step_iff hinterval hconfirmInt,
    kept_step_iff htimezone hconfirmTz]
  exact Iff.rfl

/-- Both settings have a value at all times. -/
theorem settings_step
    (h : w.device.server.syncInterval ≠ 0 ∧ w.device.server.timezone ≠ CStr.empty)
    (e : ServerEvent) :
    (watchStep cJSONParse g w e).1.device.server.syncInterval ≠ 0 ∧
      (watchStep cJSONParse g w e).1.device.server.timezone ≠ CStr.empty := by
  obtain ⟨hinterval, htimezone⟩ := cells_step cJSONParse g w e
  have hi : (watchStep cJSONParse g w e).1.intervalCell.cur ≠ 0 := by
    rw [hinterval]
    refine cur_step (P := (· ≠ 0)) (by decide) h.1 (configLoadSyncInterval_ne {} _)
      (fun v fails hop => ?_)
    cases e with
    | request io r => exact newInterval_ne (writeOp_eq_write hop)
    | powerCycle io => exact absurd hop loadOp_ne_write
  have ht : (watchStep cJSONParse g w e).1.timezoneCell.cur ≠ CStr.empty := by
    rw [htimezone]
    refine cur_step (P := (· ≠ CStr.empty)) (by decide) h.2 (configLoadTimezone_ne {} _)
      (fun v fails hop => ?_)
    cases e with
    | request io r => exact newTimezone_ne (writeOp_eq_write hop)
    | powerCycle io => exact absurd hop loadOp_ne_write
  exact ⟨hi, ht⟩

end

/-- **The settings last accepted are in force.** Start the server on any flash content and let
    requests and power cycles follow, whose NVS calls fail at any point and whose boots may erase
    the NVS partition. In every state reached both settings are those last accepted, and safe
    from a power cycle, exactly when no failing save or load and no erasure of the run made a
    difference. In every run at all the interval is never 0 and the time zone never empty. -/
theorem settings_kept_iff (cJSONParse : List UInt8 → Option Json) (g : UInt32)
    (d : ServerDevice) (es : List ServerEvent) :
    (Always (watchStep cJSONParse g) Watched.Kept d.watched es ↔
        Meets (watchStep cJSONParse g) Watched.LosesNothing d.watched es) ∧
      Always (watchStep cJSONParse g)
        (fun w => w.device.server.syncInterval ≠ 0 ∧ w.device.server.timezone ≠ CStr.empty)
        d.watched es := by
  constructor
  · exact always_iff_meets (J := fun _ => True) (G := fun _ _ => True)
      (fun _ _ _ _ _ _ => trivial) (fun w e _ h _ => kept_watchStep_iff cJSONParse g h e)
      trivial ⟨rfl, rfl, rfl, rfl⟩ (meets_of_forall fun _ _ _ => trivial)
  · exact always_of_step (fun w e h => settings_step cJSONParse g h e) es
      ⟨configLoadSyncInterval_ne {} _, configLoadTimezone_ne {} _⟩

end IndoorLogger
