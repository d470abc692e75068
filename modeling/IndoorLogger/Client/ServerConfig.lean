import IndoorLogger.Client.WifiSync
import IndoorLogger.Server.Readings

/-
  What the client takes over from the answer to an upload: `http_read_response` and
  `apply_server_config` of `wifi_sync.c`, with the static variables they write, the system
  time, the time zone and NVS.
-/

namespace IndoorLogger

/-! ## The device -/

/-- The NVS namespace "client". -/
structure ClientNvs where
  name : Option (CStr 32)
  basicMode : Option Bool
  id : Option (CStr 32)
  deriving DecidableEq

/-- The static variables of `wifi_sync.c`; the time that was last set, `TZ` and NVS. -/
structure Device where
  clientId : CStr 32
  serverUrl : CStr 128
  serverIp : CStr 16
  ipResolved : Bool
  assignedName : CStr 32
  syncIntervalSec : UInt32
  basicMode : Bool
  idChanged : Bool
  newId : CStr 32
  timeOfDay : Option UInt32
  tz : List UInt8
  nvs : ClientNvs
  deriving DecidableEq

/-- Which of the saves to NVS fail. -/
structure ApplyIo where
  saveName : Bool := false
  saveBasicMode : Bool := false
  saveId : Bool := false

/-- The body of an answer as it is parsed, cut to the buffer. -/
def httpReadResponse (contentLen : Int) (body : List UInt8) : List UInt8 :=
  let contentLen := if contentLen ≤ 0 then 256 else contentLen
  let contentLen := if contentLen > 2048 then 2048 else contentLen
  body.take contentLen.toNat

/-! ## apply_server_config -/

/-- A number of the answer as an unsigned integer. -/
def uint32Member (root : Json) (name : String) : Option UInt32 :=
  ((root.getObjectItem name).bind Json.number?).map fun q =>
    UInt32.ofInt (Binary64.truncate (valueDouble q))

/-- A string of the answer that is not empty. -/
def stringMember (root : Json) (name : String) : Option (List UInt8) :=
  ((root.getObjectItem name).bind Json.string?).filter (· ≠ [])

namespace Device

def applyTimestamp (root : Json) (d : Device) : Device :=
  match uint32Member root "timestamp" with
  | some timestamp => { d with timeOfDay := some timestamp }
  | none => d

/-- An interval below a minute is not taken over. -/
def applySyncInterval (root : Json) (d : Device) : Device :=
  match uint32Member root "sync_interval" with
  | some val => if val ≥ 60 then { d with syncIntervalSec := val } else d
  | none => d

def applyName (io : ApplyIo) (root : Json) (d : Device) : Device :=
  match stringMember root "name" with
  | some val =>
    let name := CStr.strncpy val
    { d with
      assignedName := name
      nvs := if io.saveName then d.nvs else { d.nvs with name := some name } }
  | none => d

def applyTimezone (root : Json) (d : Device) : Device :=
  match stringMember root "timezone" with
  | some val => { d with tz := val }
  | none => d

def applyBasicMode (io : ApplyIo) (root : Json) (d : Device) : Device :=
  match (root.getObjectItem "basic_mode").bind Json.bool? with
  | some newVal =>
    if newVal ≠ d.basicMode then
      { d with
        basicMode := newVal
        nvs := if io.saveBasicMode then d.nvs else { d.nvs with basicMode := some newVal } }
    else d
  | none => d

/-- The URL of the uploads. -/
def uploadUrl (serverIp : CStr 16) (clientId : CStr 32) : CStr 128 :=
  CStr.strncpy (ascii "http://" ++ serverIp.bytes ++ uploadUri clientId)

/-- The `strncmp` is over 32 bytes. -/
def applyId (io : ApplyIo) (root : Json) (d : Device) : Device :=
  match stringMember root "client_id" with
  | some val =>
    if val.take 32 ≠ d.clientId.bytes then
      let id := CStr.strncpy val
      { d with
        clientId := id
        nvs := if io.saveId then d.nvs else { d.nvs with id := some id }
        serverUrl := if d.ipResolved then uploadUrl d.serverIp id else d.serverUrl
        idChanged := true
        newId := id }
    else d
  | none => d

end Device

/-- `apply_server_config`. -/
def applyServerConfig (io : ApplyIo) (root : Json) (d : Device) : Device :=
  let d := d.applyTimestamp root
  let d := d.applySyncInterval root
  let d := d.applyName io root
  let d := d.applyTimezone root
  let d := d.applyBasicMode io root
  d.applyId io root

/-! ## What a member of an answer can change -/

namespace Device

variable (io : ApplyIo) (root : Json) (d : Device)

theorem applyTimestamp_eq : ∃ time, d.applyTimestamp root = { d with timeOfDay := time } := by
  unfold applyTimestamp
  split
  · exact ⟨_, rfl⟩
  · exact ⟨d.timeOfDay, rfl⟩

theorem applySyncInterval_eq :
    ∃ val, d.applySyncInterval root = { d with syncIntervalSec := val } := by
  unfold applySyncInterval
  split
  · split
    · exact ⟨_, rfl⟩
    · exact ⟨d.syncIntervalSec, rfl⟩
  · exact ⟨d.syncIntervalSec, rfl⟩

theorem applyName_eq :
    ∃ name nvs, d.applyName io root = { d with assignedName := name, nvs := nvs } := by
  unfold applyName
  split
  · exact ⟨_, _, rfl⟩
  · exact ⟨d.assignedName, d.nvs, rfl⟩

theorem applyTimezone_eq : ∃ tz, d.applyTimezone root = { d with tz := tz } := by
  unfold applyTimezone
  split
  · exact ⟨_, rfl⟩
  · exact ⟨d.tz, rfl⟩

theorem applyBasicMode_eq :
    ∃ mode nvs, d.applyBasicMode io root = { d with basicMode := mode, nvs := nvs } := by
  unfold applyBasicMode
  split
  · split
    · exact ⟨_, _, rfl⟩
    · exact ⟨d.basicMode, d.nvs, rfl⟩
  · exact ⟨d.basicMode, d.nvs, rfl⟩

theorem applyId_eq :
    ∃ id nvs url changed new, d.applyId io root =
      { d with
        clientId := id
        nvs := nvs
        serverUrl := url
        idChanged := changed
        newId := new } := by
  unfold applyId
  split
  · split
    · exact ⟨_, _, _, _, _, rfl⟩
    · exact ⟨d.clientId, d.nvs, d.serverUrl, d.idChanged, d.newId, rfl⟩
  · exact ⟨d.clientId, d.nvs, d.serverUrl, d.idChanged, d.newId, rfl⟩

/-- Only the last step writes the id and the URL. -/
theorem applyServerConfig_eq_applyId :
    ∃ name interval mode time tz nvs, applyServerConfig io root d =
      applyId io root
        { d with
          assignedName := name
          syncIntervalSec := interval
          basicMode := mode
          timeOfDay := time
          tz := tz
          nvs := nvs } := by
  obtain ⟨time, hts⟩ := applyTimestamp_eq root d
  obtain ⟨interval, hsync⟩ := applySyncInterval_eq root { d with timeOfDay := time }
  obtain ⟨name, nvs, hname⟩ := applyName_eq io root
    { d with
      timeOfDay := time
      syncIntervalSec := interval }
  obtain ⟨tz, htz⟩ := applyTimezone_eq root
    { d with
      timeOfDay := time
      syncIntervalSec := interval
      assignedName := name
      nvs := nvs }
  obtain ⟨mode, nvs', hbasic⟩ := applyBasicMode_eq io root
    { d with
      timeOfDay := time
      syncIntervalSec := interval
      assignedName := name
      tz := tz
      nvs := nvs }
  unfold applyServerConfig
  dsimp only
  rw [hts, hsync, hname, htz, hbasic]
  exact ⟨name, interval, mode, time, tz, nvs', rfl⟩

end Device

end IndoorLogger
