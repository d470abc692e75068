import IndoorLogger.Lib.CharArray
import IndoorLogger.Client.ServerConfig

/-
  The static variables of `wifi_sync.c` as they lie in memory, and `apply_server_config` as it
  writes them. `view` reads the strings in the arrays; under it `apply_server_config` on the
  arrays is the function on strings (`view_applyServerConfig`).
-/

namespace IndoorLogger

/-! ## The static variables -/

structure DeviceMemory where
  clientId : CharArray 32
  serverUrl : CharArray 128
  serverIp : CharArray 16
  ipResolved : Bool
  assignedName : CharArray 32
  syncIntervalSec : UInt32
  basicMode : Bool
  idChanged : Bool
  newId : CharArray 32
  timeOfDay : Option UInt32
  tz : List UInt8
  nvs : ClientNvs
  deriving DecidableEq

namespace DeviceMemory

/-- Power-on: the initialisers of the variables, and what NVS holds. -/
def boot (nvs : ClientNvs) : DeviceMemory where
  clientId := .zero
  serverUrl := .zero
  serverIp := .zero
  ipResolved := false
  assignedName := .zero
  syncIntervalSec := 600
  basicMode := true
  idChanged := false
  newId := .zero
  timeOfDay := none
  tz := []
  nvs := nvs

/-- The strings in the arrays. -/
def view (m : DeviceMemory) : Device where
  clientId := m.clientId.toCStr
  serverUrl := m.serverUrl.toCStr
  serverIp := m.serverIp.toCStr
  ipResolved := m.ipResolved
  assignedName := m.assignedName.toCStr
  syncIntervalSec := m.syncIntervalSec
  basicMode := m.basicMode
  idChanged := m.idChanged
  newId := m.newId.toCStr
  timeOfDay := m.timeOfDay
  tz := m.tz
  nvs := m.nvs

/-- The `snprintf` of the URL. -/
def printUrl (m : DeviceMemory) : DeviceMemory :=
  { m with
    serverUrl := m.serverUrl.snprintf (ascii "http://" ++ cString m.serverIp.bytes ++
      ascii "/api/upload?id=" ++ cString m.clientId.bytes) }

/-- `save_client_id_to_nvs` of `s_client_id`. -/
def saveClientIdToNvs (fails : Bool) (m : DeviceMemory) : DeviceMemory :=
  if fails then m else { m with nvs := { m.nvs with id := some m.clientId.toCStr } }

/-- `save_assigned_name_to_nvs` of `s_assigned_name`. -/
def saveAssignedNameToNvs (fails : Bool) (m : DeviceMemory) : DeviceMemory :=
  if fails then m else { m with nvs := { m.nvs with name := some m.assignedName.toCStr } }

/-- `save_basic_mode_to_nvs` of `s_basic_mode`. -/
def saveBasicModeToNvs (fails : Bool) (m : DeviceMemory) : DeviceMemory :=
  if fails then m else { m with nvs := { m.nvs with basicMode := some m.basicMode } }

/-! ## apply_server_config -/

def applyTimestamp (root : Json) (m : DeviceMemory) : DeviceMemory :=
  match uint32Member root "timestamp" with
  | some timestamp => { m with timeOfDay := some timestamp }
  | none => m

def applySyncInterval (root : Json) (m : DeviceMemory) : DeviceMemory :=
  match uint32Member root "sync_interval" with
  | some val => if val ≥ 60 then { m with syncIntervalSec := val } else m
  | none => m

def applyName (io : ApplyIo) (root : Json) (m : DeviceMemory) : DeviceMemory :=
  match stringMember root "name" with
  | some val =>
    let m := { m with assignedName := (m.assignedName.strncpy val).terminate }
    m.saveAssignedNameToNvs io.saveName
  | none => m

def applyTimezone (root : Json) (m : DeviceMemory) : DeviceMemory :=
  match stringMember root "timezone" with
  | some val => { m with tz := val }
  | none => m

def applyBasicMode (io : ApplyIo) (root : Json) (m : DeviceMemory) : DeviceMemory :=
  match (root.getObjectItem "basic_mode").bind Json.bool? with
  | some newVal =>
    if newVal ≠ m.basicMode then
      let m := { m with basicMode := newVal }
      m.saveBasicModeToNvs io.saveBasicMode
    else m
  | none => m

/-- The URL is printed again if there is one. -/
def applyId (io : ApplyIo) (root : Json) (m : DeviceMemory) : DeviceMemory :=
  match stringMember root "client_id" with
  | some val =>
    if val.take 32 ≠ cString m.clientId.bytes then
      let m := { m with clientId := (m.clientId.strncpy val).terminate }
      let m := m.saveClientIdToNvs io.saveId
      let m := if m.ipResolved then m.printUrl else m
      { m with idChanged := true, newId := (m.newId.strncpy val).terminate }
    else m
  | none => m

/-- `apply_server_config`. -/
def applyServerConfig (io : ApplyIo) (root : Json) (m : DeviceMemory) : DeviceMemory :=
  let m := m.applyTimestamp root
  let m := m.applySyncInterval root
  let m := m.applyName io root
  let m := m.applyTimezone root
  let m := m.applyBasicMode io root
  m.applyId io root

/-! ## The arrays hold the strings -/

variable (io : ApplyIo) (root : Json) (m : DeviceMemory)

theorem view_printUrl : m.printUrl.view =
    { m.view with serverUrl := Device.uploadUrl m.view.serverIp m.view.clientId } := by
  simp only [view, printUrl, CharArray.toCStr_snprintf, Device.uploadUrl, uploadUri,
    CharArray.toCStr_bytes, List.append_assoc]

/-- The URL printed again where there is one. -/
theorem view_ite_printUrl : (if m.ipResolved then m.printUrl else m).view =
    { m.view with
      serverUrl := if m.view.ipResolved then Device.uploadUrl m.view.serverIp m.view.clientId
        else m.view.serverUrl } := by
  have hview : m.view.ipResolved = m.ipResolved := rfl
  cases hresolved : m.ipResolved with
  | false => rw [hview, hresolved]; rfl
  | true => rw [if_pos rfl, hview, hresolved, if_pos rfl, view_printUrl]

theorem view_saveClientIdToNvs (fails : Bool) : (m.saveClientIdToNvs fails).view =
    { m.view with
      nvs := if fails then m.view.nvs
        else { m.view.nvs with id := some m.view.clientId } } := by
  cases fails <;> rfl

theorem view_saveAssignedNameToNvs (fails : Bool) : (m.saveAssignedNameToNvs fails).view =
    { m.view with
      nvs := if fails then m.view.nvs
        else { m.view.nvs with name := some m.view.assignedName } } := by
  cases fails <;> rfl

theorem view_saveBasicModeToNvs (fails : Bool) : (m.saveBasicModeToNvs fails).view =
    { m.view with
      nvs := if fails then m.view.nvs
        else { m.view.nvs with basicMode := some m.view.basicMode } } := by
  cases fails <;> rfl

theorem view_applyTimestamp :
    (m.applyTimestamp root).view = m.view.applyTimestamp root := by
  unfold applyTimestamp Device.applyTimestamp
  cases uint32Member root "timestamp" with
  | none => rfl
  | some timestamp => rfl

theorem view_applySyncInterval :
    (m.applySyncInterval root).view = m.view.applySyncInterval root := by
  unfold applySyncInterval Device.applySyncInterval
  cases uint32Member root "sync_interval" with
  | none => rfl
  | some val => exact apply_ite view _ _ _

theorem view_applyName : (m.applyName io root).view = m.view.applyName io root := by
  unfold applyName Device.applyName
  cases stringMember root "name" with
  | none => rfl
  | some val =>
    rw [view_saveAssignedNameToNvs]
    simp only [view, CharArray.terminate_eq, CharArray.toCStr_strncpy]

theorem view_applyTimezone : (m.applyTimezone root).view = m.view.applyTimezone root := by
  unfold applyTimezone Device.applyTimezone
  cases stringMember root "timezone" with
  | none => rfl
  | some val => rfl

theorem view_applyBasicMode :
    (m.applyBasicMode io root).view = m.view.applyBasicMode io root := by
  unfold applyBasicMode Device.applyBasicMode
  cases (root.getObjectItem "basic_mode").bind Json.bool? with
  | none => rfl
  | some newVal =>
    by_cases hsame : newVal = m.basicMode
    · have hview : newVal = m.view.basicMode := hsame
      dsimp only
      rw [if_neg (not_not.mpr hsame), if_neg (not_not.mpr hview)]
    · have hview : newVal ≠ m.view.basicMode := hsame
      dsimp only
      rw [if_pos hsame, if_pos hview, view_saveBasicModeToNvs]
      rfl

theorem view_applyId : (m.applyId io root).view = m.view.applyId io root := by
  unfold applyId Device.applyId
  cases stringMember root "client_id" with
  | none => rfl
  | some val =>
    by_cases hsame : val.take 32 = cString m.clientId.bytes
    · have hview : val.take 32 = m.view.clientId.bytes := hsame
      dsimp only
      rw [if_neg (not_not.mpr hsame), if_neg (not_not.mpr hview)]
    · have hview : val.take 32 ≠ m.view.clientId.bytes := hsame
      have hid : ({ m with clientId := (m.clientId.strncpy val).terminate }).view =
          { m.view with clientId := CStr.strncpy val } := by
        simp only [view, CharArray.terminate_eq, CharArray.toCStr_strncpy]
      have hnew : ∀ m' : DeviceMemory,
          ({ m' with idChanged := true, newId := (m'.newId.strncpy val).terminate }).view =
            { m'.view with idChanged := true, newId := CStr.strncpy val } := fun m' => by
        simp only [view, CharArray.terminate_eq, CharArray.toCStr_strncpy]
      dsimp only
      rw [if_pos hsame, if_pos hview, hnew, view_ite_printUrl, view_saveClientIdToNvs, hid]

/-- `apply_server_config` on the arrays is the function on strings. -/
theorem view_applyServerConfig :
    (m.applyServerConfig io root).view = IndoorLogger.applyServerConfig io root m.view := by
  unfold applyServerConfig IndoorLogger.applyServerConfig
  rw [view_applyId, view_applyBasicMode, view_applyTimezone, view_applyName,
    view_applySyncInterval, view_applyTimestamp]

end DeviceMemory

end IndoorLogger
