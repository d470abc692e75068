import IndoorLogger.Client.DeviceMemory
import IndoorLogger.Server.ClientRegistry

/-
  How the client comes to an id and to the server's address: `wifi_sync_init` with its loads
  from NVS, the search for the server by UDP broadcast, `wifi_sync_connect_to_server` with the
  compiled-in address `SERVER_IP` as its fallback, and `wifi_sync_take_id_change`. A connection
  that succeeds leaves a resolved address, and one that fails leaves none
  (`wifiSyncConnectToServer_cases`).
-/

namespace IndoorLogger

/-- The values of `esp_err_t` that are used by name, and the others. -/
inductive EspErr where
  | ok
  | fail
  | notFound
  | timeout
  | other (code : Int)
  deriving DecidableEq

/-! ## wifi_sync_init -/

/-- Which NVS calls of `wifi_sync_init` fail. A stored string that does not fit is a failed
    `nvs_get_str`. -/
structure SyncInitIo where
  openId : Bool := false
  getId : Bool := false
  saveId : Bool := false
  openName : Bool := false
  getName : Bool := false
  openBasicMode : Bool := false
  getBasicMode : Bool := false

namespace DeviceMemory

/-- The id that `wifi_sync_init` is given. -/
def takeFallbackId (fallback : List UInt8) (m : DeviceMemory) : DeviceMemory :=
  { m with clientId := (m.clientId.strncpy fallback).terminate }

/-- `load_client_id_from_nvs` into `s_client_id`. An id that comes from the fallback is saved,
    unless NVS cannot be opened at all. -/
def loadClientIdFromNvs (io : SyncInitIo) (fallback : List UInt8) (m : DeviceMemory) :
    DeviceMemory :=
  if io.openId then m.takeFallbackId fallback
  else
    match nvsGet io.getId m.nvs.id with
    | none => (m.takeFallbackId fallback).saveClientIdToNvs io.saveId
    | some id =>
      let m := { m with clientId := m.clientId.setString id }
      if m.clientId.bytes.head? ≠ some 0 then m
      else (m.takeFallbackId fallback).saveClientIdToNvs io.saveId

def loadAssignedNameFromNvs (io : SyncInitIo) (m : DeviceMemory) : DeviceMemory :=
  if io.openName then m
  else
    match nvsGet io.getName m.nvs.name with
    | some name => { m with assignedName := m.assignedName.setString name }
    | none => m

def loadBasicModeFromNvs (io : SyncInitIo) (m : DeviceMemory) : DeviceMemory :=
  if io.openBasicMode then m
  else
    match nvsGet io.getBasicMode m.nvs.basicMode with
    | some val => { m with basicMode := val }
    | none => m

/-- The assignments of `wifi_sync_init`. -/
def reset (m : DeviceMemory) : DeviceMemory :=
  { m with
    serverIp := m.serverIp.clear
    ipResolved := false
    assignedName := m.assignedName.clear
    syncIntervalSec := 600
    basicMode := true
    idChanged := false
    newId := m.newId.clear }

end DeviceMemory

/-- `wifi_sync_init`. `serverIp` is the macro `SERVER_IP`, where it is defined; its copy has no
    terminator of its own. -/
def wifiSyncInit (serverIp : Option (List UInt8)) (io : SyncInitIo) (clientId : List UInt8)
    (m : DeviceMemory) : DeviceMemory × EspErr :=
  let m := m.loadClientIdFromNvs io clientId
  let m := m.reset
  let m := m.loadAssignedNameFromNvs io
  let m := m.loadBasicModeFromNvs io
  match serverIp with
  | some ip =>
    let m := { m with serverIp := m.serverIp.strncpy ip, ipResolved := true }
    (m.printUrl, .ok)
  | none => (m, .ok)

/-! ## wifi_sync_discover_server -/

/-- What happens to one broadcast: whether it cannot be sent, and what `recvfrom` then has
    received, nothing on a timeout or an error. -/
structure ProbeIo where
  sendFails : Bool := false
  datagram : List UInt8 := []

structure DiscoverIo where
  socketFails : Bool := false
  probe : Nat → ProbeIo

/-- The address in an answer. Received into 63 bytes, it is the text behind the keyword up to
    the first end of a line. -/
def responseIp (datagram : List UInt8) : Option (List UInt8) :=
  let buf := cString (datagram.take 63)
  if ascii "AIRMON_RESPONSE " <+: buf then
    let ip := buf.drop 16
    let ip := ip.takeWhile (· != 10)
    let ip := ip.takeWhile (· != 13)
    some ip
  else none

/-- The loop over the probes, `left` of them still to be made. -/
def probeServer (probe : Nat → ProbeIo) : Nat → Nat → Except EspErr (List UInt8)
  | 0, _ => .error .timeout
  | left + 1, p =>
    if (probe p).sendFails then .error .fail
    else
      match responseIp (probe p).datagram with
      | some ip => .ok ip
      | none => probeServer probe left (p + 1)

/-- `wifi_sync_discover_server`. The copy of the address has no terminator of its own. -/
def wifiSyncDiscoverServer (io : DiscoverIo) (m : DeviceMemory) : DeviceMemory × EspErr :=
  if io.socketFails then (m, .fail)
  else
    match probeServer io.probe 3 0 with
    | .ok ip =>
      let m := { m with serverIp := m.serverIp.strncpy ip, ipResolved := true }
      (m.printUrl, .ok)
    | .error err => (m, err)

/-! ## wifi_sync_connect_to_server -/

/-- What `wifi_manager_init_sta_dual` returns, the answers of `wifi_manager_is_connected` in
    the order of its calls, and the search that follows. -/
structure ConnectIo where
  initResult : EspErr
  isConnected : Nat → Bool
  discover : DiscoverIo

/-- The wait for the connection: the number of the call that ends it. `left` rounds are left;
    without one the call is made and its answer does not matter. -/
def waitConnected (isConnected : Nat → Bool) : Nat → Nat → Nat
  | 0, retry => retry
  | left + 1, retry =>
    if isConnected retry then retry else waitConnected isConnected left (retry + 1)

/-- `wifi_sync_connect_to_server`. -/
def wifiSyncConnectToServer (serverIp : Option (List UInt8)) (io : ConnectIo)
    (m : DeviceMemory) : DeviceMemory × EspErr :=
  let m := { m with ipResolved := false }
  if io.initResult ≠ .ok then (m, io.initResult)
  else
    let retry := waitConnected io.isConnected 30 0
    if !io.isConnected (retry + 1) then (m, .timeout)
    else
      let found := wifiSyncDiscoverServer io.discover m
      if found.2 ≠ .ok then
        match serverIp with
        | some ip =>
          let m := found.1
          let m := { m with serverIp := (m.serverIp.strncpy ip).terminate, ipResolved := true }
          (m.printUrl, .ok)
        | none => (found.1, .notFound)
      else (found.1, .ok)

/-! ## wifi_sync_take_id_change -/

/-- `wifi_sync_take_id_change` into `outSz` bytes. -/
def wifiSyncTakeIdChange (outSz : Nat) (m : DeviceMemory) :
    DeviceMemory × Option (List UInt8) :=
  if !m.idChanged then (m, none)
  else ({ m with idChanged := false }, some ((cString m.newId.bytes).take (outSz - 1)))

/-! ## The start -/

namespace DeviceMemory

variable (io : SyncInitIo) (m : DeviceMemory)

/-- The address `ip` taken over, and the URL printed for it. -/
def resolved (ip : List UInt8) : DeviceMemory :=
  printUrl { m with serverIp := m.serverIp.strncpy ip, ipResolved := true }

theorem ipResolved_loadAssignedNameFromNvs :
    (m.loadAssignedNameFromNvs io).ipResolved = m.ipResolved := by
  unfold loadAssignedNameFromNvs
  split
  · rfl
  · split
    · rfl
    · rfl

theorem ipResolved_loadBasicModeFromNvs :
    (m.loadBasicModeFromNvs io).ipResolved = m.ipResolved := by
  unfold loadBasicModeFromNvs
  split
  · rfl
  · split
    · rfl
    · rfl

end DeviceMemory

/-- The start leaves no address but the one that is compiled in. -/
theorem wifiSyncInit_cases (serverIp : Option (List UInt8)) (io : SyncInitIo)
    (clientId : List UInt8) (m : DeviceMemory) :
    ∃ m' : DeviceMemory, m'.ipResolved = false ∧
      wifiSyncInit serverIp io clientId m = (serverIp.elim m' m'.resolved, .ok) := by
  refine ⟨((m.loadClientIdFromNvs io clientId).reset.loadAssignedNameFromNvs
    io).loadBasicModeFromNvs io, ?_, ?_⟩
  · rw [DeviceMemory.ipResolved_loadBasicModeFromNvs,
      DeviceMemory.ipResolved_loadAssignedNameFromNvs]
    rfl
  · unfold wifiSyncInit
    cases serverIp with
    | some ip => rfl
    | none => rfl

/-! ## What a search and a connection can do -/

theorem probeServer_error {probe : Nat → ProbeIo} {left p : Nat} {err : EspErr}
    (h : probeServer probe left p = .error err) : err ≠ .ok := by
  induction left generalizing p with
  | zero =>
    rw [probeServer] at h
    cases h
    nofun
  | succ left ih =>
    rw [probeServer] at h
    split at h
    · cases h
      nofun
    · split at h
      · cases h
      · exact ih h

/-- A search finds an address, or it fails and changes nothing. -/
theorem wifiSyncDiscoverServer_cases (io : DiscoverIo) (m : DeviceMemory) :
    (∃ ip, wifiSyncDiscoverServer io m = (m.resolved ip, .ok)) ∨
    ∃ err, err ≠ .ok ∧ wifiSyncDiscoverServer io m = (m, err) := by
  unfold wifiSyncDiscoverServer
  by_cases hsocket : io.socketFails = true
  · rw [if_pos hsocket]
    exact .inr ⟨.fail, nofun, rfl⟩
  · rw [if_neg hsocket]
    cases hprobe : probeServer io.probe 3 0 with
    | ok ip => exact .inl ⟨ip, rfl⟩
    | error err => exact .inr ⟨err, probeServer_error hprobe, rfl⟩

/-- A connection ends with an address, found or compiled in, or it fails without one. -/
theorem wifiSyncConnectToServer_cases (serverIp : Option (List UInt8)) (io : ConnectIo)
    (m : DeviceMemory) :
    (∃ ip, wifiSyncConnectToServer serverIp io m =
      (({ m with ipResolved := false } : DeviceMemory).resolved ip, .ok)) ∨
    ∃ err, err ≠ .ok ∧
      wifiSyncConnectToServer serverIp io m = ({ m with ipResolved := false }, err) := by
  unfold wifiSyncConnectToServer
  by_cases hinit : io.initResult = .ok
  · dsimp only
    rw [if_neg (not_not.mpr hinit)]
    by_cases hconnected : io.isConnected (waitConnected io.isConnected 30 0 + 1) = true
    · rw [if_neg (by rw [hconnected]; decide)]
      obtain ⟨ip, hfound⟩ | ⟨err, herr, hfound⟩ :=
        wifiSyncDiscoverServer_cases io.discover { m with ipResolved := false }
      · rw [hfound, if_neg (not_not.mpr rfl)]
        exact .inl ⟨ip, rfl⟩
      · rw [hfound, if_pos herr]
        cases serverIp with
        | some ip =>
          dsimp only
          rw [CharArray.terminate_eq]
          exact .inl ⟨ip, rfl⟩
        | none => exact .inr ⟨.notFound, nofun, rfl⟩
    · rw [if_pos (by rw [Bool.eq_false_iff.mpr hconnected]; rfl)]
      exact .inr ⟨.timeout, nofun, rfl⟩
  · dsimp only
    rw [if_pos hinit]
    exact .inr ⟨io.initResult, hinit, rfl⟩

end IndoorLogger
