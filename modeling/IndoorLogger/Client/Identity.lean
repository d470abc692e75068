import IndoorLogger.Lib.Machine
import IndoorLogger.Lib.WriteThrough
import IndoorLogger.Client.ServerConnection

/-
  What the server assigns to a client, its id, name and mode, over runs with power cycles. An
  answer sets them in memory and saves them in the NVS namespace "client", `wifi_sync_init`
  loads them; each call of NVS may fail. An id that cannot be read is replaced by the compiled-in
  one, which is saved in its place. Each of the three is a value with a copy in flash
  (`WriteThrough`), and the client is who it was last told exactly in the runs in which no
  failing save or load makes a difference (`identity_kept_iff`).
-/

namespace IndoorLogger

open Machine WriteThrough

/-! ## Values with a copy in flash -/

/-- What the server assigned last. -/
structure Assignment where
  id : CStr 32
  name : CStr 32
  basicMode : Bool

/-- The truth value of a member of an answer. -/
def boolMember (root : Json) (name : String) : Option Bool :=
  (root.getObjectItem name).bind Json.bool?

/-- The assignment after an answer. -/
def Assignment.take (root : Json) (a : Assignment) : Assignment where
  id := (stringMember root "client_id").elim a.id CStr.strncpy
  name := (stringMember root "name").elim a.name CStr.strncpy
  basicMode := (boolMember root "basic_mode").getD a.basicMode

/-- The id that a start finds. -/
def startId (fallback : List UInt8) (nvs : ClientNvs) : CStr 32 :=
  (nvs.id.filter (· ≠ CStr.empty)).getD (CStr.strncpy fallback)

namespace Device

def idCell (fallback : List UInt8) (a : Assignment) (d : Device) : Cell (CStr 32) :=
  ⟨a.id, d.clientId, startId fallback d.nvs⟩

def nameCell (a : Assignment) (d : Device) : Cell (CStr 32) :=
  ⟨a.name, d.assignedName, d.nvs.name.getD CStr.empty⟩

def modeCell (a : Assignment) (d : Device) : Cell Bool :=
  ⟨a.basicMode, d.basicMode, d.nvs.basicMode.getD true⟩

/-! ## Answers -/

def idOp (io : ApplyIo) (root : Json) (d : Device) : Op (CStr 32) :=
  match stringMember root "client_id" with
  | some val =>
    if val.take 32 ≠ d.clientId.bytes then .write (CStr.strncpy val) io.saveId
    else .confirm (CStr.strncpy val)
  | none => .keep

def nameOp (io : ApplyIo) (root : Json) : Op (CStr 32) :=
  match stringMember root "name" with
  | some val => .write (CStr.strncpy val) io.saveName
  | none => .keep

def modeOp (io : ApplyIo) (root : Json) (d : Device) : Op Bool :=
  match boolMember root "basic_mode" with
  | some newVal =>
    if newVal ≠ d.basicMode then .write newVal io.saveBasicMode else .confirm newVal
  | none => .keep

end Device

/-- A string of an answer holds no terminator and is not empty, nor is its copy. -/
theorem strncpy_stringMember_ne {root : Json} {name : String} {val : List UInt8}
    (h : stringMember root name = some val) : (CStr.strncpy val : CStr 32) ≠ CStr.empty := by
  obtain ⟨hbind, hne⟩ := Option.filter_eq_some_iff.mp h
  obtain ⟨item, -, hitem⟩ := Option.bind_eq_some_iff.mp hbind
  intro hempty
  have hbytes : (cString val).take 31 = [] := CStr.bytes_eq_nil.mpr hempty
  cases item with
  | str s =>
    cases hitem
    rw [cString_of_noNul (zero_notMem_cString s)] at hbytes
    exact of_decide_eq_true hne ((List.take_eq_nil_iff.mp hbytes).resolve_left (by decide))
  | _ => cases hitem

namespace Device

variable (io : ApplyIo) (root : Json) (fallback : List UInt8) (a : Assignment) (d : Device)

/-- An id that is the present one over the 32 bytes compared has the same copy. -/
theorem eq_of_idOp_confirm {v : CStr 32} (h : d.idOp io root = .confirm v) : v = d.clientId := by
  unfold idOp at h
  cases hval : stringMember root "client_id" with
  | none => rw [hval] at h; cases h
  | some val =>
    rw [hval] at h
    dsimp only at h
    split at h
    case isTrue => cases h
    case isFalse hsame =>
      cases h
      have htake : val.take 32 = d.clientId.bytes := not_not.mp hsame
      have hlen := congrArg List.length htake
      have hfits := d.clientId.fits
      rw [List.length_take] at hlen
      rw [List.take_of_length_le (by omega)] at htake
      rw [htake, CStr.strncpy_bytes]

theorem eq_of_modeOp_confirm {v : Bool} (h : d.modeOp io root = .confirm v) :
    v = d.basicMode := by
  unfold modeOp at h
  cases hval : boolMember root "basic_mode" with
  | none => rw [hval] at h; cases h
  | some newVal =>
    rw [hval] at h
    dsimp only at h
    split at h
    case isTrue => cases h
    case isFalse hsame =>
      cases h
      exact not_not.mp hsame

/-! ### Each member of an answer is one operation -/

theorem idCell_applyId :
    (d.applyId io root).idCell fallback (a.take root) =
      step (CStr.strncpy fallback) (d.idCell fallback a) (d.idOp io root) := by
  unfold applyId idOp
  cases hval : stringMember root "client_id" with
  | none => exact Cell.ext (congrArg (Option.elim · a.id CStr.strncpy) hval) rfl rfl
  | some val =>
    have hid : (a.take root).id = CStr.strncpy val :=
      congrArg (Option.elim · a.id CStr.strncpy) hval
    dsimp only
    split
    case isFalse => exact Cell.ext hid rfl rfl
    case isTrue =>
      refine Cell.ext hid rfl ?_
      cases io.saveId with
      | true => rfl
      | false =>
        have hne : decide ((CStr.strncpy val : CStr 32) ≠ CStr.empty) = true :=
          decide_eq_true (strncpy_stringMember_ne hval)
        exact congrArg (Option.getD · (CStr.strncpy fallback)) (if_pos hne)

theorem nameCell_applyName :
    (d.applyName io root).nameCell (a.take root) =
      step CStr.empty (d.nameCell a) (nameOp io root) := by
  unfold applyName nameOp
  cases hval : stringMember root "name" with
  | none => exact Cell.ext (congrArg (Option.elim · a.name CStr.strncpy) hval) rfl rfl
  | some val =>
    refine Cell.ext (congrArg (Option.elim · a.name CStr.strncpy) hval) rfl ?_
    cases io.saveName with
    | true => rfl
    | false => rfl

theorem modeCell_applyBasicMode :
    (d.applyBasicMode io root).modeCell (a.take root) =
      step true (d.modeCell a) (d.modeOp io root) := by
  unfold applyBasicMode modeOp
  cases hval : boolMember root "basic_mode" with
  | none =>
    have hnone : (root.getObjectItem "basic_mode").bind Json.bool? = none := hval
    rw [hnone]
    exact Cell.ext (congrArg (Option.getD · a.basicMode) hval) rfl rfl
  | some newVal =>
    have hsome : (root.getObjectItem "basic_mode").bind Json.bool? = some newVal := hval
    rw [hsome]
    dsimp only
    split
    case isFalse => exact Cell.ext (congrArg (Option.getD · a.basicMode) hval) rfl rfl
    case isTrue =>
      refine Cell.ext (congrArg (Option.getD · a.basicMode) hval) rfl ?_
      cases io.saveBasicMode with
      | true => rfl
      | false => rfl

/-- What the id's part of an answer leaves as it is. -/
theorem applyId_frame :
    (d.applyId io root).assignedName = d.assignedName ∧
      (d.applyId io root).basicMode = d.basicMode ∧
      (d.applyId io root).nvs.name = d.nvs.name ∧
      (d.applyId io root).nvs.basicMode = d.nvs.basicMode := by
  unfold applyId
  split
  · split
    · cases io.saveId with
      | true => exact ⟨rfl, rfl, rfl, rfl⟩
      | false => exact ⟨rfl, rfl, rfl, rfl⟩
    · exact ⟨rfl, rfl, rfl, rfl⟩
  · exact ⟨rfl, rfl, rfl, rfl⟩

theorem applyName_frame :
    (d.applyName io root).clientId = d.clientId ∧
      (d.applyName io root).basicMode = d.basicMode ∧
      (d.applyName io root).nvs.id = d.nvs.id ∧
      (d.applyName io root).nvs.basicMode = d.nvs.basicMode := by
  unfold applyName
  split
  · cases io.saveName with
    | true => exact ⟨rfl, rfl, rfl, rfl⟩
    | false => exact ⟨rfl, rfl, rfl, rfl⟩
  · exact ⟨rfl, rfl, rfl, rfl⟩

theorem applyBasicMode_frame :
    (d.applyBasicMode io root).clientId = d.clientId ∧
      (d.applyBasicMode io root).assignedName = d.assignedName ∧
      (d.applyBasicMode io root).nvs.id = d.nvs.id ∧
      (d.applyBasicMode io root).nvs.name = d.nvs.name := by
  unfold applyBasicMode
  split
  · split
    · cases io.saveBasicMode with
      | true => exact ⟨rfl, rfl, rfl, rfl⟩
      | false => exact ⟨rfl, rfl, rfl, rfl⟩
    · exact ⟨rfl, rfl, rfl, rfl⟩
  · exact ⟨rfl, rfl, rfl, rfl⟩

/-- An answer is one operation on each of the three and its copy. -/
theorem cells_applyServerConfig :
    (applyServerConfig io root d).idCell fallback (a.take root) =
        step (CStr.strncpy fallback) (d.idCell fallback a) (d.idOp io root) ∧
      (applyServerConfig io root d).nameCell (a.take root) =
        step CStr.empty (d.nameCell a) (nameOp io root) ∧
      (applyServerConfig io root d).modeCell (a.take root) =
        step true (d.modeCell a) (d.modeOp io root) := by
  obtain ⟨time, hts⟩ := applyTimestamp_eq root d
  obtain ⟨interval, hsync⟩ := applySyncInterval_eq root { d with timeOfDay := time }
  let d₂ : Device := { d with
    timeOfDay := time
    syncIntervalSec := interval }
  obtain ⟨tz, htz⟩ := applyTimezone_eq root (d₂.applyName io root)
  let d₄ : Device := { d₂.applyName io root with tz := tz }
  have happly : applyServerConfig io root d = (d₄.applyBasicMode io root).applyId io root := by
    unfold applyServerConfig
    dsimp only
    rw [hts, hsync, htz]
  obtain ⟨hid₃, hmode₃, hnvsId₃, hnvsMode₃⟩ := applyName_frame io root d₂
  obtain ⟨hid₅, hname₅, hnvsId₅, hnvsName₅⟩ := applyBasicMode_frame io root d₄
  obtain ⟨hname₆, hmode₆, hnvsName₆, hnvsMode₆⟩ :=
    applyId_frame io root (d₄.applyBasicMode io root)
  have hid : (d₄.applyBasicMode io root).clientId = d.clientId := hid₅.trans hid₃
  have hmode : d₄.basicMode = d.basicMode := hmode₃
  rw [happly]
  refine ⟨?_, ?_, ?_⟩
  · have hcell : (d₄.applyBasicMode io root).idCell fallback a = d.idCell fallback a := by
      unfold idCell startId
      rw [hid, hnvsId₅.trans hnvsId₃]
    have hop : (d₄.applyBasicMode io root).idOp io root = d.idOp io root := by
      unfold idOp
      rw [hid]
    rw [idCell_applyId, hcell, hop]
  · have hcell : ((d₄.applyBasicMode io root).applyId io root).nameCell (a.take root) =
        (d₂.applyName io root).nameCell (a.take root) := by
      unfold nameCell
      rw [hname₆, hnvsName₆, hname₅, hnvsName₅]
    rw [hcell, nameCell_applyName]
    rfl
  · have hlast : ((d₄.applyBasicMode io root).applyId io root).modeCell (a.take root) =
        (d₄.applyBasicMode io root).modeCell (a.take root) := by
      unfold modeCell
      rw [hmode₆, hnvsMode₆]
    have hcell : d₄.modeCell a = d.modeCell a := by
      have hnvs : d₄.nvs.basicMode = d.nvs.basicMode := hnvsMode₃
      unfold modeCell
      rw [hmode, hnvs]
    have hop : d₄.modeOp io root = d.modeOp io root := by
      unfold modeOp
      rw [hmode]
    rw [hlast, modeCell_applyBasicMode, hcell, hop]

end Device

/-! ## Starts -/

def bootIdOp (io : SyncInitIo) (nvs : ClientNvs) : Op (CStr 32) :=
  if io.openId then .boot true
  else
    match (nvsGet io.getId nvs.id).filter (· ≠ CStr.empty) with
    | some _ => .boot false
    | none => .reset io.saveId

def bootNameOp (io : SyncInitIo) : Op (CStr 32) := .boot (io.openName || io.getName)

def bootModeOp (io : SyncInitIo) : Op Bool := .boot (io.openBasicMode || io.getBasicMode)

namespace DeviceMemory

variable (io : SyncInitIo) (m : DeviceMemory)

theorem loadAssignedNameFromNvs_eq :
    ∃ name : CharArray 32, m.loadAssignedNameFromNvs io = { m with assignedName := name } ∧
      name.toCStr = ((if io.openName || io.getName then none else m.nvs.name).getD
        m.assignedName.toCStr) := by
  unfold loadAssignedNameFromNvs nvsGet
  cases io.openName with
  | true => exact ⟨m.assignedName, rfl, rfl⟩
  | false =>
    cases io.getName with
    | true => exact ⟨m.assignedName, rfl, rfl⟩
    | false =>
      cases m.nvs.name with
      | none => exact ⟨m.assignedName, rfl, rfl⟩
      | some name => exact ⟨_, rfl, CharArray.toCStr_setString _ name⟩

theorem loadBasicModeFromNvs_eq :
    m.loadBasicModeFromNvs io =
      { m with
        basicMode := (if io.openBasicMode || io.getBasicMode then none
          else m.nvs.basicMode).getD m.basicMode } := by
  unfold loadBasicModeFromNvs nvsGet
  cases io.openBasicMode with
  | true => rfl
  | false =>
    cases io.getBasicMode with
    | true => rfl
    | false =>
      cases hmode : m.nvs.basicMode with
      | none => simp only [Bool.false_eq_true, if_false, Bool.or_self, Option.getD_none]
      | some val => rfl

/-- An id that cannot be read is replaced, in flash too where that works. -/
theorem saveFallbackId_eq (fallback : List UInt8) (saveFails : Bool)
    (wanted cur : CStr 32) (found : CharArray 32) :
    ∃ (id : CharArray 32) (stored : Option (CStr 32)),
      (({ m with clientId := found } : DeviceMemory).takeFallbackId
          fallback).saveClientIdToNvs saveFails =
        { m with
          clientId := id
          nvs := { m.nvs with id := stored } } ∧
      (⟨wanted, id.toCStr, startId fallback { m.nvs with id := stored }⟩ : Cell (CStr 32)) =
        step (CStr.strncpy fallback) ⟨wanted, cur, startId fallback m.nvs⟩
          (.reset saveFails) := by
  have hid : (found.strncpy fallback).terminate.toCStr = CStr.strncpy fallback := by
    rw [CharArray.terminate_eq, CharArray.toCStr_strncpy]
  cases saveFails with
  | true => exact ⟨(found.strncpy fallback).terminate, m.nvs.id, rfl, Cell.ext rfl hid rfl⟩
  | false =>
    refine ⟨(found.strncpy fallback).terminate, some (CStr.strncpy fallback), ?_,
      Cell.ext rfl hid ?_⟩
    · rw [← hid]
      rfl
    · -- an empty id in flash counts as none
      unfold startId
      cases hempty : decide ((CStr.strncpy fallback : CStr 32) ≠ CStr.empty) with
      | true => exact congrArg (Option.getD · _) (if_pos hempty)
      | false => exact congrArg (Option.getD · _) (if_neg (Bool.eq_false_iff.mp hempty))

/-- The load of the id is a boot, or a reset to the given id, which is then saved. -/
theorem loadClientIdFromNvs_eq (fallback : List UInt8) (wanted cur : CStr 32) :
    ∃ (id : CharArray 32) (stored : Option (CStr 32)),
      m.loadClientIdFromNvs io fallback =
        { m with
          clientId := id
          nvs := { m.nvs with id := stored } } ∧
      (⟨wanted, id.toCStr, startId fallback { m.nvs with id := stored }⟩ : Cell (CStr 32)) =
        step (CStr.strncpy fallback) ⟨wanted, cur, startId fallback m.nvs⟩
          (bootIdOp io m.nvs) := by
  unfold loadClientIdFromNvs bootIdOp
  cases io.openId with
  | true =>
    have hid : (m.clientId.strncpy fallback).terminate.toCStr = CStr.strncpy fallback := by
      rw [CharArray.terminate_eq, CharArray.toCStr_strncpy]
    exact ⟨_, m.nvs.id, rfl, Cell.ext rfl hid rfl⟩
  | false =>
    cases hget : nvsGet io.getId m.nvs.id with
    | none => exact saveFallbackId_eq m fallback io.saveId wanted cur m.clientId
    | some id =>
      have hstored : m.nvs.id = some id := by
        unfold nvsGet at hget
        split at hget
        case isTrue => cases hget
        case isFalse => exact hget
      by_cases hempty : id = CStr.empty
      · have hhead : ¬(m.clientId.setString id).bytes.head? ≠ some 0 :=
          not_not.mpr ((CharArray.head?_setString m.clientId id).mpr hempty)
        have hop : (some id).filter (· ≠ CStr.empty) = none := if_neg (by simp [hempty])
        rw [hop]
        dsimp only
        rw [if_neg hhead]
        exact saveFallbackId_eq m fallback io.saveId wanted cur _
      · have hhead : (m.clientId.setString id).bytes.head? ≠ some 0 :=
          fun h => hempty ((CharArray.head?_setString _ id).mp h)
        have hop : (some id).filter (· ≠ CStr.empty) = some id := if_pos (by simp [hempty])
        have hstart : startId fallback m.nvs = id := by
          rw [startId, hstored, hop, Option.getD_some]
        rw [hop]
        refine ⟨m.clientId.setString id, m.nvs.id, if_pos hhead, Cell.ext rfl ?_ rfl⟩
        exact (CharArray.toCStr_setString _ id).trans hstart.symm

/-- The client after a power cycle: what flash holds, and `wifi_sync_init`. -/
def powerCycle (serverIp : Option (List UInt8)) (fallback : List UInt8) : DeviceMemory :=
  (wifiSyncInit serverIp io fallback (boot m.nvs)).1

/-- A power cycle is one operation on each of the three and its copy. -/
theorem cells_powerCycle (serverIp : Option (List UInt8)) (fallback : List UInt8)
    (a : Assignment) :
    (m.powerCycle io serverIp fallback).view.idCell fallback a =
        step (CStr.strncpy fallback) (m.view.idCell fallback a) (bootIdOp io m.nvs) ∧
      (m.powerCycle io serverIp fallback).view.nameCell a =
        step CStr.empty (m.view.nameCell a) (bootNameOp io) ∧
      (m.powerCycle io serverIp fallback).view.modeCell a =
        step true (m.view.modeCell a) (bootModeOp io) := by
  obtain ⟨id, stored, hload, hid⟩ :=
    loadClientIdFromNvs_eq io (boot m.nvs) fallback a.id m.clientId.toCStr
  let m₂ : DeviceMemory := ((boot m.nvs).loadClientIdFromNvs io fallback).reset
  obtain ⟨name, hname, hnameStr⟩ := loadAssignedNameFromNvs_eq io m₂
  have hnvs : m₂.nvs = { m.nvs with id := stored } := congrArg nvs hload
  have hid₂ : m₂.clientId = id := congrArg clientId hload
  have hempty : m₂.assignedName.toCStr = CStr.empty := CharArray.toCStr_setString _ _
  let m₄ : DeviceMemory := { m₂ with
    assignedName := name
    basicMode := (if io.openBasicMode || io.getBasicMode then none
      else m₂.nvs.basicMode).getD true }
  have hview : ∃ url ip resolved, (m.powerCycle io serverIp fallback).view =
      { m₄.view with
        serverUrl := url
        serverIp := ip
        ipResolved := resolved } := by
    have hloads : (m₂.loadAssignedNameFromNvs io).loadBasicModeFromNvs io = m₄ := by
      rw [hname, loadBasicModeFromNvs_eq]
      rfl
    unfold powerCycle wifiSyncInit
    dsimp only
    rw [hloads]
    cases serverIp with
    | none => exact ⟨_, _, _, rfl⟩
    | some ip => exact ⟨_, _, _, rfl⟩
  obtain ⟨url, ip, resolved, hview⟩ := hview
  have hstored : m₂.nvs.name = m.nvs.name ∧ m₂.nvs.basicMode = m.nvs.basicMode := by
    rw [hnvs]
    exact ⟨rfl, rfl⟩
  rw [hview]
  refine ⟨?_, ?_, ?_⟩
  · have hcell : m₄.view.idCell fallback a =
        ⟨a.id, id.toCStr, startId fallback { m.nvs with id := stored }⟩ :=
      Cell.ext rfl (congrArg CharArray.toCStr hid₂) (congrArg (startId fallback) hnvs)
    exact Eq.trans hcell hid
  · refine Cell.ext rfl ?_ (congrArg (Option.getD · _) hstored.1)
    refine hnameStr.trans ?_
    rw [hempty, hstored.1]
    exact apply_ite (Option.getD · CStr.empty) _ _ _
  · refine Cell.ext rfl ?_ (congrArg (Option.getD · _) hstored.2)
    have hmode : m₄.basicMode = (if io.openBasicMode || io.getBasicMode then none
        else m.nvs.basicMode).getD true := by
      rw [← hstored.2]
    exact hmode.trans (apply_ite (Option.getD · true) _ _ _)

/-- A connection leaves the three and their copies alone. -/
theorem cells_connect (serverIp : Option (List UInt8)) (connect : ConnectIo)
    (fallback : List UInt8) (a : Assignment) :
    (wifiSyncConnectToServer serverIp connect m).1.view.idCell fallback a =
        m.view.idCell fallback a ∧
      (wifiSyncConnectToServer serverIp connect m).1.view.nameCell a = m.view.nameCell a ∧
      (wifiSyncConnectToServer serverIp connect m).1.view.modeCell a = m.view.modeCell a := by
  obtain ⟨ip, h⟩ | ⟨err, -, h⟩ := wifiSyncConnectToServer_cases serverIp connect m
  · rw [h]
    exact ⟨rfl, rfl, rfl⟩
  · rw [h]
    exact ⟨rfl, rfl, rfl⟩

theorem cells_takeIdChange (outSz : Nat) (fallback : List UInt8) (a : Assignment) :
    (wifiSyncTakeIdChange outSz m).1.view.idCell fallback a = m.view.idCell fallback a ∧
      (wifiSyncTakeIdChange outSz m).1.view.nameCell a = m.view.nameCell a ∧
      (wifiSyncTakeIdChange outSz m).1.view.modeCell a = m.view.modeCell a := by
  unfold wifiSyncTakeIdChange
  split
  · exact ⟨rfl, rfl, rfl⟩
  · exact ⟨rfl, rfl, rfl⟩

end DeviceMemory

/-! ## Runs -/

/-- An answer that is applied, another call of `wifi_sync.c`, or a power cycle. -/
inductive IdentityEvent where
  | reply (io : ApplyIo) (root : Json)
  | connect (io : ConnectIo)
  | takeIdChange (outSz : Nat)
  | powerCycle (io : SyncInitIo)

/-- The client, and what it was last assigned. -/
structure Assigned where
  memory : DeviceMemory
  assignment : Assignment

/-- `serverIp` is the macro `SERVER_IP`, where it is defined, and `fallback` the id that
    `wifi_sync_init` is given. -/
def assignedStep (serverIp : Option (List UInt8)) (fallback : List UInt8) (w : Assigned) :
    IdentityEvent → Assigned × Unit
  | .reply io root => (⟨w.memory.applyServerConfig io root, w.assignment.take root⟩, ())
  | .connect io => (⟨(wifiSyncConnectToServer serverIp io w.memory).1, w.assignment⟩, ())
  | .takeIdChange outSz => (⟨(wifiSyncTakeIdChange outSz w.memory).1, w.assignment⟩, ())
  | .powerCycle io => (⟨w.memory.powerCycle io serverIp fallback, w.assignment⟩, ())

/-- A client at a start that can use its flash. -/
def firstStart (serverIp : Option (List UInt8)) (fallback : List UInt8) (nvs : ClientNvs) :
    Assigned :=
  let m := (DeviceMemory.boot nvs).powerCycle {} serverIp fallback
  ⟨m, m.view.clientId, m.view.assignedName, m.view.basicMode⟩

namespace Assigned

variable (serverIp : Option (List UInt8)) (fallback : List UInt8) (w : Assigned)

/-- A client shows and uses what it was assigned. -/
structure Follows (m : DeviceMemory) (a : Assignment) : Prop where
  id : m.view.clientId = a.id
  name : m.view.assignedName = a.name
  basicMode : m.view.basicMode = a.basicMode

/-- The client follows its assignment, and would after a power cycle with NVS calls that
    succeed. -/
def Kept : Prop :=
  Follows w.memory w.assignment ∧
    Follows (w.memory.powerCycle {} serverIp fallback) w.assignment

/-- What fails in the event makes no difference: the save of a value that flash holds, the load
    of one that is the default, or the replacement of an id that is the compiled-in one. -/
def LosesNothing : IdentityEvent → Prop
  | .reply io root =>
    Harmless (CStr.strncpy fallback) (w.memory.view.idCell fallback w.assignment)
        (w.memory.view.idOp io root) ∧
      Harmless CStr.empty (w.memory.view.nameCell w.assignment) (Device.nameOp io root) ∧
      Harmless true (w.memory.view.modeCell w.assignment) (w.memory.view.modeOp io root)
  | .connect _ => True
  | .takeIdChange _ => True
  | .powerCycle io =>
    Harmless (CStr.strncpy fallback) (w.memory.view.idCell fallback w.assignment)
        (bootIdOp io w.memory.nvs) ∧
      Harmless CStr.empty (w.memory.view.nameCell w.assignment) (bootNameOp io) ∧
      Harmless true (w.memory.view.modeCell w.assignment) (bootModeOp io)

theorem bootIdOp_ne_confirm {io : SyncInitIo} {nvs : ClientNvs} {v : CStr 32} :
    bootIdOp io nvs ≠ .confirm v := by
  intro h
  unfold bootIdOp at h
  split at h
  · cases h
  · split at h
    · cases h
    · cases h

theorem nameOp_ne_confirm {io : ApplyIo} {root : Json} {v : CStr 32} :
    Device.nameOp io root ≠ .confirm v := by
  intro h
  unfold Device.nameOp at h
  split at h
  · cases h
  · cases h

/-- A start that can use its flash takes the id that it finds there, or saves the given one. -/
theorem step_bootIdOp (nvs : ClientNvs) (wanted cur : CStr 32) :
    step (CStr.strncpy fallback) ⟨wanted, cur, startId fallback nvs⟩ (bootIdOp {} nvs) =
      ⟨wanted, startId fallback nvs, startId fallback nvs⟩ := by
  have hget : nvsGet false nvs.id = nvs.id := rfl
  unfold bootIdOp startId
  rw [hget]
  cases nvs.id.filter (· ≠ CStr.empty) with
  | none => rfl
  | some id => rfl

theorem kept_iff_cells :
    w.Kept serverIp fallback ↔
      WriteThrough.Kept (w.memory.view.idCell fallback w.assignment) ∧
        WriteThrough.Kept (w.memory.view.nameCell w.assignment) ∧
        WriteThrough.Kept (w.memory.view.modeCell w.assignment) := by
  obtain ⟨hid, hname, hmode⟩ :=
    w.memory.cells_powerCycle {} serverIp fallback w.assignment
  have hidCur : (w.memory.powerCycle {} serverIp fallback).view.clientId =
      startId fallback w.memory.nvs :=
    congrArg Cell.cur (hid.trans (step_bootIdOp fallback _ _ _))
  have hnameCur : (w.memory.powerCycle {} serverIp fallback).view.assignedName =
      w.memory.nvs.name.getD CStr.empty := congrArg Cell.cur hname
  have hmodeCur : (w.memory.powerCycle {} serverIp fallback).view.basicMode =
      w.memory.nvs.basicMode.getD true := congrArg Cell.cur hmode
  constructor
  · rintro ⟨hnow, hboot⟩
    exact ⟨⟨hnow.id, hidCur.symm.trans hboot.id⟩, ⟨hnow.name, hnameCur.symm.trans hboot.name⟩,
      hnow.basicMode, hmodeCur.symm.trans hboot.basicMode⟩
  · rintro ⟨hi, hn, hm⟩
    exact ⟨⟨hi.1, hn.1, hm.1⟩, hidCur.trans hi.2, hnameCur.trans hn.2, hmodeCur.trans hm.2⟩

/-- An event keeps the assignment exactly when what fails in it makes no difference. -/
theorem kept_assignedStep_iff (h : w.Kept serverIp fallback) (e : IdentityEvent) :
    (assignedStep serverIp fallback w e).1.Kept serverIp fallback ↔
      w.LosesNothing fallback e := by
  obtain ⟨hid, hname, hmode⟩ := (kept_iff_cells serverIp fallback w).mp h
  rw [kept_iff_cells]
  cases e with
  | reply io root =>
    obtain ⟨hi, hn, hm⟩ :=
      Device.cells_applyServerConfig io root fallback w.assignment w.memory.view
    rw [assignedStep, DeviceMemory.view_applyServerConfig, hi, hn, hm]
    exact and_congr
      (kept_step_iff hid fun v hv => Device.eq_of_idOp_confirm io root w.memory.view hv)
      (and_congr (kept_step_iff hname fun v hv => absurd hv nameOp_ne_confirm)
        (kept_step_iff hmode fun v hv => Device.eq_of_modeOp_confirm io root w.memory.view hv))
  | connect io =>
    obtain ⟨hi, hn, hm⟩ := w.memory.cells_connect serverIp io fallback w.assignment
    rw [assignedStep, hi, hn, hm]
    exact iff_of_true ⟨hid, hname, hmode⟩ trivial
  | takeIdChange outSz =>
    obtain ⟨hi, hn, hm⟩ := w.memory.cells_takeIdChange outSz fallback w.assignment
    rw [assignedStep, hi, hn, hm]
    exact iff_of_true ⟨hid, hname, hmode⟩ trivial
  | powerCycle io =>
    obtain ⟨hi, hn, hm⟩ := w.memory.cells_powerCycle io serverIp fallback w.assignment
    rw [assignedStep, hi, hn, hm]
    exact and_congr (kept_step_iff hid fun v hv => absurd hv bootIdOp_ne_confirm)
      (and_congr (kept_step_iff hname fun v hv => by cases hv)
        (kept_step_iff hmode fun v hv => by cases hv))

/-- The first start takes over what flash holds. -/
theorem kept_firstStart (nvs : ClientNvs) :
    (firstStart serverIp fallback nvs).Kept serverIp fallback := by
  obtain ⟨hid, hname, hmode⟩ := (DeviceMemory.boot nvs).cells_powerCycle {} serverIp fallback
    (firstStart serverIp fallback nvs).assignment
  have hcell := hid.trans (step_bootIdOp fallback nvs _ _)
  have hsaved := (congrArg Cell.saved hcell).trans (congrArg Cell.cur hcell).symm
  exact (kept_iff_cells serverIp fallback _).mpr ⟨⟨rfl, hsaved⟩,
    ⟨rfl, (congrArg Cell.saved hname).trans (congrArg Cell.cur hname).symm⟩,
    rfl, (congrArg Cell.saved hmode).trans (congrArg Cell.cur hmode).symm⟩

/-- An id is only empty where the given one is. -/
def Named (fallback : List UInt8) (w : Assigned) : Prop :=
  w.memory.view.clientId = CStr.empty → (CStr.strncpy fallback : CStr 32) = CStr.empty

theorem startId_empty {nvs : ClientNvs} (h : startId fallback nvs = CStr.empty) :
    (CStr.strncpy fallback : CStr 32) = CStr.empty := by
  unfold startId at h
  cases hid : nvs.id.filter (· ≠ CStr.empty) with
  | none =>
    rw [hid] at h
    exact h
  | some id =>
    rw [hid] at h
    exact absurd h (of_decide_eq_true (Option.filter_eq_some_iff.mp hid).2)

theorem named_assignedStep (h : w.Named fallback) (e : IdentityEvent) :
    (assignedStep serverIp fallback w e).1.Named fallback := by
  have hop : ∀ op : Op (CStr 32), (∀ v fails, op = .write v fails → v ≠ CStr.empty) →
      (assignedStep serverIp fallback w e).1.memory.view.idCell fallback
          (assignedStep serverIp fallback w e).1.assignment =
        step (CStr.strncpy fallback) (w.memory.view.idCell fallback w.assignment) op →
      (assignedStep serverIp fallback w e).1.Named fallback := by
    intro op hwrite hcell
    have hcur : (assignedStep serverIp fallback w e).1.memory.view.clientId =
        (step (CStr.strncpy fallback) (w.memory.view.idCell fallback w.assignment) op).cur :=
      congrArg Cell.cur hcell
    unfold Named
    rw [hcur]
    exact cur_step (c := w.memory.view.idCell fallback w.assignment)
      (P := fun v => v = CStr.empty → (CStr.strncpy fallback : CStr 32) = CStr.empty)
      id h (startId_empty fallback) fun v fails hv hempty => absurd hempty (hwrite v fails hv)
  cases e with
  | reply io root =>
    refine hop (w.memory.view.idOp io root) ?_ ?_
    · intro v fails hv
      unfold Device.idOp at hv
      cases hval : stringMember root "client_id" with
      | none =>
        rw [hval] at hv
        cases hv
      | some val =>
        rw [hval] at hv
        dsimp only at hv
        split at hv
        case isTrue =>
          cases hv
          exact strncpy_stringMember_ne hval
        case isFalse => cases hv
    · rw [assignedStep, DeviceMemory.view_applyServerConfig]
      exact (Device.cells_applyServerConfig io root fallback w.assignment w.memory.view).1
  | connect io =>
    exact hop .keep (fun v fails hv => by cases hv)
      (w.memory.cells_connect serverIp io fallback w.assignment).1
  | takeIdChange outSz =>
    exact hop .keep (fun v fails hv => by cases hv)
      (w.memory.cells_takeIdChange outSz fallback w.assignment).1
  | powerCycle io =>
    refine hop (bootIdOp io w.memory.nvs) ?_
      (w.memory.cells_powerCycle io serverIp fallback w.assignment).1
    intro v fails hv
    unfold bootIdOp at hv
    split at hv
    · cases hv
    · split at hv
      · cases hv
      · cases hv

end Assigned

/-- **A client stays who it was told to be.** Start a client on any flash content and let
    answers, connections and power cycles follow, whose NVS calls fail at any point. In every
    state reached its id, name and mode are those it was last assigned, and safe from a power
    cycle, exactly when no failing save or load of the run made a difference. In every run at
    all its id is only empty where the given one is. -/
theorem identity_kept_iff (serverIp : Option (List UInt8)) (fallback : List UInt8)
    (nvs : ClientNvs) (es : List IdentityEvent) :
    (Always (assignedStep serverIp fallback) (Assigned.Kept serverIp fallback)
        (firstStart serverIp fallback nvs) es ↔
      Meets (assignedStep serverIp fallback) (Assigned.LosesNothing fallback)
        (firstStart serverIp fallback nvs) es) ∧
      Always (assignedStep serverIp fallback) (Assigned.Named fallback)
        (firstStart serverIp fallback nvs) es := by
  constructor
  · exact always_iff_meets (J := fun _ => True) (G := fun _ _ => True)
      (fun _ _ _ _ _ _ => trivial)
      (fun w e _ h _ => Assigned.kept_assignedStep_iff serverIp fallback w h e)
      trivial (Assigned.kept_firstStart serverIp fallback nvs)
      (meets_of_forall fun _ _ _ => trivial)
  · refine always_of_step (fun w e h => Assigned.named_assignedStep serverIp fallback w h e) es ?_
    obtain ⟨hid, -, -⟩ := (DeviceMemory.boot nvs).cells_powerCycle {} serverIp fallback
      (firstStart serverIp fallback nvs).assignment
    have hcell := hid.trans (Assigned.step_bootIdOp fallback nvs _ _)
    exact fun hempty =>
      Assigned.startId_empty fallback ((congrArg Cell.cur hcell).symm.trans hempty)

end IndoorLogger
