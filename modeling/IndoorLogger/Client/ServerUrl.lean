import IndoorLogger.Lib.CachedValue
import IndoorLogger.Lib.Machine
import IndoorLogger.Client.ServerConnection

/-
  The URL of the uploads is a cached value: the key is the server's address and the client's
  id, the flag is `s_ip_resolved`. Each function that writes one of them is a sequence of steps
  of `CachedValue`, so after any calls a resolved URL is the one for the present address and id
  (`serverUrl_current`). It is never cut: the parts have at most 68 bytes together.
-/

namespace IndoorLogger

open CachedValue Machine

/-! ## The URL -/

/-- The URL fits into its array whatever the address and the id are. -/
theorem Device.uploadUrl_bytes (serverIp : CStr 16) (clientId : CStr 32) :
    (uploadUrl serverIp clientId).bytes =
      ascii "http://" ++ serverIp.bytes ++ (ascii "/api/upload?id=" ++ clientId.bytes) := by
  have hip := serverIp.fits
  have hid := clientId.fits
  have hhttp : (ascii "http://").length = 7 := by decide
  have hpath : (ascii "/api/upload?id=").length = 15 := by decide
  have hnoNul : (0 : UInt8) ∉
      ascii "http://" ++ serverIp.bytes ++ (ascii "/api/upload?id=" ++ clientId.bytes) := by
    have hhttp0 : (0 : UInt8) ∉ ascii "http://" := by decide
    have hpath0 : (0 : UInt8) ∉ ascii "/api/upload?id=" := by decide
    simp only [List.mem_append, hhttp0, hpath0, serverIp.noNul, clientId.noNul, or_self,
      not_false_eq_true]
  have hbytes : (uploadUrl serverIp clientId).bytes =
      (cString (ascii "http://" ++ serverIp.bytes ++
        (ascii "/api/upload?id=" ++ clientId.bytes))).take 127 := rfl
  rw [hbytes, cString_of_noNul hnoNul]
  refine List.take_of_length_le ?_
  simp only [List.length_append, hhttp, hpath]
  omega

/-- A URL that may be used is the one for the present address and id, uncut. -/
def UrlCurrent (m : DeviceMemory) : Prop :=
  m.ipResolved = true →
    cString m.serverUrl.bytes =
      ascii "http://" ++ cString m.serverIp.bytes ++
        (ascii "/api/upload?id=" ++ cString m.clientId.bytes) ∧
    (cString m.serverIp.bytes).length ≤ 15 ∧ (cString m.clientId.bytes).length ≤ 31

instance (m : DeviceMemory) : Decidable (UrlCurrent m) := inferInstanceAs (Decidable (_ → _))

/-! ## The cache -/

/-- The value that belongs to an address and an id. -/
def urlOf (key : CStr 16 × CStr 32) : CStr 128 := Device.uploadUrl key.1 key.2

/-- The four variables as a cached value. -/
def Device.urlCache (d : Device) : Cached (CStr 16 × CStr 32) (CStr 128) where
  key := (d.serverIp, d.clientId)
  value := d.serverUrl
  valid := d.ipResolved

theorem urlCurrent_of_current {m : DeviceMemory} (h : Current urlOf m.view.urlCache) :
    UrlCurrent m := by
  intro hresolved
  have hvalue : m.serverUrl.toCStr = Device.uploadUrl m.serverIp.toCStr m.clientId.toCStr :=
    h hresolved
  have hip := m.serverIp.toCStr.fits
  have hid := m.clientId.toCStr.fits
  rw [CharArray.toCStr_bytes] at hip hid
  refine ⟨?_, by omega, by omega⟩
  calc cString m.serverUrl.bytes
      = m.serverUrl.toCStr.bytes := rfl
    _ = (Device.uploadUrl m.serverIp.toCStr m.clientId.toCStr).bytes := by rw [hvalue]
    _ = _ := Device.uploadUrl_bytes _ _

/-! ## What each function does to the cache -/

/-- An address that is taken over is a key that is filled in. -/
theorem urlCache_resolved (m : DeviceMemory) (ip : List UInt8) : (m.resolved ip).view.urlCache =
    CachedValue.apply urlOf m.view.urlCache (.fill (CStr.strncpy ip, m.view.clientId)) := by
  rw [DeviceMemory.resolved, DeviceMemory.view_printUrl]
  simp only [DeviceMemory.view, CharArray.toCStr_strncpy]
  rfl

/-- The start leaves a current URL, or none, whatever it finds. -/
theorem current_init (serverIp : Option (List UInt8)) (io : SyncInitIo) (clientId : List UInt8)
    (m : DeviceMemory) :
    Current urlOf (wifiSyncInit serverIp io clientId m).1.view.urlCache := by
  obtain ⟨m', hresolved, h⟩ := wifiSyncInit_cases serverIp io clientId m
  rw [h]
  cases serverIp with
  | none => exact current_of_invalid hresolved
  | some ip =>
    rw [Option.elim_some, urlCache_resolved]
    exact current_apply _ _

theorem maintains_discover (io : DiscoverIo) (m : DeviceMemory) :
    Maintains urlOf m.view.urlCache (wifiSyncDiscoverServer io m).1.view.urlCache := by
  obtain ⟨ip, h⟩ | ⟨err, -, h⟩ := wifiSyncDiscoverServer_cases io m
  · rw [h, urlCache_resolved]
    exact .step _
  · rw [h]
    exact .refl _

/-- The flag is dropped first, whatever comes of the connection. -/
theorem maintains_connect (serverIp : Option (List UInt8)) (io : ConnectIo) (m : DeviceMemory) :
    Maintains urlOf m.view.urlCache
      (wifiSyncConnectToServer serverIp io m).1.view.urlCache := by
  have hdrop : Maintains urlOf m.view.urlCache
      ({ m with ipResolved := false } : DeviceMemory).view.urlCache := .step .invalidate
  obtain ⟨ip, h⟩ | ⟨err, -, h⟩ := wifiSyncConnectToServer_cases serverIp io m
  · rw [h, urlCache_resolved]
    exact hdrop.trans (.step _)
  · rw [h]
    exact hdrop

namespace Device

variable (io : ApplyIo) (root : Json) (d : Device)

/-- A new id is a new key. -/
theorem maintains_applyId : Maintains urlOf d.urlCache (d.applyId io root).urlCache := by
  unfold applyId
  cases stringMember root "client_id" with
  | none => exact .refl _
  | some val =>
    by_cases hsame : val.take 32 = d.clientId.bytes
    · dsimp only
      rw [if_neg (not_not.mpr hsame)]
      exact .refl _
    · dsimp only
      rw [if_pos hsame]
      exact .step (.rekey (d.serverIp, CStr.strncpy val))

/-- The members of an answer but the id leave the four variables alone. -/
theorem maintains_applyServerConfig :
    Maintains urlOf d.urlCache (applyServerConfig io root d).urlCache := by
  obtain ⟨name, interval, mode, time, tz, nvs, heq⟩ := applyServerConfig_eq_applyId io root d
  rw [heq]
  exact maintains_applyId io root _

end Device

/-! ## Runs -/

/-- Calls of the client: those of `wifi_sync.c`, and the answers it applies. -/
inductive SyncCall where
  | init (io : SyncInitIo) (clientId : List UInt8)
  | discover (io : DiscoverIo)
  | connect (io : ConnectIo)
  | apply (io : ApplyIo) (root : Json)
  | takeIdChange (outSz : Nat)

def syncCall (serverIp : Option (List UInt8)) (m : DeviceMemory) : SyncCall → DeviceMemory × Unit
  | .init io clientId => ((wifiSyncInit serverIp io clientId m).1, ())
  | .discover io => ((wifiSyncDiscoverServer io m).1, ())
  | .connect io => ((wifiSyncConnectToServer serverIp io m).1, ())
  | .apply io root => (m.applyServerConfig io root, ())
  | .takeIdChange outSz => ((wifiSyncTakeIdChange outSz m).1, ())

theorem current_syncCall (serverIp : Option (List UInt8)) (m : DeviceMemory) (c : SyncCall)
    (h : Current urlOf m.view.urlCache) :
    Current urlOf (syncCall serverIp m c).1.view.urlCache := by
  cases c with
  | init io clientId => exact current_init serverIp io clientId m
  | discover io => exact (maintains_discover io m).current h
  | connect io => exact (maintains_connect serverIp io m).current h
  | apply io root =>
    have hview : (syncCall serverIp m (.apply io root)).1.view = applyServerConfig io root m.view :=
      m.view_applyServerConfig io root
    rw [hview]
    exact (Device.maintains_applyServerConfig io root m.view).current h
  | takeIdChange outSz =>
    have hview : (wifiSyncTakeIdChange outSz m).1.view.urlCache = m.view.urlCache := by
      unfold wifiSyncTakeIdChange
      cases m.idChanged with
      | false => rfl
      | true => rfl
    exact hview ▸ h

/-- After `wifi_sync_init` and in every state that calls then lead to, a resolved URL is the one
    for the present address and id. -/
theorem serverUrl_current (serverIp : Option (List UInt8)) (io : SyncInitIo)
    (clientId : List UInt8) (m : DeviceMemory) (cs : List SyncCall) :
    Always (syncCall serverIp) UrlCurrent (wifiSyncInit serverIp io clientId m).1 cs := by
  have hcurrent := always_of_step (current_syncCall serverIp) cs
    (current_init serverIp io clientId m)
  exact hcurrent.mono fun m' => urlCurrent_of_current

example :
    (final (syncCall none) (wifiSyncInit none {} (ascii "hall") (.boot ⟨none, none, none⟩)).1
      [.discover { probe := fun _ => { datagram := ascii "AIRMON_RESPONSE 10.0.0.2\n" } },
        .apply {} (.obj [(ascii "client_id", .str (ascii "attic"))])]).serverUrl.toCStr.bytes =
      ascii "http://10.0.0.2/api/upload?id=attic" := by
  decide +kernel

end IndoorLogger
