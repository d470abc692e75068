import Mathlib.Logic.ExistsUnique
import IndoorLogger.Lib.JsonParse
import IndoorLogger.Server.Upload

/-
  A client is renamed from X to Y and its device goes on uploading, under X until it takes
  over the id of an answer. Nothing resolves X before the upload is stored and the registry
  updated, so the rename survives as long as no upload under X does either
  (`renamed_device_keeps_entry`).
-/

namespace IndoorLogger

open Machine

/-! ## The device -/

/-- An upload of the device; `delivered` when it takes over the id in the answer. -/
structure DeviceUpload where
  io : UploadIo
  clock : Nat → UInt32
  req : UploadRequest
  delivered : Bool

/-- `apply_server_config`, as far as it changes `s_client_id`. -/
def applyClientId (clientId : Id) : Response → Id
  | .upload reply => if reply.clientId.isEmpty then clientId else reply.clientId
  | _ => clientId

section

variable (cJSONParse : List UInt8 → Option Json) (gMax : UInt32)

/-- The server and the id of the device. -/
def deviceStep (st : ServerState × Id) (u : DeviceUpload) : (ServerState × Id) × Response :=
  let r := uploadPostHandler cJSONParse gMax u.io u.clock st.1 u.req
  ((r.1, if u.delivered then applyClientId st.2 r.2 else st.2), r.2)

/-- The device uploads under its id. -/
def UnderOwnId (st : ServerState × Id) (u : DeviceUpload) : Prop :=
  (queryParam u.req.uri "id" 32 : Id) = st.2

instance (st : ServerState × Id) (u : DeviceUpload) : Decidable (UnderOwnId st u) :=
  inferInstanceAs (Decidable (_ = _))

/-- What holds of the registry once X is renamed to Y: X is not registered, Y is, with its
    name and mode, and one entry in all is the device's. -/
structure RenameHolds (X Y : Id) (name : CStr 32) (basicMode : Bool) (s : ServerState) :
    Prop where
  old : clientRegistryGet s.reg X = none
  new : ∃ i, clientRegistryGet s.reg Y = some i ∧ (s.reg.client i).name = name
  mode : clientRegistryGetBasicMode s.reg Y = basicMode
  one : ∃! i, i < s.reg.clientCount ∧ ((s.reg.client i).id = X ∨ (s.reg.client i).id = Y)

/-- The records of an upload under X are the newest of Y's. -/
def StoredUnder (X Y : Id) (st : ServerState × Id) (u : DeviceUpload) : Prop :=
  st.2 = X → ∀ t ∈ uploadTarget cJSONParse u.io u.req,
    Newest (deviceStep cJSONParse gMax st u).1.1.fs Y (decodeItems u.clock 0 (uploadItems t.2))

/-- An upload under X that passes the checks has no reading to store, and finds the registry
    full and no entry bound to its address. -/
def LeavesNoTrace (X : Id) (st : ServerState × Id) (u : DeviceUpload) : Prop :=
  st.2 = X → ∀ t ∈ uploadTarget cJSONParse u.io u.req,
    (uploadItems t.2).any Json.isObject = false ∧
      st.1.reg.clientCount = clientRegistryMaxClients ∧ migrated st.1 X u.req.ip = none

instance (X : Id) (st : ServerState × Id) (u : DeviceUpload) :
    Decidable (LeavesNoTrace cJSONParse X st u) :=
  inferInstanceAs (Decidable (_ → ∀ t ∈ _, _ ∧ _ ∧ _))

end

/-! ## The map after the rename -/

variable {cJSONParse : List UInt8 → Option Json} {gMax : UInt32} {m : RegMap}

/-- X is renamed to Y in the map, and Y itself is not. -/
structure RegMap.Renamed (m : RegMap) (X Y : Id) (name : CStr 32) (basicMode : Bool) :
    Prop where
  old : X ∉ m.ids
  new : ∃ e, m.lookup Y = some e ∧ e.info.name = name ∧ e.basicMode = basicMode
  resolveOld : m.resolve X = Y
  resolveNew : m.resolve Y = Y

variable {X Y : Id} {name : CStr 32} {basicMode : Bool}

theorem RegMap.Renamed.mem (h : m.Renamed X Y name basicMode) : Y ∈ m.ids := by
  obtain ⟨e, he, -⟩ := h.new
  exact KeyedList.mem_keys_of_lookup he

theorem RegMap.Renamed.ne (h : m.Renamed X Y name basicMode) : X ≠ Y :=
  fun heq => h.old (heq ▸ h.mem)

theorem renameHolds_of_renamed {s : ServerState} (hm : s.reg.Lists m)
    (h : m.Renamed X Y name basicMode) : RenameHolds X Y name basicMode s := by
  obtain ⟨e, he, hname, hmode⟩ := h.new
  have hids : ∀ j, j < s.reg.clientCount → ∃ e', m.entries[j]? = some e' ∧
      (s.reg.client j).id = e'.id := by
    intro j hj
    rw [hm.clientCount] at hj
    have hget := List.getElem?_eq_getElem hj
    exact ⟨_, hget, congrArg ClientInfo.id (hm.client_eq hget)⟩
  rcases hm.get_cases Y with ⟨-, hn⟩ | ⟨i, e', hg, hi, hlt, hid, he'⟩
  · exact absurd h.mem hn
  · obtain rfl : e = e' := by
      rw [he] at he'
      exact Option.some.inj he'
    have hold : clientRegistryGet s.reg X = none := by
      rw [← Option.not_isSome_iff_eq_none, hm.isSome_get]
      exact h.old
    have hclient := hm.client_eq hi
    refine ⟨hold, ⟨i, hg, by rw [hclient, hname]⟩, ?_, i, ⟨by rw [hm.clientCount]; exact hlt, ?_⟩,
      fun j hj => ?_⟩
    · rw [getBasicMode_eq hm, he, ← hmode]
      rfl
    · rw [hclient]
      exact Or.inr hid
    · obtain ⟨hjlt, hj⟩ := hj
      obtain ⟨e', hej, hide⟩ := hids j hjlt
      rw [hide] at hj
      rcases hj with hj | hj
      · exact absurd (List.mem_map.mpr ⟨e', List.mem_of_getElem? hej, hj⟩) h.old
      · have hnd : (m.entries.map Entry.id)[j]? = (m.entries.map Entry.id)[i]? := by
          rw [List.getElem?_map, List.getElem?_map, hej, hi, Option.map_some, Option.map_some, hj,
            hid]
        rw [hm.clientCount] at hjlt
        exact (List.getElem?_inj (by rwa [List.length_map]) m.ids_nodup).mp hnd

theorem renamed_of_rename {e : Entry} {old : Id} (hc : m.CanRename old Y) (hX : old = X)
    (he : m.lookup X = some e) (hY : m.target Y = none) :
    (m.rename old Y hc).Renamed X Y e.info.name e.basicMode := by
  subst old
  obtain ⟨hYne, hne, -, hYn, hroom⟩ := id hc
  have hput : (m.rename X Y hc).mappings =
      KeyedList.put IdChangeMapping.oldId m.mappings ⟨X, Y⟩ := rfl
  have hentries : (m.rename X Y hc).entries = KeyedList.modify Entry.id m.entries X
      fun e => { e with info := { e.info with id := Y } } := rfl
  refine ⟨?_, ⟨{ e with info := { e.info with id := Y } }, ?_, rfl, rfl⟩, ?_, ?_⟩
  · rw [RegMap.mem_rename_ids]
    intro h'
    rcases h' with ⟨-, h⟩ | h
    · exact h rfl
    · exact hne h
  · have hmem : ({ e with info := { e.info with id := Y } } : Entry) ∈
        (m.rename X Y hc).entries := by
      rw [hentries]
      exact List.mem_map.mpr ⟨e, KeyedList.mem_of_lookup he, if_pos (KeyedList.key_of_lookup he)⟩
    exact KeyedList.lookup_of_mem (m.rename X Y hc).ids_nodup hmem
  · have hput' : KeyedList.lookup IdChangeMapping.oldId
        (KeyedList.put IdChangeMapping.oldId m.mappings ⟨X, Y⟩) X = some ⟨X, Y⟩ :=
      KeyedList.lookup_put_self
    rw [RegMap.resolve, RegMap.target, hput, hput']
    rfl
  · rw [RegMap.resolve, RegMap.target, hput, KeyedList.lookup_put_of_ne hne.symm,
      ← RegMap.target, hY]
    rfl

/-! ## One upload -/

/-- The registry after an upload of Y: only Y's entry is touched. -/
theorem renamed_update (h : m.Renamed X Y name basicMode) (hname : name ≠ CStr.empty)
    (now : UInt32) (hY : Y ≠ CStr.empty) (upName ip : Option (List UInt8)) :
    (m.update now Y hY upName ip false).1.Renamed X Y name basicMode := by
  obtain ⟨e, he, hen, hem⟩ := h.new
  have hupdate : (m.update now Y hY upName ip false).1 =
      m.modify Y (RegMap.touch now upName ip false) (RegMap.touch_id _ _ _ _) := by
    rw [RegMap.update, RegMap.dedup_of_victim_none (RegMap.victim_of_mem h.mem ip),
      RegMap.enroll, dif_pos h.mem]
  have hids : (m.modify Y (RegMap.touch now upName ip false) (RegMap.touch_id _ _ _ _)).ids =
      m.ids := KeyedList.map_key_modify fun _ he => he
  rw [hupdate]
  refine ⟨hids ▸ h.old, ⟨RegMap.touch now upName ip false e, ?_, ?_, hem⟩, h.resolveOld,
    h.resolveNew⟩
  · have hlook : (m.modify Y (RegMap.touch now upName ip false) (RegMap.touch_id _ _ _ _)).lookup
        Y = (m.lookup Y).map (RegMap.touch now upName ip false) :=
      KeyedList.lookup_modify_self fun _ he => he
    rw [hlook, he]
    rfl
  · have hne : e.info.name.isEmpty = false := by rw [hen]; exact CStr.isEmpty_eq_false.mpr hname
    rw [← hen, RegMap.touch, ClientInfo.touch]
    dsimp only
    cases given upName with
    | none => rfl
    | some n =>
      dsimp only
      rw [hne, Bool.or_self, if_neg Bool.false_ne_true]

/-- An upload the registry has no room for. -/
theorem update_full {now : UInt32} {id : Id} (hid : id ≠ CStr.empty) (hn : id ∉ m.ids)
    {upName ip : Option (List UInt8)} (hv : m.victim id ip = none)
    (hfull : m.entries.length = 16) : (m.update now id hid upName ip false).1 = m := by
  rw [RegMap.update, RegMap.dedup_of_victim_none hv, RegMap.enroll, dif_neg hn,
    dif_neg (by omega)]

theorem uploadTarget_id {io : UploadIo} {req : UploadRequest} {t : ClientId × Json}
    (ht : uploadTarget cJSONParse io req = some t) : t.1.1 = queryParam req.uri "id" 32 := by
  rw [uploadTarget] at ht
  split at ht
  · cases ht
  · split at ht
    · cases ht
    · rw [← Option.some.inj ht]

/-- The id a device goes on under. -/
theorem applyClientId_eq {clientId : Id} {reply : UploadReply} (h : reply.clientId ≠ CStr.empty) :
    applyClientId clientId (.upload reply) = reply.clientId := by
  rw [applyClientId, CStr.isEmpty_eq_false.mpr h, if_neg Bool.false_ne_true]

/-- What the run keeps: X stays renamed to Y, and the device is under one of them. -/
def DeviceRenamed (X Y : Id) (name : CStr 32) (basicMode : Bool) (st : ServerState × Id) : Prop :=
  (∃ m, st.1.reg.Lists m ∧ m.Renamed X Y name basicMode) ∧ (st.2 = X ∨ st.2 = Y)

theorem deviceStep_renamed (hY : Y ≠ CStr.empty) (hname : name ≠ CStr.empty)
    {st : ServerState × Id} {u : DeviceUpload} (h : DeviceRenamed X Y name basicMode st)
    (hid : UnderOwnId st u) (hc : LeavesNoTrace cJSONParse X st u) :
    DeviceRenamed X Y name basicMode (deviceStep cJSONParse gMax st u).1 ∧
      StoredUnder cJSONParse gMax X Y st u := by
  obtain ⟨⟨m, hm, hr⟩, hdev⟩ := h
  obtain ⟨resp, ht, hresp, heq⟩ | ⟨id, root, ht, -⟩ :=
    uploadPostHandler_cases cJSONParse gMax u.io u.clock st.1 u.req
  · have hdev' : applyClientId st.2 resp = st.2 := by
      cases resp with
      | upload reply => exact absurd rfl (hresp reply)
      | _ => rfl
    refine ⟨?_, fun _ t ht' => ?_⟩
    · unfold deviceStep
      rw [heq]
      dsimp only
      rw [hdev', ite_self]
      exact ⟨⟨m, hm, hr⟩, hdev⟩
    · rw [ht] at ht'
      cases ht'
  · have hidst : id.1 = st.2 := (uploadTarget_id ht).trans hid
    obtain ⟨hl, hfs, reply, hreply, -, hclient⟩ := uploadPostHandler_some gMax hm u.clock ht
    -- under X the registry refuses the update, under Y it touches Y's entry
    have hkept : (m.upload u.clock id u.req.ip root).Renamed X Y name basicMode ∧
        (m.upload u.clock id u.req.ip root).resolve id = Y := by
      rcases hdev with hX | hY'
      · obtain ⟨-, hfull, hmig⟩ := hc hX (id, root) ht
        rw [← hX, ← hidst, migrated_eq hm, RegMap.evicted, Option.map_eq_none_iff] at hmig
        rw [hm.clientCount] at hfull
        have hn : id.1 ∉ m.ids := by
          rw [hidst, hX]
          exact hr.old
        rw [RegMap.upload, update_full id.ne hn hmig hfull, hidst, hX]
        exact ⟨hr, hr.resolveOld⟩
      · obtain ⟨id, hne⟩ := id
        obtain rfl : id = Y := hidst.trans hY'
        have hrenamed := renamed_update hr hname (u.clock (uploadItems root).length) hne
          (if (uploadName root).isEmpty then none else some (uploadName root).bytes)
          (some u.req.ip.bytes)
        exact ⟨hrenamed, hrenamed.resolveNew⟩
    rw [hkept.2] at hclient
    refine ⟨⟨⟨_, hl, hkept.1⟩, ?_⟩, fun hX t ht' => ?_⟩
    · rw [deviceStep]
      dsimp only
      split
      · rw [hreply, applyClientId_eq (hclient ▸ hY)]
        exact Or.inr hclient
      · exact hdev
    · rw [ht] at ht'
      obtain rfl := Option.some.inj ht'
      have hnone : decodeItems u.clock 0 (uploadItems root) = [] := by
        by_contra hne
        rw [← ne_eq, decodeItems_ne_nil, (hc hX (id, root) ht).1] at hne
        exact Bool.false_ne_true hne
      rw [hnone]
      exact newest_nil _ _

/-! ## Runs -/

/-- From every reachable state in which X is registered under a name and an accepted request
    renames it to Y, neither of them a pending old id: every run of uploads of the device whose
    uploads under X leave no trace keeps the rename. -/
theorem renamed_device_keeps_entry (cJSONParse : List UInt8 → Option Json) (total gMax : UInt32)
    (hinit : dataStoreInit total = some gMax) (hpos : 0 < gMax) (rs : List Request)
    (io : RenameIo) (save : SaveIo) (uri : List UInt8) (i : Nat) (us : List DeviceUpload) :
    let s := final (serverStep cJSONParse gMax) bootState rs
    let X : Id := queryParam uri "id" 32
    let Y : Id := queryParam uri "new_id" 32
    let s' := (clientIdPostHandler io save s uri).1
    clientRegistryGet s.reg X = some i → (s.reg.client i).name ≠ CStr.empty →
    (∃ n t, (clientIdPostHandler io save s uri).2 = .json n t) →
    mappingSlot s.reg X = none → mappingSlot s.reg Y = none →
    Meets (deviceStep cJSONParse gMax) UnderOwnId (s', X) us →
    Meets (deviceStep cJSONParse gMax) (LeavesNoTrace cJSONParse X) (s', X) us →
    Always (deviceStep cJSONParse gMax)
        (fun st => RenameHolds X Y (s.reg.client i).name (clientRegistryGetBasicMode s.reg X) st.1)
        (s', X) us ∧
      Meets (deviceStep cJSONParse gMax) (StoredUnder cJSONParse gMax X Y) (s', X) us := by
  intro s X Y s' hget hname hjson hX hY hown hno
  obtain ⟨n, t, hresp⟩ := hjson
  obtain ⟨hg, -⟩ := dataStoreInit_room hinit hpos
  obtain ⟨m, hm, -⟩ := reached cJSONParse hg rs
  have hnotOld : ∀ id, mappingSlot s.reg id = none → m.target id = none := by
    intro id hid
    rcases hm.mappingSlot_cases id with ⟨-, hn⟩ | ⟨j, p, hg, -⟩
    · rw [RegMap.target, KeyedList.lookup_eq_none.mpr hn]
      rfl
    · rw [hg] at hid
      cases hid
  have hsource : m.renameSource uri = X := by
    rw [RegMap.renameSource, RegMap.resolve, hnotOld X hX]
    rfl
  rcases clientIdPostHandler_cases hm io save uri with ⟨-, -, hn⟩ | ⟨hacc, hl, -⟩
  · exact absurd hresp (hn n t)
  · rcases hm.get_cases X with ⟨hg, -⟩ | ⟨j, e, hg, hj, -, -, he⟩
    · rw [hget] at hg
      cases hg
    · obtain rfl : i = j := by
        rw [hget] at hg
        exact Option.some.inj hg
      have hclient := hm.client_eq hj
      have hmode : clientRegistryGetBasicMode s.reg X = e.basicMode := by
        rw [getBasicMode_eq hm, he]
        rfl
      rw [hclient] at hname ⊢
      rw [hmode]
      have hYne : Y ≠ CStr.empty := hacc.2.2.1
      have hrenamed : ∃ m', s'.reg.Lists m' ∧ m'.Renamed X Y e.info.name e.basicMode :=
        ⟨_, hl, renamed_of_rename hacc.2.2 hsource he (hnotOld Y hY)⟩
      have hrun : Always (deviceStep cJSONParse gMax)
          (DeviceRenamed X Y e.info.name e.basicMode) (s', X) us :=
        always_of_meets (fun st u h hc => (deviceStep_renamed hYne hname h hc.1 hc.2).1)
          ⟨hrenamed, Or.inl rfl⟩ (hown.and hno)
      refine ⟨hrun.mono fun st h => ?_, ?_⟩
      · obtain ⟨⟨m', hm', hr⟩, -⟩ := h
        exact renameHolds_of_renamed hm' hr
      · exact hrun.meets (fun st u h hc => (deviceStep_renamed hYne hname h hc.1 hc.2).2)
          (hown.and hno)

/-- A full registry of clients known by name. -/
def sixteenClients : List Request :=
  (List.range 16).map fun i =>
    .clientName {} 0 (ascii "/client/name?name=a&id=" ++ Decimal.formatNat i)

/-- An upload under an id, delivered. -/
def uploadUnder (id body : String) : DeviceUpload :=
  ⟨{}, fun _ => 0, ⟨ascii "/api/upload?id=" ++ ascii id, ascii body,
    CStr.strncpy (ascii "10.0.0.7")⟩, true⟩

/-- Client 0 of a full registry is renamed to 20: it uploads no reading, learns its new id and
    uploads one. -/
theorem renamed_device_keeps_entry_full :
    let s := final (serverStep Json.parse 4314) bootState sixteenClients
    let X : Id := queryParam (ascii "/client/id?id=0&new_id=20") "id" 32
    let Y : Id := queryParam (ascii "/client/id?id=0&new_id=20") "new_id" 32
    let s' := (clientIdPostHandler {} {} s (ascii "/client/id?id=0&new_id=20")).1
    Always (deviceStep Json.parse 4314)
      (fun st => RenameHolds X Y (s.reg.client 0).name (clientRegistryGetBasicMode s.reg X) st.1)
      (s', X) [uploadUnder "0" "\x7b\"readings\":[]\x7d",
        uploadUnder "20" "\x7b\"readings\":[\x7b\"ts\":1700000000\x7d]\x7d"] :=
  (renamed_device_keeps_entry Json.parse 1000000 4314 (by decide +kernel) (by decide)
    sixteenClients {} {} (ascii "/client/id?id=0&new_id=20") 0
    [uploadUnder "0" "\x7b\"readings\":[]\x7d",
      uploadUnder "20" "\x7b\"readings\":[\x7b\"ts\":1700000000\x7d]\x7d"]
    (by decide +kernel) (by decide +kernel)
    ⟨96, ascii "\x7b\"id\":\"0\",\"new_id\":\"20\"\x7d", by decide +kernel⟩
    (by decide +kernel) (by decide +kernel) (by decide +kernel) (by decide +kernel)).1

/-- An upload of client 1, which registers it with a name. -/
def namedUpload : DeviceUpload :=
  uploadUnder "1" "\x7b\"name\":\"a\",\"readings\":[\x7b\"ts\":1700000000\x7d]\x7d"

/-- Client 1 is renamed to 2 and uploads once more under 1, from the same address: it is
    registered as 1 again. -/
theorem upload_undoes_rename :
    let s := final (serverStep Json.parse 4314) bootState
      [.upload namedUpload.io namedUpload.clock namedUpload.req]
    let X : Id := queryParam (ascii "/client/id?id=1&new_id=2") "id" 32
    let Y : Id := queryParam (ascii "/client/id?id=1&new_id=2") "new_id" 32
    let s' := (clientIdPostHandler {} {} s (ascii "/client/id?id=1&new_id=2")).1
    clientRegistryGet s.reg X = some 0 ∧ (s.reg.client 0).name = CStr.strncpy (ascii "a") ∧
      (clientIdPostHandler {} {} s (ascii "/client/id?id=1&new_id=2")).2 =
        .json 96 (ascii "\x7b\"id\":\"1\",\"new_id\":\"2\"\x7d") ∧
      UnderOwnId (s', X) namedUpload ∧
      ¬Always (deviceStep Json.parse 4314)
        (fun st => RenameHolds X Y (s.reg.client 0).name
          (clientRegistryGetBasicMode s.reg X) st.1) (s', X) [namedUpload] := by
  refine ⟨by decide +kernel, by decide +kernel, by decide +kernel, by decide +kernel,
    fun h => ?_⟩
  exact absurd h.final.old (by decide +kernel)

end IndoorLogger
