import IndoorLogger.Lib.Machine
import IndoorLogger.Server.HttpServer
import IndoorLogger.Server.RegistryMap

/-
  The server as a machine: one request after another, with the stale check of the main loop
  between them. Each request is an operation on the map that the registry's arrays hold and
  on the files (`serverStep_leaves`).
-/

namespace IndoorLogger

open Machine

/-! ## Requests -/

/-- One request with its clock and failing calls, or a stale check. -/
inductive Request where
  | upload (io : UploadIo) (clock : Nat → UInt32) (req : UploadRequest)
  | clientName (io : SaveIo) (now : UInt32) (uri : List UInt8)
  | clientId (io : RenameIo) (save : SaveIo) (uri : List UInt8)
  | clientDelete (io : SaveIo) (unlinkFails : Bool) (uri : List UInt8)
  | basicModePost (io : SaveIo) (now : UInt32) (uri : List UInt8)
  | syncIntervalPost (uri : List UInt8)
  | timezonePost (uri : List UInt8)
  | checkStale (now timeoutSec : UInt32)

/-- The server after its first boot. -/
def bootState : ServerState where
  reg := clientRegistryInit
  fs := Fs.blank
  nvs := ⟨none, none, none, none, none⟩
  syncInterval := defaultSyncIntervalSec
  timezone := defaultTimezone

section

variable (cJSONParse : List UInt8 → Option Json) (gMax : UInt32)

def serverStep (s : ServerState) : Request → ServerState × Option Response
  | .upload io clock req =>
    let r := uploadPostHandler cJSONParse gMax io clock s req
    (r.1, some r.2)
  | .clientName io now uri =>
    let r := clientNameGetHandler io now s uri
    (r.1, some r.2)
  | .clientId io save uri =>
    let r := clientIdPostHandler io save s uri
    (r.1, some r.2)
  | .clientDelete io unlinkFails uri =>
    let r := clientDeleteHandler io unlinkFails s uri
    (r.1, some r.2)
  | .basicModePost io now uri =>
    let r := clientBasicModePostHandler io now s uri
    (r.1, some r.2)
  | .syncIntervalPost uri =>
    let r := syncIntervalPostHandler s uri
    (r.1, some r.2)
  | .timezonePost uri =>
    let r := timezonePostHandler s uri
    (r.1, some r.2)
  | .checkStale now timeoutSec =>
    ({ s with reg := clientRegistryCheckStale now timeoutSec s.reg }, none)

/-- The client and the document of an upload that passes all checks. -/
def uploadTarget (io : UploadIo) (req : UploadRequest) : Option (ClientId × Json) :=
  if h : (queryParam req.uri "id" 32 : Id) = CStr.empty then none
  else
    match uploadRoot cJSONParse io req.body with
    | .error _ => none
    | .ok root => some (⟨queryParam req.uri "id" 32, h⟩, root)

end

/-- The time at which a request reads the clock to write or to check `last_seen`. -/
def Request.stamp (cJSONParse : List UInt8 → Option Json) : Request → Option UInt32
  | .upload io clock req =>
    (uploadTarget cJSONParse io req).map fun t => clock (uploadItems t.2).length
  | .clientName _ now _ => some now
  | .basicModePost _ now _ => some now
  | .checkStale now _ => some now
  | .clientId _ _ _ => none
  | .clientDelete _ _ _ => none
  | .syncIntervalPost _ => none
  | .timezonePost _ => none

/-! ## Requests on the map -/

namespace RegMap

variable (m : RegMap)

theorem resolve_ne {id : Id} (h : id ≠ CStr.empty) : m.resolve id ≠ CStr.empty := by
  unfold resolve
  rw [target]
  cases hl : KeyedList.lookup IdChangeMapping.oldId m.mappings id with
  | none => exact h
  | some p => exact m.news_ne p (KeyedList.mem_of_lookup hl)

/-- The client whose id a rename request changes. -/
def renameSource (uri : List UInt8) : Id := m.resolve (queryParam uri "id" 32)

/-- A rename request that is accepted. -/
def Accepts (uri : List UInt8) : Prop :=
  (queryParam uri "id" 32 : Id) ≠ CStr.empty ∧ isValidDigitId (queryParam uri "new_id" 32) ∧
    m.CanRename (m.renameSource uri) (queryParam uri "new_id" 32)

instance (uri : List UInt8) : Decidable (m.Accepts uri) :=
  inferInstanceAs (Decidable (_ ∧ _ ∧ _))

/-- The mode a request asks for, none when it is no well-formed request. -/
def requestedMode (uri : List UInt8) : Option Bool :=
  let v := atoi (queryParam uri "value" 8 : CStr 8).bytes
  if (queryParam uri "value" 8 : CStr 8).isEmpty then none
  else if v ≠ 0 ∧ v ≠ 1 then none
  else some (v = 1)

/-- What an accepted upload does to the map. -/
def upload (clock : Nat → UInt32) (id : ClientId) (ip : CStr 16) (root : Json) : RegMap :=
  let name := uploadName root
  (m.update (clock (uploadItems root).length) id id.ne
    (if name.isEmpty then none else some name.bytes) (some ip.bytes) false).1

/-- What a request does to the map. -/
def request (cJSONParse : List UInt8 → Option Json) : Request → RegMap
  | .upload io clock req =>
    match uploadTarget cJSONParse io req with
    | none => m
    | some (id, root) => m.upload clock id req.ip root
  | .clientName _ now uri =>
    let id : Id := queryParam uri "id" 32
    let name : CStr 32 := queryParam uri "name" 32
    if h : id ≠ CStr.empty ∧ name ≠ CStr.empty then
      (m.update now (m.resolve id) (m.resolve_ne h.1) (some name.bytes) none true).1
    else m
  | .clientId _ _ uri =>
    if h : m.Accepts uri then m.rename (m.renameSource uri) (queryParam uri "new_id" 32) h.2.2
    else m
  | .clientDelete _ _ uri => m.erase (queryParam uri "id" 32)
  | .basicModePost _ now uri =>
    let id : Id := queryParam uri "id" 32
    match requestedMode uri with
    | none => m
    | some v =>
      if h : id ≠ CStr.empty then
        let m' := if id ∈ m.ids then m.setBasicMode id v
          else (m.update now id h none none false).1
        m'.setBasicMode id v
      else m
  | .syncIntervalPost _ => m
  | .timezonePost _ => m
  | .checkStale now timeoutSec => m.checkStale now timeoutSec

/-- What a request does to the files. -/
def requestFs (cJSONParse : List UInt8 → Option Json) (gMax : UInt32) (fs : Fs) : Request → Fs
  | .upload io clock req =>
    match uploadTarget cJSONParse io req with
    | none => fs
    | some (id, root) =>
      dedupFs io.rename m (storeReadings gMax io.append clock id 0 fs (uploadItems root)).1 id
        (some req.ip.bytes)
  | .clientId io _ uri =>
    if m.Accepts uri then
      (dataStoreRenameClient io fs (m.renameSource uri) (queryParam uri "new_id" 32)).1
    else fs
  | .clientDelete _ unlinkFails uri =>
    let id : Id := queryParam uri "id" 32
    if id ∈ m.ids then (dataStoreDeleteClient unlinkFails fs id).1 else fs
  | .clientName _ _ _ => fs
  | .basicModePost _ _ _ => fs
  | .syncIntervalPost _ => fs
  | .timezonePost _ => fs
  | .checkStale _ _ => fs

end RegMap

/-! ## One request -/

section

variable {cJSONParse : List UInt8 → Option Json} {gMax : UInt32} {s : ServerState} {m : RegMap}

/-- A body that passes all checks, and its document. -/
theorem uploadRoot_eq_ok_iff {io : UploadIo} {body : List UInt8} {root : Json} :
    uploadRoot cJSONParse io body = .ok root ↔
      body.length ≠ 0 ∧ body.length ≤ 8192 ∧ io.malloc = false ∧ io.recv = false ∧
        cJSONParse (cString body) = some root := by
  constructor
  · intro h
    unfold uploadRoot at h
    split at h
    case isTrue => cases h
    case isFalse hempty =>
      split at h
      case isTrue => cases h
      case isFalse hlarge =>
        split at h
        case isTrue => cases h
        case isFalse hmalloc =>
          split at h
          case isTrue => cases h
          case isFalse hrecv =>
            split at h
            case h_1 => cases h
            case h_2 hparse =>
              cases h
              exact ⟨hempty, Nat.not_lt.mp hlarge, Bool.not_eq_true _ ▸ hmalloc,
                Bool.not_eq_true _ ▸ hrecv, hparse⟩
  · rintro ⟨hempty, hlarge, hmalloc, hrecv, hparse⟩
    unfold uploadRoot
    rw [if_neg hempty, if_neg (Nat.not_lt.mpr hlarge), hmalloc, if_neg Bool.false_ne_true, hrecv,
      if_neg Bool.false_ne_true, hparse]

/-- A body that is refused is not answered as an upload. -/
theorem uploadRoot_error {io : UploadIo} {body : List UInt8} {resp : Response}
    (h : uploadRoot cJSONParse io body = .error resp) (reply : UploadReply) :
    resp ≠ .upload reply := by
  rintro rfl
  unfold uploadRoot at h
  split at h
  · cases h
  · split at h
    · cases h
    · split at h
      · cases h
      · split at h
        · cases h
        · split at h
          · cases h
          · cases h

/-- What an upload request does: nothing but a response, or the steps from the document on. -/
theorem uploadPostHandler_cases (cJSONParse : List UInt8 → Option Json) (gMax : UInt32)
    (io : UploadIo) (clock : Nat → UInt32) (s : ServerState) (req : UploadRequest) :
    (∃ resp, uploadTarget cJSONParse io req = none ∧ (∀ reply, resp ≠ .upload reply) ∧
      uploadPostHandler cJSONParse gMax io clock s req = (s, resp)) ∨
    ∃ id root, uploadTarget cJSONParse io req = some (id, root) ∧
      uploadPostHandler cJSONParse gMax io clock s req =
        ((uploadStore gMax io clock s id req.ip root).1,
          .upload (uploadStore gMax io clock s id req.ip root).2) := by
  unfold uploadPostHandler
  rw [uploadTarget]
  by_cases hid : (queryParam req.uri "id" 32 : Id) = CStr.empty
  · rw [dif_pos hid]
    exact Or.inl ⟨_, rfl, fun _ => Response.noConfusion, if_pos (CStr.isEmpty_iff.mpr hid)⟩
  · rw [dif_neg hid]
    dsimp only
    rw [CStr.isEmpty_eq_false.mpr hid, if_neg Bool.false_ne_true]
    cases hroot : uploadRoot cJSONParse io req.body with
    | error resp => exact Or.inl ⟨resp, rfl, uploadRoot_error hroot, rfl⟩
    | ok root => exact Or.inr ⟨_, root, rfl, rfl⟩

/-- A request for the interval changes nothing else. -/
theorem syncIntervalPostHandler_eq (s : ServerState) (uri : List UInt8) :
    ∃ val, (syncIntervalPostHandler s uri).1 = { s with syncInterval := val } := by
  unfold syncIntervalPostHandler
  dsimp only
  split
  · exact ⟨s.syncInterval, rfl⟩
  · split
    · exact ⟨s.syncInterval, rfl⟩
    · exact ⟨_, rfl⟩

/-- A request for the time zone changes nothing else. -/
theorem timezonePostHandler_eq (s : ServerState) (uri : List UInt8) :
    ∃ tz, (timezonePostHandler s uri).1 = { s with timezone := tz } := by
  unfold timezonePostHandler
  dsimp only
  split
  · exact ⟨s.timezone, rfl⟩
  · exact ⟨_, rfl⟩

/-- What the calls of the registry keep, a request keeps: it changes the registry by such calls
    alone, and the updates are made at the time that it reads. -/
theorem serverStep_registry {P : Registry → Prop} {r : Request} (h : P s.reg)
    (hupdate : ∀ reg, P reg → ∀ io now, r.stamp cJSONParse = some now →
      ∀ fs id name ip overwriteName,
        P (clientRegistryUpdate io now reg fs id name ip overwriteName).1.1)
    (hmode : ∀ reg, P reg → ∀ id value, P (clientRegistrySetBasicMode reg id value).1)
    (hrename : ∀ reg, P reg → ∀ oldId newId, P (clientRegistryRenameId reg oldId newId).1)
    (hdelete : ∀ reg, P reg → ∀ io nvs id, P (clientRegistryDelete io reg nvs id).1.1)
    (hcheck : ∀ reg, P reg → ∀ now timeoutSec, r = .checkStale now timeoutSec →
      P (clientRegistryCheckStale now timeoutSec reg)) :
    P (serverStep cJSONParse gMax s r).1.reg := by
  cases r with
  | upload io clock req =>
    rw [serverStep]
    obtain ⟨resp, -, -, heq⟩ | ⟨id, root, ht, heq⟩ :=
      uploadPostHandler_cases cJSONParse gMax io clock s req
    · rw [heq]
      exact h
    · rw [heq]
      exact hupdate _ h _ _ (congrArg (Option.map _) ht) _ _ _ _ _
  | clientName io now uri =>
    rw [serverStep, clientNameGetHandler]
    dsimp only
    split
    · exact h
    · split
      · exact hupdate _ h _ _ rfl _ _ _ _ _
      · exact hupdate _ h _ _ rfl _ _ _ _ _
  | clientId io save uri =>
    rw [serverStep, clientIdPostHandler]
    dsimp only
    split
    · exact h
    · split
      · exact h
      · split
        · exact h
        · split
          · exact h
          · split
            · exact hrename _ h _ _
            · exact hrename _ h _ _
  | clientDelete io unlinkFails uri =>
    rw [serverStep, clientDeleteHandler]
    dsimp only
    split
    · exact h
    · split
      · exact hdelete _ h _ _ _
      · exact hdelete _ h _ _ _
  | basicModePost io now uri =>
    rw [serverStep, clientBasicModePostHandler]
    dsimp only
    split
    · exact h
    · split
      · exact h
      · have hset := hmode _ h (queryParam uri "id" 32)
          (atoi (queryParam uri "value" 8 : CStr 8).bytes = 1)
        -- the client is enrolled if it is unknown, and the mode is set once more
        split
        · split
          · exact hmode _ (hupdate _ hset _ _ rfl _ _ _ _ _) _ _
          · exact hmode _ (hupdate _ hset _ _ rfl _ _ _ _ _) _ _
        · split
          · exact hmode _ hset _ _
          · exact hmode _ hset _ _
  | syncIntervalPost uri =>
    obtain ⟨val, heq⟩ := syncIntervalPostHandler_eq s uri
    rw [serverStep]
    dsimp only
    rw [heq]
    exact h
  | timezonePost uri =>
    obtain ⟨tz, heq⟩ := timezonePostHandler_eq s uri
    rw [serverStep]
    dsimp only
    rw [heq]
    exact h
  | checkStale now timeoutSec => exact hcheck _ h _ _ rfl

/-- A request that is not for a setting keeps both. -/
theorem serverStep_settings (cJSONParse : List UInt8 → Option Json) (g : UInt32)
    (s : ServerState) {r : Request} (hint : ∀ uri, r ≠ .syncIntervalPost uri)
    (htz : ∀ uri, r ≠ .timezonePost uri) :
    (serverStep cJSONParse g s r).1.syncInterval = s.syncInterval ∧
      (serverStep cJSONParse g s r).1.timezone = s.timezone := by
  cases r with
  | upload io clock req =>
    obtain ⟨resp, -, -, heq⟩ | ⟨id, root, -, heq⟩ :=
      uploadPostHandler_cases cJSONParse g io clock s req
    · rw [serverStep, heq]
      exact ⟨rfl, rfl⟩
    · rw [serverStep, heq]
      exact ⟨rfl, rfl⟩
  | clientName io now uri =>
    rw [serverStep, clientNameGetHandler]
    dsimp only
    repeat' split
    all_goals exact ⟨rfl, rfl⟩
  | clientId io save uri =>
    rw [serverStep, clientIdPostHandler]
    dsimp only
    repeat' split
    all_goals exact ⟨rfl, rfl⟩
  | clientDelete io unlinkFails uri =>
    rw [serverStep, clientDeleteHandler]
    dsimp only
    repeat' split
    all_goals exact ⟨rfl, rfl⟩
  | basicModePost io now uri =>
    rw [serverStep, clientBasicModePostHandler]
    dsimp only
    repeat' split
    all_goals exact ⟨rfl, rfl⟩
  | syncIntervalPost uri => exact absurd rfl (hint uri)
  | timezonePost uri => exact absurd rfl (htz uri)
  | checkStale now timeoutSec => exact ⟨rfl, rfl⟩

/-- The state after a request holds the map and the files that the request leaves. -/
def Leaves (cJSONParse : List UInt8 → Option Json) (gMax : UInt32) (m : RegMap) (fs : Fs)
    (s' : ServerState) (r : Request) : Prop :=
  s'.reg.Lists (m.request cJSONParse r) ∧ s'.fs = m.requestFs cJSONParse gMax fs r

/-- An upload that passes the checks. -/
theorem uploadPostHandler_some (gMax : UInt32) (h : s.reg.Lists m) {io : UploadIo}
    (clock : Nat → UInt32) {req : UploadRequest} {id : ClientId} {root : Json}
    (ht : uploadTarget cJSONParse io req = some (id, root)) :
    let r := uploadPostHandler cJSONParse gMax io clock s req
    let stored := storeReadings gMax io.append clock id 0 s.fs (uploadItems root)
    r.1.reg.Lists (m.upload clock id req.ip root) ∧
      r.1.fs = dedupFs io.rename m stored.1 id (some req.ip.bytes) ∧
      ∃ reply, r.2 = .upload reply ∧ reply.accepted = stored.2.count true ∧
        reply.clientId = (m.upload clock id req.ip root).resolve id := by
  intro r stored
  have hr : r = ((uploadStore gMax io clock s id req.ip root).1,
      .upload (uploadStore gMax io clock s id req.ip root).2) := by
    obtain ⟨-, hnone, -⟩ | ⟨id', root', hsome, heq⟩ :=
      uploadPostHandler_cases cJSONParse gMax io clock s req
    · rw [ht] at hnone
      cases hnone
    · rw [ht] at hsome
      cases hsome
      exact heq
  obtain ⟨hl, hfs, -⟩ := update_lists h io.rename (clock (uploadItems root).length) stored.1
    id.ne (if (uploadName root).isEmpty then none else some (uploadName root).bytes)
    (some req.ip.bytes) false
  rw [hr]
  exact ⟨hl, hfs, _, rfl, rfl, resolveId_eq hl id⟩

theorem uploadPostHandler_leaves (h : s.reg.Lists m) (io : UploadIo) (clock : Nat → UInt32)
    (req : UploadRequest) :
    Leaves cJSONParse gMax m s.fs (uploadPostHandler cJSONParse gMax io clock s req).1
      (.upload io clock req) := by
  unfold Leaves
  rw [RegMap.request, RegMap.requestFs]
  obtain ⟨resp, ht, -, heq⟩ | ⟨id, root, ht, -⟩ :=
    uploadPostHandler_cases cJSONParse gMax io clock s req
  · rw [ht, heq]
    exact ⟨h, rfl⟩
  · obtain ⟨hl, hfs, -⟩ := uploadPostHandler_some gMax h clock ht
    rw [ht]
    exact ⟨hl, hfs⟩

theorem RegMap.victim_none (m : RegMap) (id : Id) : m.victim id none = none := by
  rw [victim]
  split <;> rfl

theorem dedupFs_none (io : RenameIo) (m : RegMap) (fs : Fs) (id : Id) :
    dedupFs io m fs id none = fs := by
  unfold dedupFs
  rw [m.victim_none]

theorem clientNameGetHandler_leaves (h : s.reg.Lists m) (io : SaveIo) (now : UInt32)
    (uri : List UInt8) :
    Leaves cJSONParse gMax m s.fs (clientNameGetHandler io now s uri).1
      (.clientName io now uri) := by
  unfold Leaves
  rw [RegMap.request, RegMap.requestFs, clientNameGetHandler]
  by_cases hid : (queryParam uri "id" 32 : Id) ≠ CStr.empty ∧
      (queryParam uri "name" 32 : CStr 32) ≠ CStr.empty
  · obtain ⟨hi, hn⟩ := id hid
    rw [dif_pos hid]
    simp only [CStr.isEmpty_eq_false.mpr hi, CStr.isEmpty_eq_false.mpr hn, Bool.or_self,
      Bool.false_eq_true, if_false, resolveId_eq h]
    obtain ⟨hl, hfs, -⟩ := update_lists h {} now s.fs (m.resolve_ne hi)
      (some (queryParam uri "name" 32 : CStr 32).bytes) none true
    rw [dedupFs_none] at hfs
    split
    · exact ⟨hl, hfs⟩
    · exact ⟨hl, hfs⟩
  · rw [dif_neg hid]
    dsimp only
    rw [if_pos (by
      rw [Bool.or_eq_true, CStr.isEmpty_iff, CStr.isEmpty_iff]
      by_contra hc
      exact hid (not_or.mp hc))]
    exact ⟨h, rfl⟩

/-- A rename request is refused and changes nothing, or accepted. -/
theorem clientIdPostHandler_cases (h : s.reg.Lists m) (io : RenameIo) (save : SaveIo)
    (uri : List UInt8) :
    (¬m.Accepts uri ∧ (clientIdPostHandler io save s uri).1 = s ∧
        ∀ n t, (clientIdPostHandler io save s uri).2 ≠ .json n t) ∨
      ∃ hacc : m.Accepts uri,
        (clientIdPostHandler io save s uri).1.reg.Lists
          (m.rename (m.renameSource uri) (queryParam uri "new_id" 32) hacc.2.2) ∧
        (clientIdPostHandler io save s uri).1.fs =
          (dataStoreRenameClient io s.fs (m.renameSource uri) (queryParam uri "new_id" 32)).1 := by
  rw [clientIdPostHandler]
  simp only [resolveId_eq h, ← RegMap.renameSource.eq_def]
  by_cases hemp : ((queryParam uri "id" 32 : Id).isEmpty ||
      (queryParam uri "new_id" 32 : Id).isEmpty) = true
  · rw [if_pos hemp]
    refine Or.inl ⟨fun ⟨hX, hv, _⟩ => ?_, rfl, fun n t => Response.noConfusion⟩
    rw [Bool.or_eq_true, CStr.isEmpty_iff] at hemp
    rcases hemp with hX' | hY
    · exact hX hX'
    · rw [isValidDigitId, hY] at hv
      exact Bool.false_ne_true hv
  · rw [if_neg hemp]
    rw [Bool.or_eq_true, not_or, CStr.isEmpty_iff] at hemp
    obtain ⟨hX, -⟩ := hemp
    by_cases hv : isValidDigitId (queryParam uri "new_id" 32) = true
    · rw [if_neg (show ¬(!isValidDigitId (queryParam uri "new_id" 32)) = true by
        rw [hv]; exact Bool.false_ne_true)]
      rcases h.get_cases (m.renameSource uri) with ⟨hg, hn⟩ | ⟨i, e, hg, -, -, -, he⟩
      · rw [hg, Option.isNone_none, if_pos rfl]
        exact Or.inl ⟨fun ⟨_, _, hc⟩ => hn hc.2.2.1, rfl, fun n t => Response.noConfusion⟩
      · rw [hg, Option.isNone_some, if_neg Bool.false_ne_true]
        by_cases hY : queryParam uri "new_id" 32 ∈ m.ids
        · rw [if_pos ((h.isSome_get _).mpr hY)]
          exact Or.inl ⟨fun ⟨_, _, hc⟩ => hc.2.2.2.1 hY, rfl, fun n t => Response.noConfusion⟩
        · rw [if_neg (mt (h.isSome_get _).mp hY)]
          by_cases hc : m.CanRename (m.renameSource uri) (queryParam uri "new_id" 32)
          · obtain ⟨hl, hret⟩ := renameId_lists h hc
            rw [if_neg (not_not_intro hret)]
            exact Or.inr ⟨⟨hX, hv, hc⟩, hl, rfl⟩
          · have hne : m.renameSource uri ≠ queryParam uri "new_id" 32 := fun heq =>
              hY (heq ▸ KeyedList.mem_keys_of_lookup he)
            rw [renameId_refused h hc, if_neg fun hs : _ ∧ _ => hne hs.1,
              if_pos (show (-1 : Int) ≠ 0 by decide)]
            exact Or.inl ⟨fun hacc => hc hacc.2.2, rfl, fun n t => Response.noConfusion⟩
    · have hinv : (!isValidDigitId (queryParam uri "new_id" 32)) = true := by simpa using hv
      rw [if_pos hinv]
      exact Or.inl ⟨fun hacc => hv hacc.2.1, rfl, fun n t => Response.noConfusion⟩

theorem clientIdPostHandler_leaves (h : s.reg.Lists m) (io : RenameIo) (save : SaveIo)
    (uri : List UInt8) :
    Leaves cJSONParse gMax m s.fs (clientIdPostHandler io save s uri).1
      (.clientId io save uri) := by
  unfold Leaves
  rw [RegMap.request, RegMap.requestFs]
  rcases clientIdPostHandler_cases h io save uri with ⟨hn, hs, -⟩ | ⟨hacc, hl, hfs⟩
  · rw [dif_neg hn, if_neg hn, hs]
    exact ⟨h, rfl⟩
  · rw [dif_pos hacc, if_pos hacc]
    exact ⟨hl, hfs⟩

theorem clientDeleteHandler_leaves (h : s.reg.Lists m) (io : SaveIo) (unlinkFails : Bool)
    (uri : List UInt8) :
    Leaves cJSONParse gMax m s.fs (clientDeleteHandler io unlinkFails s uri).1
      (.clientDelete io unlinkFails uri) := by
  unfold Leaves
  rw [RegMap.request, RegMap.requestFs, clientDeleteHandler]
  by_cases hmem : (queryParam uri "id" 32 : Id) ∈ m.ids
  · obtain ⟨e, he, hid⟩ := List.mem_map.mp hmem
    have hne : (queryParam uri "id" 32 : Id) ≠ CStr.empty := hid ▸ m.ids_ne e he
    obtain ⟨hl, hret⟩ := delete_lists h io s.nvs hmem
    simp only [CStr.isEmpty_eq_false.mpr hne, Bool.false_eq_true, if_false, if_pos hmem]
    rw [if_neg (by rw [hret]; decide)]
    exact ⟨hl, rfl⟩
  · have hsame : m.erase (queryParam uri "id" 32) = m :=
      RegMap.ext (KeyedList.erase_of_notMem hmem) rfl
    simp only [if_neg hmem, hsame, delete_refused h io s.nvs hmem]
    split
    · exact ⟨h, rfl⟩
    · exact ⟨h, rfl⟩

/-- The first half of the basic mode request: an unknown client is registered. -/
theorem registerForMode_lists (h : s.reg.Lists m) (now : UInt32) {id : Id}
    (hid : id ≠ CStr.empty) (v : Bool) {r : Registry × Fs}
    (hr : r = if (clientRegistrySetBasicMode s.reg id v).2 ≠ 0 then
        (clientRegistryUpdate {} now (clientRegistrySetBasicMode s.reg id v).1 s.fs id none none
          false).1
      else ((clientRegistrySetBasicMode s.reg id v).1, s.fs)) :
    r.1.Lists (if id ∈ m.ids then m.setBasicMode id v
      else (m.update now id hid none none false).1) ∧ r.2 = s.fs := by
  obtain ⟨hl, hret⟩ := setBasicMode_lists h id v
  by_cases hmem : id ∈ m.ids
  · rw [if_pos hmem] at hret
    rw [hret, if_neg (not_not_intro rfl)] at hr
    rw [hr, if_pos hmem]
    exact ⟨hl, rfl⟩
  · rw [if_neg hmem] at hret
    have hsame : m.setBasicMode id v = m := RegMap.ext (KeyedList.modify_of_notMem hmem) rfl
    obtain ⟨hu, hfs, -⟩ := update_lists (hsame ▸ hl) {} now s.fs hid none none false
    rw [hret, if_pos (by decide)] at hr
    rw [hr, if_neg hmem]
    rw [dedupFs_none] at hfs
    exact ⟨hu, hfs⟩

theorem clientBasicModePostHandler_leaves (h : s.reg.Lists m) (io : SaveIo) (now : UInt32)
    (uri : List UInt8) :
    Leaves cJSONParse gMax m s.fs (clientBasicModePostHandler io now s uri).1
      (.basicModePost io now uri) := by
  unfold Leaves
  rw [RegMap.request, RegMap.requestFs, clientBasicModePostHandler,
    RegMap.requestedMode]
  generalize (queryParam uri "id" 32 : Id) = id
  generalize (queryParam uri "value" 8 : CStr 8) = value
  dsimp only
  by_cases hvalue : value.isEmpty = true
  · rw [if_pos (by rw [hvalue, Bool.or_true]), if_pos hvalue]
    exact ⟨h, rfl⟩
  · rw [if_neg hvalue]
    by_cases hid : id = CStr.empty
    · rw [if_pos (by rw [CStr.isEmpty_iff.mpr hid, Bool.true_or])]
      have hsame : ∀ o : Option Bool, (match o with
          | none => m
          | some v =>
            if h : id ≠ CStr.empty then
              (if id ∈ m.ids then m.setBasicMode id v
                else (m.update now id h none none false).1).setBasicMode id v
            else m) = m := by
        intro o
        cases o with
        | none => rfl
        | some v => exact dif_neg (not_not_intro hid)
      rw [hsame]
      exact ⟨h, rfl⟩
    · rw [Bool.not_eq_true] at hvalue
      rw [if_neg (by rw [hvalue, CStr.isEmpty_eq_false.mpr hid]; decide)]
      by_cases hv : atoi value.bytes ≠ 0 ∧ atoi value.bytes ≠ 1
      · rw [if_pos hv, if_pos hv]
        exact ⟨h, rfl⟩
      · rw [if_neg hv, if_neg hv]
        simp only [dif_pos hid]
        obtain ⟨hl, hfs⟩ := registerForMode_lists h now hid (atoi value.bytes = 1) rfl
        split
        case isTrue hc =>
          rw [if_pos hc] at hl hfs
          obtain ⟨hl', -⟩ := setBasicMode_lists hl id (atoi value.bytes = 1)
          split
          · exact ⟨hl', hfs⟩
          · exact ⟨hl', hfs⟩
        case isFalse hc =>
          rw [if_neg hc] at hl
          obtain ⟨hl', -⟩ := setBasicMode_lists hl id (atoi value.bytes = 1)
          split
          · exact ⟨hl', rfl⟩
          · exact ⟨hl', rfl⟩

/-- One request is one operation on the map and on the files. -/
theorem serverStep_leaves (cJSONParse : List UInt8 → Option Json) (gMax : UInt32)
    (h : s.reg.Lists m) (r : Request) :
    Leaves cJSONParse gMax m s.fs (serverStep cJSONParse gMax s r).1 r := by
  cases r with
  | upload io clock req => exact uploadPostHandler_leaves h io clock req
  | clientName io now uri => exact clientNameGetHandler_leaves h io now uri
  | clientId io save uri => exact clientIdPostHandler_leaves h io save uri
  | clientDelete io unlinkFails uri => exact clientDeleteHandler_leaves h io unlinkFails uri
  | basicModePost io now uri => exact clientBasicModePostHandler_leaves h io now uri
  | syncIntervalPost uri =>
    obtain ⟨val, heq⟩ := syncIntervalPostHandler_eq s uri
    rw [serverStep]
    dsimp only
    rw [heq]
    exact ⟨h, rfl⟩
  | timezonePost uri =>
    obtain ⟨tz, heq⟩ := timezonePostHandler_eq s uri
    rw [serverStep]
    dsimp only
    rw [heq]
    exact ⟨h, rfl⟩
  | checkStale now timeoutSec => exact ⟨checkStale_lists h now timeoutSec, rfl⟩

end

end IndoorLogger
