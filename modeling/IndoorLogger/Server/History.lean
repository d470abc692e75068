import IndoorLogger.Server.AggregatedQuery
import IndoorLogger.Server.Presence
import IndoorLogger.Server.Store

/-
  What the server answers depends on the store alone, whatever events led to it: two servers that
  keep the same store give the same answers to all later requests and queries, also across power
  cycles (`answers_of_same_store`). The CSV export is left out. It shows where in a client's file
  the ring has got to, which the store does not know.
-/

namespace IndoorLogger

open Machine

/-! ## Queries -/

/-- `client_basic_mode_get_handler`. -/
def clientBasicModeGetHandler (s : ServerState) (uri : List UInt8) : Response :=
  let clientId : Id := queryParam uri "id" 32
  if clientId.isEmpty then .plain "missing id param" 16
  else
    match clientRegistryGet s.reg clientId with
    | none => .error 404
    | some _ =>
      .json 96 (ascii "\x7b\"id\":\"" ++ clientId.bytes ++ ascii "\",\"basic_mode\":" ++
        boolText (clientRegistryGetBasicMode s.reg clientId) ++ ascii "\x7d")

/-- `time_get_handler`; `now` is what `server_get_timestamp` returns. -/
def timeGetHandler (now : UInt32) : Response :=
  .json 64 (ascii "\x7b\"timestamp\":" ++ Decimal.formatNat now.toNat ++ ascii "\x7d")

/-- A request that only reads, with its failing calls and what it reads besides the state. -/
inductive Query where
  | health (mallocFails : Bool) (uptime freeHeap : Int)
  | clients (io : ListIo)
  | client (io : ListIo) (uri : List UInt8)
  | data (fuel : Nat) (malloc : Bool) (uri : List UInt8)
  | aggregated (fuel : Nat) (io : AggregatedIo) (uri : List UInt8)
  | basicMode (uri : List UInt8)
  | time (now : UInt32)
  | syncInterval
  | timezone

inductive Answer where
  | response (r : Option Response)
  | list (r : Option ListResponse)
  | data (r : Option DataResponse)
  | aggregated (r : Option AggregatedResponse)
  deriving DecidableEq

def answerQuery (s : ServerState) : Query → Answer
  | .health mallocFails uptime freeHeap =>
    .response (some (healthGetHandler mallocFails uptime freeHeap s.reg))
  | .clients io => .list (clientsGetHandler io s)
  | .client io uri => .list (clientGetHandler io s uri)
  | .data fuel malloc uri => .data (dataGetHandler fuel malloc s.fs uri)
  | .aggregated fuel io uri => .aggregated (dataAggregatedGetHandler fuel io s.fs uri)
  | .basicMode uri => .response (some (clientBasicModeGetHandler s uri))
  | .time now => .response (some (timeGetHandler now))
  | .syncInterval => .response (some (syncIntervalGetHandler s))
  | .timezone => .response (some (timezoneGetHandler s))

/-- An event or a query. -/
inductive Call where
  | event (e : ServerEvent)
  | query (q : Query)

def serverCall (cJSONParse : List UInt8 → Option Json) (g : UInt32) (d : ServerDevice) :
    Call → ServerDevice × Answer
  | .event e =>
    let r := serverDeviceStep cJSONParse g d e
    (r.1, .response r.2)
  | .query q => (d, answerQuery d.server q)

/-- No call that changes anything fails. -/
def Call.Succeeds : Call → Prop
  | .event e => e.Succeeds
  | .query _ => True

/-! ## Reads of the same logs -/

/-- The arrays are determined by the map that they hold. -/
theorem Registry.Lists.reg_eq {reg reg' : Registry} {m : RegMap} (h : reg.Lists m)
    (h' : reg'.Lists m) : reg = reg' := by
  have hclients := h.clients.toList_eq.trans h'.clients.toList_eq.symm
  have hmodes := h.basicModes.toList_eq.trans h'.basicModes.toList_eq.symm
  have hmappings := h.idMappings.toList_eq.trans h'.idMappings.toList_eq.symm
  have hcount := h.clientCount.trans h'.clientCount.symm
  have hmappingCount := h.idMappingCount.trans h'.idMappingCount.symm
  cases reg
  cases reg'
  rw [Vector.toList_inj] at hclients hmodes hmappings
  cases hclients
  cases hmodes
  cases hmappings
  cases hcount
  cases hmappingCount
  rfl

section

variable {g : UInt32} {fs fs' : Fs} {id : Id}

/-- Two files that answer range reads and counts alike. -/
structure ReadsAlike (fs fs' : Fs) (id : Id) : Prop where
  count : dataStoreGetCount fs id = dataStoreGetCount fs' id
  range : ∀ offset limit capacity, dataStoreReadRange fs id offset limit capacity =
    dataStoreReadRange fs' id offset limit capacity

theorem HoldsSeq.readsAlike (hg : Fits g) {recs : List DataRecord} (h : HoldsSeq g fs id recs)
    (h' : HoldsSeq g fs' id recs) : ReadsAlike fs fs' id where
  count := UInt32.toNat_inj.mp (h.getCount_eq.trans h'.getCount_eq.symm)
  range := fun offset limit capacity =>
    (h.readRange_eq hg offset limit capacity).trans (h'.readRange_eq hg offset limit capacity).symm

namespace ReadsAlike

theorem sinceLoop_eq (h : ReadsAlike fs fs' id) (sinceTs : UInt32) (fuel : Nat) (lo hi : UInt32) :
    sinceLoop fs id sinceTs fuel lo hi = sinceLoop fs' id sinceTs fuel lo hi := by
  induction fuel generalizing lo hi with
  | zero => rw [sinceLoop, sinceLoop]
  | succ fuel ih => simp only [sinceLoop, h.range, ih]

theorem readSince_eq (h : ReadsAlike fs fs' id) (fuel : Nat) (sinceTs capacity : UInt32) :
    dataStoreReadSince fuel fs id sinceTs capacity =
      dataStoreReadSince fuel fs' id sinceTs capacity := by
  simp only [dataStoreReadSince, h.count, h.sinceLoop_eq, h.range]

theorem readAggregated_eq (h : ReadsAlike fs fs' id) (fuel : Nat) (malloc : Bool)
    (sinceTs bucketSec capacity : UInt32) :
    dataStoreReadAggregated fuel malloc fs id sinceTs bucketSec capacity =
      dataStoreReadAggregated fuel malloc fs' id sinceTs bucketSec capacity := by
  simp only [dataStoreReadAggregated, h.readSince_eq]

end ReadsAlike

end

/-! ## Servers that keep the same store -/

section

variable {g : UInt32} {d d' : ServerDevice} {a : Store}

/-- What two servers that keep the same store have in common. -/
structure Alike (s t : ServerState) : Prop where
  reg : s.reg = t.reg
  syncInterval : s.syncInterval = t.syncInterval
  timezone : s.timezone = t.timezone
  files : ∀ id, ReadsAlike s.fs t.fs id

theorem ServerDevice.Keeps.alike (hg : Fits g) (h : d.Keeps g a) (h' : d'.Keeps g a) :
    Alike d.server d'.server where
  reg := h.clients.reg_eq h'.clients
  syncInterval := h.settings.interval.trans h'.settings.interval.symm
  timezone := h.settings.timezone.trans h'.settings.timezone.symm
  files := fun id => (h.files id).1.readsAlike hg (h'.files id).1

variable {s t : ServerState}

theorem Alike.latestRecords_eq (h : Alike s t) (io : ListIo) (id : Id) :
    latestRecords io s.fs id = latestRecords io t.fs id := by
  simp only [latestRecords, (h.files id).count, (h.files id).range]

/-- Queries read nothing else. -/
theorem Alike.answerQuery_eq (h : Alike s t) (q : Query) : answerQuery s q = answerQuery t q := by
  cases q with
  | health mallocFails uptime freeHeap =>
    rw [answerQuery, answerQuery, h.reg]
  | clients io =>
    have hcount : ∀ id, dataStoreGetCount s.fs id = dataStoreGetCount t.fs id :=
      fun id => (h.files id).count
    simp only [answerQuery, clientsGetHandler, h.reg, hcount]
  | client io uri =>
    have hcount : ∀ id, dataStoreGetCount s.fs id = dataStoreGetCount t.fs id :=
      fun id => (h.files id).count
    simp only [answerQuery, clientGetHandler, h.reg, hcount, h.latestRecords_eq]
  | data fuel malloc uri =>
    have hread := h.files (queryParam uri "id" 32)
    simp only [answerQuery, dataGetHandler, readFiltered, hread.count, hread.range,
      hread.readSince_eq]
  | aggregated fuel io uri =>
    have hread := h.files (queryParam uri "id" 32)
    simp only [answerQuery, dataAggregatedGetHandler, hread.readAggregated_eq]
  | basicMode uri => simp only [answerQuery, clientBasicModeGetHandler, h.reg]
  | time now => rfl
  | syncInterval => simp only [answerQuery, syncIntervalGetHandler, h.syncInterval]
  | timezone => simp only [answerQuery, timezoneGetHandler, h.timezone]

/-! ### Responses to requests -/

variable {m : RegMap}

/-- The registry and the result of an update do not depend on the files. -/
theorem update_alike {reg : Registry} (h : reg.Lists m) (io : RenameIo) (now : UInt32) (fs fs' : Fs)
    {id : Id} (hid : id ≠ CStr.empty) (name ip : Option (List UInt8)) (overwriteName : Bool) :
    let r := clientRegistryUpdate io now reg fs id name ip overwriteName
    let r' := clientRegistryUpdate io now reg fs' id name ip overwriteName
    r.1.1 = r'.1.1 ∧ r.2 = r'.2 := by
  intro r r'
  obtain ⟨hl, -, hret⟩ := update_lists h io now fs hid name ip overwriteName
  obtain ⟨hl', -, hret'⟩ := update_lists h io now fs' hid name ip overwriteName
  exact ⟨hl.reg_eq hl', hret.trans hret'.symm⟩

theorem Alike.clientName_eq (h : Alike s t) (hs : s.reg.Lists m) (io : SaveIo) (now : UInt32)
    (uri : List UInt8) :
    (clientNameGetHandler io now s uri).2 = (clientNameGetHandler io now t uri).2 := by
  unfold clientNameGetHandler
  dsimp only
  by_cases hempty : ((queryParam uri "id" 32 : Id).isEmpty ||
      (queryParam uri "name" 32 : CStr 32).isEmpty) = true
  · rw [if_pos hempty, if_pos hempty]
  · rw [if_neg hempty, if_neg hempty, ← h.reg]
    rw [Bool.or_eq_true, not_or, CStr.isEmpty_iff] at hempty
    have hid : clientRegistryResolveId s.reg (queryParam uri "id" 32) ≠ CStr.empty := by
      rw [resolveId_eq hs]
      exact m.resolve_ne hempty.1
    obtain ⟨-, hret⟩ := update_alike hs {} now s.fs t.fs hid
      (some (queryParam uri "name" 32 : CStr 32).bytes) none true
    rw [hret]
    split
    · rfl
    · rfl

theorem Alike.clientId_eq (h : Alike s t) (io : RenameIo) (save : SaveIo) (uri : List UInt8) :
    (clientIdPostHandler io save s uri).2 = (clientIdPostHandler io save t uri).2 := by
  unfold clientIdPostHandler
  rw [h.reg]
  simp only [apply_ite Prod.snd]

theorem Alike.clientDelete_eq (h : Alike s t) (hs : s.reg.Lists m) (io : SaveIo)
    (unlinkFails : Bool) (uri : List UInt8) :
    (clientDeleteHandler io unlinkFails s uri).2 =
      (clientDeleteHandler io unlinkFails t uri).2 := by
  have hret : (clientRegistryDelete io s.reg s.nvs (queryParam uri "id" 32)).2 =
      (clientRegistryDelete io s.reg t.nvs (queryParam uri "id" 32)).2 := by
    by_cases hmem : queryParam uri "id" 32 ∈ m.ids
    · exact (delete_lists hs io s.nvs hmem).2.trans (delete_lists hs io t.nvs hmem).2.symm
    · rw [delete_refused hs io s.nvs hmem, delete_refused hs io t.nvs hmem]
  unfold clientDeleteHandler
  rw [← h.reg]
  simp only [apply_ite Prod.snd, hret]

theorem Alike.basicModePost_eq (h : Alike s t) (hs : s.reg.Lists m) (io : SaveIo) (now : UInt32)
    (uri : List UInt8) :
    (clientBasicModePostHandler io now s uri).2 = (clientBasicModePostHandler io now t uri).2 := by
  unfold clientBasicModePostHandler
  dsimp only
  by_cases hempty : ((queryParam uri "id" 32 : Id).isEmpty ||
      (queryParam uri "value" 8 : CStr 8).isEmpty) = true
  · rw [if_pos hempty, if_pos hempty]
  · rw [if_neg hempty, if_neg hempty, ← h.reg]
    rw [Bool.or_eq_true, not_or, CStr.isEmpty_iff] at hempty
    obtain ⟨hset, -⟩ := setBasicMode_lists hs (queryParam uri "id" 32)
      (atoi (queryParam uri "value" 8 : CStr 8).bytes = 1)
    obtain ⟨hreg, -⟩ := update_alike hset {} now s.fs t.fs hempty.1 none none false
    simp only [apply_ite Prod.snd, apply_ite Prod.fst, hreg]

theorem Alike.upload_eq {cJSONParse : List UInt8 → Option Json} (h : Alike s t)
    (hs : s.reg.Lists m) (hg : Fits g) (hfs : ∀ id, FileHeaderOk g (s.fs (getFilepath id)))
    (hft : ∀ id, FileHeaderOk g (t.fs (getFilepath id))) {io : UploadIo}
    (happend : io.append = fun _ => {}) (clock : Nat → UInt32) (req : UploadRequest) :
    (uploadPostHandler cJSONParse g io clock s req).2 =
      (uploadPostHandler cJSONParse g io clock t req).2 := by
  unfold uploadPostHandler
  dsimp only
  by_cases hempty : (queryParam req.uri "id" 32 : Id).isEmpty = true
  · rw [if_pos hempty, if_pos hempty]
  · rw [if_neg hempty, if_neg hempty]
    rw [CStr.isEmpty_iff] at hempty
    cases uploadRoot cJSONParse io req.body with
    | error resp => rfl
    | ok root =>
      -- both store all readings, so the files do not show in the reply
      dsimp only [uploadStore]
      rw [happend, storeReadings_eq hg clock _ 0 _ (hfs _), storeReadings_eq hg clock _ 0 _ (hft _),
        ← h.reg]
      obtain ⟨hreg, -⟩ := update_alike hs io.rename (clock (uploadItems root).length)
        (appendAll g (queryParam req.uri "id" 32) s.fs (decodeItems clock 0 (uploadItems root)))
        (appendAll g (queryParam req.uri "id" 32) t.fs (decodeItems clock 0 (uploadItems root)))
        hempty (if (uploadName root).isEmpty then none else some (uploadName root).bytes)
        (some req.ip.bytes) false
      simp only [uploadReply, hreg, h.syncInterval, h.timezone]

/-- The step: servers that keep the same store answer a request alike. -/
theorem ServerDevice.Keeps.response_eq {cJSONParse : List UInt8 → Option Json} (hg : Fits g)
    (h : d.Keeps g a) (h' : d'.Keeps g a) {r : Request} (hr : NoFileFaults r) :
    (serverStep cJSONParse g d.server r).2 = (serverStep cJSONParse g d'.server r).2 := by
  have halike := h.alike hg h'
  cases r with
  | upload io clock req =>
    exact congrArg some (halike.upload_eq h.clients hg (fun id => (h.files id).1.fileHeaderOk)
      (fun id => (h'.files id).1.fileHeaderOk) hr.1 clock req)
  | clientName io now uri => exact congrArg some (halike.clientName_eq h.clients io now uri)
  | clientId io save uri => exact congrArg some (halike.clientId_eq io save uri)
  | clientDelete io unlinkFails uri =>
    exact congrArg some (halike.clientDelete_eq h.clients io unlinkFails uri)
  | basicModePost io now uri =>
    exact congrArg some (halike.basicModePost_eq h.clients io now uri)
  | syncIntervalPost uri =>
    rw [serverStep, serverStep, syncIntervalPostHandler, syncIntervalPostHandler]
    simp only [apply_ite Prod.snd]
  | timezonePost uri =>
    rw [serverStep, serverStep, timezonePostHandler, timezonePostHandler, configSaveTimezone,
      configSaveTimezone]
    simp only [apply_ite Prod.snd]
  | checkStale now timeoutSec => rfl

/-- **The history does not matter.** Two servers, started on empty flash, whose events made the
    same store of it, give the same answers to every later sequence of requests, stale checks,
    power cycles and queries. -/
theorem answers_of_same_store (cJSONParse : List UInt8 → Option Json) {total : UInt32}
    (hinit : dataStoreInit total = some g) (hpos : 0 < g) {es es' : List ServerEvent}
    (hes : ∀ e ∈ es, e.Succeeds) (hes' : ∀ e ∈ es', e.Succeeds)
    (hsame : Store.run g cJSONParse es = Store.run g cJSONParse es') {calls : List Call}
    (hcalls : ∀ c ∈ calls, c.Succeeds) :
    outputs (serverCall cJSONParse g) (final (serverDeviceStep cJSONParse g) newServer es) calls =
      outputs (serverCall cJSONParse g) (final (serverDeviceStep cJSONParse g) newServer es')
        calls := by
  have hg := (dataStoreInit_room hinit hpos).1
  have h : ∀ es : List ServerEvent, (∀ e ∈ es, e.Succeeds) →
      (final (serverDeviceStep cJSONParse g) newServer es).Keeps g (Store.run g cJSONParse es) :=
    fun es hes => (newServer_keeps g).run cJSONParse hg hes
  have hmeets : ∀ d, Meets (serverCall cJSONParse g) (fun _ c => c.Succeeds) d calls :=
    fun d => meets_of_forall fun c hc _ => hcalls c hc
  refine outputs_eq_of_simulation (R := fun d d' => ∃ a, d.Keeps g a ∧ d'.Keeps g a)
    (fun d d' c hR hc _ => ?_) ⟨_, h es hes, hsame ▸ h es' hes'⟩ (hmeets _) (hmeets _)
  obtain ⟨a, hd, hd'⟩ := hR
  cases c with
  | query q => exact ⟨(hd.alike hg hd').answerQuery_eq q, a, hd, hd'⟩
  | event e =>
    refine ⟨?_, _, hd.step cJSONParse hg hc, hd'.step cJSONParse hg hc⟩
    cases e with
    | request io r => exact congrArg Answer.response (hd.response_eq hg hd' hc.2.2)
    | powerCycle io => rfl

/-- A client that is named and deleted again leaves nothing behind. -/
theorem answers_of_same_store_deleted :
    let es : List ServerEvent :=
      [.request {} (.clientName {} 7 (ascii "/api/client/name?id=11&name=attic")),
        .request {} (.clientDelete {} false (ascii "/api/client?id=11"))]
    let calls : List Call :=
      [.event (.request {} (.upload {} (fun _ => 9) (uploadFrom "11" "1700000000"))),
        .event (.powerCycle {}), .query (.clients {}), .query (.data 9 false (ascii "/?id=11"))]
    outputs (serverCall Json.parse 4314) (final (serverDeviceStep Json.parse 4314) newServer es)
        calls =
      outputs (serverCall Json.parse 4314) newServer calls := by
  intro es calls
  have hclients : (Store.run 4314 Json.parse es).clients = RegMap.empty :=
    RegMap.ext (by decide +kernel) (by decide +kernel)
  have hlogs : (Store.run 4314 Json.parse es).logs = fun _ => [] := by
    dsimp only [Store.run, es, List.foldl, Store.step, Logs.request]
    split
    · exact Function.update_eq_self _ _
    · rfl
  have hsame : Store.run 4314 Json.parse es = Store.run 4314 Json.parse [] :=
    Store.ext hclients hlogs rfl rfl
  exact answers_of_same_store Json.parse (show dataStoreInit 1000000 = some 4314 by decide +kernel)
    (by decide) (by simp [es, ServerEvent.Succeeds, Request.saveIo, NoFileFaults]) (by simp) hsame
    (by simp [calls, Call.Succeeds, ServerEvent.Succeeds, Request.saveIo, NoFileFaults])

end

end IndoorLogger
