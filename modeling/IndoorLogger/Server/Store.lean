import IndoorLogger.Server.ClientFile
import IndoorLogger.Server.Correspondence
import IndoorLogger.Server.Settings

/-
  The server as a store. In its own terms it keeps the clients in their order, the newest
  readings of every id and two settings: an upload appends, a migration or rename moves, a
  deletion erases, and a power cycle only takes the clients offline. In every run whose calls
  succeed, the arrays, the ring files and NVS hold exactly the store that the events make of the
  empty one (`server_keeps_store`).
-/

namespace IndoorLogger

open Machine

/-! ## The store -/

/-- The newest readings of every id, oldest first. -/
abbrev Logs := Id → List DataRecord

namespace Logs

def append (g : UInt32) (l : Logs) (id : Id) (recs : List DataRecord) : Logs :=
  Function.update l id ((l id ++ recs).rtake g.toNat)

/-- The readings of `old` take the place of those of `new`. Where there are none, nothing is
    moved. -/
def move (l : Logs) (old new : Id) : Logs :=
  if l old = [] then l else Function.update (Function.update l new (l old)) old []

def erase (l : Logs) (id : Id) : Logs := Function.update l id []

/-- What a request does to the readings. -/
def request (g : UInt32) (cJSONParse : List UInt8 → Option Json) (m : RegMap) (l : Logs) :
    Request → Logs
  | .upload io clock req =>
    match uploadTarget cJSONParse io req with
    | none => l
    | some (id, root) =>
      let l := l.append g id (decodeItems clock 0 (uploadItems root))
      match m.victim id (some req.ip.bytes) with
      | none => l
      | some v => l.move v.id id
  | .clientId _ _ uri =>
    if m.Accepts uri then l.move (m.renameSource uri) (queryParam uri "new_id" 32) else l
  | .clientDelete _ _ uri =>
    if queryParam uri "id" 32 ∈ m.ids then l.erase (queryParam uri "id" 32) else l
  | _ => l

end Logs

/-- What the server keeps. -/
@[ext] structure Store where
  clients : RegMap
  logs : Logs
  syncInterval : UInt32
  timezone : CStr 64

namespace Store

def empty : Store := ⟨RegMap.empty, fun _ => [], defaultSyncIntervalSec, defaultTimezone⟩

def step (g : UInt32) (cJSONParse : List UInt8 → Option Json) (a : Store) : ServerEvent → Store
  | .request _ r =>
    { clients := a.clients.request cJSONParse r
      logs := a.logs.request g cJSONParse a.clients r
      syncInterval := r.newInterval.getD a.syncInterval
      timezone := r.newTimezone.getD a.timezone }
  | .powerCycle _ => { a with clients := a.clients.offline }

/-- The store after some events. -/
def run (g : UInt32) (cJSONParse : List UInt8 → Option Json) (es : List ServerEvent) : Store :=
  es.foldl (step g cJSONParse) empty

end Store

/-- No call of the event fails, of the file system or of NVS. -/
def ServerEvent.Succeeds : ServerEvent → Prop
  | .request io r => io = {} ∧ r.saveIo = {} ∧ NoFileFaults r
  | .powerCycle io => io = {}

/-! ## Files that hold the logs -/

variable {g : UInt32} {fs fs' : Fs} {id : Id}

/-- Every id has its log in its file, and no file where the log is empty. -/
def FilesHold (g : UInt32) (fs : Fs) (l : Logs) : Prop :=
  ∀ id, HoldsSeq g fs id (l id) ∧ (l id = [] → fs (getFilepath id) = none)

/-- The sequence is that of the file. -/
theorem HoldsSeq.congr {recs : List DataRecord} (h : HoldsSeq g fs id recs)
    (hf : fs' (getFilepath id) = fs (getFilepath id)) : HoldsSeq g fs' id recs := by
  unfold HoldsSeq FileHolds at h ⊢
  rw [hf]
  exact h

theorem holdsSeq_none (h : fs (getFilepath id) = none) : HoldsSeq g fs id [] := by
  refine .inl ⟨?_, rfl⟩
  rw [h]
  rfl

theorem rtake_of_length_le {α : Type} {l : List α} {n : Nat} (h : l.length ≤ n) :
    l.rtake n = l := by
  rw [List.rtake, Nat.sub_eq_zero_of_le h, List.drop_zero]

theorem HoldsSeq.append (hg : Fits g) {recs : List DataRecord} (h : HoldsSeq g fs id recs)
    (rec : DataRecord) :
    HoldsSeq g (dataStoreAppend g {} fs id rec).1 id ((recs ++ [rec]).rtake g.toNat) := by
  rcases h with ⟨hv, rfl⟩ | ⟨r, hf, hl⟩
  · obtain ⟨f, he, hf⟩ := append_fresh hg rec hv
    refine .inr ⟨_, ⟨f, by rw [he]; exact Fs.write_self .., hf⟩, ?_⟩
    rw [RingBuffer.toList_push, RingBuffer.toList_empty, List.nil_append, List.nil_append,
      rtake_of_length_le hg.pos, rtake_of_length_le hg.pos]
    rfl
  · obtain ⟨f, he, hf⟩ := append_holds hg rec hf
    refine .inr ⟨_, ⟨f, by rw [he]; exact Fs.write_self .., hf⟩, ?_⟩
    rw [RingBuffer.toList_push, hl, List.rtake, List.rtake, List.map_drop, List.map_append,
      List.length_append, List.length_append, List.length_map]
    rfl

theorem HoldsSeq.appendAll (hg : Fits g) {recs : List DataRecord} (h : HoldsSeq g fs id recs)
    (batch : List DataRecord) :
    HoldsSeq g (appendAll g id fs batch) id ((recs ++ batch).rtake g.toNat) := by
  induction batch using List.reverseRecOn with
  | nil =>
    rw [List.append_nil, rtake_of_length_le h.length_le]
    exact h
  | append_singleton batch rec ih =>
    have hnext := ih.append hg rec
    rw [RingBuffer.rtake_rtake_append, List.append_assoc] at hnext
    unfold IndoorLogger.appendAll
    rw [List.foldl_append]
    exact hnext

/-- A file that holds a sequence has a well-formed header. -/
theorem HoldsSeq.fileHeaderOk {recs : List DataRecord} (h : HoldsSeq g fs id recs) :
    FileHeaderOk g (fs (getFilepath id)) := by
  rcases h with ⟨hv, -⟩ | ⟨r, ⟨f, hf, hr⟩, -⟩
  · intro f hd hf hvalid
    rw [hf, Option.bind_some, hvalid] at hv
    cases hv
  · obtain ⟨hd, hv, ho⟩ := headerOk_of_holds hr
    rw [hf]
    exact fileHeaderOk_of_valid hv ho

namespace FilesHold

variable {l : Logs}

/-- Only the file of one id changes. -/
theorem update (h : FilesHold g fs l) {recs : List DataRecord}
    (hother : ∀ id', id' ≠ id → fs' (getFilepath id') = fs (getFilepath id'))
    (hself : HoldsSeq g fs' id recs) (hnone : recs = [] → fs' (getFilepath id) = none) :
    FilesHold g fs' (Function.update l id recs) := by
  intro id'
  by_cases hid : id' = id
  · subst hid
    rw [Function.update_self]
    exact ⟨hself, hnone⟩
  · rw [Function.update_of_ne hid, hother id' hid]
    exact ⟨(h id').1.congr (hother id' hid), (h id').2⟩

theorem append (hg : Fits g) (h : FilesHold g fs l) (id : Id) (batch : List DataRecord) :
    FilesHold g (appendAll g id fs batch) (l.append g id batch) := by
  refine h.update (fun id' hid => ?_) ((h id).1.appendAll hg batch) fun hempty => ?_
  · exact appendAll_other g id fs batch fun hp => hid (getFilepath_inj.mp hp)
  · have hlen := congrArg List.length hempty
    have hpos := hg.pos
    rw [List.rtake, List.length_drop, List.length_append, List.length_nil] at hlen
    obtain rfl : batch = [] := List.eq_nil_of_length_eq_zero (by omega)
    exact (h id).2 (List.eq_nil_of_length_eq_zero (by omega))

theorem erase (h : FilesHold g fs l) (id : Id) :
    FilesHold g (dataStoreDeleteClient false fs id).1 (l.erase id) := by
  have hgone : (dataStoreDeleteClient false fs id).1 (getFilepath id) = none := by
    unfold dataStoreDeleteClient
    rw [if_neg Bool.false_ne_true]
    cases hf : fs (getFilepath id) with
    | none => exact hf
    | some f => exact Fs.unlink_self ..
  refine h.update (fun id' hid => ?_) (holdsSeq_none hgone) fun _ => hgone
  unfold dataStoreDeleteClient
  rw [if_neg Bool.false_ne_true]
  cases fs (getFilepath id) with
  | none => rfl
  | some f => exact Fs.unlink_ne _ fun hp => hid (getFilepath_inj.mp hp)

theorem move (h : FilesHold g fs l) {old new : Id} (hold : old ≠ CStr.empty)
    (hnew : new ≠ CStr.empty) (hne : old ≠ new) :
    FilesHold g (dataStoreRenameClient {} fs old new).1 (l.move old new) := by
  unfold Logs.move
  by_cases hempty : l old = []
  · rw [if_pos hempty, rename_noFile {} new ((h old).2 hempty)]
    exact h
  · rw [if_neg hempty]
    obtain ⟨r, ⟨f, hf, hr⟩, hl⟩ := (h old).1.resolve_left fun hc => hempty hc.2
    obtain ⟨hd, hv, -⟩ := hr.header
    obtain ⟨hmoved, hgone, hother⟩ := rename_files hold hnew hne hf hv
    intro id
    by_cases hido : id = old
    · subst hido
      rw [Function.update_self]
      exact ⟨holdsSeq_none hgone, fun _ => hgone⟩
    · rw [Function.update_of_ne hido]
      by_cases hidn : id = new
      · subst hidn
        rw [Function.update_self]
        exact ⟨.inr ⟨r, ⟨_, hmoved, hr.renamed hv id⟩, hl⟩, fun hc => absurd hc hempty⟩
      · rw [Function.update_of_ne hidn, hother id hido hidn]
        exact ⟨(h id).1.congr (hother id hido hidn), (h id).2⟩

/-- The step: a request does to the files what it does to the logs. -/
theorem request (hg : Fits g) (h : FilesHold g fs l) (m : RegMap)
    (cJSONParse : List UInt8 → Option Json) {r : Request} (hr : NoFileFaults r) :
    FilesHold g (m.requestFs cJSONParse g fs r) (l.request g cJSONParse m r) := by
  cases r with
  | upload io clock req =>
    obtain ⟨happend, hrename⟩ := hr
    rw [RegMap.requestFs, Logs.request]
    cases uploadTarget cJSONParse io req with
    | none => exact h
    | some t =>
      obtain ⟨id, root⟩ := t
      dsimp only
      rw [happend, hrename, storeReadings_eq hg clock id 0 _ (h id).1.fileHeaderOk, dedupFs]
      have hstored := h.append hg id (decodeItems clock 0 (uploadItems root))
      cases hv : m.victim id (some req.ip.bytes) with
      | none => exact hstored
      | some v =>
        obtain ⟨-, -, hne⟩ := RegMap.mem_ids_of_victim hv
        exact hstored.move (m.ids_ne v (RegMap.mem_of_victim hv)) id.2 hne
  | clientId io save uri =>
    cases (show io = {} from hr)
    rw [RegMap.requestFs, Logs.request]
    by_cases hacc : m.Accepts uri
    · rw [if_pos hacc, if_pos hacc]
      obtain ⟨hid, -, hnew, hne, -⟩ := hacc
      exact h.move (m.resolve_ne hid) hnew hne
    · rw [if_neg hacc, if_neg hacc]
      exact h
  | clientDelete io unlinkFails uri =>
    cases (show unlinkFails = false from hr)
    rw [RegMap.requestFs, Logs.request]
    by_cases hmem : queryParam uri "id" 32 ∈ m.ids
    · rw [if_pos hmem]
      exact (if_pos hmem).symm ▸ h.erase _
    · rw [if_neg hmem]
      exact (if_neg hmem).symm ▸ h
  | clientName io now uri => exact h
  | basicModePost io now uri => exact h
  | syncIntervalPost uri => exact h
  | timezonePost uri => exact h
  | checkStale now timeoutSec => exact h

end FilesHold

/-! ## Runs -/

/-- The device keeps the store, and a power cycle would bring it back. -/
structure ServerDevice.Keeps (g : UInt32) (d : ServerDevice) (a : Store) : Prop where
  clients : d.server.reg.Lists a.clients
  files : FilesHold g d.server.fs a.logs
  persisted : d.server.Persisted
  settings : Watched.Kept ⟨d, a.syncInterval, a.timezone⟩

/-- A device with empty flash, started. -/
def newServer : ServerDevice := ⟨bootState, none, none⟩

theorem newServer_keeps (g : UInt32) : newServer.Keeps g Store.empty where
  clients := lists_init
  files := fun _ => ⟨holdsSeq_none rfl, fun _ => rfl⟩
  persisted := boot_persisted bootState
  settings := ⟨rfl, rfl, rfl, rfl⟩

/-- What fails in an event makes no difference to the settings when nothing does. -/
theorem losesNothing_of_succeeds (w : Watched) {e : ServerEvent} (h : e.Succeeds) :
    w.LosesNothing e := by
  have hwrite : ∀ {ν : Type} (default : ν) (c : WriteThrough.Cell ν) (new : Option ν),
      WriteThrough.Harmless default c (writeOp {} new) := by
    intro ν default c new
    cases new with
    | none => trivial
    | some v => exact fun hc => absurd hc Bool.false_ne_true
  cases e with
  | request io r =>
    obtain ⟨hio, -, -⟩ := h
    cases hio
    exact ⟨hwrite _ _ _, hwrite _ _ _⟩
  | powerCycle io =>
    cases (show io = {} from h)
    exact ⟨fun hc => absurd hc Bool.false_ne_true, fun hc => absurd hc Bool.false_ne_true⟩

theorem ServerDevice.Keeps.step (cJSONParse : List UInt8 → Option Json) (hg : Fits g)
    {d : ServerDevice} {a : Store} (h : d.Keeps g a) {e : ServerEvent} (he : e.Succeeds) :
    (serverDeviceStep cJSONParse g d e).1.Keeps g (a.step g cJSONParse e) := by
  have hsettings := (kept_watchStep_iff cJSONParse g h.settings e).mpr
    (losesNothing_of_succeeds _ he)
  cases e with
  | request io r =>
    obtain ⟨-, hsave, hfiles⟩ := he
    obtain ⟨hclients, hfs⟩ := serverStep_leaves cJSONParse g h.clients r
    refine ⟨hclients, ?_, serverStep_persisted h.persisted hsave, hsettings⟩
    change FilesHold g (serverStep cJSONParse g d.server r).1.fs _
    rw [hfs]
    exact h.files.request hg a.clients cJSONParse hfiles
  | powerCycle io =>
    cases (show io = {} from he)
    have hboot := boot_persisted d.server
    exact ⟨(boot_lists h.persisted h.clients).1, h.files, ⟨hboot.inRange, hboot.restart_eq⟩,
      hsettings⟩

/-- The run: from a device and a store that it keeps. -/
theorem ServerDevice.Keeps.run (cJSONParse : List UInt8 → Option Json) (hg : Fits g)
    {d : ServerDevice} {a : Store} (h : d.Keeps g a) {es : List ServerEvent}
    (hes : ∀ e ∈ es, e.Succeeds) :
    (final (serverDeviceStep cJSONParse g) d es).Keeps g
      (es.foldl (Store.step g cJSONParse) a) := by
  induction es generalizing d a with
  | nil => exact h
  | cons e es ih =>
    exact ih (h.step cJSONParse hg (hes e List.mem_cons_self)) fun e' he' =>
      hes e' (List.mem_cons_of_mem e he')

/-- **The server keeps the store.** Start the server on empty flash and let requests, stale
    checks and power cycles follow, none of whose calls fails. The registry then lists the
    clients of the store, the settings are its settings, an id has a file exactly if it has
    readings, and all that is read of a file is a slice of the newest readings of that id. -/
theorem server_keeps_store (cJSONParse : List UInt8 → Option Json) {total g : UInt32}
    (hinit : dataStoreInit total = some g) (hpos : 0 < g) {es : List ServerEvent}
    (hes : ∀ e ∈ es, e.Succeeds) :
    let s := (final (serverDeviceStep cJSONParse g) newServer es).server
    let a := Store.run g cJSONParse es
    s.reg.Lists a.clients ∧ s.syncInterval = a.syncInterval ∧ s.timezone = a.timezone ∧
      ∀ id, (s.fs (getFilepath id) = none ↔ a.logs id = []) ∧
        (dataStoreGetCount s.fs id).toNat = (a.logs id).length ∧
        ∀ offset limit capacity, dataStoreReadRange s.fs id offset limit capacity =
          ((a.logs id).drop offset.toNat).take (min limit.toNat capacity.toNat) := by
  intro s a
  have hg := (dataStoreInit_room hinit hpos).1
  have h := (newServer_keeps g).run cJSONParse hg hes
  refine ⟨h.clients, h.settings.interval, h.settings.timezone, fun id => ?_⟩
  obtain ⟨hseq, hnone⟩ := h.files id
  refine ⟨⟨fun hfile => ?_, hnone⟩, hseq.getCount_eq, hseq.readRange_eq hg⟩
  rcases hseq with ⟨-, hempty⟩ | ⟨r, ⟨f, hf, -⟩, -⟩
  · exact hempty
  · rw [hfile] at hf
    cases hf

/-- A reading of a client that is renamed before the power goes. -/
theorem server_keeps_store_renamed :
    let es : List ServerEvent :=
      [.request {} (.upload {} (fun _ => 0) (uploadFrom "1" "1700000000")),
        .request {} (.clientId {} {} (ascii "/api/client/id?id=1&new_id=7")), .powerCycle {}]
    let s := (final (serverDeviceStep Json.parse 4314) newServer es).server
    dataStoreReadRange s.fs (CStr.strncpy (ascii "7")) 0 9 9 =
      [⟨1700000000, 0, 0, 0, 0, 0, 0⟩] := by
  intro es s
  have hlog : (Store.run 4314 Json.parse es).logs (CStr.strncpy (ascii "7")) =
      [⟨1700000000, 0, 0, 0, 0, 0, 0⟩] := by decide +kernel
  have hes : ∀ e ∈ es, e.Succeeds := by
    simp [es, ServerEvent.Succeeds, Request.saveIo, NoFileFaults]
  obtain ⟨-, -, hread⟩ := (server_keeps_store Json.parse
    (show dataStoreInit 1000000 = some 4314 by decide +kernel) (by decide) hes).2.2.2
    (CStr.strncpy (ascii "7"))
  rw [hread, hlog]
  rfl

end IndoorLogger
