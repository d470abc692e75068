import IndoorLogger.Client.Fifo
import IndoorLogger.Lib.StoreForward
import IndoorLogger.Server.ClientFile
import IndoorLogger.Server.QueryString
import IndoorLogger.Sync.Acknowledgement
import IndoorLogger.Sync.ReadingRoundTrip
import IndoorLogger.Sync.SortedUploads

/-
  The readings of a device on their way into its file on the server. Device and server run
  interleaved with the requests of everybody else, with reboots of both, and with uploads that
  do not get through or whose answer is lost. Such a run is one of store and forward
  (`linkStep_simulates`), from which the delivery of readings follows
  (`readings_delivered_exactly_once_iff`, `backlog_drained`).
-/

namespace IndoorLogger

open Json Machine PercentEncoding RecordFile

/-! ## Events -/

/-- One upload: how far it gets, and what it meets there. -/
structure Transfer where
  cfg : ClientConfig
  io : UploadIo
  clock : Nat → UInt32
  ip : CStr 16
  reached : Bool
  answered : Bool

inductive LinkEvent where
  | sample (rec : StoredRecord)
  | reboot
  | transfer (x : Transfer)
  | request (r : Request)
  | restart

/-- The storage of the device, and the server. -/
structure LinkState where
  storage : Storage
  server : ServerState

/-- The upload as an exchange with the server in its present state. -/
def Transfer.exchange (x : Transfer) (server : ServerState) : Exchange where
  cfg := x.cfg
  server := server
  io := x.io
  clock := x.clock
  ip := x.ip
  delivered := x.reached && x.answered

section

variable (cJSONParse : List UInt8 → Option Json) (gMax : UInt32) (configClientId : CStr 32)
  (total : UInt32)

/-- What an upload request changes on the server. -/
def Transfer.serve (x : Transfer) (s : LinkState) : ServerState :=
  if x.reached then
    (serverStep cJSONParse gMax s.server
      (.upload x.io x.clock ((x.exchange s.server).request s.storage))).1
  else s.server

def linkStep (s : LinkState) : LinkEvent → LinkState × Unit
  | .sample rec => ({ s with storage := (dataStorageAppend {} s.storage rec).1 }, ())
  | .reboot =>
    ({ s with storage := (dataStorageInit {} configClientId total (powerCycle s.storage)).1 }, ())
  | .transfer x =>
    let perform := (x.exchange s.server).perform cJSONParse gMax
    (⟨(wifiSyncUploadUnsynced x.cfg perform s.storage).1, x.serve cJSONParse gMax s⟩, ())
  | .request r => ({ s with server := (serverStep cJSONParse gMax s.server r).1 }, ())
  | .restart => ({ s with server := s.server.boot }, ())

end

/-- The readings taken in a run, as the device stores them. -/
def samples (es : List LinkEvent) : List StoredRecord :=
  es.filterMap fun e =>
    match e with
    | .sample rec => some rec.fresh
    | _ => none

/-- What becomes of an upload. The server refuses it when it cannot receive the body. -/
def Transfer.fate (x : Transfer) : StoreForward.Fate :=
  if !x.reached || x.io.malloc || x.io.recv then .lost
  else if x.answered then .answered else .unanswered

def LinkEvent.event : LinkEvent → StoreForward.Event StoredRecord
  | .sample rec => .take rec.fresh
  | .transfer x => .transfer uploadBatchSize x.fate
  | _ => .idle

/-- An id whose bytes need no escape, in a query or in a document. -/
def PlainId (id : Id) : Prop := ∀ b ∈ id.bytes, isUnreserved b = true

instance (id : Id) : Decidable (PlainId id) := List.decidableBAll _ id.bytes

/-- Readings of the sensors' range that the ring has room for, uploads under the id of the device
    that the server can store and that find no other client at their address, and requests that
    spare the client. -/
def Orderly (cJSONParse : List UInt8 → Option Json) (id : ClientId) (s : LinkState) :
    LinkEvent → Prop
  | .sample rec => Sampled (exactRecord rec) ∧
      s.storage.header.unsyncedCount < s.storage.header.maxRecords
  | .transfer x => x.cfg.clientId = id.1 ∧ Plain x.cfg.assignedName.bytes ∧
      x.io.append = (fun _ => {}) ∧ x.io.save = {} ∧ migrated s.server id x.ip = none
  | .request r => Spares cJSONParse id s.server r ∧ r.saveIo = {}
  | _ => True

/-- The event is no upload that the server stores and the device takes for failed, or the device
    has nothing to upload. -/
def NoRepeat (s : LinkState) : LinkEvent → Prop
  | .transfer x => x.fate = .unanswered → s.storage.batch = []
  | _ => True

/-- `dr` is what the server makes of `rec`, at some time and in some mode. -/
def Arrives (rec : StoredRecord) (dr : DataRecord) : Prop :=
  ∃ now basicMode, dr = decodeReading now (readingJson basicMode (exactRecord rec))

/-- Device and server as store and forward sees them. -/
structure Linked (M g : UInt32) (id : ClientId) (s : LinkState)
    (l : StoreForward.Link StoredRecord) : Prop where
  queue : Represents M s.storage l.queue
  sampled : ∀ rec ∈ l.queue, Sampled (exactRecord rec)
  registry : ∃ m, s.server.reg.Lists m
  persisted : s.server.Persisted
  file : ∃ own, HoldsNewest g s.server.fs id own ∧ List.Forall₂ Arrives l.arrived own

/-! ## The request of an upload -/

theorem plain_of_plainId {id : Id} (h : PlainId id) : Plain id.bytes := by
  have hall : ∀ n < 256, isUnreserved (UInt8.ofNat n) = true → isPlain (UInt8.ofNat n) = true := by
    decide +kernel
  intro b hb
  have := hall b.toNat b.toNat_lt
  rw [UInt8.ofNat_toNat] at this
  exact this (h b hb)

theorem encode_unreserved {v : List UInt8} (h : ∀ b ∈ v, isUnreserved b = true) :
    encode v = v := by
  induction v with
  | nil => rfl
  | cons b v ih =>
    rw [encode_cons, encodeByte_unreserved (h b List.mem_cons_self),
      ih fun c hc => h c (List.mem_cons_of_mem _ hc)]
    rfl

/-- The server reads the id that the device uploads under. -/
theorem queryParam_uploadUri {id : Id} (h : PlainId id) :
    (queryParam (uploadUri id) "id" 32 : Id) = id := by
  have hfits := id.fits
  have hquery : strchr (uploadUri id) 63 = some (queryText [⟨.id, id.bytes, id.noNul⟩]) := by
    have htext : queryText [⟨.id, id.bytes, id.noNul⟩] = ascii "?id=" ++ encode id.bytes := by
      unfold queryText
      rw [List.map_singleton, List.intercalate_singleton]
      rfl
    rw [htext, encode_unreserved h]
    rfl
  have hval : getQueryVal (some (queryText [⟨.id, id.bytes, id.noNul⟩])) (ascii "id") 32 =
      some id.bytes := by
    have hdec := urlDecode_encode_append id.bytes []
    rw [List.append_nil, encode_unreserved h, urlDecode, List.append_nil] at hdec
    have hend : (ParamKey.id).EndsIn .id := Or.inl rfl
    have hsearch := search_cons_of_endsIn (p := ⟨.id, id.bytes, id.noNul⟩) hend []
    refine (getQueryVal_queryText _ .id 32).trans ?_
    rw [hsearch.1, hsearch.2, if_neg (by simp), Option.map_some, received, encode_unreserved h,
      List.take_of_length_le (by omega), hdec]
  unfold queryParam
  rw [hquery, hval, Option.getD_some]
  exact CStr.strncpy_bytes id

/-! ## Steps of the device -/

section

variable {cJSONParse : List UInt8 → Option Json} {g M : UInt32} {id : ClientId} {x : Transfer}
  {s : LinkState} {l : StoreForward.Link StoredRecord}

/-- On a ring within reach of the `long` offsets an append succeeds. -/
theorem append_succeeds (hsize : 56 + M.toNat * 22 ≤ 2 ^ 31) {st : Storage}
    {pending : List StoredRecord} (h : Represents M st pending) (rec : StoredRecord) :
    (dataStorageAppend {} st rec).2 = 0 := by
  obtain ⟨f, r, acked, h⟩ := h
  have hnext := r.next_lt
  have hw := h.writeIdx
  unfold dataStorageAppend
  rw [h.fp, clientRecordOffset_eq (by omega)]
  rfl

theorem batch_eq (hM : M.toNat < 2 ^ 31) {st : Storage} {pending : List StoredRecord}
    (h : Represents M st pending) : st.batch.map (·.2) = pending.take uploadBatchSize := by
  have hread := readUnsynced_eq hM h uploadBatchSize
  rwa [Int.toNat_natCast] at hread

/-- Only an answer of status 200 makes the device flag its batch. -/
theorem upload_storage (cJSONParse : List UInt8 → Option Json) (gMax : UInt32) (e : Exchange)
    (st : Storage) :
    (wifiSyncUploadUnsynced e.cfg (e.perform cJSONParse gMax) st).1 =
      if e.perform cJSONParse gMax (e.request st).uri (e.request st).body = some 200 then
        (dataStorageMarkSynced {} st st.batch.length).1
      else st := by
  have hbatch : dataStorageReadUnsynced (fun _ => false) st uploadBatchSize =
      st.batch.map (·.2) := rfl
  have hnone : ¬ st.batch.length > 0 → (dataStorageMarkSynced {} st st.batch.length).1 = st := by
    intro hzero
    unfold dataStorageMarkSynced
    cases st.fp with
    | none => rfl
    | some f =>
      dsimp only
      rw [if_pos (by omega)]
  unfold wifiSyncUploadUnsynced
  dsimp only
  rw [hbatch, List.length_map, show e.perform cJSONParse gMax (uploadUri e.cfg.clientId)
    (uploadBody e.cfg.clientId e.cfg.assignedName e.cfg.basicMode
      ((st.batch.map (·.2)).map exactRecord)) =
    e.perform cJSONParse gMax (e.request st).uri (e.request st).body from rfl]
  cases e.perform cJSONParse gMax (e.request st).uri (e.request st).body with
  | none => rfl
  | some status =>
    simp only [Option.some.injEq]
    split
    · split
      · rfl
      · exact (hnone ‹_›).symm
    · rfl

/-- The device keeps its backlog unless an answer of status 200 comes back. -/
theorem transfer_keeps (hp : (x.exchange s.server).perform cJSONParse g
      ((x.exchange s.server).request s.storage).uri
      ((x.exchange s.server).request s.storage).body ≠ some 200)
    (configClientId : CStr 32) (total : UInt32) :
    (linkStep cJSONParse g configClientId total s (.transfer x)).1.storage = s.storage :=
  (upload_storage cJSONParse g (x.exchange s.server) s.storage).trans (if_neg hp)

/-- An answered upload settles the batch. -/
theorem transfer_settles (hM : M.toNat < 2 ^ 31) (h : Represents M s.storage l.queue)
    (hp : (x.exchange s.server).perform cJSONParse g
      ((x.exchange s.server).request s.storage).uri
      ((x.exchange s.server).request s.storage).body = some 200)
    (configClientId : CStr 32) (total : UInt32) :
    Represents M (linkStep cJSONParse g configClientId total s (.transfer x)).1.storage
      (l.queue.drop uploadBatchSize) := by
  have hlen : s.storage.batch.length = min uploadBatchSize l.queue.length := by
    rw [← List.length_map, batch_eq hM h, List.length_take]
  have hdrop : l.queue.drop s.storage.batch.length = l.queue.drop uploadBatchSize := by
    rw [hlen]
    rcases Nat.le_total uploadBatchSize l.queue.length with hle | hle
    · rw [Nat.min_eq_left hle]
    · rw [Nat.min_eq_right hle, List.drop_length, List.drop_eq_nil_of_le hle]
  have hmark := (markSynced_represents hM h s.storage.batch.length).2
  rw [hdrop] at hmark
  have hst := upload_storage cJSONParse g (x.exchange s.server) s.storage
  rw [if_pos hp] at hst
  exact Eq.mpr (congrArg (fun st => Represents M st _) hst) hmark

/-! ## Steps of the server -/

theorem uploadTarget_of_param {io : UploadIo} {req : UploadRequest}
    (h : (queryParam req.uri "id" 32 : Id) = id.1) :
    uploadTarget cJSONParse io req =
      match uploadRoot cJSONParse io req.body with
      | .error _ => none
      | .ok root => some (id, root) := by
  have hne : (queryParam req.uri "id" 32 : Id) ≠ CStr.empty := by
    rw [h]
    exact id.2
  have hid : (⟨queryParam req.uri "id" 32, hne⟩ : ClientId) = id := Subtype.ext h
  unfold uploadTarget
  rw [dif_neg hne]
  cases uploadRoot cJSONParse io req.body with
  | error _ => rfl
  | ok root => exact congrArg (fun i => some (i, root)) hid

/-- The server refuses a body that it cannot receive. -/
theorem uploadRoot_refused {io : UploadIo} (h : (io.malloc || io.recv) = true)
    (body : List UInt8) : ∃ resp, uploadRoot cJSONParse io body = .error resp := by
  cases hroot : uploadRoot cJSONParse io body with
  | error resp => exact ⟨resp, rfl⟩
  | ok root =>
    obtain ⟨-, -, hm, hr, -⟩ := uploadRoot_eq_ok_iff.mp hroot
    rw [hm, hr] at h
    cases h

/-- The request of an orderly upload. -/
theorem request_of_orderly (hM : M.toNat < 2 ^ 31) (h : Represents M s.storage l.queue)
    (hcid : x.cfg.clientId = id.1) :
    (x.exchange s.server).request s.storage =
      ⟨uploadUri id.1, uploadBody id.1 x.cfg.assignedName x.cfg.basicMode
        ((l.queue.take uploadBatchSize).map exactRecord), x.ip⟩ := by
  have hcfg : (x.exchange s.server).cfg = x.cfg := rfl
  have hip : (x.exchange s.server).ip = x.ip := rfl
  unfold Exchange.request
  rw [batch_eq hM h, hcfg, hip, hcid]

/-- What the server finds in an orderly upload. -/
theorem target_of_orderly (hparse : ∀ t v, Json.parse t = some v → cJSONParse t = some v)
    (hid : PlainId id.1) (hM : M.toNat < 2 ^ 31) (h : Linked M g id s l)
    (hx : Orderly cJSONParse id s (.transfer x)) :
    uploadTarget cJSONParse x.io ((x.exchange s.server).request s.storage) =
      if x.io.malloc || x.io.recv then none
      else some (id, bodyJson id.1 x.cfg.assignedName x.cfg.basicMode
        ((l.queue.take uploadBatchSize).map exactRecord)) := by
  obtain ⟨hcid, hname, -, -, -⟩ := hx
  have hsampled : ∀ r ∈ (l.queue.take uploadBatchSize).map exactRecord, Sampled r := by
    intro r hr
    obtain ⟨r', hr', rfl⟩ := List.mem_map.mp hr
    exact h.sampled r' (List.mem_of_mem_take hr')
  have hlen : ((l.queue.take uploadBatchSize).map exactRecord).length ≤ uploadBatchSize := by
    rw [List.length_map, List.length_take]
    exact Nat.min_le_left _ _
  generalize hrecs : (l.queue.take uploadBatchSize).map exactRecord = recs at hsampled hlen
  have hreq := request_of_orderly hM h.queue hcid
  rw [hrecs] at hreq
  have hfit := length_bodyText_le id.1 x.cfg.assignedName x.cfg.basicMode hsampled hlen
  rw [hreq, uploadTarget_of_param (queryParam_uploadUri hid)]
  dsimp only
  by_cases hio : (x.io.malloc || x.io.recv) = true
  · have hrefused : ∃ resp, uploadRoot cJSONParse x.io
        (uploadBody id.1 x.cfg.assignedName x.cfg.basicMode recs) = .error resp :=
      uploadRoot_refused hio _
    obtain ⟨resp, hresp⟩ := hrefused
    rw [if_pos hio, hresp]
  · rw [if_neg hio]
    rw [Bool.or_eq_true, not_or, Bool.not_eq_true, Bool.not_eq_true] at hio
    rw [parse_uploadBody hparse hio.1 hio.2 (plain_of_plainId hid) hname x.cfg.basicMode hfit]

/-- The records of a batch arrive one by one. -/
theorem arrives_decodeItems (clock : Nat → UInt32) (basicMode : Bool) (i : Nat)
    (records : List StoredRecord) :
    List.Forall₂ Arrives records
      (decodeItems clock i ((records.map exactRecord).map (readingJson basicMode))) := by
  induction records generalizing i with
  | nil => exact .nil
  | cons rec records ih => exact .cons ⟨clock i, basicMode, rfl⟩ (ih (i + 1))

/-- An upload that the server stores extends the file by the batch. -/
theorem serve_stores (hg : Fits g) (hparse : ∀ t v, Json.parse t = some v → cJSONParse t = some v)
    (hid : PlainId id.1) (hM : M.toNat < 2 ^ 31) (h : Linked M g id s l)
    (hx : Orderly cJSONParse id s (.transfer x)) (hio : ¬(x.io.malloc || x.io.recv) = true) :
    let req := (x.exchange s.server).request s.storage
    let server := (serverStep cJSONParse g s.server (.upload x.io x.clock req)).1
    (∃ m, server.reg.Lists m) ∧ server.Persisted ∧
      ∃ own, HoldsNewest g server.fs id own ∧
        List.Forall₂ Arrives (l.arrived ++ l.queue.take uploadBatchSize) own := by
  intro req server
  obtain ⟨m, hm⟩ := h.registry
  obtain ⟨own, hown, harr⟩ := h.file
  have ht := target_of_orderly hparse hid hM h hx
  rw [if_neg hio] at ht
  obtain ⟨-, -, happend, hsave, hmig⟩ := hx
  rw [migrated_eq hm] at hmig
  have hvictim : m.victim id (some x.ip.bytes) = none := Option.map_eq_none_iff.mp hmig
  obtain ⟨hlists, hfs⟩ := serverStep_leaves cJSONParse g hm (.upload x.io x.clock req)
  rw [RegMap.requestFs, ht] at hfs
  dsimp only at hfs
  rw [happend, storeReadings_eq hg x.clock id 0 _ hown.fileHeaderOk, dedupFs,
    show req.ip = x.ip from rfl, hvictim, uploadItems_bodyJson] at hfs
  have hnew := arrives_decodeItems x.clock x.cfg.basicMode 0 (l.queue.take uploadBatchSize)
  refine ⟨⟨_, hlists⟩, serverStep_persisted h.persisted hsave, _, ?_,
    List.rel_append harr hnew⟩
  exact Eq.mpr (congrArg (fun fs => HoldsNewest g fs id _) hfs) (appendAll_holdsNewest hg hown _)

/-- An upload that the server refuses changes nothing. -/
theorem serve_refuses (hparse : ∀ t v, Json.parse t = some v → cJSONParse t = some v)
    (hid : PlainId id.1) (hM : M.toNat < 2 ^ 31) (h : Linked M g id s l)
    (hx : Orderly cJSONParse id s (.transfer x)) (hio : (x.io.malloc || x.io.recv) = true) :
    x.serve cJSONParse g s = s.server := by
  have ht := target_of_orderly hparse hid hM h hx
  rw [if_pos hio] at ht
  unfold Transfer.serve
  split
  · obtain ⟨resp, -, -, heq⟩ | ⟨id', root, ht', -⟩ := uploadPostHandler_cases cJSONParse g x.io
      x.clock s.server ((x.exchange s.server).request s.storage)
    · exact congrArg Prod.fst heq
    · rw [ht] at ht'
      cases ht'
  · rfl

theorem perform_exchange (cJSONParse : List UInt8 → Option Json) (g : UInt32) (x : Transfer)
    (server : ServerState) (uri body : List UInt8) :
    (x.exchange server).perform cJSONParse g uri body =
      if x.reached && x.answered then
        some (uploadPostHandler cJSONParse g x.io x.clock server ⟨uri, body, x.ip⟩).2.status
      else none := rfl

/-- The answer to an orderly upload that comes back is 200 where the batch is stored. -/
theorem answer_of_orderly (hparse : ∀ t v, Json.parse t = some v → cJSONParse t = some v)
    (hid : PlainId id.1) (hM : M.toNat < 2 ^ 31) (h : Linked M g id s l)
    (hx : Orderly cJSONParse id s (.transfer x)) :
    let req := (x.exchange s.server).request s.storage
    (x.exchange s.server).perform cJSONParse g req.uri req.body =
      if x.reached && x.answered then
        some (if x.io.malloc || x.io.recv then 500 else 200)
      else none := by
  intro req
  have ht : uploadTarget cJSONParse x.io req = _ := target_of_orderly hparse hid hM h hx
  rw [perform_exchange]
  split
  case isFalse => rfl
  case isTrue hdel =>
    have hreq : (⟨req.uri, req.body, x.ip⟩ : UploadRequest) = req := rfl
    rw [hreq]
    split
    case isTrue hio =>
      have herror : (x.exchange s.server).ServerError := by
        refine ⟨?_, (Bool.or_eq_true _ _).mp hio⟩
        rw [show (x.exchange s.server).cfg = x.cfg from rfl, hx.1, queryParam_uploadUri hid]
        exact id.2
      have h500 : ∀ status ∈ (x.exchange s.server).perform cJSONParse g req.uri req.body,
          status = 500 := perform_serverError herror s.storage
      rw [perform_exchange, if_pos hdel] at h500
      exact congrArg some (h500 _ rfl)
    case isFalse hio =>
      rw [if_neg hio] at ht
      obtain ⟨resp, hnone, -, -⟩ | ⟨id', root, -, heq⟩ := uploadPostHandler_cases cJSONParse g
        x.io x.clock s.server req
      · rw [ht] at hnone
        cases hnone
      · rw [heq]
        rfl

/-! ## Simulation -/

variable {configClientId : CStr 32} {total : UInt32}

theorem sample_linked (hsize : 56 + M.toNat * 22 ≤ 2 ^ 31) (h : Linked M g id s l)
    {rec : StoredRecord} (hc : Orderly cJSONParse id s (.sample rec)) :
    Linked M g id { s with storage := (dataStorageAppend {} s.storage rec).1 }
      (StoreForward.step l (.take rec.fresh)).1 := by
  obtain ⟨hsampled, hroom⟩ := hc
  have hlt : l.queue.length < M.toNat := by
    obtain ⟨f, r, acked, hring⟩ := h.queue
    rwa [UInt32.lt_iff_toNat_lt, hring.unsynced, hring.maxRecords] at hroom
  refine ⟨?_, ?_, h.registry, h.persisted, h.file⟩
  · exact append_represents (by omega) h.queue hlt (append_succeeds hsize h.queue rec)
  · intro r hr
    rcases List.mem_append.mp hr with hr | hr
    · exact h.sampled r hr
    · rw [List.mem_singleton.mp hr]
      exact ⟨hsampled.timestamp, hsampled.temperature, hsampled.humidity⟩

theorem fate_cases (x : Transfer) :
    (x.fate = .lost ∧ (x.reached = false ∨ (x.io.malloc || x.io.recv) = true)) ∨
      (x.fate = .unanswered ∧ x.reached = true ∧ x.answered = false ∧
        ¬(x.io.malloc || x.io.recv) = true) ∨
      (x.fate = .answered ∧ x.reached = true ∧ x.answered = true ∧
        ¬(x.io.malloc || x.io.recv) = true) := by
  unfold Transfer.fate
  cases x.reached <;> cases x.answered <;> cases x.io.malloc <;> cases x.io.recv <;> simp

/-- One upload is one transfer. -/
theorem transfer_linked (hg : Fits g) (hsize : 56 + M.toNat * 22 ≤ 2 ^ 31)
    (hparse : ∀ t v, Json.parse t = some v → cJSONParse t = some v) (hid : PlainId id.1)
    (h : Linked M g id s l) (hc : Orderly cJSONParse id s (.transfer x)) :
    Linked M g id (linkStep cJSONParse g configClientId total s (.transfer x)).1
      (StoreForward.step l (.transfer uploadBatchSize x.fate)).1 := by
  have hM : M.toNat < 2 ^ 31 := by omega
  have hanswer := answer_of_orderly hparse hid hM h hc
  dsimp only at hanswer
  have hserver : (linkStep cJSONParse g configClientId total s (.transfer x)).1.server =
      x.serve cJSONParse g s := rfl
  obtain ⟨hf, hlost⟩ | ⟨hf, hr, ha, hio⟩ | ⟨hf, hr, ha, hio⟩ := fate_cases x
  · -- nothing is stored, and no status 200 comes back
    have hsame : x.serve cJSONParse g s = s.server := by
      rcases hlost with hr | hio
      · unfold Transfer.serve
        rw [hr, if_neg Bool.false_ne_true]
      · exact serve_refuses hparse hid hM h hc hio
    have hst := transfer_keeps (x := x) (s := s) (g := g) (by
      rw [hanswer]
      rcases hlost with hr | hio
      · rw [hr, Bool.false_and, if_neg Bool.false_ne_true]
        exact fun hc => nomatch hc
      · rw [if_pos hio]
        split
        · exact fun hc => nomatch hc
        · exact fun hc => nomatch hc) configClientId total
    rw [hf]
    refine ⟨?_, h.sampled, ?_, ?_, ?_⟩
    · exact hst ▸ h.queue
    · exact hserver ▸ hsame ▸ h.registry
    · exact hserver ▸ hsame ▸ h.persisted
    · exact hserver ▸ hsame ▸ h.file
  · obtain ⟨hreg, hper, hfile⟩ := serve_stores hg hparse hid hM h hc hio
    have hstored : x.serve cJSONParse g s = _ := if_pos hr
    have hst := transfer_keeps (x := x) (s := s) (g := g) (by
      rw [hanswer, ha, Bool.and_false, if_neg Bool.false_ne_true]
      exact fun hc => nomatch hc) configClientId total
    rw [hf]
    refine ⟨?_, h.sampled, ?_, ?_, ?_⟩
    · exact hst ▸ h.queue
    · exact hserver ▸ hstored ▸ hreg
    · exact hserver ▸ hstored ▸ hper
    · exact hserver ▸ hstored ▸ hfile
  · obtain ⟨hreg, hper, hfile⟩ := serve_stores hg hparse hid hM h hc hio
    have hstored : x.serve cJSONParse g s = _ := if_pos hr
    have hst := transfer_settles (x := x) (s := s) (g := g) hM h.queue (by
      rw [hanswer, hr, ha, Bool.and_self, if_pos rfl, if_neg hio]) configClientId total
    rw [hf]
    refine ⟨hst, fun r hr => h.sampled r (List.mem_of_mem_drop hr), ?_, ?_, ?_⟩
    · exact hserver ▸ hstored ▸ hreg
    · exact hserver ▸ hstored ▸ hper
    · exact hserver ▸ hstored ▸ hfile

theorem holdsNewest_congr {fs fs' : Fs} {own : List DataRecord}
    (hfs : fs' (getFilepath id) = fs (getFilepath id)) (h : HoldsNewest g fs id own) :
    HoldsNewest g fs' id own := by
  unfold HoldsNewest FileHolds at h ⊢
  rw [hfs]
  exact h

/-- One event of the system is one event of store and forward. -/
theorem linkStep_simulates (hg : Fits g) (hpos : 0 < (computeMaxRecords total).toNat)
    (hsize : 56 + (computeMaxRecords total).toNat * 22 ≤ 2 ^ 31)
    (hparse : ∀ t v, Json.parse t = some v → cJSONParse t = some v) (hid : PlainId id.1)
    (h : Linked (computeMaxRecords total) g id s l) {e : LinkEvent}
    (hc : Orderly cJSONParse id s e) :
    Linked (computeMaxRecords total) g id (linkStep cJSONParse g configClientId total s e).1
      (StoreForward.step l e.event).1 := by
  obtain ⟨m, hm⟩ := h.registry
  obtain ⟨own, hown, harr⟩ := h.file
  cases e with
  | sample rec => exact sample_linked hsize h hc
  | reboot =>
    have hsame := reboot_eq configClientId hpos h.queue
    exact ⟨by rw [linkStep, hsame]; exact h.queue, h.sampled, h.registry, h.persisted, h.file⟩
  | transfer x => exact transfer_linked hg hsize hparse hid h hc
  | request r =>
    obtain ⟨hspares, hsave⟩ := hc
    obtain ⟨hlists, -⟩ := serverStep_leaves cJSONParse g hm r
    exact ⟨h.queue, h.sampled, ⟨_, hlists⟩, serverStep_persisted h.persisted hsave, own,
      holdsNewest_congr (serverStep_spares hm hspares) hown, harr⟩
  | restart =>
    exact ⟨h.queue, h.sampled, ⟨_, (boot_lists h.persisted hm).1⟩, boot_persisted _, own, hown,
      harr⟩

theorem noRepeat_iff (hM : M.toNat < 2 ^ 31) (h : Linked M g id s l) (e : LinkEvent) :
    NoRepeat s e ↔ ¬StoreForward.Repeats l e.event := by
  cases e with
  | transfer x =>
    have hbatch := batch_eq hM h.queue
    rw [NoRepeat, LinkEvent.event, ← List.map_eq_nil_iff (f := (·.2)), hbatch]
    cases hf : x.fate with
    | lost => exact iff_of_true (fun hc => nomatch hc) fun hc => hc
    | unanswered => exact ⟨fun hn hr => hr (hn rfl), fun hn _ => not_not.mp hn⟩
    | answered => exact iff_of_true (fun hc => nomatch hc) fun hc => hc
  | sample rec => exact iff_of_true trivial fun hc => hc
  | reboot => exact iff_of_true trivial fun hc => hc
  | request r => exact iff_of_true trivial fun hc => hc
  | restart => exact iff_of_true trivial fun hc => hc

/-- A run of the system is a run of store and forward. -/
theorem run_linked (hg : Fits g) (hpos : 0 < (computeMaxRecords total).toNat)
    (hsize : 56 + (computeMaxRecords total).toNat * 22 ≤ 2 ^ 31)
    (hparse : ∀ t v, Json.parse t = some v → cJSONParse t = some v) (hid : PlainId id.1)
    (h : Linked (computeMaxRecords total) g id s l) {es : List LinkEvent}
    (hes : Meets (linkStep cJSONParse g configClientId total) (Orderly cJSONParse id) s es) :
    Linked (computeMaxRecords total) g id
        (final (linkStep cJSONParse g configClientId total) s es)
        (final StoreForward.step l (es.map LinkEvent.event)) ∧
      (Meets (linkStep cJSONParse g configClientId total) NoRepeat s es ↔
        Meets StoreForward.step (fun l e => ¬StoreForward.Repeats l e) l
          (es.map LinkEvent.event)) := by
  induction es generalizing s l with
  | nil => exact ⟨h, Iff.rfl⟩
  | cons e es ih =>
    obtain ⟨hc, hrest⟩ := hes
    have hnext : Linked (computeMaxRecords total) g id
        (linkStep cJSONParse g configClientId total s e).1 (StoreForward.step l e.event).1 :=
      linkStep_simulates hg hpos hsize hparse hid h hc
    obtain ⟨hlinked, hiff⟩ := ih hnext hrest
    exact ⟨hlinked, and_congr (noRepeat_iff (by omega) h e) hiff⟩

theorem taken_events (es : List LinkEvent) :
    StoreForward.taken (es.map LinkEvent.event) = samples es := by
  unfold StoreForward.taken samples
  rw [List.filterMap_map]
  congr 1
  funext e
  cases e <;> rfl

/-- A new device, and a server that has no file for it. -/
theorem start_linked (configClientId : CStr 32) (hpos : 0 < (computeMaxRecords total).toNat)
    (cJSONParse : List UInt8 → Option Json) (hg : Fits g) {rs : List Request}
    (hrs : ∀ r ∈ rs, r.saveIo = {})
    (hfile : (final (serverStep cJSONParse g) bootState rs).fs (getFilepath id) = none) :
    Linked (computeMaxRecords total) g id
      ⟨firstBoot configClientId total, final (serverStep cJSONParse g) bootState rs⟩
      StoreForward.Link.empty := by
  obtain ⟨m, hm, -⟩ := reached cJSONParse hg rs
  have hrun : Always (serverStep cJSONParse g) ServerState.Persisted bootState rs :=
    always_of_meets (fun _ _ h hr => serverStep_persisted h hr) (boot_persisted bootState)
      (meets_of_forall fun r hr _ => hrs r hr)
  exact ⟨(init_represents configClientId hpos).2, fun _ hr => absurd hr List.not_mem_nil,
    ⟨m, hm⟩, hrun.final, [], holdsNewest_nil.mpr hfile, .nil⟩

end

/-! ## Delivery -/

/-- The device still has the readings `queue` to upload. -/
def Storage.Pending (st : Storage) (queue : List StoredRecord) : Prop :=
  ∀ k : Nat, dataStorageReadUnsynced (fun _ => false) st k = queue.take k

/-- Range reads of the client are slices of the newest `g` of the records that `arrived` became. -/
def ServerState.HasReceived (g : UInt32) (s : ServerState) (id : Id)
    (arrived : List StoredRecord) : Prop :=
  ∃ own, List.Forall₂ Arrives arrived own ∧
    ∀ offset limit capacity, dataStoreReadRange s.fs id offset limit capacity =
      ((own.rtake g.toNat).drop offset.toNat).take (min limit.toNat capacity.toNat)

theorem Linked.outcome {M g : UInt32} {id : ClientId} {s : LinkState}
    {l : StoreForward.Link StoredRecord} (hM : M.toNat < 2 ^ 31) (hg : Fits g)
    (h : Linked M g id s l) :
    s.storage.Pending l.queue ∧ s.server.HasReceived g id l.arrived := by
  obtain ⟨own, hown, harr⟩ := h.file
  refine ⟨fun k => ?_, own, harr, readRange_of_holdsNewest hg hown⟩
  rw [readUnsynced_eq hM h.queue k, Int.toNat_natCast]

/-- **Delivery of readings.** Over all orderly runs of a new device and a server that has served
    other clients before, and goes on doing so: the readings taken are those settled and those
    still in the device, in order; the settled ones are in the client's file in this order; what
    is in it was taken; and it holds nothing twice exactly when no stored batch went
    unanswered. -/
theorem readings_delivered_exactly_once_iff {cJSONParse : List UInt8 → Option Json}
    (hparse : ∀ t v, Json.parse t = some v → cJSONParse t = some v) {total g : UInt32}
    (hpos : 0 < (computeMaxRecords total).toNat)
    (hsize : 56 + (computeMaxRecords total).toNat * 22 ≤ 2 ^ 31) (hg : Fits g)
    (configClientId : CStr 32) (id : ClientId) (hid : PlainId id.1) (rs : List Request)
    (hrs : ∀ r ∈ rs, r.saveIo = {})
    (hfile : (final (serverStep cJSONParse g) bootState rs).fs (getFilepath id) = none)
    (es : List LinkEvent) :
    let step := linkStep cJSONParse g configClientId total
    let s : LinkState :=
      ⟨firstBoot configClientId total, final (serverStep cJSONParse g) bootState rs⟩
    Meets step (Orderly cJSONParse id) s es →
    ∃ settled queue arrived, samples es = settled ++ queue ∧
      (final step s es).storage.Pending queue ∧
      (final step s es).server.HasReceived g id arrived ∧
      settled.Sublist arrived ∧ arrived ⊆ samples es ∧
      (arrived = settled ↔ Meets step NoRepeat s es) := by
  intro step s hes
  have hstart := start_linked configClientId hpos cJSONParse hg hrs hfile
  obtain ⟨hlinked, hrepeat⟩ := run_linked hg hpos hsize hparse hid hstart hes
  obtain ⟨hpending, hreceived⟩ := hlinked.outcome (by omega) hg
  have htaken : _ = [] ++ [] ++ _ :=
    StoreForward.run_taken StoreForward.Link.empty (es.map LinkEvent.event)
  rw [List.nil_append, List.nil_append, taken_events] at htaken
  have hsound := StoreForward.run_sound StoreForward.sound_empty (es.map LinkEvent.event)
  refine ⟨_, _, _, htaken.symm, hpending, hreceived, hsound.settled_sublist, ?_, ?_⟩
  · exact htaken ▸ hsound.arrived_subset
  · exact (StoreForward.arrived_eq_settled_iff StoreForward.sound_empty rfl _).trans hrepeat.symm

/-- A reading of 23.5 degrees, `k` sensor intervals after the first. -/
def warmReading (k : Nat) : StoredRecord :=
  ⟨1700000000 + 300 * Int32.ofNat k, 60, 0x41BC0000, 0x42200000, 412, 15, 1, false⟩

/-- An upload of client 7 that the server can store. -/
def seventhTransfer (answered : Bool) : Transfer where
  cfg := ⟨sevenId, CStr.strncpy (ascii "attic"), false⟩
  io := {}
  clock := fun _ => 1700000000
  ip := CStr.strncpy (ascii "10.0.0.7")
  reached := true
  answered := answered

theorem warmReading_sampled {k : Nat} (hk : k < 100) : Sampled (exactRecord (warmReading k)) where
  timestamp := by
    have hall : ∀ k < 100, 0 ≤ (warmReading k).timestamp.toInt := by decide +kernel
    exact hall k hk
  temperature := by
    have hall : -50 ≤ (exactRecord (warmReading 0)).temperature ∧
        (exactRecord (warmReading 0)).temperature < 150 := by decide +kernel
    exact hall
  humidity := by
    have hall : 0 ≤ (exactRecord (warmReading 0)).humidity ∧
        (exactRecord (warmReading 0)).humidity < 100 := by decide +kernel
    exact hall

/-- Two readings whose upload goes unanswered, a deletion of another client, a restart of the
    server and a reboot of the device, and a third reading, with which the other two arrive
    again. -/
theorem readings_delivered_twice :
    let step := linkStep Json.parse 4314 CStr.empty 36768
    let s : LinkState := ⟨firstBoot CStr.empty 36768, bootState⟩
    let es : List LinkEvent := [.sample (warmReading 0), .sample (warmReading 1),
      .transfer (seventhTransfer false),
      .request (.clientDelete {} false (ascii "/api/client?id=8")), .restart, .reboot,
      .sample (warmReading 2), .transfer (seventhTransfer true)]
    ∃ settled queue arrived, samples es = settled ++ queue ∧
      (final step s es).storage.Pending queue ∧
      (final step s es).server.HasReceived 4314 sevenId arrived ∧
      settled.Sublist arrived ∧ arrived ⊆ samples es ∧
      (arrived = settled ↔ Meets step NoRepeat s es) := by
  intro step s es
  have hspares : (queryParam (ascii "/api/client?id=8") "id" 32 : Id) ≠ sevenId.1 := by
    decide +kernel
  have hes : Meets step (Orderly Json.parse sevenId) s es :=
    ⟨⟨warmReading_sampled (by decide), by decide +kernel⟩,
      ⟨warmReading_sampled (by decide), by decide +kernel⟩,
      ⟨rfl, by decide +kernel, rfl, rfl, by decide +kernel⟩, ⟨hspares, rfl⟩, trivial, trivial,
      ⟨warmReading_sampled (by decide), by decide +kernel⟩,
      ⟨rfl, by decide +kernel, rfl, rfl, by decide +kernel⟩, trivial⟩
  exact readings_delivered_exactly_once_iff (fun _ _ h => h) (by decide) (by decide)
    ⟨by decide, by decide⟩ CStr.empty sevenId (by decide +kernel) [] (by simp) rfl es hes

/-- **The backlog empties.** Answered uploads, fifty readings each, leave nothing in the device
    after as many as its backlog needs; by then every reading taken is in the client's file, in
    order, as far as the file's ring reaches back. -/
theorem backlog_drained {cJSONParse : List UInt8 → Option Json}
    (hparse : ∀ t v, Json.parse t = some v → cJSONParse t = some v) {total g : UInt32}
    (hpos : 0 < (computeMaxRecords total).toNat)
    (hsize : 56 + (computeMaxRecords total).toNat * 22 ≤ 2 ^ 31) (hg : Fits g)
    (configClientId : CStr 32) (id : ClientId) (hid : PlainId id.1) (rs : List Request)
    (hrs : ∀ r ∈ rs, r.saveIo = {})
    (hfile : (final (serverStep cJSONParse g) bootState rs).fs (getFilepath id) = none)
    (es : List LinkEvent) (xs : List Transfer) (hxs : ∀ x ∈ xs, x.fate = .answered) :
    let step := linkStep cJSONParse g configClientId total
    let s : LinkState :=
      ⟨firstBoot configClientId total, final (serverStep cJSONParse g) bootState rs⟩
    let s' := final step s (es ++ xs.map .transfer)
    Meets step (Orderly cJSONParse id) s (es ++ xs.map .transfer) →
    (final step s es).storage.header.unsyncedCount.toNat ≤ xs.length * uploadBatchSize →
    s'.storage.Pending [] ∧ ∃ arrived, s'.server.HasReceived g id arrived ∧
      (samples es).Sublist arrived ∧ arrived ⊆ samples es := by
  intro step s s' hes hcount
  have hstart := start_linked configClientId hpos cJSONParse hg hrs hfile
  obtain ⟨hes, hxs'⟩ := meets_append.mp hes
  obtain ⟨hlinked, -⟩ := run_linked hg hpos hsize hparse hid hstart hes
  obtain ⟨hlinked', -⟩ := run_linked hg hpos hsize hparse hid hlinked hxs'
  rw [← final_append] at hlinked'
  generalize hl : final StoreForward.step StoreForward.Link.empty (es.map LinkEvent.event) = l
    at hlinked hlinked'
  have hevents : (xs.map LinkEvent.transfer).map LinkEvent.event =
      List.replicate xs.length (.transfer uploadBatchSize .answered) := by
    rw [List.map_map, List.eq_replicate_iff, List.length_map]
    refine ⟨rfl, fun e he => ?_⟩
    obtain ⟨x, hx, rfl⟩ := List.mem_map.mp he
    exact congrArg _ (hxs x hx)
  have hlen : l.queue.length ≤ xs.length * uploadBatchSize := by
    obtain ⟨f, r, acked, hring⟩ := hlinked.queue
    rw [← hring.unsynced]
    exact hcount
  rw [hevents, StoreForward.drain, List.drop_eq_nil_of_le hlen,
    List.take_of_length_le hlen] at hlinked'
  obtain ⟨hpending, hreceived⟩ := hlinked'.outcome (by omega) hg
  have htaken : _ = [] ++ [] ++ _ :=
    StoreForward.run_taken StoreForward.Link.empty (es.map LinkEvent.event)
  have hsound := StoreForward.run_sound StoreForward.sound_empty (es.map LinkEvent.event)
  rw [List.nil_append, List.nil_append, taken_events, hl] at htaken
  rw [hl] at hsound
  refine ⟨hpending, _, hreceived, ?_, fun rec hrec => ?_⟩
  · rw [← htaken]
    exact hsound.settled_sublist.append (.refl _)
  · rw [← htaken]
    rcases List.mem_append.mp hrec with hr | hr
    · exact hsound.arrived_subset hr
    · exact List.mem_append_right _ hr

/-- The readings of some hours. -/
def readingsOfHours : List LinkEvent :=
  (List.range 50).map fun k => .sample (warmReading (k + 1))

/-- An upload whose address the server cannot tell moves no client. -/
theorem migrated_unknown (s : ServerState) (id : Id) : migrated s id CStr.empty = none := by
  have hnone : given (some (CStr.empty : CStr 16).bytes) = none := by decide
  unfold migrated
  rw [hnone, Option.bind_none]
  split
  case h_1 hslot => cases hslot
  case h_2 => rfl

/-- A reading whose upload is not answered, fifty more, and two uploads that empty the device. -/
theorem backlog_drained_fifty :
    let step := linkStep Json.parse 4314 CStr.empty 36768
    let s : LinkState := ⟨firstBoot CStr.empty 36768, bootState⟩
    let es : List LinkEvent :=
      [.sample (warmReading 0), .transfer (seventhTransfer false)] ++ readingsOfHours
    let xs := [seventhTransfer true, { seventhTransfer true with ip := CStr.empty }]
    let s' := final step s (es ++ xs.map .transfer)
    s'.storage.Pending [] ∧ ∃ arrived, s'.server.HasReceived 4314 sevenId arrived ∧
      (samples es).Sublist arrived ∧ arrived ⊆ samples es := by
  intro step s es xs s'
  let first : List LinkEvent := [.sample (warmReading 0), .transfer (seventhTransfer false)]
  have hfirst : Meets step (Orderly Json.parse sevenId) s first :=
    ⟨⟨warmReading_sampled (by decide), by decide +kernel⟩,
      ⟨rfl, by decide +kernel, rfl, rfl, by decide +kernel⟩, trivial⟩
  have hroom : Meets step (fun s _ =>
      s.storage.header.unsyncedCount < s.storage.header.maxRecords) (final step s first)
      readingsOfHours := by
    decide +kernel
  have hsampled : Meets step (fun s e =>
      s.storage.header.unsyncedCount < s.storage.header.maxRecords →
        Orderly Json.parse sevenId s e) (final step s first) readingsOfHours := by
    refine meets_of_forall fun e he s => ?_
    obtain ⟨k, hk, rfl⟩ := List.mem_map.mp he
    have hlt := List.mem_range.mp hk
    exact fun h => ⟨warmReading_sampled (by omega), h⟩
  have hreadings : Meets step (Orderly Json.parse sevenId) (final step s first)
      readingsOfHours := (hroom.and hsampled).mono fun _ _ h => h.2 h.1
  have huploads : Meets step (Orderly Json.parse sevenId) (final step s es)
      (xs.map .transfer) :=
    ⟨⟨rfl, by decide +kernel, rfl, rfl, by decide +kernel⟩,
      ⟨rfl, by decide +kernel, rfl, rfl, migrated_unknown _ _⟩, trivial⟩
  have hes : Meets step (Orderly Json.parse sevenId) s (es ++ xs.map .transfer) :=
    meets_append.mpr ⟨meets_append.mpr ⟨hfirst, hreadings⟩, huploads⟩
  exact backlog_drained (fun _ _ h => h) (by decide) (by decide) ⟨by decide, by decide⟩
    CStr.empty sevenId (by decide +kernel) [] (by simp) rfl es xs
    (by simp [xs, seventhTransfer, Transfer.fate]) hes (by decide +kernel)

end IndoorLogger
