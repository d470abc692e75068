import IndoorLogger.Client.AckFaults
import IndoorLogger.Sync.UploadBody

/-
  The exchange between `wifi_sync_upload_unsynced` and `upload_post_handler`. The device flags
  its batch as synced when the status is 200, which the server also answers where it stored
  nothing. In runs where no such answer reaches the device, every flagged record was stored
  (`acknowledged_records_stored`).
-/

namespace IndoorLogger

open Machine RecordFile

/-! ## Events -/

/-- One connection of the device: what it is configured to send, the server it meets, and
    whether the answer arrives. -/
structure Exchange where
  cfg : ClientConfig
  server : ServerState
  io : UploadIo
  clock : Nat → UInt32
  ip : CStr 16
  delivered : Bool

inductive SyncEvent where
  | append (io : StorageAppendIo) (rec : StoredRecord)
  | reboot (io : InitIo) (configClientId : CStr 32) (total : UInt32)
  | exchange (x : Exchange)

/-- The device's storage, and the slots whose record the server has appended to a data file. -/
structure SyncState where
  storage : Storage
  stored : List UInt32

/-- The slots and records of the next upload. -/
def Storage.batch (st : Storage) : List (UInt32 × StoredRecord) :=
  unsyncedSlots (fun _ => false) st uploadBatchSize

section

variable (cJSONParse : List UInt8 → Option Json) (gMax : UInt32)

/-- The HTTP request and its answer. -/
def Exchange.perform (x : Exchange) (uri body : List UInt8) : Option Nat :=
  if x.delivered then
    some (uploadPostHandler cJSONParse gMax x.io x.clock x.server ⟨uri, body, x.ip⟩).2.status
  else none

/-- The request for the batch of `st`. -/
def Exchange.request (x : Exchange) (st : Storage) : UploadRequest where
  uri := uploadUri x.cfg.clientId
  body := uploadBody x.cfg.clientId x.cfg.assignedName x.cfg.basicMode
    ((st.batch.map (·.2)).map exactRecord)
  ip := x.ip

/-- The record that the server appends for reading `i` of a request. -/
def Exchange.appended (x : Exchange) (req : UploadRequest) (i : Nat) : Option DataRecord :=
  match uploadTarget cJSONParse x.io req with
  | none => none
  | some (id, root) =>
    let items := uploadItems root
    let flags := (storeReadings gMax x.io.append x.clock id 0 x.server.fs items).2
    match items[i]?, flags[i]? with
    | some item, some true => some (decodeReading (x.clock i) item)
    | _, _ => none

/-- The slots of the batch whose record the server appends: the reading at the record's place in
    the body has its values, and its own append succeeds. -/
def Exchange.storedSlots (x : Exchange) (st : Storage) : List UInt32 :=
  (st.batch.zipIdx.filter fun p => x.appended cJSONParse gMax (x.request st) p.2 =
    some (decodeReading (x.clock p.2) (readingJson x.cfg.basicMode (exactRecord p.1.2)))).map
      (·.1.1)

def syncStep (s : SyncState) : SyncEvent → SyncState × Int
  | .append io rec =>
    let r := dataStorageAppend io s.storage rec
    (⟨r.1, if r.1 = s.storage then s.stored
      else s.stored.filter (· ≠ s.storage.header.writeIdx)⟩, r.2)
  | .reboot io configClientId total =>
    let r := dataStorageInit io configClientId total (powerCycle s.storage)
    (⟨r.1, s.stored.filter fun i => r.1.record i = s.storage.record i⟩, r.2)
  | .exchange x =>
    let r := wifiSyncUploadUnsynced x.cfg (x.perform cJSONParse gMax) s.storage
    (⟨r.1, s.stored ++ x.storedSlots cJSONParse gMax s.storage⟩, r.2)

end

/-- Every record flagged as synced has been appended to a data file of the server. -/
def SyncState.Acknowledged (s : SyncState) : Prop :=
  ∀ i rec, s.storage.record i = some rec → rec.synced = true → i ∈ s.stored

/-- None of the calls of an append that write fails. -/
def AppendIo.Writes (io : AppendIo) : Prop :=
  io.fopenW = false ∧ io.fwriteNewHeader = false ∧ io.fwriteRecord = false ∧
    io.fwriteHeader = false

/-- The server answers 500: it has an id, and cannot receive the body. -/
def Exchange.ServerError (x : Exchange) : Prop :=
  (queryParam (uploadUri x.cfg.clientId) "id" 32 : Id) ≠ CStr.empty ∧
    (x.io.malloc = true ∨ x.io.recv = true)

/-- The server finds reading `i` in the body as the device meant it, and can write it. -/
def Exchange.Stores (cJSONParse : List UInt8 → Option Json) (x : Exchange) (st : Storage)
    (i : Nat) (rec : StoredRecord) : Prop :=
  ∃ t, uploadTarget cJSONParse x.io (x.request st) = some t ∧
    (uploadItems t.2)[i]? = some (readingJson x.cfg.basicMode (exactRecord rec)) ∧
    (x.io.append i).Writes

/-- No answer with status 200 reaches the device, or each record of the batch has been or is
    being stored. -/
def Confirms (cJSONParse : List UInt8 → Option Json) (s : SyncState) : SyncEvent → Prop
  | .exchange x => x.delivered = false ∨ x.ServerError ∨
      ∀ i p, s.storage.batch[i]? = some p → p.1 ∈ s.stored ∨ x.Stores cJSONParse s.storage i p.2
  | _ => True

/-! ## What the device flags -/

/-- A slot that reads as synced after the loop did so before, or is one of its window. -/
theorem markLoop_slots (h : FileHeader) (n i : Nat) (f : List UInt8) {k : UInt32}
    {rec : StoredRecord} (hk : readSlot false (markLoop {} h n i f).1 k = some rec) :
    readSlot false f k = some rec ∨
      ∃ j, i ≤ j ∧ j < i + n ∧ h.windowIdx j = k ∧
        ∃ rec', readSlot false f k = some rec' ∧ rec'.synced = false := by
  induction n generalizing i f with
  | zero => exact Or.inl hk
  | succ n ih =>
    -- one more step of the window, with the file left as it was
    have skip : readSlot false (markLoop {} h n (i + 1) f).1 k = some rec →
        readSlot false f k = some rec ∨ ∃ j, i ≤ j ∧ j < i + (n + 1) ∧ h.windowIdx j = k ∧
          ∃ rec', readSlot false f k = some rec' ∧ rec'.synced = false := by
      intro hk
      rcases ih (i + 1) f hk with h1 | ⟨j, h1, h2, h3⟩
      · exact Or.inl h1
      · exact Or.inr ⟨j, by omega, by omega, h3⟩
    rw [markLoop] at hk
    split at hk
    case h_1 w off hw hoff =>
      split at hk
      · exact skip hk
      case isFalse hsync =>
        have hw' : w.synced = false := by simpa using hsync
        have hwrite := readSlot_write hoff hw { w with synced := true } k
        by_cases hidx : h.windowIdx i = k
        · exact Or.inr ⟨i, Nat.le_refl i, by omega, hidx, w, hidx ▸ hw, hw'⟩
        · rw [if_neg (Ne.symm hidx)] at hwrite
          rcases ih (i + 1) _ hk with h1 | ⟨j, h1, h2, h3, rec', h4, h5⟩
          · exact Or.inl (hwrite ▸ h1)
          · exact Or.inr ⟨j, by omega, by omega, h3, rec', hwrite ▸ h4, h5⟩
    case h_2 => exact skip hk

theorem mem_readLoop (f : List UInt8) (h : FileHeader) (n i : Nat) (room : Int) {j : Nat}
    {rec : StoredRecord} (hi : i ≤ j) (hj : j < i + n) (hroom : (j : Int) - i < room)
    (hrec : readSlot false f (h.windowIdx j) = some rec) (hs : rec.synced = false) :
    (h.windowIdx j, rec) ∈ readLoop (fun _ => false) f h n i room := by
  induction n generalizing i room with
  | zero => omega
  | succ n ih =>
    unfold readLoop
    rw [if_neg (by omega)]
    rcases Nat.eq_or_lt_of_le hi with rfl | hlt
    · rw [hrec]
      simp only [hs, Bool.false_eq_true, if_false]
      exact List.mem_cons_self
    · split
      · exact ih (i + 1) room hlt (by omega) (by omega)
      · split
        · exact ih (i + 1) room hlt (by omega) (by omega)
        · exact List.mem_cons_of_mem _ (ih (i + 1) (room - 1) hlt (by omega) (by omega))

theorem length_readLoop_le (fails : Nat → Bool) (f : List UInt8) (h : FileHeader) (n i : Nat)
    (room : Int) : (readLoop fails f h n i room).length ≤ room.toNat := by
  induction n generalizing i room with
  | zero => exact Nat.zero_le _
  | succ n ih =>
    rw [readLoop]
    split
    · exact Nat.zero_le _
    · split
      · exact ih (i + 1) room
      · split
        · exact ih (i + 1) room
        · have := ih (i + 1) (room - 1)
          rw [List.length_cons]
          omega

theorem toInt_toInt32_le (u : UInt32) : u.toInt32.toInt ≤ u.toNat := by
  rcases Nat.lt_or_ge u.toNat (2 ^ 31) with h | h
  · rw [toInt_toInt32 h]
  · have := u.toInt32.toInt_lt
    omega

/-- What is in the file after an acknowledgement of the batch was there before, or its slot is
    in the batch. -/
theorem markSynced_slots (st : Storage) {k : UInt32} {rec : StoredRecord}
    (hk : (dataStorageMarkSynced {} st st.batch.length).1.record k = some rec) :
    st.record k = some rec ∨ ∃ rec', (k, rec') ∈ st.batch := by
  unfold dataStorageMarkSynced at hk
  cases hfp : st.fp with
  | none =>
    rw [hfp] at hk
    exact Or.inl hk
  | some f =>
    have hflash := flash_of_fp hfp
    have hbatch : st.batch =
        readLoop (fun _ => false) f st.header st.header.unsyncedCount.toNat 0 uploadBatchSize := by
      unfold Storage.batch
      rw [unsyncedSlots, hfp]
    have hlen : st.batch.length ≤ uploadBatchSize := by
      rw [hbatch]
      exact length_readLoop_le ..
    have hcount := toInt_toInt32_le st.header.unsyncedCount
    simp only [hfp] at hk
    split at hk
    · exact Or.inl hk
    · generalize hn : (min (st.batch.length : Int) st.header.unsyncedCount.toInt32.toInt).toNat = n
        at hk
      have hmark : readSlot false (markLoop {} st.header n 0 f).1 k = some rec := by
        split at hk
        · rw [if_neg Bool.false_ne_true] at hk
          exact (readSlot_write_header _ _ _).symm.trans hk
        · exact hk
      have hrecord := record_of_flash hflash k
      rcases markLoop_slots st.header n 0 f hmark with h | ⟨j, -, hj, rfl, rec', hrec', hs'⟩
      · exact Or.inl (hrecord.trans h)
      · refine Or.inr ⟨rec', ?_⟩
        rw [hbatch]
        exact mem_readLoop f st.header _ 0 _ (Nat.zero_le j) (by omega) (by omega) hrec' hs'

/-! ## What the server stores -/

variable {cJSONParse : List UInt8 → Option Json} {gMax : UInt32}

theorem append_ok (gMax : UInt32) {io : AppendIo} (h : io.Writes) (fs : Fs) (id : Id)
    (rec : DataRecord) : (dataStoreAppend gMax io fs id rec).2 = 0 := by
  obtain ⟨hopen, hnew, hrec, hhead⟩ := h
  have hrecord : ∀ f hd, (appendRecord io f hd rec).2 = 0 := by
    intro f hd
    unfold appendRecord
    rw [hrec, if_neg Bool.false_ne_true, hhead, if_neg Bool.false_ne_true]
  have hopened : ∀ isNew f, (appendOpened gMax io isNew f id rec).2 = 0 := by
    intro isNew f
    rw [appendOpened]
    split
    · exact hrecord _ _
    · rw [hnew, if_neg Bool.false_ne_true]
      exact hrecord _ _
  rw [dataStoreAppend]
  dsimp only
  split
  · exact hopened _ _
  · rw [hopen, if_neg Bool.false_ne_true]
    exact hopened _ _

/-- The loop over the readings reports an item it could write as stored. -/
theorem storeReadings_flag (gMax : UInt32) (io : Nat → AppendIo) (clock : Nat → UInt32) (id : Id)
    (k : Nat) (fs : Fs) {items : List Json} {i : Nat} {item : Json} (hi : items[i]? = some item)
    (hobj : item.isObject = true) (hw : (io (k + i)).Writes) :
    (storeReadings gMax io clock id k fs items).2[i]? = some true := by
  induction items generalizing i k fs with
  | nil => cases hi
  | cons a items ih =>
    cases i with
    | zero =>
      obtain rfl : a = item := Option.some.inj hi
      rw [Nat.add_zero] at hw
      unfold storeReadings
      rw [if_pos hobj]
      dsimp only
      rw [append_ok gMax hw]
      rfl
    | succ i =>
      have htail := fun fs => ih (k + 1) fs hi (by rwa [Nat.add_assoc, Nat.add_comm 1])
      rw [storeReadings]
      split
      · exact htail _
      · exact htail _

/-- A reading the server finds and can write is among those it appends. -/
theorem Exchange.Stores.mem {x : Exchange} {st : Storage} {i : Nat} {p : UInt32 × StoredRecord}
    (h : x.Stores cJSONParse st i p.2) (hi : st.batch[i]? = some p) :
    p.1 ∈ x.storedSlots cJSONParse gMax st := by
  obtain ⟨⟨id, root⟩, ht, hitem, hw⟩ := h
  have hflag := storeReadings_flag gMax x.io.append x.clock id 0 x.server.fs hitem rfl
    (by rwa [Nat.zero_add])
  have happended : x.appended cJSONParse gMax (x.request st) i =
      some (decodeReading (x.clock i) (readingJson x.cfg.basicMode (exactRecord p.2))) := by
    unfold Exchange.appended
    rw [ht]
    dsimp only
    rw [hitem, hflag]
  exact List.mem_map.mpr ⟨(p, i), List.mem_filter.mpr
    ⟨List.mk_mem_zipIdx_iff_getElem?.mpr hi, decide_eq_true happended⟩, rfl⟩

theorem length_uploadBody (clientId assignedName : CStr 32) (basicMode : Bool)
    (records : List (ClientRecord ℚ)) :
    0 < (uploadBody clientId assignedName basicMode records).length ∧
      (uploadBody clientId assignedName basicMode records).length ≤ 4095 := by
  unfold uploadBody
  rw [bodyText_eq, List.length_take, List.length_cons]
  omega

theorem perform_serverError {x : Exchange} (h : x.ServerError) (st : Storage) :
    ∀ status ∈ x.perform cJSONParse gMax (x.request st).uri (x.request st).body, status = 500 := by
  obtain ⟨hid, hio⟩ := h
  have hlen : 0 < (x.request st).body.length ∧ (x.request st).body.length ≤ 4095 :=
    length_uploadBody ..
  have hroot : uploadRoot cJSONParse x.io (x.request st).body = .error (.error 500) := by
    unfold uploadRoot
    rw [if_neg (by omega), if_neg (by omega)]
    rcases hio with hm | hr
    · rw [if_pos hm]
    · rw [if_pos hr, ite_self]
  intro status hstatus
  unfold Exchange.perform at hstatus
  split at hstatus
  · rw [Option.mem_some_iff] at hstatus
    rw [← hstatus, uploadPostHandler]
    dsimp only
    rw [Exchange.request] at hroot ⊢
    rw [CStr.isEmpty_eq_false.mpr hid, if_neg Bool.false_ne_true, hroot]
    rfl
  · cases hstatus

/-! ## Steps -/

theorem synced_dec (l : List UInt8) : (StoredRecord.codec.dec l).synced = (l.getD 21 0 != 0) := by
  have h : (StoredRecord.codec.dec l).synced =
      ((((((((l.drop 4).drop 4).drop 4).drop 4).drop 2).drop 2).drop 1).headD 0 != 0) := rfl
  rw [h]
  simp only [List.drop_drop, List.headD_eq_head?_getD, List.head?_drop, List.getD_eq_getElem?_getD]

/-- A flagged record in the file after a record is written was in another slot before. -/
theorem readSlot_write_fresh {f : List UInt8} {w k : UInt32} {off : Nat} {rec r : StoredRecord}
    (hoff : clientRecordOffset w = some off)
    (hk : readSlot false (fwrite StoredRecord.codec f off rec.fresh) k = some r)
    (hs : r.synced = true) : readSlot false f k = some r ∧ k ≠ w := by
  obtain ⟨-, rfl⟩ := clientRecordOffset_some hoff
  rw [readSlot_eq] at hk ⊢
  split at hk
  case isFalse => cases hk
  case isTrue hreach =>
    rw [if_pos hreach]
    have hne : k ≠ w := by
      rintro rfl
      rw [slot_write_self] at hk
      obtain rfl := Option.some.inj hk
      cases hs
    refine ⟨?_, hne⟩
    have hne' : k.toNat ≠ w.toNat := fun h => hne (UInt32.toNat_inj.mp h)
    cases hold : slot 56 StoredRecord.codec f k.toNat with
    | some r' => exact (slot_write_ne 56 _ (by decide) f rec.fresh r' hne' hold).symm.trans hk
    | none =>
      obtain ⟨l, rfl, hl⟩ := slot_write_gap 56 _ (by decide) f rec.fresh r hne' hold hk
      rw [StoredRecord.size_codec] at hl
      rw [synced_dec, hl] at hs
      cases hs

/-- A flagged record after an append was there before, in another slot if one was written. -/
theorem append_slots {io : StorageAppendIo} {st : Storage} {rec : StoredRecord} {k : UInt32}
    {r : StoredRecord} (hk : (dataStorageAppend io st rec).1.record k = some r)
    (hs : r.synced = true) :
    st.record k = some r ∧ ((dataStorageAppend io st rec).1 = st ∨ k ≠ st.header.writeIdx) := by
  unfold dataStorageAppend at hk ⊢
  cases hfp : st.fp with
  | none =>
    rw [hfp] at hk
    exact ⟨hk, Or.inl rfl⟩
  | some f =>
    have hrecord := record_of_flash (flash_of_fp hfp) k
    rw [hfp] at hk
    dsimp only at hk ⊢
    split at hk
    case h_1 heq => exact ⟨hk, Or.inl rfl⟩
    case h_2 off heq =>
      have hoff : clientRecordOffset st.header.writeIdx = some off := by
        split at heq
        · cases heq
        · exact heq
      have hfile : readSlot false (fwrite StoredRecord.codec f off rec.fresh) k = some r := by
        split at hk
        · exact hk
        · exact (readSlot_write_header _ _ _).symm.trans hk
      obtain ⟨h1, h2⟩ := readSlot_write_fresh hoff hfile hs
      exact ⟨hrecord.trans h1, Or.inr h2⟩

theorem record_nil (header : FileHeader) (isOpen : Bool) (k : UInt32) :
    (⟨some [], header, isOpen⟩ : Storage).record k = none := by
  unfold Storage.record
  rw [Option.bind_some, readSlot_eq]
  split
  · exact fread_of_lt _ (by decide) (Nat.lt_of_lt_of_le (by decide) (Nat.le_add_left _ _))
  · rfl

/-- A fresh data file has no records. -/
theorem initFresh_record {io : InitIo} {configClientId : CStr 32} {maxRecords : UInt32}
    {st : Storage} {k : UInt32} {r : StoredRecord}
    (h : (initFresh io configClientId maxRecords st).1.record k = some r) :
    st.record k = some r := by
  unfold initFresh at h
  dsimp only at h
  split at h
  · exact h
  · split at h
    · rw [record_nil] at h
      cases h
    · have hfile := (readSlot_write_header _ _ _).symm.trans h
      have hnone := record_nil st.header true k
      rw [Storage.record, Option.bind_some, hfile] at hnone
      cases hnone

/-- A reboot finds the records of before, or none. -/
theorem reboot_record {io : InitIo} {configClientId : CStr 32} {total : UInt32} {st : Storage}
    {k : UInt32} {r : StoredRecord}
    (h : (dataStorageInit io configClientId total (powerCycle st)).1.record k = some r) :
    st.record k = some r := by
  unfold dataStorageInit at h
  dsimp only at h
  split at h
  · exact h
  · split at h
    · exact h
    · split at h
      · have hold := initFresh_record h
        exact hold
      case h_2 f heq =>
        have hflash : st.flash = some f := by
          split at heq
          · cases heq
          · exact heq
        have hrecord := record_of_flash hflash k
        split at h
        · have hnone := initFresh_record h
          cases hnone
        · split at h
          · refine hrecord.trans ?_
            split at h
            · exact h
            · exact (readSlot_write_header _ _ _).symm.trans h
          · exact hrecord.trans h

/-- The device keeps its storage, or flags the batch because the status is 200. -/
theorem upload_cases (cJSONParse : List UInt8 → Option Json) (gMax : UInt32) (x : Exchange)
    (st : Storage) :
    (wifiSyncUploadUnsynced x.cfg (x.perform cJSONParse gMax) st).1 = st ∨
      x.perform cJSONParse gMax (x.request st).uri (x.request st).body = some 200 ∧
        (wifiSyncUploadUnsynced x.cfg (x.perform cJSONParse gMax) st).1 =
          (dataStorageMarkSynced {} st st.batch.length).1 := by
  have hbatch : dataStorageReadUnsynced (fun _ => false) st uploadBatchSize =
      st.batch.map (·.2) := rfl
  unfold wifiSyncUploadUnsynced
  dsimp only
  rw [hbatch, List.length_map, show x.perform cJSONParse gMax (uploadUri x.cfg.clientId)
    (uploadBody x.cfg.clientId x.cfg.assignedName x.cfg.basicMode
      ((st.batch.map (·.2)).map exactRecord)) =
    x.perform cJSONParse gMax (x.request st).uri (x.request st).body from rfl]
  cases x.perform cJSONParse gMax (x.request st).uri (x.request st).body with
  | none => exact Or.inl rfl
  | some status =>
    dsimp only
    split
    case isFalse => exact Or.inl rfl
    case isTrue h200 =>
      split
      · exact Or.inr ⟨congrArg some h200, rfl⟩
      · exact Or.inl rfl

theorem exchange_acknowledged {s : SyncState} {x : Exchange} (h : s.Acknowledged)
    (hc : Confirms cJSONParse s (.exchange x)) :
    (syncStep cJSONParse gMax s (.exchange x)).1.Acknowledged := by
  intro k r hk hs
  have hold : s.storage.record k = some r →
      k ∈ s.stored ++ x.storedSlots cJSONParse gMax s.storage :=
    fun h' => List.mem_append_left _ (h k r h' hs)
  rcases upload_cases cJSONParse gMax x s.storage with
    hsame | ⟨hstatus, hmark⟩
  · rw [syncStep, hsame] at hk
    exact hold hk
  · rw [syncStep, hmark] at hk
    rcases markSynced_slots s.storage hk with h' | ⟨r', hmem⟩
    · exact hold h'
    · rcases hc with hlost | herr | hall
      · rw [Exchange.perform, hlost] at hstatus
        cases hstatus
      · have h500 := perform_serverError herr s.storage 200 hstatus
        cases h500
      · obtain ⟨i, hi⟩ := List.getElem?_of_mem hmem
        rcases hall i (k, r') hi with hst | hst
        · exact List.mem_append_left _ hst
        · exact List.mem_append_right _ (hst.mem hi)

theorem syncStep_acknowledged {s : SyncState} {e : SyncEvent} (h : s.Acknowledged)
    (hc : Confirms cJSONParse s e) : (syncStep cJSONParse gMax s e).1.Acknowledged := by
  cases e with
  | append io rec =>
    intro k r hk hs
    obtain ⟨hold, hslot⟩ := append_slots hk hs
    have hmem := h k r hold hs
    rw [syncStep]
    dsimp only
    split
    · exact hmem
    case isFalse hne =>
      exact List.mem_filter.mpr ⟨hmem, decide_eq_true (hslot.resolve_left hne)⟩
  | reboot io configClientId total =>
    intro k r hk hs
    have hold := reboot_record hk
    exact List.mem_filter.mpr ⟨h k r hold hs, decide_eq_true (hk.trans hold.symm)⟩
  | exchange x => exact exchange_acknowledged h hc

/-- The server stores what it can write, when id and name need no escape, the batch fits into
    the buffer and the body arrives. -/
theorem stores_of_plain (hparse : ∀ t v, Json.parse t = some v → cJSONParse t = some v)
    {x : Exchange} {st : Storage} (hparam : (queryParam (uploadUri x.cfg.clientId) "id" 32 : Id) ≠
      CStr.empty)
    (hmalloc : x.io.malloc = false) (hrecv : x.io.recv = false) (hid : Plain x.cfg.clientId.bytes)
    (hname : Plain x.cfg.assignedName.bytes)
    (hfit : (bodyText x.cfg.clientId x.cfg.assignedName x.cfg.basicMode
      ((st.batch.map (·.2)).map exactRecord)).length ≤ 4095)
    {i : Nat} {p : UInt32 × StoredRecord} (hi : st.batch[i]? = some p)
    (hw : (x.io.append i).Writes) : x.Stores cJSONParse st i p.2 := by
  have hroot := parse_uploadBody hparse hmalloc hrecv hid hname x.cfg.basicMode hfit
  refine ⟨(⟨_, hparam⟩, bodyJson x.cfg.clientId x.cfg.assignedName x.cfg.basicMode
    ((st.batch.map (·.2)).map exactRecord)), ?_, ?_, hw⟩
  · unfold uploadTarget
    rw [Exchange.request, dif_neg hparam, hroot]
  · rw [uploadItems_bodyJson, List.getElem?_map, List.getElem?_map, List.getElem?_map, hi]
    rfl

/-! ## Runs -/

/-- **At-least-once delivery.** In every run of appends, reboots and exchanges with a server in
    whatever state, whose exchanges all meet the condition, every record that the device has
    flagged as synced was appended to a data file. -/
theorem acknowledged_records_stored (cJSONParse : List UInt8 → Option Json) (gMax : UInt32)
    (s : SyncState) (hs : s.Acknowledged) (es : List SyncEvent)
    (hc : Meets (syncStep cJSONParse gMax) (Confirms cJSONParse) s es) :
    Always (syncStep cJSONParse gMax) SyncState.Acknowledged s es :=
  always_of_meets (fun _ _ h hc => syncStep_acknowledged h hc) hs hc

/-- A device before its first boot. -/
def newDevice : SyncState := ⟨Storage.blank, []⟩

theorem newDevice_acknowledged : newDevice.Acknowledged := by
  intro k r hk
  cases hk

/-- The exchange of a device with a new server, the appends of which may fail. -/
def firstExchange (append : Nat → AppendIo) : Exchange where
  cfg := ⟨CStr.strncpy (ascii "7"), CStr.strncpy (ascii "attic"), false⟩
  server := bootState
  io := { append := append }
  clock := fun _ => 1700000000
  ip := CStr.strncpy (ascii "10.0.0.7")
  delivered := true

/-- A device boots, takes two readings of 23.5 degrees before it knows the time, and uploads
    them. -/
def firstEvents (append : Nat → AppendIo) : List SyncEvent :=
  [.reboot {} (CStr.strncpy (ascii "7")) 32868,
    .append {} ⟨5, 5, 0x41BC0000, 0x42200000, 412, 15, 1, false⟩,
    .append {} ⟨305, 305, 0x41BC0000, 0x42200000, 412, 15, 1, false⟩,
    .exchange (firstExchange append)]

theorem acknowledged_records_stored_first :
    Always (syncStep Json.parse 4314) SyncState.Acknowledged newDevice
      (firstEvents fun _ => {}) :=
  acknowledged_records_stored Json.parse 4314 newDevice newDevice_acknowledged
    (firstEvents fun _ => {})
    ⟨trivial, trivial, trivial, Or.inr (Or.inr fun _ _ hi => Or.inr (stores_of_plain
      (fun _ _ h => h) (by decide +kernel) rfl rfl (by decide +kernel) (by decide +kernel)
      (by decide +kernel) hi ⟨rfl, rfl, rfl, rfl⟩)), trivial⟩

/-- The append of the second reading fails. The server answers 200 with one accepted, and both
    records are flagged. -/
theorem lost_record_acknowledged :
    newDevice.Acknowledged ∧
      ¬Always (syncStep Json.parse 4314) SyncState.Acknowledged newDevice
        (firstEvents fun i => { fwriteRecord := i == 1 }) := by
  refine ⟨newDevice_acknowledged, fun h => ?_⟩
  have hslot : (final (syncStep Json.parse 4314) newDevice
      (firstEvents fun i => { fwriteRecord := i == 1 })).storage.record 1 =
      some ⟨305, 305, 0x41BC0000, 0x42200000, 412, 15, 1, true⟩ := by decide +kernel
  have hmem := h.final 1 _ hslot rfl
  exact absurd hmem (by decide +kernel)

end IndoorLogger
