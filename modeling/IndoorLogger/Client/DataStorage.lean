import IndoorLogger.Lib.CString
import IndoorLogger.Lib.RecordFile

/-
  The client's store-and-forward queue (`data_storage.c`): a ring of 22-byte records behind a
  56-byte header, with the header kept in RAM as well. A record carries its own `synced`
  flag, and the header counts the records not yet acknowledged; the window of unsynced
  slots is recomputed from the counters on every call.
-/

namespace IndoorLogger

open RecordFile

/-! ## Records and header -/

/-- `client_record_t`. `F` stands for `float`: the four bytes of one in the file, an exact
    number where a reading is formatted. -/
structure ClientRecord (F : Type) where
  timestamp : Int32
  uptimeSec : UInt32
  temperature : F
  humidity : F
  eco2 : UInt16
  tvoc : UInt16
  aqi : UInt8
  synced : Bool
  deriving DecidableEq

/-- The bit pattern of a C `float`. -/
abbrev FloatBits := UInt32

abbrev StoredRecord := ClientRecord FloatBits

open FixedCodec in
def StoredRecord.codec : FixedCodec StoredRecord :=
  (i32.pair (u32.pair (u32.pair (u32.pair (u16.pair (u16.pair (u8.pair bool))))))).map
    (fun r => (r.timestamp, r.uptimeSec, r.temperature, r.humidity, r.eco2, r.tvoc, r.aqi,
      r.synced))
    (fun p => ⟨p.1, p.2.1, p.2.2.1, p.2.2.2.1, p.2.2.2.2.1, p.2.2.2.2.2.1, p.2.2.2.2.2.2.1,
      p.2.2.2.2.2.2.2⟩)
    (fun _ => rfl)

/-- `file_header_t`; the struct is not packed, three bytes pad `client_id`. -/
structure FileHeader where
  magic : UInt32
  version : UInt8
  clientId : CStr 32
  maxRecords : UInt32
  writeIdx : UInt32
  totalWritten : UInt32
  unsyncedCount : UInt32
  deriving DecidableEq

open FixedCodec in
def FileHeader.codec : FixedCodec FileHeader :=
  (u32.pair (u8.pair ((CStr.codec.pad 3).pair (u32.pair (u32.pair (u32.pair u32)))))).map
    (fun h => (h.magic, h.version, h.clientId, h.maxRecords, h.writeIdx, h.totalWritten,
      h.unsyncedCount))
    (fun p => ⟨p.1, p.2.1, p.2.2.1, p.2.2.2.1, p.2.2.2.2.1, p.2.2.2.2.2.1, p.2.2.2.2.2.2⟩)
    (fun _ => rfl)

@[simp] theorem StoredRecord.size_codec : StoredRecord.codec.size = 22 := rfl

@[simp] theorem FileHeader.size_codec : FileHeader.codec.size = 56 := rfl

def dataStorageMagic : UInt32 := 0x434C4944
def dataStorageVersion : UInt8 := 1
def clientSpiffsReserveBytes : Nat := 32 * 1024

/-- The data file, `s_header`, and whether `s_fp` is open. -/
structure Storage where
  flash : Option (List UInt8)
  header : FileHeader
  isOpen : Bool
  deriving DecidableEq

/-- The file behind `s_fp`, none when it is NULL. -/
def Storage.fp (st : Storage) : Option (List UInt8) := if st.isOpen then st.flash else none

/-- `record_offset`: none where the `long` arithmetic would overflow. -/
def clientRecordOffset (idx : UInt32) : Option Nat :=
  let off := 56 + idx.toNat * 22
  if off < 2 ^ 31 then some off else none

/-! ## data_storage_init -/

/-- `compute_max_records`. -/
def computeMaxRecords (spiffsTotal : UInt32) : UInt32 :=
  if spiffsTotal.toNat ≤ clientSpiffsReserveBytes + FileHeader.codec.size then 0
  else UInt32.ofNat
    ((spiffsTotal.toNat - clientSpiffsReserveBytes - FileHeader.codec.size) /
      StoredRecord.codec.size)

/-- Which calls of one `data_storage_init` fail. -/
structure InitIo where
  mount : Bool := false
  fopenR : Bool := false
  fopenW : Bool := false
  freadHeader : Bool := false
  fwriteHeader : Bool := false

/-- The header of an empty ring. -/
def freshHeader (configClientId : CStr 32) (maxRecords : UInt32) : FileHeader where
  magic := dataStorageMagic
  version := dataStorageVersion
  clientId := configClientId
  maxRecords := maxRecords
  writeIdx := 0
  totalWritten := 0
  unsyncedCount := 0

/-- Start over on an empty file. -/
def initFresh (io : InitIo) (configClientId : CStr 32) (maxRecords : UInt32) (st : Storage) :
    Storage × Int :=
  if io.fopenW then ({ st with isOpen := false }, -1)
  else
    let header := freshHeader configClientId maxRecords
    if io.fwriteHeader then (⟨some [], header, false⟩, -1)
    else (⟨some (fwrite FileHeader.codec [] 0 header), header, true⟩, 0)

/-- `data_storage_init` on a partition of `total` bytes. -/
def dataStorageInit (io : InitIo) (configClientId : CStr 32) (total : UInt32) (st : Storage) :
    Storage × Int :=
  if io.mount then (st, -1)
  else
    let maxRecords := computeMaxRecords total
    if maxRecords = 0 then (st, -1)
    else
      match if io.fopenR then none else st.flash with
      | none => initFresh io configClientId maxRecords st
      | some f =>
        match (if io.freadHeader then none else fread FileHeader.codec f 0).filter
            (·.magic == dataStorageMagic) with
        | none => initFresh io configClientId maxRecords { st with flash := none }
        | some header =>
          if header.writeIdx ≥ header.maxRecords then
            let header := { header with writeIdx := header.writeIdx % header.maxRecords }
            (⟨some (if io.fwriteHeader then f else fwrite FileHeader.codec f 0 header), header,
              true⟩, 0)
          else (⟨some f, header, true⟩, 0)

/-- A reboot: RAM is lost, the file stays. -/
def powerCycle (st : Storage) : Storage :=
  ⟨st.flash, ⟨0, 0, CStr.empty, 0, 0, 0, 0⟩, false⟩

/-! ## data_storage_append -/

/-- Which calls of one `data_storage_append` fail. -/
structure StorageAppendIo where
  fwriteRecord : Bool := false
  fwriteHeader : Bool := false

/-- The header after one more record. The unsynced count grows on every append. -/
def FileHeader.advance (h : FileHeader) : FileHeader :=
  { h with
    writeIdx := (h.writeIdx + 1) % h.maxRecords
    totalWritten := h.totalWritten + 1
    unsyncedCount := h.unsyncedCount + 1 }

/-- `data_storage_append`. -/
def dataStorageAppend (io : StorageAppendIo) (st : Storage) (record : StoredRecord) :
    Storage × Int :=
  match st.fp with
  | none => (st, -1)
  | some f =>
    match if io.fwriteRecord then none else clientRecordOffset st.header.writeIdx with
    | none => (st, -1)
    | some off =>
      let f := fwrite StoredRecord.codec f off { record with synced := false }
      let header := st.header.advance
      if io.fwriteHeader then (⟨some f, header, st.isOpen⟩, -1)
      else (⟨some (fwrite FileHeader.codec f 0 header), header, st.isOpen⟩, 0)

/-! ## The unsynced window -/

/-- `start_idx` of the window of unsynced slots. -/
def FileHeader.startIdx (h : FileHeader) : UInt32 :=
  (h.writeIdx + h.maxRecords - h.unsyncedCount) % h.maxRecords

/-- Slot `i` of the window. -/
def FileHeader.windowIdx (h : FileHeader) (i : Nat) : UInt32 :=
  (h.startIdx + UInt32.ofNat i) % h.maxRecords

/-- `fseek` and `fread` of slot `idx`. -/
def readSlot (fails : Bool) (f : List UInt8) (idx : UInt32) : Option StoredRecord :=
  if fails then none
  else (clientRecordOffset idx).bind fun off => fread StoredRecord.codec f off

/-- The loop of `data_storage_read_unsynced` from step `i`, `n` steps before the window ends
    and `room` records before the buffer is full: the slots taken, with their records. -/
def readLoop (fails : Nat → Bool) (f : List UInt8) (h : FileHeader) :
    Nat → Nat → Int → List (UInt32 × StoredRecord)
  | 0, _, _ => []
  | n + 1, i, room =>
    if room ≤ 0 then []
    else
      match readSlot (fails i) f (h.windowIdx i) with
      | none => readLoop fails f h n (i + 1) room
      | some rec =>
        if rec.synced then readLoop fails f h n (i + 1) room
        else (h.windowIdx i, rec) :: readLoop fails f h n (i + 1) (room - 1)

/-- The slots a read of at most `maxRecords` records takes, with their records. -/
def unsyncedSlots (fails : Nat → Bool) (st : Storage) (maxRecords : Int) :
    List (UInt32 × StoredRecord) :=
  match st.fp with
  | none => []
  | some f => readLoop fails f st.header st.header.unsyncedCount.toNat 0 maxRecords

/-- `data_storage_read_unsynced`: the records copied to the caller's buffer. -/
def dataStorageReadUnsynced (fails : Nat → Bool) (st : Storage) (maxRecords : Int) :
    List StoredRecord :=
  (unsyncedSlots fails st maxRecords).map (·.2)

/-- Which calls of one `data_storage_mark_synced` fail, numbered by step of its loop. -/
structure MarkIo where
  fread : Nat → Bool := fun _ => false
  fwrite : Nat → Bool := fun _ => false
  fwriteHeader : Bool := false

/-- The loop of `data_storage_mark_synced`: `n` steps from step `i`. The file and the number
    of slots flagged. -/
def markLoop (io : MarkIo) (h : FileHeader) : Nat → Nat → List UInt8 → List UInt8 × Nat
  | 0, _, f => (f, 0)
  | n + 1, i, f =>
    match readSlot (io.fread i) f (h.windowIdx i), clientRecordOffset (h.windowIdx i) with
    | some rec, some off =>
      if rec.synced || io.fwrite i then markLoop io h n (i + 1) f
      else
        let r := markLoop io h n (i + 1) (RecordFile.fwrite StoredRecord.codec f off
          { rec with synced := true })
        (r.1, r.2 + 1)
    | _, _ => markLoop io h n (i + 1) f

/-- `data_storage_mark_synced`. The unsynced count is compared as an `int`. -/
def dataStorageMarkSynced (io : MarkIo) (st : Storage) (count : Int) : Storage × Int :=
  match st.fp with
  | none => (st, 0)
  | some f =>
    if count ≤ 0 then (st, 0)
    else
      let (f, marked) :=
        markLoop io st.header (min count st.header.unsyncedCount.toInt32.toInt).toNat 0 f
      if marked > 0 then
        let header := { st.header with
          unsyncedCount := st.header.unsyncedCount - UInt32.ofNat marked }
        (⟨some (if io.fwriteHeader then f else RecordFile.fwrite FileHeader.codec f 0 header),
          header, st.isOpen⟩, marked)
      else ({ st with flash := some f }, marked)

end IndoorLogger
