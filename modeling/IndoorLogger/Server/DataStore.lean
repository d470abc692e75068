import Mathlib.Logic.Function.Basic
import IndoorLogger.Lib.CString
import IndoorLogger.Lib.RecordFile

/-
  The server's data store (`data_store.c`): one ring file per client under /spiffs, a packed
  49-byte header followed by packed 14-byte records. Files are byte lists; every function is
  translated with its I/O calls, and the `Io` structures say which of these calls fail in a
  given run of the function. A call that fails leaves the file as it was.
-/

namespace IndoorLogger

open RecordFile

/-- A client identifier: the content of a `char[32]`. -/
abbrev Id := CStr 32

/-! ## Records, headers, paths -/

/-- `data_record_t`. -/
structure DataRecord where
  timestamp : UInt32
  tempX100 : Int16
  humX100 : UInt16
  eco2 : UInt16
  tvoc : UInt16
  aqi : UInt8
  pad : UInt8
  deriving DecidableEq

/-- `client_file_header_t`. -/
structure ClientFileHeader where
  magic : UInt32
  version : UInt8
  clientId : CStr 32
  maxRecords : UInt32
  writeIdx : UInt32
  count : UInt32
  deriving DecidableEq

open FixedCodec in
def DataRecord.codec : FixedCodec DataRecord :=
  (u32.pair (i16.pair (u16.pair (u16.pair (u16.pair (u8.pair u8)))))).map
    (fun r => (r.timestamp, r.tempX100, r.humX100, r.eco2, r.tvoc, r.aqi, r.pad))
    (fun p => ⟨p.1, p.2.1, p.2.2.1, p.2.2.2.1, p.2.2.2.2.1, p.2.2.2.2.2.1, p.2.2.2.2.2.2⟩)
    (fun _ => rfl)

open FixedCodec in
def ClientFileHeader.codec : FixedCodec ClientFileHeader :=
  (u32.pair (u8.pair (CStr.codec.pair (u32.pair (u32.pair u32))))).map
    (fun h => (h.magic, h.version, h.clientId, h.maxRecords, h.writeIdx, h.count))
    (fun p => ⟨p.1, p.2.1, p.2.2.1, p.2.2.2.1, p.2.2.2.2.1, p.2.2.2.2.2⟩)
    (fun _ => rfl)

@[simp] theorem DataRecord.size_codec : DataRecord.codec.size = 14 := rfl

@[simp] theorem ClientFileHeader.size_codec : ClientFileHeader.codec.size = 49 := rfl

def dataStoreMagic : UInt32 := 0x44415441
def dataStoreVersion : UInt8 := 1
def dataStoreMaxClients : Nat := 16
def spiffsReserveBytes : Nat := 32 * 1024

abbrev Path := List UInt8

/-- The mounted partition: the content of each existing file. -/
abbrev Fs := Path → Option (List UInt8)

def Fs.write (fs : Fs) (p : Path) (f : List UInt8) : Fs := Function.update fs p (some f)

def Fs.unlink (fs : Fs) (p : Path) : Fs := Function.update fs p none

def Fs.blank : Fs := fun _ => none

@[simp] theorem Fs.write_self (fs : Fs) (p : Path) (f : List UInt8) : fs.write p f p = some f :=
  Function.update_self ..

theorem Fs.write_ne (fs : Fs) {p q : Path} (f : List UInt8) (h : q ≠ p) :
    fs.write p f q = fs q := Function.update_of_ne h _ _

@[simp] theorem Fs.unlink_self (fs : Fs) (p : Path) : fs.unlink p p = none :=
  Function.update_self ..

theorem Fs.unlink_ne (fs : Fs) {p q : Path} (h : q ≠ p) : fs.unlink p q = fs q :=
  Function.update_of_ne h _ _

/-- `snprintf(buf, 64, "/spiffs/%s.dat", client_id)`. -/
def getFilepath (clientId : Id) : Path :=
  (ascii "/spiffs/" ++ clientId.bytes ++ ascii ".dat").take 63

theorem getFilepath_eq (clientId : Id) :
    getFilepath clientId = ascii "/spiffs/" ++ clientId.bytes ++ ascii ".dat" := by
  have h := clientId.fits
  apply List.take_of_length_le
  simp only [List.length_append, show (ascii "/spiffs/").length = 8 from rfl,
    show (ascii ".dat").length = 4 from rfl]
  omega

theorem getFilepath_inj {a b : Id} : getFilepath a = getFilepath b ↔ a = b := by
  rw [getFilepath_eq, getFilepath_eq, List.append_cancel_right_eq, List.append_cancel_left_eq,
    CStr.ext_iff]

/-! ## data_store_init -/

/-- The capacity `data_store_init` computes for a partition of `total` bytes, none when it
    refuses the partition. -/
def dataStoreInit (total : UInt32) : Option UInt32 :=
  if total.toNat ≤ spiffsReserveBytes then none
  else
    let usable := total.toNat - spiffsReserveBytes
    let perClient := usable / dataStoreMaxClients
    if perClient ≤ ClientFileHeader.codec.size then none
    else
      let perClient := perClient - ClientFileHeader.codec.size
      some (UInt32.ofNat (perClient / DataRecord.codec.size))

/-! ## data_store_append -/

/-- Which calls of one `data_store_append` fail. -/
structure AppendIo where
  fopenR : Bool := false
  fopenW : Bool := false
  freadHeader : Bool := false
  fwriteNewHeader : Bool := false
  fwriteRecord : Bool := false
  fwriteHeader : Bool := false
  deriving DecidableEq

/-- `sizeof(header) + idx * sizeof(data_record_t)` in `size_t`. -/
def recordOffset (idx : UInt32) : Nat := (49 + idx * 14).toNat

/-- The header a new file starts with. -/
def newHeader (gMax : UInt32) (clientId : Id) : ClientFileHeader where
  magic := dataStoreMagic
  version := dataStoreVersion
  clientId := clientId
  maxRecords := gMax
  writeIdx := 0
  count := 0

/-- The header after one more record. -/
def ClientFileHeader.advance (h : ClientFileHeader) : ClientFileHeader :=
  { h with
    writeIdx := (h.writeIdx + 1) % h.maxRecords
    count := if h.count < h.maxRecords then h.count + 1 else h.count }

/-- The header read from `f`, none when it is short, unreadable or has a wrong magic. -/
def validHeader (f : List UInt8) : Option ClientFileHeader :=
  (fread ClientFileHeader.codec f 0).filter (·.magic == dataStoreMagic)

/-- The part of `data_store_append` after the file is open and its header settled: the record,
    then the updated header. -/
def appendRecord (io : AppendIo) (f : List UInt8) (header : ClientFileHeader)
    (rec : DataRecord) : List UInt8 × Int :=
  if io.fwriteRecord then (f, -1)
  else
    let f := fwrite DataRecord.codec f (recordOffset header.writeIdx) rec
    if io.fwriteHeader then (f, -1)
    else (fwrite ClientFileHeader.codec f 0 header.advance, 0)

/-- `data_store_append` on the open file `f`. A missing, short or foreign header is replaced
    by a fresh one. -/
def appendOpened (gMax : UInt32) (io : AppendIo) (isNew : Bool) (f : List UInt8) (clientId : Id)
    (rec : DataRecord) : List UInt8 × Int :=
  match if isNew || io.freadHeader then none else validHeader f with
  | some header => appendRecord io f header rec
  | none =>
    if io.fwriteNewHeader then (f, -1)
    else
      let header := newHeader gMax clientId
      appendRecord io (fwrite ClientFileHeader.codec f 0 header) header rec

/-- `data_store_append`: "r+" first, "w+" (which truncates) when that yields no file. -/
def dataStoreAppend (gMax : UInt32) (io : AppendIo) (fs : Fs) (clientId : Id)
    (rec : DataRecord) : Fs × Int :=
  let path := getFilepath clientId
  match if io.fopenR then none else fs path with
  | some f =>
    let (f, ret) := appendOpened gMax io false f clientId rec
    (fs.write path f, ret)
  | none =>
    if io.fopenW then (fs, -1)
    else
      let (f, ret) := appendOpened gMax io true [] clientId rec
      (fs.write path f, ret)

/-! ## Reading -/

/-- `data_store_read_range`: the records copied to `out`. A slot that cannot be read is
    skipped. -/
def dataStoreReadRange (fs : Fs) (clientId : Id) (offset limit capacity : UInt32) :
    List DataRecord :=
  let limit := if limit > capacity then capacity else limit
  match fs (getFilepath clientId) with
  | none => []
  | some f =>
    match validHeader f with
    | none => []
    | some header =>
      if offset ≥ header.count then []
      else
        let available := header.count - offset
        let limit := if limit > available then available else limit
        let startIdx :=
          if header.count < header.maxRecords then offset
          else (header.writeIdx + offset) % header.maxRecords
        (List.range limit.toNat).filterMap fun i =>
          let idx := (startIdx + UInt32.ofNat i) % header.maxRecords
          fread DataRecord.codec f (recordOffset idx)

/-- `data_store_get_count`. -/
def dataStoreGetCount (fs : Fs) (clientId : Id) : UInt32 :=
  match (fs (getFilepath clientId)).bind validHeader with
  | none => 0
  | some header => header.count

/-! ## Deleting and renaming -/

/-- `data_store_delete_client`. -/
def dataStoreDeleteClient (unlinkFails : Bool) (fs : Fs) (clientId : Id) : Fs × Int :=
  match if unlinkFails then none else fs (getFilepath clientId) with
  | none => (fs, -1)
  | some _ => (fs.unlink (getFilepath clientId), 0)

/-- Which calls of one `data_store_rename_client` fail; reads and writes of the copy loop are
    numbered by record. -/
structure RenameIo where
  fopenOld : Bool := false
  freadHeader : Bool := false
  fopenNew : Bool := false
  fwriteHeader : Bool := false
  freadRecord : Nat → Bool := fun _ => false
  fwriteRecord : Nat → Bool := fun _ => false
  unlinkNew : Bool := false
  unlinkOld : Bool := false

/-- The copy loop of `data_store_rename_client`: `n` whole records from record `k` on, the
    read after them being short. False when a write fails. -/
def copyRecords (io : RenameIo) (f : List UInt8) : Nat → Nat → List UInt8 → List UInt8 × Bool
  | 0, _, out => (out, true)
  | n + 1, k, out =>
    if io.freadRecord k then (out, true)
    else if io.fwriteRecord k then (out, false)
    else copyRecords io f n (k + 1) (out ++ readAt f (49 + 14 * k) 14)

/-- Number of whole records behind the header. -/
def wholeRecords (f : List UInt8) : Nat := (f.length - 49) / 14

/-- `data_store_rename_client`. -/
def dataStoreRenameClient (io : RenameIo) (fs : Fs) (oldId newId : Id) : Fs × Int :=
  if oldId.isEmpty || newId.isEmpty then (fs, -1)
  else if oldId = newId then (fs, 0)
  else
    let oldPath := getFilepath oldId
    let newPath := getFilepath newId
    match if io.fopenOld then none else fs oldPath with
    | none => (fs, 0)
    | some f =>
      match if io.freadHeader then none else validHeader f with
      | none => (fs, -1)
      | some header =>
        if io.fopenNew then (fs, -1)
        else
          -- after a failed write the new file is unlinked; what it held by then stays only
          -- if that fails too
          let abandon (f : List UInt8) : Fs :=
            if io.unlinkNew then fs.write newPath f else fs.unlink newPath
          if io.fwriteHeader then (abandon [], -1)
          else
            let fNew := fwrite ClientFileHeader.codec [] 0 { header with clientId := newId }
            match copyRecords io f (wholeRecords f) 0 fNew with
            | (fNew, false) => (abandon fNew, -1)
            | (fNew, true) =>
              let fs := fs.write newPath fNew
              (if io.unlinkOld then fs else fs.unlink oldPath, 0)

end IndoorLogger
