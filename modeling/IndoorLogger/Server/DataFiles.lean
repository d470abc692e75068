import IndoorLogger.Server.BoundedLog
import IndoorLogger.Server.HttpServer

/-
  What requests do to the client files. `HeadersOk` is kept by every call, failing ones
  included. With no failing call, the readings of an upload are pushed on the client's ring
  (`storeReadings_eq`, `appendAll_newest`), and renaming a client carries its records over to
  a file of the new name (`rename_eq`, `readAll_renamed`).
-/

namespace IndoorLogger

open RecordFile RingFile

/-! ## Headers -/

/-- Every file whose header is recognised has a well-formed one. -/
def HeadersOk (g : UInt32) (fs : Fs) : Prop :=
  ∀ p f h, fs p = some f → validHeader f = some h → HeaderOk g h

/-- The same of one file, if there is one. -/
def FileHeaderOk (g : UInt32) (o : Option (List UInt8)) : Prop :=
  ∀ f h, o = some f → validHeader f = some h → HeaderOk g h

theorem fileHeaderOk_nil {g : UInt32} : FileHeaderOk g (some []) := by
  intro f h hf hv
  obtain rfl := Option.some.inj hf
  cases hv

theorem HeadersOk.write {g : UInt32} {fs : Fs} (h : HeadersOk g fs) (p : Path) {f : List UInt8}
    (hf : FileHeaderOk g (some f)) : HeadersOk g (fs.write p f) := by
  intro q f' hd hq hv
  by_cases hqp : q = p
  · subst hqp
    rw [Fs.write_self] at hq
    exact hf f' hd hq hv
  · rw [Fs.write_ne fs f hqp] at hq
    exact h q f' hd hq hv

theorem HeadersOk.unlink {g : UInt32} {fs : Fs} (h : HeadersOk g fs) (p : Path) :
    HeadersOk g (fs.unlink p) := by
  intro q f hd hq hv
  by_cases hqp : q = p
  · subst hqp
    rw [Fs.unlink_self] at hq
    cases hq
  · rw [Fs.unlink_ne fs hqp] at hq
    exact h q f hd hq hv

theorem headerOk_advance {g : UInt32} (hg : Fits g) {h : ClientFileHeader} (ho : HeaderOk g h) :
    HeaderOk g h.advance := by
  have hw := advance_writeIdx hg ho.maxRecords ho.writeIdx_lt
  have hc := advance_count hg ho.maxRecords ho.count_le
  refine ⟨ho.maxRecords, ?_, ?_, fun hlt => ?_⟩
  · rw [hw]
    exact Nat.mod_lt _ hg.pos
  · rw [hc]
    exact Nat.min_le_right _ _
  · have heq := congrArg UInt32.toNat (ho.writeIdx_eq (by omega))
    apply UInt32.toNat_inj.mp
    rw [hw, hc, heq, Nat.mod_eq_of_lt (by omega)]
    omega

theorem headerOk_new {g : UInt32} (hg : Fits g) (id : Id) : HeaderOk g (newHeader g id) :=
  ⟨rfl, hg.pos, Nat.zero_le _, fun _ => rfl⟩

theorem fileHeaderOk_of_valid {g : UInt32} {f : List UInt8} {h : ClientFileHeader}
    (hv : validHeader f = some h) (ho : HeaderOk g h) : FileHeaderOk g (some f) := by
  intro f' h' hf' hv'
  obtain rfl := Option.some.inj hf'
  rw [hv] at hv'
  exact Option.some.inj hv' ▸ ho

/-- Of a file with a well-formed header only, nothing is known but the number of its slots. -/
theorem holds_unknown {g : UInt32} {f : List UInt8} {h : ClientFileHeader}
    (hv : validHeader f = some h) (ho : HeaderOk g h) :
    ∃ r : RingBuffer (Option DataRecord) g.toNat, Holds g f r := by
  refine ⟨⟨List.replicate h.count.toNat none, h.writeIdx.toNat, ho.writeIdx_lt, ?_, ?_⟩, ?_, ?_⟩
  · rw [List.length_replicate]
    exact ho.count_le
  · rw [List.length_replicate]
    exact fun hlt => congrArg UInt32.toNat (ho.writeIdx_eq hlt)
  · exact ⟨h, hv, ho.maxRecords, rfl, (List.length_replicate ..).symm⟩
  · intro i b x hi hx
    have := List.eq_of_mem_replicate (List.mem_of_getElem? hi)
    subst this
    cases hx

theorem headerOk_of_holds {g : UInt32} {f : List UInt8}
    {r : RingBuffer (Option DataRecord) g.toNat} (h : Holds g f r) :
    ∃ hd, validHeader f = some hd ∧ HeaderOk g hd := by
  obtain ⟨hd, hv, hm, hw, hc⟩ := h.header
  refine ⟨hd, hv, hm, by rw [hw]; exact r.next_lt, by rw [hc]; exact r.length_le, fun hlt => ?_⟩
  apply UInt32.toNat_inj.mp
  rw [hw, hc]
  exact r.next_eq (by omega)

/-! ## Calls that may fail -/

theorem appendRecord_headerOk {g : UInt32} (hg : Fits g) (io : AppendIo) {f : List UInt8}
    {h : ClientFileHeader} (rec : DataRecord) (hv : validHeader f = some h) (ho : HeaderOk g h) :
    FileHeaderOk g (some (appendRecord io f h rec).1) := by
  have hrec : fread ClientFileHeader.codec
      (fwrite DataRecord.codec f (recordOffset h.writeIdx) rec) 0 = some h := by
    rw [recordOffset_eq hg ho.writeIdx_lt]
    exact header_write_slot 49 _ _ (by decide) (by decide) _ _ _ _ (validHeader_eq_some.mp hv).1
  have hm := (validHeader_eq_some.mp hv).2
  rw [appendRecord]
  split
  · exact fileHeaderOk_of_valid hv ho
  · split
    · exact fileHeaderOk_of_valid (validHeader_eq_some.mpr ⟨hrec, hm⟩) ho
    · exact fileHeaderOk_of_valid (validHeader_write hm) (headerOk_advance hg ho)

theorem appendOpened_headerOk {g : UInt32} (hg : Fits g) (io : AppendIo) (isNew : Bool)
    {f : List UInt8} (id : Id) (rec : DataRecord) (hf : FileHeaderOk g (some f)) :
    FileHeaderOk g (some (appendOpened g io isNew f id rec).1) := by
  rw [appendOpened]
  split
  case h_1 h heq =>
    have hv : validHeader f = some h := by
      split at heq
      · cases heq
      · exact heq
    exact appendRecord_headerOk hg io rec hv (hf f h rfl hv)
  case h_2 =>
    split
    · exact hf
    · exact appendRecord_headerOk hg io rec (validHeader_write rfl) (headerOk_new hg id)

theorem append_headersOk {g : UInt32} (hg : Fits g) (io : AppendIo) {fs : Fs} (id : Id)
    (rec : DataRecord) (h : HeadersOk g fs) : HeadersOk g (dataStoreAppend g io fs id rec).1 := by
  rw [dataStoreAppend]
  dsimp only
  split
  case h_1 f heq =>
    have hf : fs (getFilepath id) = some f := by
      split at heq
      · cases heq
      · exact heq
    exact h.write _ (appendOpened_headerOk hg io false id rec fun f' hd hf' hv =>
      h _ f' hd (hf.trans hf') hv)
  case h_2 =>
    split
    · exact h
    · exact h.write _ (appendOpened_headerOk hg io true id rec fileHeaderOk_nil)

theorem storeReadings_headersOk {g : UInt32} (hg : Fits g) (io : Nat → AppendIo)
    (clock : Nat → UInt32) (id : Id) (i : Nat) {fs : Fs} (items : List Json)
    (h : HeadersOk g fs) : HeadersOk g (storeReadings g io clock id i fs items).1 := by
  induction items generalizing i fs with
  | nil => exact h
  | cons item items ih =>
    rw [storeReadings]
    split
    · exact ih (i + 1) (append_headersOk hg (io i) id _ h)
    · exact ih (i + 1) h

theorem delete_headersOk {g : UInt32} (unlinkFails : Bool) {fs : Fs} (id : Id)
    (h : HeadersOk g fs) : HeadersOk g (dataStoreDeleteClient unlinkFails fs id).1 := by
  rw [dataStoreDeleteClient]
  split
  · exact h
  · exact h.unlink _

/-- A copy in progress starts with the header it was given. -/
theorem fread_append_left {α : Type} (c : FixedCodec α) (a : α) (l : List UInt8) :
    fread c (c.enc a ++ l) 0 = some a := by
  have hr : readAt (c.enc a ++ l) 0 c.size = c.enc a := by
    unfold readAt
    rw [List.drop_zero, List.take_append_of_le_length (by rw [c.length_enc]),
      List.take_of_length_le (by rw [c.length_enc])]
  unfold fread
  rw [hr, if_pos (c.length_enc a), c.dec_enc]

theorem fwrite_nil {α : Type} (c : FixedCodec α) (a : α) : fwrite c [] 0 a = c.enc a := by
  simp [fwrite, writeAt]

/-- Number of records copied before a read or a write fails. -/
def copiedRecords (io : RenameIo) : Nat → Nat → Nat
  | 0, _ => 0
  | n + 1, k =>
    if io.freadRecord k || io.fwriteRecord k then 0 else copiedRecords io n (k + 1) + 1

/-- What a copy writes behind `out`. -/
theorem copyRecords_fst (io : RenameIo) (f : List UInt8) (n k : Nat) (out : List UInt8) :
    (copyRecords io f n k out).1 =
      out ++ (f.drop (49 + 14 * k)).take (14 * copiedRecords io n k) := by
  induction n generalizing k out with
  | zero => simp [copyRecords, copiedRecords]
  | succ n ih =>
    rw [copyRecords, copiedRecords]
    cases hr : io.freadRecord k with
    | true => simp
    | false =>
      cases hw : io.fwriteRecord k with
      | true => simp
      | false =>
        simp only [Bool.false_eq_true, if_false, Bool.or_self]
        rw [ih, readAt, List.append_assoc, Nat.mul_succ _ (copiedRecords ..),
          Nat.add_comm (14 * copiedRecords io n (k + 1)), List.take_add, List.drop_drop,
          show 49 + 14 * k + 14 = 49 + 14 * (k + 1) by omega]

theorem rename_headersOk {g : UInt32} (io : RenameIo) {fs : Fs} (old new : Id)
    (h : HeadersOk g fs) : HeadersOk g (dataStoreRenameClient io fs old new).1 := by
  have hfile : ∀ f hd, fs (getFilepath old) = some f → validHeader f = some hd → ∀ l,
      FileHeaderOk g
        (some (fwrite ClientFileHeader.codec [] 0 { hd with clientId := new } ++ l)) := by
    intro f hd hf hv l
    obtain ⟨h1, h2, h3, h4⟩ := h _ f hd hf hv
    refine fileHeaderOk_of_valid (h := { hd with clientId := new }) ?_ ⟨h1, h2, h3, h4⟩
    rw [fwrite_nil]
    exact validHeader_eq_some.mpr ⟨fread_append_left .., (validHeader_eq_some.mp hv).2⟩
  rw [dataStoreRenameClient]
  dsimp only
  split
  · exact h
  · split
    · exact h
    · split
      · exact h
      case h_2 f heq =>
        have hf : fs (getFilepath old) = some f := by
          split at heq
          · cases heq
          · exact heq
        split
        · exact h
        case h_2 hd heq =>
          have hv : validHeader f = some hd := by
            split at heq
            · cases heq
            · exact heq
          have hcopy := hfile f hd hf hv ((f.drop 49).take
            (14 * copiedRecords io (wholeRecords f) 0))
          rw [← copyRecords_fst io f (wholeRecords f) 0] at hcopy
          split
          · exact h
          · split
            · split
              · exact h.write _ fileHeaderOk_nil
              · exact h.unlink _
            · split
              case h_1 fNew hc =>
                rw [hc] at hcopy
                split
                · exact h.write _ hcopy
                · exact h.unlink _
              case h_2 fNew hc =>
                rw [hc] at hcopy
                split
                · exact h.write _ hcopy
                · exact (h.write _ hcopy).unlink _

/-! ## Uploads without failing calls -/

/-- Append one record after the other. -/
def appendAll (g : UInt32) (id : Id) (fs : Fs) (recs : List DataRecord) : Fs :=
  recs.foldl (fun fs rec => (dataStoreAppend g {} fs id rec).1) fs

/-- The records of the readings from item `i` on. -/
def decodeItems (clock : Nat → UInt32) : Nat → List Json → List DataRecord
  | _, [] => []
  | i, item :: items =>
    if item.isObject then decodeReading (clock i) item :: decodeItems clock (i + 1) items
    else decodeItems clock (i + 1) items

theorem length_decodeItems (clock : Nat → UInt32) (i : Nat) (items : List Json) :
    (decodeItems clock i items).length = items.countP Json.isObject := by
  induction items generalizing i with
  | nil => rfl
  | cons item items ih =>
    unfold decodeItems
    rw [List.countP_cons]
    split
    · rw [List.length_cons, ih]
    · rw [ih, Nat.add_zero]

theorem decodeItems_ne_nil {clock : Nat → UInt32} {i : Nat} {items : List Json} :
    decodeItems clock i items ≠ [] ↔ items.any Json.isObject = true := by
  rw [← List.length_pos_iff, length_decodeItems, List.countP_pos_iff, List.any_eq_true]

/-- An append onto a well-formed file, or where there is none, starts or continues a ring. -/
theorem append_pushes {g : UInt32} (hg : Fits g) {fs : Fs} {id : Id}
    (hf : FileHeaderOk g (fs (getFilepath id))) :
    ∃ r : RingBuffer (Option DataRecord) g.toNat, ∀ rec, ∃ f',
      dataStoreAppend g {} fs id rec = (fs.write (getFilepath id) f', 0) ∧
        Holds g f' (r.push (some rec)) := by
  cases hv : (fs (getFilepath id)).bind validHeader with
  | none => exact ⟨_, fun rec => append_fresh hg rec hv⟩
  | some h =>
    obtain ⟨f, hp, hh⟩ := Option.bind_eq_some_iff.mp hv
    obtain ⟨r, hr⟩ := holds_unknown hh (hf f h hp hh)
    exact ⟨r, fun rec => append_holds hg rec ⟨f, hp, hr⟩⟩

theorem appendAll_holds {g : UInt32} (hg : Fits g) {fs : Fs} {id : Id}
    {r : RingBuffer (Option DataRecord) g.toNat} (hf : FileHolds g fs id r)
    (recs : List DataRecord) :
    FileHolds g (appendAll g id fs recs) id ((recs.map some).foldl RingBuffer.push r) := by
  induction recs generalizing fs r with
  | nil => exact hf
  | cons rec recs ih =>
    obtain ⟨f', he, hr⟩ := append_holds hg rec hf
    unfold appendAll
    rw [List.foldl_cons, ← appendAll, List.map_cons, List.foldl_cons, he]
    exact ih ⟨f', Fs.write_self .., hr⟩

theorem appendAll_other (g : UInt32) (id : Id) (fs : Fs) (recs : List DataRecord) {p : Path}
    (hp : p ≠ getFilepath id) : appendAll g id fs recs p = fs p := by
  induction recs generalizing fs with
  | nil => rfl
  | cons rec recs ih =>
    unfold appendAll
    rw [List.foldl_cons, ← appendAll, ih, append_frame g {} fs rec hp]

/-- The readings are appended one after the other, and each append succeeds. -/
theorem storeReadings_eq {g : UInt32} (hg : Fits g) (clock : Nat → UInt32) (id : Id) (i : Nat)
    {fs : Fs} (items : List Json) (hf : FileHeaderOk g (fs (getFilepath id))) :
    storeReadings g (fun _ => {}) clock id i fs items =
      (appendAll g id fs (decodeItems clock i items), items.map Json.isObject) := by
  induction items generalizing i fs with
  | nil => rfl
  | cons item items ih =>
    unfold storeReadings
    rw [decodeItems]
    split
    case isTrue hobj =>
      obtain ⟨r, hr⟩ := append_pushes hg hf
      obtain ⟨f', he, hf'⟩ := hr (decodeReading (clock i) item)
      have hnext : FileHeaderOk g ((fs.write (getFilepath id) f') (getFilepath id)) := by
        obtain ⟨hd, hv, ho⟩ := headerOk_of_holds hf'
        rw [Fs.write_self]
        exact fileHeaderOk_of_valid hv ho
      rw [he]
      dsimp only
      rw [ih (i + 1) hnext, appendAll, appendAll, List.foldl_cons, he, List.map_cons, hobj]
      rfl
    case isFalse hobj =>
      rw [Bool.not_eq_true] at hobj
      rw [ih (i + 1) hf, List.map_cons, hobj]

/-- After a batch that fits the ring, its records are the newest of the client's ring. -/
theorem appendAll_newest {g : UInt32} (hg : Fits g) {fs : Fs} {id : Id} {recs : List DataRecord}
    (hf : FileHeaderOk g (fs (getFilepath id))) (hne : recs ≠ []) (hn : recs.length ≤ g.toNat) :
    ∃ r : RingBuffer (Option DataRecord) g.toNat,
      FileHolds g (appendAll g id fs recs) id r ∧ r.toList.rtake recs.length = recs.map some := by
  obtain ⟨rec, recs', rfl⟩ := List.exists_cons_of_ne_nil hne
  obtain ⟨r, hr⟩ := append_pushes hg hf
  obtain ⟨f', he, hf'⟩ := hr rec
  have hfirst : FileHolds g (fs.write (getFilepath id) f') id (r.push (some rec)) :=
    ⟨f', Fs.write_self .., hf'⟩
  have hall := appendAll_holds hg hfirst recs'
  have hfold : appendAll g id fs (rec :: recs') =
      appendAll g id (fs.write (getFilepath id) f') recs' := by
    unfold appendAll
    rw [List.foldl_cons, he, ← appendAll]
  have hlist : (((rec :: recs').map some).foldl RingBuffer.push r).toList =
      (r.toList ++ (rec :: recs').map some).rtake g.toNat := by
    apply RingBuffer.toList_foldl_push
    have hlen := r.length_le
    rw [List.rtake, RingBuffer.length_toList, Nat.sub_eq_zero_of_le hlen, List.drop_zero]
  refine ⟨_, hfold ▸ hall, ?_⟩
  rw [List.map_cons, List.foldl_cons] at hlist
  rw [hlist, ← List.map_cons,
    ← (List.length_map some : ((rec :: recs').map some).length = (rec :: recs').length)]
  exact RingBuffer.rtake_rtake_of_le _ _ (by rwa [List.length_map])

/-! ## Renames without failing calls -/

/-- The file a rename writes. -/
def renamedFile (f : List UInt8) (h : ClientFileHeader) (new : Id) : List UInt8 :=
  ClientFileHeader.codec.enc { h with clientId := new } ++
    (f.drop 49).take (14 * wholeRecords f)

theorem copyRecords_eq (f : List UInt8) (n k : Nat) (out : List UInt8) :
    copyRecords {} f n k out = (out ++ (f.drop (49 + 14 * k)).take (14 * n), true) := by
  induction n generalizing k out with
  | zero => simp [copyRecords]
  | succ n ih =>
    unfold copyRecords
    rw [if_neg Bool.false_ne_true, if_neg Bool.false_ne_true, ih, readAt,
      List.append_assoc, show 14 * (n + 1) = 14 + 14 * n by omega, List.take_add, List.drop_drop,
      show 49 + 14 * k + 14 = 49 + 14 * (k + 1) by omega]

theorem rename_eq {fs : Fs} {old new : Id} {f : List UInt8} {h : ClientFileHeader}
    (hold : old ≠ CStr.empty) (hnew : new ≠ CStr.empty) (hne : old ≠ new)
    (hf : fs (getFilepath old) = some f) (hv : validHeader f = some h) :
    (dataStoreRenameClient {} fs old new).1 =
      (fs.write (getFilepath new) (renamedFile f h new)).unlink (getFilepath old) := by
  unfold dataStoreRenameClient
  rw [CStr.isEmpty_eq_false.mpr hold, CStr.isEmpty_eq_false.mpr hnew,
    Bool.or_self, if_neg Bool.false_ne_true, if_neg hne]
  simp only [Bool.false_eq_true, if_false, hf, hv, copyRecords_eq, fwrite_nil]
  rfl

/-- The files after a rename none of whose calls fails. -/
theorem rename_files {fs : Fs} {old new : Id} {f : List UInt8} {h : ClientFileHeader}
    (hold : old ≠ CStr.empty) (hnew : new ≠ CStr.empty) (hne : old ≠ new)
    (hf : fs (getFilepath old) = some f) (hv : validHeader f = some h) :
    let fs' := (dataStoreRenameClient {} fs old new).1
    fs' (getFilepath new) = some (renamedFile f h new) ∧ fs' (getFilepath old) = none ∧
      ∀ id : Id, id ≠ old → id ≠ new → fs' (getFilepath id) = fs (getFilepath id) := by
  have hpath : getFilepath new ≠ getFilepath old := fun e => hne (getFilepath_inj.mp e).symm
  rw [rename_eq hold hnew hne hf hv]
  refine ⟨?_, Fs.unlink_self .., fun id ho hn => ?_⟩
  · rw [Fs.unlink_ne _ hpath, Fs.write_self]
  · rw [Fs.unlink_ne _ fun e => ho (getFilepath_inj.mp e),
      Fs.write_ne _ _ fun e => hn (getFilepath_inj.mp e)]

theorem rename_noFile (io : RenameIo) {fs : Fs} {old : Id} (new : Id)
    (hf : fs (getFilepath old) = none) : (dataStoreRenameClient io fs old new).1 = fs := by
  rw [dataStoreRenameClient]
  simp only [hf, ite_self]
  split
  · rfl
  · rfl

/-- A file whose header is not recognised is not renamed. -/
theorem rename_invalid {fs : Fs} {old : Id} (new : Id) {f : List UInt8}
    (hf : fs (getFilepath old) = some f) (hv : validHeader f = none) :
    (dataStoreRenameClient {} fs old new).1 = fs := by
  rw [dataStoreRenameClient]
  simp only [Bool.false_eq_true, if_false, hf, hv]
  split
  · rfl
  · split
    · rfl
    · rfl

theorem validHeader_renamed {f : List UInt8} {h : ClientFileHeader} (hv : validHeader f = some h)
    (new : Id) : validHeader (renamedFile f h new) = some { h with clientId := new } :=
  validHeader_eq_some.mpr ⟨fread_append_left .., (validHeader_eq_some.mp hv).2⟩

/-- The first `c` records behind a new header are in the slots they were in. -/
theorem slot_copied (f : List UInt8) (c : Nat) (h : ClientFileHeader) (i : Nat) :
    slot 49 DataRecord.codec (ClientFileHeader.codec.enc h ++ (f.drop 49).take (14 * c)) i =
      if i < c then slot 49 DataRecord.codec f i else none := by
  have henc : (ClientFileHeader.codec.enc h).length = 49 := ClientFileHeader.codec.length_enc _
  split
  case isTrue hi =>
    have heq : readAt (ClientFileHeader.codec.enc h ++ (f.drop 49).take (14 * c)) (49 + 14 * i) 14 =
        readAt f (49 + 14 * i) 14 := by
      unfold readAt
      rw [← List.drop_drop, List.drop_left' henc, List.drop_take, List.take_take, List.drop_drop,
        Nat.min_eq_left (by omega)]
    rw [slot, slot, slotOffset, fread, fread, DataRecord.size_codec, heq]
  case isFalse hi =>
    have hlen : (ClientFileHeader.codec.enc h ++ (f.drop 49).take (14 * c)).length <
        49 + 14 * i + 14 := by
      rw [List.length_append, henc, List.length_take]
      omega
    exact fread_of_lt _ (by decide) hlen

theorem slot_eq_none_iff {f : List UInt8} {i : Nat} :
    slot 49 DataRecord.codec f i = none ↔ wholeRecords f ≤ i := by
  have hw : wholeRecords f = (f.length - 49) / 14 := rfl
  constructor
  · intro hn
    by_contra hlt
    rw [slot, fread_of_le _ (by rw [slotOffset, DataRecord.size_codec]; omega)] at hn
    cases hn
  · intro hle
    exact fread_of_lt _ (by decide) (by rw [slotOffset, DataRecord.size_codec]; omega)

/-- The renamed file has the same records in the same slots. -/
theorem slot_renamed (f : List UInt8) (h : ClientFileHeader) (new : Id) (i : Nat) :
    slot 49 DataRecord.codec (renamedFile f h new) i = slot 49 DataRecord.codec f i := by
  unfold renamedFile
  rw [slot_copied]
  split
  · rfl
  · exact (slot_eq_none_iff.mpr (by omega)).symm

/-- The copy holds the ring of the original. -/
theorem Holds.renamed {g : UInt32} {f : List UInt8} {h : ClientFileHeader}
    {r : RingBuffer (Option DataRecord) g.toNat} (hr : Holds g f r) (hv : validHeader f = some h)
    (new : Id) : Holds g (renamedFile f h new) r := by
  obtain ⟨h', hv', hm, hw, hc⟩ := hr.header
  obtain rfl : h = h' := Option.some.inj (hv.symm.trans hv')
  refine ⟨⟨{ h with clientId := new }, validHeader_renamed hv new, hm, hw, hc⟩, ?_⟩
  intro i b x hi hx
  rw [slot_renamed]
  exact hr.records i b x hi hx

/-! ## Reading renamed files -/

theorem readRange_renamed {g : UInt32} (hg : Fits g) {fs fs' : Fs} {old new : Id} {f : List UInt8}
    {h : ClientFileHeader} (hf : fs (getFilepath old) = some f) (hv : validHeader f = some h)
    (ho : HeaderOk g h) (hf' : fs' (getFilepath new) = some (renamedFile f h new))
    (offset limit capacity : UInt32) :
    dataStoreReadRange fs' new offset limit capacity =
      dataStoreReadRange fs old offset limit capacity := by
  simp only [dataStoreReadRange, hf, hf', hv, validHeader_renamed hv]
  split
  · rfl
  · apply List.filterMap_congr
    intro i _
    have hlt : ∀ k : UInt32, (k % h.maxRecords).toNat < g.toNat := by
      intro k
      rw [ho.maxRecords, UInt32.toNat_mod]
      exact Nat.mod_lt _ hg.pos
    rw [recordOffset_eq hg (hlt _)]
    exact slot_renamed f h new _

theorem readAll_renamed {g : UInt32} (hg : Fits g) {fs fs' : Fs} {old new : Id} {f : List UInt8}
    {h : ClientFileHeader} (hf : fs (getFilepath old) = some f) (hv : validHeader f = some h)
    (ho : HeaderOk g h) (hf' : fs' (getFilepath new) = some (renamedFile f h new)) :
    readAll fs' new = readAll fs old := by
  have hcount : dataStoreGetCount fs' new = dataStoreGetCount fs old := by
    simp only [dataStoreGetCount, hf, hf', Option.bind_some, hv, validHeader_renamed hv]
  rw [readAll, hcount, readRange_renamed hg hf hv ho hf']
  rfl

theorem readAll_congr {fs fs' : Fs} {id : Id} (h : fs (getFilepath id) = fs' (getFilepath id)) :
    readAll fs id = readAll fs' id := by
  unfold readAll dataStoreGetCount dataStoreReadRange
  rw [h]

theorem readAll_noFile {fs : Fs} {id : Id} (h : fs (getFilepath id) = none) :
    readAll fs id = [] := by
  unfold readAll dataStoreReadRange
  simp only [h]

end IndoorLogger
