import IndoorLogger.Lib.JsonParse
import IndoorLogger.Server.DataFiles
import IndoorLogger.Server.Membership

/-
  What an upload leaves in the files, from any state the server can reach, failing calls on
  the way there included. The records it accepts are the newest of its client's, unless the
  client is new and its address bound to another one whose file is then copied over them
  (`upload_keeps_batch_iff`).
-/

namespace IndoorLogger

open RecordFile RingFile Machine

/-! ## Reachable states -/

variable {cJSONParse : List UInt8 → Option Json} {g : UInt32} {m : RegMap}

theorem requestFs_headersOk (hg : Fits g) {fs : Fs} (h : HeadersOk g fs) (r : Request) :
    HeadersOk g (m.requestFs cJSONParse g fs r) := by
  cases r with
  | upload io clock req =>
    rw [RegMap.requestFs]
    split
    · exact h
    · have hstore := storeReadings_headersOk hg io.append clock
      rw [dedupFs]
      split
      · exact hstore _ _ _ h
      · exact rename_headersOk io.rename _ _ (hstore _ _ _ h)
  | clientId io save uri =>
    rw [RegMap.requestFs]
    split
    · exact rename_headersOk io _ _ h
    · exact h
  | clientDelete io unlinkFails uri =>
    rw [RegMap.requestFs]
    split
    · exact delete_headersOk unlinkFails _ h
    · exact h
  | clientName io now uri => exact h
  | basicModePost io now uri => exact h
  | syncIntervalPost uri => exact h
  | timezonePost uri => exact h
  | checkStale now timeoutSec => exact h

/-- In every state reached the registry's arrays hold a map, and headers are well formed. -/
theorem reached (cJSONParse : List UInt8 → Option Json) (hg : Fits g) (rs : List Request) :
    ∃ m, (final (serverStep cJSONParse g) bootState rs).reg.Lists m ∧
      HeadersOk g (final (serverStep cJSONParse g) bootState rs).fs := by
  have hrun : Always (serverStep cJSONParse g)
      (fun s => ∃ m, s.reg.Lists m ∧ HeadersOk g s.fs) bootState rs := by
    refine always_of_step (fun s r => ?_) rs ⟨_, lists_init, fun p f h hf => ?_⟩
    · intro h'
      obtain ⟨m, hm, hh⟩ := h'
      obtain ⟨hl, hfs⟩ := serverStep_leaves cJSONParse g hm r
      exact ⟨_, hl, hfs ▸ requestFs_headersOk hg hh r⟩
    · exact absurd hf.symm (Option.some_ne_none f)
  exact hrun.final

/-! ## Accepted batches -/

/-- The records of `batch` are the newest of the client's sequence, in order. -/
def Newest (fs : Fs) (id : Id) (batch : List DataRecord) : Prop :=
  (readAll fs id).rtake batch.length = batch

instance (fs : Fs) (id : Id) (batch : List DataRecord) : Decidable (Newest fs id batch) :=
  inferInstanceAs (Decidable (_ = _))

theorem newest_nil (fs : Fs) (id : Id) : Newest fs id [] := by
  unfold Newest
  rw [List.length_nil, List.rtake_zero]

theorem newest_appendAll (hg : Fits g) {fs : Fs} {id : Id} {batch : List DataRecord}
    (hf : FileHeaderOk g (fs (getFilepath id))) (hn : batch.length ≤ g.toNat) :
    Newest (appendAll g id fs batch) id batch := by
  by_cases hne : batch = []
  · rw [hne]
    exact newest_nil _ _
  · obtain ⟨r, hr, hnew⟩ := appendAll_newest hg hf hne hn
    exact readAll_rtake hg hr batch hnew

/-- The number of readings an answer reports as accepted. -/
def Response.accepted? : Response → Option Nat
  | .upload reply => some reply.accepted
  | _ => none

/-- The client whose file a migration copies over that of an unregistered `id`. -/
def migrated (s : ServerState) (id : Id) (ip : CStr 16) : Option Id :=
  match clientRegistryGet s.reg id, (given (some ip.bytes)).bind (dedupSlot s.reg id) with
  | none, some i => some (s.reg.client i).id
  | _, _ => none

/-- No usable file is copied over the batch, or its records are the newest of the copied
    sequence, or of the sequence of the id that `id` is renamed to. -/
def KeepsBatch (s : ServerState) (id : Id) (ip : CStr 16) (batch : List DataRecord) : Prop :=
  ∀ v, migrated s id ip = some v →
    (s.fs (getFilepath v)).bind validHeader = none ∨ Newest s.fs v batch ∨
      clientRegistryResolveId s.reg id ≠ id ∧
        Newest s.fs (clientRegistryResolveId s.reg id) batch

theorem migrated_eq {s : ServerState} (h : s.reg.Lists m) (id : Id) (ip : CStr 16) :
    migrated s id ip = m.evicted id (some ip.bytes) := by
  unfold migrated
  rw [RegMap.evicted]
  rcases h.get_cases id with ⟨hg, hid⟩ | ⟨i, e, hg, -, -, -, he⟩
  · rw [hg]
    rcases dedupSlot_cases h hid (some ip.bytes) with ⟨hs, hv⟩ | ⟨i, v, hs, hv, hi⟩
    · rw [hs, hv]
      rfl
    · rw [hs, hv]
      exact congrArg some (congrArg ClientInfo.id (h.client_eq hi))
  · rw [hg, RegMap.victim_of_mem (KeyedList.mem_keys_of_lookup he)]
    rfl

theorem resolve_update {now : UInt32} {id : Id} (hid : id ≠ CStr.empty)
    {name ip : Option (List UInt8)} {overwriteName : Bool} :
    (m.update now id hid name ip overwriteName).1.resolve id = m.resolve id := by
  rw [RegMap.resolve, RegMap.target, RegMap.update_mappings, RegMap.resolve, RegMap.target,
    RegMap.evicted]
  cases hv : m.victim id ip with
  | none => rfl
  | some v =>
    have hne := (RegMap.mem_ids_of_victim hv).2.2
    exact congrArg (fun o => (Option.map IdChangeMapping.newId o).getD id)
      (KeyedList.lookup_erase_of_ne hne.symm)

/-- The batch where the records of `v` have moved to `id`. -/
theorem newest_moved_iff {fs fs' : Fs} {v id target : Id} {batch : List DataRecord}
    (hid : readAll fs' id = readAll fs v) (hv : readAll fs' v = [])
    (hothers : ∀ x, x ≠ id → x ≠ v → readAll fs' x = readAll fs x) :
    (Newest fs' id batch ∨ Newest fs' target batch) ↔
      Newest fs v batch ∨ target ≠ id ∧ Newest fs target batch := by
  have hown : Newest fs' id batch ↔ Newest fs v batch := by
    unfold Newest
    rw [hid]
  by_cases hti : target = id
  · rw [hti, hown, or_self]
    exact ⟨Or.inl, fun h => h.elim (fun hn => hn) fun hn => absurd rfl hn.1⟩
  · by_cases htv : target = v
    · have hnil : Newest fs' v batch → Newest fs v batch := by
        intro hn
        rw [Newest, hv, List.rtake_nil] at hn
        exact hn.symm ▸ newest_nil fs v
      rw [htv, hown]
      constructor
      · intro h
        exact Or.inl (h.elim (fun hn => hn) hnil)
      · intro h
        exact Or.inl (h.elim (fun hn => hn) And.right)
    · have hsame : Newest fs' target batch ↔ Newest fs target batch := by
        unfold Newest
        rw [hothers target hti htv]
      rw [hown, hsame, and_iff_right hti]

/-- The files after a migration onto the batch. -/
theorem dedupFs_newest_iff (hg : Fits g) {fs : Fs} (hh : HeadersOk g fs) (id : ClientId)
    {batch : List DataRecord} (hn : batch.length ≤ g.toNat) {ip : Option (List UInt8)}
    (target : Id) :
    (Newest (dedupFs {} m (appendAll g id fs batch) id ip) id batch ∨
        Newest (dedupFs {} m (appendAll g id fs batch) id ip) target batch) ↔
      ∀ v, m.evicted id ip = some v → (fs (getFilepath v)).bind validHeader = none ∨
        Newest fs v batch ∨ target ≠ id ∧ Newest fs target batch := by
  have hown := newest_appendAll hg (fun f h => hh (getFilepath id) f h) hn
  rw [RegMap.evicted, dedupFs]
  cases hv : m.victim id ip with
  | none => exact iff_of_true (Or.inl hown) (fun v hv => absurd hv.symm (Option.some_ne_none v))
  | some e =>
    obtain ⟨hmem, -, hne⟩ := RegMap.mem_ids_of_victim hv
    have hene := m.ids_ne e (RegMap.mem_of_victim hv)
    have hpath : getFilepath e.id ≠ getFilepath id := fun hp => hne (getFilepath_inj.mp hp)
    have hfile : appendAll g id fs batch (getFilepath e.id) = fs (getFilepath e.id) :=
      appendAll_other g id fs batch hpath
    simp only [Option.map_some, Option.some.injEq, forall_eq']
    cases hf : fs (getFilepath e.id) with
    | none =>
      rw [rename_noFile {} id (hfile.trans hf)]
      exact iff_of_true (Or.inl hown) (Or.inl rfl)
    | some f =>
      cases hvh : validHeader f with
      | none =>
        rw [rename_invalid id (hfile.trans hf) hvh]
        exact iff_of_true (Or.inl hown) (Or.inl hvh)
      | some h =>
        have hnone : (some f).bind validHeader ≠ none := by
          rw [Option.bind_some, hvh]
          exact Option.some_ne_none h
        obtain ⟨hnew, hgone, hothers⟩ := rename_files hene id.ne hne (hfile.trans hf) hvh
        have hseq := readAll_renamed hg hf hvh (hh _ f h hf hvh) hnew
        rw [newest_moved_iff hseq (readAll_noFile hgone) fun x hxi hxe => ?_]
        · exact ⟨Or.inr, fun h' => h'.elim (fun hinv => absurd hinv hnone) (fun h'' => h'')⟩
        · apply readAll_congr
          rw [hothers x hxe hxi,
            appendAll_other g id fs batch fun hp => hxi (getFilepath_inj.mp hp)]

/-- From every reachable state, an upload none of whose file operations fails accepts its
    batch; the batch is then the newest of the client's records, or of those of the id it is
    renamed to, exactly when no migration copies other records over it. -/
theorem upload_keeps_batch_iff (cJSONParse : List UInt8 → Option Json) (total gMax : UInt32)
    (hinit : dataStoreInit total = some gMax) (hpos : 0 < gMax) (rs : List Request)
    (io : UploadIo) (clock : Nat → UInt32) (req : UploadRequest) (id : ClientId) (root : Json)
    (happend : io.append = fun _ => {}) (hrename : io.rename = {})
    (ht : uploadTarget cJSONParse io req = some (id, root))
    (hobj : ∀ item ∈ uploadItems root, item.isObject)
    (hn : (uploadItems root).length ≤ gMax.toNat) :
    let s := final (serverStep cJSONParse gMax) bootState rs
    let batch := decodeItems clock 0 (uploadItems root)
    let r := uploadPostHandler cJSONParse gMax io clock s req
    r.2.accepted? = some (uploadItems root).length ∧
      batch.length = (uploadItems root).length ∧
      ((Newest r.1.fs id batch ∨ Newest r.1.fs (clientRegistryResolveId r.1.reg id) batch) ↔
        KeepsBatch s id req.ip batch) := by
  intro s batch r
  obtain ⟨hg, -⟩ := dataStoreInit_room hinit hpos
  obtain ⟨m, hm, hh⟩ := reached cJSONParse hg rs
  have hall : (uploadItems root).map Json.isObject =
      List.replicate (uploadItems root).length true := by
    rw [List.eq_replicate_iff, List.length_map]
    refine ⟨rfl, fun b hb => ?_⟩
    obtain ⟨item, hi, rfl⟩ := List.mem_map.mp hb
    exact hobj item hi
  have hlen : batch.length = (uploadItems root).length := by
    rw [length_decodeItems, List.countP_eq_length]
    exact hobj
  have hstore := storeReadings_eq hg clock id 0 (uploadItems root)
    (fun f h => hh (getFilepath id) f h)
  obtain ⟨hl, hfs, reply, hreply, haccepted, -⟩ := uploadPostHandler_some gMax hm clock ht
  rw [happend, hstore] at hfs haccepted
  rw [hrename] at hfs
  refine ⟨?_, hlen, ?_⟩
  · rw [show r.2 = .upload reply from hreply, Response.accepted?, haccepted, hall,
      List.count_replicate_self]
  · rw [show r.1.fs = _ from hfs, resolveId_eq hl, RegMap.upload, resolve_update id.ne,
      dedupFs_newest_iff hg hh id (hlen ▸ hn), KeepsBatch, migrated_eq hm, resolveId_eq hm]

/-- An upload of one reading under an id, from one address. -/
def uploadFrom (id ts : String) : UploadRequest :=
  ⟨ascii "/api/upload?id=" ++ ascii id,
    ascii "\x7b\"readings\":[\x7b\"ts\":" ++ ascii ts ++ ascii "\x7d]\x7d",
    CStr.strncpy (ascii "10.0.0.7")⟩

/-- An upload of three readings under an id, from the same address. -/
def batchFrom (id : String) : UploadRequest :=
  ⟨ascii "/api/upload?id=" ++ ascii id,
    ascii "\x7b\"readings\":[\x7b\"ts\":1700000000\x7d,\x7b\"ts\":1700000300\x7d," ++
      ascii "\x7b\"ts\":1700000600\x7d]\x7d",
    CStr.strncpy (ascii "10.0.0.7")⟩

theorem batchFrom_target : (uploadTarget Json.parse {} (batchFrom "2")).isSome := by
  decide +kernel

/-- The client and document of the batch under the id 2. -/
def batchTarget : ClientId × Json :=
  (uploadTarget Json.parse {} (batchFrom "2")).get batchFrom_target

theorem batchTarget_eq :
    uploadTarget Json.parse {} (batchFrom "2") = some (batchTarget.1, batchTarget.2) := by
  rw [Prod.mk.eta, batchTarget, Option.some_get]

/-- A server that has stored the batch under the id 1, after an older reading. -/
def storedOnce : List Request :=
  [.upload {} (fun _ => 0) (uploadFrom "1" "1600000000"), .upload {} (fun _ => 0) (batchFrom "1")]

/-- A client whose answer was lost sends its batch again under a new id: the file that the
    migration copies over the new one ends with the same three readings. -/
theorem upload_keeps_batch_moved :
    (decodeItems (fun _ => 0) 0 (uploadItems batchTarget.2)).map DataRecord.timestamp =
        [1700000000, 1700000300, 1700000600] ∧
      migrated (final (serverStep Json.parse 4314) bootState storedOnce) batchTarget.1
        (batchFrom "2").ip = some (CStr.strncpy (ascii "1")) ∧
      let s := final (serverStep Json.parse 4314) bootState storedOnce
      let batch := decodeItems (fun _ => 0) 0 (uploadItems batchTarget.2)
      let r := uploadPostHandler Json.parse 4314 {} (fun _ => 0) s (batchFrom "2")
      (Newest r.1.fs batchTarget.1 batch ∨
        Newest r.1.fs (clientRegistryResolveId r.1.reg batchTarget.1) batch) := by
  have hmigrated : migrated (final (serverStep Json.parse 4314) bootState storedOnce)
      batchTarget.1 (batchFrom "2").ip = some (CStr.strncpy (ascii "1")) := by decide +kernel
  have hnewest : Newest (final (serverStep Json.parse 4314) bootState storedOnce).fs
      (CStr.strncpy (ascii "1")) (decodeItems (fun _ => 0) 0 (uploadItems batchTarget.2)) := by
    decide +kernel
  have hkeeps : KeepsBatch (final (serverStep Json.parse 4314) bootState storedOnce) batchTarget.1
      (batchFrom "2").ip (decodeItems (fun _ => 0) 0 (uploadItems batchTarget.2)) := by
    intro v hv
    cases hmigrated.symm.trans hv
    exact .inr (.inl hnewest)
  refine ⟨by decide +kernel, hmigrated, ?_⟩
  exact (upload_keeps_batch_iff Json.parse 1000000 4314 (by decide +kernel) (by decide) storedOnce
    {} (fun _ => 0) (batchFrom "2") batchTarget.1 batchTarget.2 rfl rfl batchTarget_eq
    (by decide +kernel) (by decide +kernel)).2.2.mpr hkeeps

/-- The reading of the second upload is answered as accepted, and gone. -/
theorem upload_loses_batch :
    let s := final (serverStep Json.parse 4314) bootState
      [.upload {} (fun _ => 0) (uploadFrom "1" "1600000000")]
    let r := uploadPostHandler Json.parse 4314 {} (fun _ => 0) s (uploadFrom "2" "1700000000")
    let batch : List DataRecord := [⟨1700000000, 0, 0, 0, 0, 0, 0⟩]
    let id : Id := CStr.strncpy (ascii "2")
    r.2.accepted? = some 1 ∧
      ¬(Newest r.1.fs id batch ∨ Newest r.1.fs (clientRegistryResolveId r.1.reg id) batch) := by
  decide +kernel

end IndoorLogger
