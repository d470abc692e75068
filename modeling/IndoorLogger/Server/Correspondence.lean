import Mathlib.Algebra.Group.Action.Defs
import Mathlib.Algebra.Order.BigOperators.Group.List
import IndoorLogger.Lib.JsonParse
import IndoorLogger.Server.DataFiles
import IndoorLogger.Server.Membership

/-
  Registry and data files over whole runs with no failing file operation. Every data file
  belongs to a registered client, and so the files fit their partition, exactly as long as no
  upload stores a reading for a client the registry then refuses (`files_correspond_iff`).
-/

namespace IndoorLogger

open RecordFile RingFile Machine

/-! ## Files of exact length -/

/-- A ring file of its header and the slots in use, and no byte more. -/
def Exact (g : UInt32) (f : List UInt8) : Prop :=
  ∃ r : RingBuffer (Option DataRecord) g.toNat, Holds g f r ∧ f.length = 49 + 14 * r.slots.length

def FilesExact (g : UInt32) (fs : Fs) : Prop := ∀ p f, fs p = some f → Exact g f

variable {g : UInt32}

theorem Exact.length_le {f : List UInt8} (h : Exact g f) : f.length ≤ 49 + 14 * g.toNat := by
  obtain ⟨r, -, hlen⟩ := h
  have := r.length_le
  omega

theorem Exact.header {f : List UInt8} (h : Exact g f) :
    ∃ hd, validHeader f = some hd ∧ HeaderOk g hd := by
  obtain ⟨r, hr, -⟩ := h
  exact headerOk_of_holds hr

theorem FilesExact.headersOk {fs : Fs} (h : FilesExact g fs) : HeadersOk g fs := by
  intro p f hd hf hv
  obtain ⟨hd', hv', ho⟩ := (h p f hf).header
  rw [hv] at hv'
  exact Option.some.inj hv' ▸ ho

theorem FilesExact.write {fs : Fs} (h : FilesExact g fs) (p : Path) {f : List UInt8}
    (hf : Exact g f) : FilesExact g (fs.write p f) := by
  intro q f' hq
  by_cases hqp : q = p
  · subst hqp
    rw [Fs.write_self] at hq
    exact Option.some.inj hq ▸ hf
  · rw [Fs.write_ne fs f hqp] at hq
    exact h q f' hq

theorem FilesExact.unlink {fs : Fs} (h : FilesExact g fs) (p : Path) :
    FilesExact g (fs.unlink p) := by
  intro q f hq
  by_cases hqp : q = p
  · subst hqp
    rw [Fs.unlink_self] at hq
    cases hq
  · rw [Fs.unlink_ne fs hqp] at hq
    exact h q f hq

theorem appendRecord_exact (hg : Fits g) {f : List UInt8} {h : ClientFileHeader}
    {r : RingBuffer (Option DataRecord) g.toNat} (rec : DataRecord) (hh : validHeader f = some h)
    (hf : Holds g f r) (hlen : f.length = 49 + 14 * r.slots.length) :
    ∃ f', appendRecord {} f h rec = (f', 0) ∧ Exact g f' := by
  obtain ⟨f', he, hf'⟩ := appendRecord_holds hg rec hh hf
  obtain ⟨h', hv, -, hw, -⟩ := hf.header
  obtain rfl : h = h' := by rw [hh] at hv; exact Option.some.inj hv
  have hnext := r.next_lt
  have hle := r.length_le
  have hfile : f' = fwrite ClientFileHeader.codec
      (fwrite DataRecord.codec f (recordOffset h.writeIdx) rec) 0 h.advance :=
    (congrArg Prod.fst he).symm
  refine ⟨f', he, _, hf', ?_⟩
  rw [RingBuffer.length_push, hfile, length_fwrite, length_fwrite,
    recordOffset_eq hg (by rw [hw]; exact hnext), hw, hlen, slotOffset, DataRecord.size_codec,
    ClientFileHeader.size_codec]
  by_cases hfull : r.slots.length < g.toNat
  · have := r.next_eq hfull
    omega
  · omega

theorem append_exact (hg : Fits g) {fs : Fs} {id : Id} (rec : DataRecord)
    (hf : ∀ f, fs (getFilepath id) = some f → Exact g f) :
    ∃ f', dataStoreAppend g {} fs id rec = (fs.write (getFilepath id) f', 0) ∧ Exact g f' := by
  cases hp : fs (getFilepath id) with
  | none =>
    obtain ⟨f', he, hex⟩ := appendRecord_exact hg rec (validHeader_write (f := []) rfl)
      (newHeader_holds hg [] id) (by rw [length_fwrite]; rfl)
    refine ⟨f', ?_, hex⟩
    simp [dataStoreAppend, appendOpened, hp, he]
  | some f =>
    obtain ⟨r, hr, hlen⟩ := hf f hp
    obtain ⟨h, hh, -⟩ := hr.header
    obtain ⟨f', he, hex⟩ := appendRecord_exact hg rec hh hr hlen
    refine ⟨f', ?_, hex⟩
    simp [dataStoreAppend, appendOpened, hp, hh, he]

theorem appendAll_exact (hg : Fits g) {fs : Fs} (id : Id) (recs : List DataRecord)
    (h : FilesExact g fs) :
    FilesExact g (appendAll g id fs recs) ∧
      (recs ≠ [] → appendAll g id fs recs (getFilepath id) ≠ none) := by
  induction recs generalizing fs with
  | nil => exact ⟨h, fun hne => absurd rfl hne⟩
  | cons rec recs ih =>
    obtain ⟨f', he, hex⟩ := append_exact hg rec fun f hf => h _ f hf
    unfold appendAll
    rw [List.foldl_cons, ← appendAll, he]
    obtain ⟨hall, hexists⟩ := ih (h.write _ hex)
    refine ⟨hall, fun _ => ?_⟩
    cases recs with
    | nil =>
      intro hnone
      change fs.write (getFilepath id) f' (getFilepath id) = none at hnone
      rw [Fs.write_self] at hnone
      cases hnone
    | cons rec' recs => exact hexists (List.cons_ne_nil _ _)

theorem renamedFile_exact {f : List UInt8} {h : ClientFileHeader} (hf : Exact g f)
    (hv : validHeader f = some h) (new : Id) : Exact g (renamedFile f h new) := by
  obtain ⟨r, hr, hlen⟩ := hf
  have henc : (ClientFileHeader.codec.enc { h with clientId := new }).length = 49 :=
    ClientFileHeader.codec.length_enc _
  refine ⟨r, hr.renamed hv new, ?_⟩
  unfold renamedFile
  rw [List.length_append, henc, List.length_take, List.length_drop, wholeRecords]
  omega

/-- A rename moves the file, if there is one. -/
theorem rename_cases {fs : Fs} {old new : Id} (h : FilesExact g fs) (hold : old ≠ CStr.empty)
    (hnew : new ≠ CStr.empty) (hne : old ≠ new) :
    (fs (getFilepath old) = none ∧ (dataStoreRenameClient {} fs old new).1 = fs) ∨
      ∃ f, Exact g f ∧ (dataStoreRenameClient {} fs old new).1 =
        (fs.write (getFilepath new) f).unlink (getFilepath old) := by
  cases hf : fs (getFilepath old) with
  | none => exact Or.inl ⟨rfl, rename_noFile {} new hf⟩
  | some f =>
    obtain ⟨hd, hv, -⟩ := (h _ f hf).header
    exact Or.inr ⟨_, renamedFile_exact (h _ f hf) hv new, rename_eq hold hnew hne hf hv⟩

theorem rename_exact {fs : Fs} {old new : Id} (h : FilesExact g fs) (hold : old ≠ CStr.empty)
    (hnew : new ≠ CStr.empty) (hne : old ≠ new) :
    FilesExact g (dataStoreRenameClient {} fs old new).1 ∧
      ∀ p, (dataStoreRenameClient {} fs old new).1 p ≠ none →
        p ≠ getFilepath old ∧ (fs p ≠ none ∨ p = getFilepath new) := by
  rcases rename_cases h hold hnew hne with ⟨hnone, heq⟩ | ⟨f, hf, heq⟩
  · rw [heq]
    refine ⟨h, fun p hp => ⟨?_, Or.inl hp⟩⟩
    rintro rfl
    exact hp hnone
  · rw [heq]
    refine ⟨(h.write _ hf).unlink _, fun p hp => ?_⟩
    have hpo : p ≠ getFilepath old := by
      rintro rfl
      exact hp (Fs.unlink_self ..)
    rw [Fs.unlink_ne _ hpo] at hp
    refine ⟨hpo, ?_⟩
    by_cases hpn : p = getFilepath new
    · exact Or.inr hpn
    · rw [Fs.write_ne _ _ hpn] at hp
      exact Or.inl hp

/-! ## One request -/

/-- Every data file belongs to a registered client. -/
def FilesBelong (s : ServerState) : Prop :=
  ∀ p, s.fs p ≠ none → ∃ id, (clientRegistryGet s.reg id).isSome ∧ p = getFilepath id

/-- No file operation of the request fails. -/
def NoFileFaults : Request → Prop
  | .upload io _ _ => io.append = (fun _ => {}) ∧ io.rename = {}
  | .clientId io _ _ => io = {}
  | .clientDelete _ unlinkFails _ => unlinkFails = false
  | _ => True

section

variable (cJSONParse : List UInt8 → Option Json)

/-- An upload that stores a reading comes from a registered client, or finds a slot for it:
    one bound to its address, or a free one. -/
def FindsSlot (s : ServerState) : Request → Prop
  | .upload io _ req =>
    ∀ id root, uploadTarget cJSONParse io req = some (id, root) →
      (uploadItems root).any Json.isObject →
      (clientRegistryGet s.reg id).isSome ∨
        ((given (some req.ip.bytes)).bind (dedupSlot s.reg id)).isSome ∨
        s.reg.clientCount < clientRegistryMaxClients
  | _ => True

end

variable {cJSONParse : List UInt8 → Option Json} {s : ServerState} {m : RegMap}

theorem findsSlot_iff (h : s.reg.Lists m) (id : Id) (ip : Option (List UInt8)) :
    ((clientRegistryGet s.reg id).isSome ∨ ((given ip).bind (dedupSlot s.reg id)).isSome ∨
      s.reg.clientCount < clientRegistryMaxClients) ↔ id ∈ m.ids ∨ m.HasSlot id ip := by
  rw [h.isSome_get, RegMap.HasSlot, h.clientCount, clientRegistryMaxClients]
  by_cases hid : id ∈ m.ids
  · simp [hid]
  · rcases dedupSlot_cases h hid ip with ⟨hs, hv⟩ | ⟨i, v, hs, hv, -⟩
    · rw [hs, hv]
      exact Iff.rfl
    · rw [hs, hv]
      simp

theorem filesBelong_iff (h : s.reg.Lists m) :
    FilesBelong s ↔ ∀ p, s.fs p ≠ none → ∃ id ∈ m.ids, p = getFilepath id := by
  simp only [FilesBelong, h.isSome_get]

/-- What an upload leaves: files of clients it keeps, and the file of its own client. -/
theorem uploadFs_exact (hg : Fits g) {fs : Fs} (hex : FilesExact g fs)
    (hbelong : ∀ p, fs p ≠ none → ∃ x ∈ m.ids, p = getFilepath x) (id : ClientId)
    (recs : List DataRecord) (ip : Option (List UInt8)) :
    let fs' := dedupFs {} m (appendAll g id fs recs) id ip
    FilesExact g fs' ∧
      (∀ p, fs' p ≠ none →
        (∃ x ∈ m.ids, p = getFilepath x ∧ m.evicted id ip ≠ some x) ∨
          p = getFilepath id ∧ (recs ≠ [] ∨ (m.victim id ip).isSome)) ∧
      (recs ≠ [] → m.victim id ip = none → fs' (getFilepath id) ≠ none) := by
  intro fs'
  obtain ⟨hall, hexists⟩ := appendAll_exact hg id recs hex
  have hpaths : ∀ p, appendAll g id fs recs p ≠ none →
      (∃ x ∈ m.ids, p = getFilepath x) ∨ p = getFilepath id ∧ recs ≠ [] := by
    intro p hp
    by_cases hpid : p = getFilepath id
    · by_cases hrecs : recs = []
      · subst hrecs
        exact Or.inl (hbelong p hp)
      · exact Or.inr ⟨hpid, hrecs⟩
    · rw [appendAll_other g id fs recs hpid] at hp
      exact Or.inl (hbelong p hp)
  cases hv : m.victim id ip with
  | none =>
    have hfs : fs' = appendAll g id fs recs := by simp only [fs', dedupFs, hv]
    have hev : m.evicted id ip = none := by rw [RegMap.evicted, hv]; rfl
    rw [hfs, hev]
    refine ⟨hall, fun p hp => ?_, fun hne _ => hexists hne⟩
    rcases hpaths p hp with ⟨x, hx, hpx⟩ | ⟨hpid, hrecs⟩
    · exact Or.inl ⟨x, hx, hpx, (Option.some_ne_none x).symm⟩
    · exact Or.inr ⟨hpid, Or.inl hrecs⟩
  | some v =>
    have hfs : fs' = (dataStoreRenameClient {} (appendAll g id fs recs) v.id id).1 := by
      simp only [fs', dedupFs, hv]
    have hev : m.evicted id ip = some v.id := by rw [RegMap.evicted, hv]; rfl
    obtain ⟨-, -, hne⟩ := RegMap.mem_ids_of_victim hv
    obtain ⟨hren, hren'⟩ := rename_exact hall (m.ids_ne v (RegMap.mem_of_victim hv)) id.2 hne
    rw [hfs, hev]
    refine ⟨hren, fun p hp => ?_, fun _ hn => absurd hn (Option.some_ne_none v)⟩
    obtain ⟨hpv, hp | hpid⟩ := hren' p hp
    · rcases hpaths p hp with ⟨x, hx, rfl⟩ | ⟨hpid, hrecs⟩
      · exact Or.inl ⟨x, hx, rfl, fun h => hpv (congrArg getFilepath (Option.some.inj h)).symm⟩
      · exact Or.inr ⟨hpid, Or.inl hrecs⟩
    · exact Or.inr ⟨hpid, Or.inr rfl⟩

/-- The condition on a request, on the map. -/
def RegMap.FindsSlot (m : RegMap) (cJSONParse : List UInt8 → Option Json) : Request → Prop
  | .upload io _ req =>
    ∀ id root, uploadTarget cJSONParse io req = some (id, root) →
      (uploadItems root).any Json.isObject →
      id.1 ∈ m.ids ∨ m.HasSlot id (some req.ip.bytes)
  | _ => True

section

variable {fs : Fs} (cJSONParse : List UInt8 → Option Json) (hex : FilesExact g fs)
  (hbelong : ∀ p, fs p ≠ none → ∃ x ∈ m.ids, p = getFilepath x)

/-- A client that a request does not drop stays registered. -/
theorem mem_request_of_kept {r : Request} {x : Id} (hx : x ∈ m.ids)
    (hd : m.drops cJSONParse r ≠ some x) : x ∈ (m.request cJSONParse r).ids :=
  RegMap.mem_request_ids.mpr (Or.inl ⟨hx, hd⟩)

include hbelong in
theorem belong_of_drops_none {r : Request} (hd : m.drops cJSONParse r = none) (p : Path)
    (hp : fs p ≠ none) : ∃ x ∈ (m.request cJSONParse r).ids, p = getFilepath x := by
  obtain ⟨x, hx, rfl⟩ := hbelong p hp
  have hne : m.drops cJSONParse r ≠ some x := by rw [hd]; exact (Option.some_ne_none x).symm
  exact ⟨x, mem_request_of_kept cJSONParse hx hne, rfl⟩

include hex hbelong

/-- An upload keeps all files with registered clients exactly when it finds a slot. -/
theorem upload_belong_iff (hg : Fits g) {io : UploadIo} (clock : Nat → UInt32)
    (req : UploadRequest) (happend : io.append = fun _ => {}) (hrename : io.rename = {}) :
    FilesExact g (m.requestFs cJSONParse g fs (.upload io clock req)) ∧
      ((∀ p, m.requestFs cJSONParse g fs (.upload io clock req) p ≠ none →
          ∃ x ∈ (m.request cJSONParse (.upload io clock req)).ids, p = getFilepath x) ↔
        m.FindsSlot cJSONParse (.upload io clock req)) := by
  cases ht : uploadTarget cJSONParse io req with
  | none =>
    have hfs : m.requestFs cJSONParse g fs (.upload io clock req) = fs := by
      simp only [RegMap.requestFs, ht]
    have hd : m.drops cJSONParse (.upload io clock req) = none := by
      rw [RegMap.drops, ht]
      rfl
    rw [hfs]
    refine ⟨hex, iff_of_true (belong_of_drops_none cJSONParse hbelong hd) ?_⟩
    intro id root hidr
    rw [ht] at hidr
    cases hidr
  | some t =>
    obtain ⟨id, root⟩ := t
    have hfs : m.requestFs cJSONParse g fs (.upload io clock req) =
        dedupFs {} m (appendAll g id fs (decodeItems clock 0 (uploadItems root))) id
          (some req.ip.bytes) := by
      have hhead : FileHeaderOk g (fs (getFilepath id)) := fun f h => hex.headersOk _ f h
      simp only [RegMap.requestFs, ht, happend, hrename,
        storeReadings_eq hg clock id 0 (uploadItems root) hhead]
    have hd : m.drops cJSONParse (.upload io clock req) = m.evicted id (some req.ip.bytes) := by
      rw [RegMap.drops, ht]
      rfl
    have ha : m.adds cJSONParse (.upload io clock req) =
        m.newcomer id (some req.ip.bytes) := by
      rw [RegMap.adds, ht]
      rfl
    rw [hfs]
    obtain ⟨hex', hpaths, hown⟩ := uploadFs_exact hg hex hbelong id
      (decodeItems clock 0 (uploadItems root)) (some req.ip.bytes)
    have hmem : id.1 ∈ (m.request cJSONParse (.upload io clock req)).ids ↔
        id.1 ∈ m.ids ∨ m.HasSlot id (some req.ip.bytes) := by
      rw [RegMap.mem_request_ids, hd, ha, RegMap.newcomer]
      by_cases hid : id.1 ∈ m.ids
      · simp [hid, RegMap.evicted, RegMap.victim_of_mem hid]
      · by_cases hslot : m.HasSlot id (some req.ip.bytes) <;> simp [hid, hslot]
    refine ⟨hex', ?_, ?_⟩
    · intro h id' root' hidr hany
      rw [ht] at hidr
      obtain ⟨rfl, rfl⟩ := Prod.mk.inj (Option.some.inj hidr)
      cases hv : m.victim id (some req.ip.bytes) with
      | some v => exact Or.inr (Or.inl (by rw [hv]; rfl))
      | none =>
        obtain ⟨x, hx, hpx⟩ := h _ (hown (decodeItems_ne_nil.mpr hany) hv)
        rw [← getFilepath_inj.mp hpx] at hx
        exact hmem.mp hx
    · intro hslot p hp
      rcases hpaths p hp with ⟨x, hx, rfl, hne⟩ | ⟨rfl, hrecs | hv⟩
      · exact ⟨x, mem_request_of_kept cJSONParse hx (hd ▸ hne), rfl⟩
      · exact ⟨id, hmem.mpr (hslot id root ht (decodeItems_ne_nil.mp hrecs)), rfl⟩
      · exact ⟨id, hmem.mpr (Or.inr (Or.inl hv)), rfl⟩

/-- A rename moves the file with its client. -/
theorem clientId_belong_iff (save : SaveIo) (uri : List UInt8) :
    FilesExact g (m.requestFs cJSONParse g fs (.clientId {} save uri)) ∧
      ((∀ p, m.requestFs cJSONParse g fs (.clientId {} save uri) p ≠ none →
          ∃ x ∈ (m.request cJSONParse (.clientId {} save uri)).ids, p = getFilepath x) ↔
        m.FindsSlot cJSONParse (.clientId {} save uri)) := by
  by_cases hacc : m.Accepts uri
  · have hd : m.drops cJSONParse (.clientId {} save uri) = some (m.renameSource uri) :=
      if_pos hacc
    have ha : m.adds cJSONParse (.clientId {} save uri) = some (queryParam uri "new_id" 32) :=
      if_pos hacc
    obtain ⟨-, -, hnew, hne, hold, -⟩ := id hacc
    obtain ⟨e, he, heid⟩ := List.mem_map.mp hold
    obtain ⟨hex', hpaths⟩ := rename_exact hex (heid ▸ m.ids_ne e he) hnew hne
    have hfs : m.requestFs cJSONParse g fs (.clientId {} save uri) =
        (dataStoreRenameClient {} fs (m.renameSource uri) (queryParam uri "new_id" 32)).1 :=
      if_pos hacc
    rw [hfs]
    refine ⟨hex', iff_of_true (fun p hp => ?_) trivial⟩
    obtain ⟨hpo, hp | rfl⟩ := hpaths p hp
    · obtain ⟨x, hx, rfl⟩ := hbelong p hp
      refine ⟨x, mem_request_of_kept cJSONParse hx fun h => hpo ?_, rfl⟩
      rw [hd] at h
      rw [Option.some.inj h]
    · exact ⟨_, RegMap.mem_request_ids.mpr (Or.inr ha), rfl⟩
  · have hfs : m.requestFs cJSONParse g fs (.clientId {} save uri) = fs := if_neg hacc
    rw [hfs]
    exact ⟨hex, iff_of_true (belong_of_drops_none cJSONParse hbelong (if_neg hacc)) trivial⟩

/-- A deletion removes the file with its client. -/
theorem clientDelete_belong_iff (io : SaveIo) (uri : List UInt8) :
    FilesExact g (m.requestFs cJSONParse g fs (.clientDelete io false uri)) ∧
      ((∀ p, m.requestFs cJSONParse g fs (.clientDelete io false uri) p ≠ none →
          ∃ x ∈ (m.request cJSONParse (.clientDelete io false uri)).ids, p = getFilepath x) ↔
        m.FindsSlot cJSONParse (.clientDelete io false uri)) := by
  rw [RegMap.requestFs]
  by_cases hmem : (queryParam uri "id" 32 : Id) ∈ m.ids
  · rw [if_pos hmem, dataStoreDeleteClient, if_neg Bool.false_ne_true]
    have hd : m.drops cJSONParse (.clientDelete io false uri) =
        some (queryParam uri "id" 32) := if_pos hmem
    cases hf : fs (getFilepath (queryParam uri "id" 32)) with
    | none =>
      refine ⟨hex, iff_of_true (fun p hp => ?_) trivial⟩
      obtain ⟨x, hx, rfl⟩ := hbelong p hp
      refine ⟨x, mem_request_of_kept cJSONParse hx fun h => hp ?_, rfl⟩
      rw [hd] at h
      rw [← Option.some.inj h]
      exact hf
    | some f =>
      refine ⟨hex.unlink _, iff_of_true (fun p hp => ?_) trivial⟩
      have hpo : p ≠ getFilepath (queryParam uri "id" 32) := by
        rintro rfl
        exact hp (Fs.unlink_self ..)
      change fs.unlink _ p ≠ none at hp
      rw [Fs.unlink_ne _ hpo] at hp
      obtain ⟨x, hx, rfl⟩ := hbelong p hp
      refine ⟨x, mem_request_of_kept cJSONParse hx fun h => hpo ?_, rfl⟩
      rw [hd] at h
      rw [Option.some.inj h]
  · rw [if_neg hmem]
    exact ⟨hex, iff_of_true (belong_of_drops_none cJSONParse hbelong (if_neg hmem)) trivial⟩

/-- A request keeps all files with registered clients exactly when it finds a slot. -/
theorem requestFs_belong_iff (hg : Fits g) {r : Request} (hok : NoFileFaults r) :
    FilesExact g (m.requestFs cJSONParse g fs r) ∧
      ((∀ p, m.requestFs cJSONParse g fs r p ≠ none →
          ∃ x ∈ (m.request cJSONParse r).ids, p = getFilepath x) ↔
        m.FindsSlot cJSONParse r) := by
  have hunchanged : m.drops cJSONParse r = none → ∀ p, fs p ≠ none →
      ∃ x ∈ (m.request cJSONParse r).ids, p = getFilepath x :=
    belong_of_drops_none cJSONParse hbelong
  cases r with
  | upload io clock req => exact upload_belong_iff cJSONParse hex hbelong hg clock req hok.1 hok.2
  | clientId io save uri =>
    obtain rfl : io = {} := hok
    exact clientId_belong_iff cJSONParse hex hbelong save uri
  | clientDelete io unlinkFails uri =>
    obtain rfl : unlinkFails = false := hok
    exact clientDelete_belong_iff cJSONParse hex hbelong io uri
  | clientName io now uri => exact ⟨hex, iff_of_true (hunchanged rfl) trivial⟩
  | basicModePost io now uri => exact ⟨hex, iff_of_true (hunchanged rfl) trivial⟩
  | syncIntervalPost uri => exact ⟨hex, iff_of_true (hunchanged rfl) trivial⟩
  | timezonePost uri => exact ⟨hex, iff_of_true (hunchanged rfl) trivial⟩
  | checkStale now timeoutSec => exact ⟨hex, iff_of_true (hunchanged rfl) trivial⟩

end

/-! ## The partition -/

/-- The files belong to registered clients; so there are at most 16, and they leave the
    reserve of the partition free. -/
structure FilesCorrespond (total : UInt32) (s : ServerState) : Prop where
  belong : FilesBelong s
  count : ∀ ps : List Path, ps.Nodup → (∀ p ∈ ps, s.fs p ≠ none) →
    ps.length ≤ dataStoreMaxClients
  room : ∀ ps : List Path, ps.Nodup → (∀ p ∈ ps, s.fs p ≠ none) →
    spiffsReserveBytes + (ps.map fun p => ((s.fs p).getD []).length).sum ≤ total.toNat

theorem filesCorrespond_iff {total : UInt32} (hinit : dataStoreInit total = some g)
    (hpos : 0 < g) (h : s.reg.Lists m) (hex : FilesExact g s.fs) :
    FilesCorrespond total s ↔ ∀ p, s.fs p ≠ none → ∃ x ∈ m.ids, p = getFilepath x := by
  constructor
  · exact fun hc => (filesBelong_iff h).mp hc.belong
  · intro hbelong
    obtain ⟨-, hroom⟩ := dataStoreInit_room hinit hpos
    have hcount : ∀ ps : List Path, ps.Nodup → (∀ p ∈ ps, s.fs p ≠ none) → ps.length ≤ 16 := by
      intro ps hnd hps
      have hsub : ps ⊆ m.ids.map getFilepath := by
        intro p hp
        obtain ⟨x, hx, rfl⟩ := hbelong p (hps p hp)
        exact List.mem_map_of_mem hx
      have hle := (List.subperm_of_subset hnd hsub).length_le
      rw [List.length_map, RegMap.ids, List.length_map] at hle
      exact hle.trans m.entries_le
    refine ⟨(filesBelong_iff h).mpr hbelong, hcount, fun ps hnd hps => ?_⟩
    have hsum := List.sum_le_card_nsmul (ps.map fun p => ((s.fs p).getD []).length)
      (49 + 14 * g.toNat) (by
        intro x hx
        obtain ⟨p, hp, rfl⟩ := List.mem_map.mp hx
        obtain ⟨f, hf⟩ := Option.ne_none_iff_exists'.mp (hps p hp)
        rw [hf]
        exact (hex p f hf).length_le)
    rw [List.length_map, smul_eq_mul] at hsum
    have hmul := Nat.mul_le_mul_right (49 + 14 * g.toNat) (hcount ps hnd hps)
    omega

/-! ## Runs -/

/-- Over every run from the first boot on whose file operations all succeed. -/
theorem files_correspond_iff (cJSONParse : List UInt8 → Option Json) (total gMax : UInt32)
    (hinit : dataStoreInit total = some gMax) (hpos : 0 < gMax) (rs : List Request)
    (hok : ∀ r ∈ rs, NoFileFaults r) :
    Always (serverStep cJSONParse gMax) (FilesCorrespond total) bootState rs ↔
      Meets (serverStep cJSONParse gMax) (FindsSlot cJSONParse) bootState rs := by
  obtain ⟨hg, -⟩ := dataStoreInit_room hinit hpos
  have hblank : FilesExact gMax bootState.fs :=
    fun p f hf => absurd hf ((Option.some_ne_none f).symm)
  have hstart : FilesCorrespond total bootState :=
    (filesCorrespond_iff hinit hpos lists_init hblank).mpr fun p hp => absurd rfl hp
  have hleaves : ∀ {s m}, s.reg.Lists m → ∀ r, Leaves cJSONParse gMax m s.fs
      (serverStep cJSONParse gMax s r).1 r := fun hm r => serverStep_leaves cJSONParse gMax hm r
  have hcond : ∀ {s : ServerState} {m}, s.reg.Lists m → ∀ r,
      FindsSlot cJSONParse s r ↔ m.FindsSlot cJSONParse r := by
    intro s m hm r
    cases r with
    | upload io clock req =>
      simp only [FindsSlot, RegMap.FindsSlot, findsSlot_iff hm]
    | _ => exact Iff.rfl
  refine always_iff_meets (J := fun s => ∃ m, s.reg.Lists m ∧ FilesExact gMax s.fs)
    (G := fun _ r => NoFileFaults r) ?_ ?_ ⟨_, lists_init, hblank⟩ hstart
    (meets_of_forall fun r hr _ => hok r hr)
  · rintro s r ⟨m, hm, hex⟩ hs hr -
    have hbelong := (filesCorrespond_iff hinit hpos hm hex).mp hs
    obtain ⟨hl, hfs⟩ := hleaves hm r
    exact ⟨_, hl, hfs ▸ (requestFs_belong_iff cJSONParse hex hbelong hg hr).1⟩
  · rintro s r ⟨m, hm, hex⟩ hs hr
    have hbelong := (filesCorrespond_iff hinit hpos hm hex).mp hs
    obtain ⟨hl, hfs⟩ := hleaves hm r
    obtain ⟨hex', hiff⟩ := requestFs_belong_iff cJSONParse hex hbelong hg hr
    rw [filesCorrespond_iff hinit hpos hl (hfs ▸ hex'), hfs, hiff, hcond hm]

/-- An upload of one reading under an id, from an address. -/
def readingFrom (id ip : String) : Request :=
  .upload {} (fun _ => 0) ⟨ascii "/api/upload?id=" ++ ascii id,
    ascii "\x7b\"readings\":[\x7b\x7d]\x7d", CStr.strncpy (ascii ip)⟩

/-- A client is renamed, comes back under a third id and is deleted, beside another one. -/
def movedAndDeleted : List Request :=
  [readingFrom "7" "10.0.0.7", .clientId {} {} (ascii "/client/id?id=7&new_id=8"),
    readingFrom "3" "10.0.0.3", readingFrom "9" "10.0.0.7",
    .clientDelete {} false (ascii "/client?id=9")]

theorem files_correspond_moved :
    Always (serverStep Json.parse 4314) (FilesCorrespond 1000000) bootState movedAndDeleted ∧
      ["7", "8", "9", "3"].map (fun id => ((final (serverStep Json.parse 4314) bootState
        movedAndDeleted).fs (getFilepath (CStr.strncpy (ascii id)))).isSome) =
          [false, false, false, true] := by
  have hok : ∀ r ∈ movedAndDeleted, NoFileFaults r := by
    simp [movedAndDeleted, readingFrom, NoFileFaults]
  refine ⟨(files_correspond_iff Json.parse 1000000 4314 (by decide +kernel) (by decide)
    movedAndDeleted hok).mpr ?_, by decide +kernel⟩
  exact ⟨fun _ _ _ _ => .inr (.inr (by decide +kernel)), trivial,
    fun _ _ _ _ => .inr (.inr (by decide +kernel)),
    fun _ _ _ _ => .inr (.inr (by decide +kernel)), trivial, trivial⟩

/-- Sixteen clients known by name, and an upload by one more: its reading is stored, then the
    registry refuses it. -/
def seventeenClients : List Request :=
  ((List.range 16).map fun i =>
    .clientName {} 0 (ascii "/client/name?name=a&id=" ++ Decimal.formatNat i)) ++
    [readingFrom "16" "10.0.0.9"]

theorem seventeenth_client_leaves_file :
    dataStoreInit 1000000 = some 4314 ∧ (∀ r ∈ seventeenClients, NoFileFaults r) ∧
      ¬Always (serverStep Json.parse 4314) (FilesCorrespond 1000000) bootState
        seventeenClients := by
  refine ⟨by decide +kernel, fun r hr => ?_, fun h => ?_⟩
  · rcases List.mem_append.mp hr with hr | hr
    · obtain ⟨i, -, rfl⟩ := List.mem_map.mp hr
      trivial
    · obtain rfl := List.mem_singleton.mp hr
      exact ⟨rfl, rfl⟩
  · obtain ⟨id, hid, hp⟩ := h.final.belong (getFilepath (CStr.strncpy (ascii "16")))
      (by rw [← Option.isSome_iff_ne_none]; decide +kernel)
    rw [← getFilepath_inj.mp hp] at hid
    exact absurd hid (by decide +kernel)

end IndoorLogger
