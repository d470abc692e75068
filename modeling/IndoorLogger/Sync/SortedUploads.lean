import IndoorLogger.Server.Upload
import IndoorLogger.Sync.ReadingRoundTrip
import Mathlib.Data.List.Chain

/-
  The times under which uploaded readings are stored. The client stamps a reading with the true
  time or, before its clock is set, with its uptime; the server takes over the first and
  replaces the second by its own time. The two kinds interleave in a client's file as they
  were measured, and `uploads_sorted_iff` says when the stored times are in order.
-/

namespace IndoorLogger

open Machine

/-! ## Readings as sent -/

/-- A reading's true time and the `ts` the client sends: that time, or an uptime. -/
structure Measurement where
  time : UInt32
  ts : UInt32
  honest : ts = time ∨ ts ≤ earliestClientTs

/-- The server takes the `ts` over. -/
def Measurement.dated (m : Measurement) : Bool := m.ts > earliestClientTs

/-- A measurement and the server time at which it is stored. -/
structure Storing where
  reading : Measurement
  now : UInt32

/-- The time it is stored under. -/
def Storing.stored (e : Storing) : UInt32 := if e.reading.dated then e.reading.ts else e.now

/-- One upload: the request as it meets the server, and the readings in it. -/
structure SentUpload where
  io : UploadIo
  clock : Nat → UInt32
  req : UploadRequest
  readings : List Measurement

def SentUpload.request (u : SentUpload) : Request := .upload u.io u.clock u.req

/-- The storings of readings from item `i` of the array on. -/
def storings (clock : Nat → UInt32) (i : Nat) (readings : List Measurement) : List Storing :=
  (readings.zipIdx i).map fun p => ⟨p.1, clock p.2⟩

def SentUpload.events (u : SentUpload) : List Storing := storings u.clock 0 u.readings

/-- The item of the array that sends a measurement. -/
def SendsTs (item : Json) (m : Measurement) : Prop :=
  item.isObject = true ∧
    (item.getObjectItem "ts").bind Json.number? = some (((m.ts.toNat : ℤ)) : ℚ)

instance (item : Json) (m : Measurement) : Decidable (SendsTs item m) :=
  inferInstanceAs (Decidable (_ ∧ _))

/-- An upload of client `id` that brings exactly these readings, or that is refused and brings
    none. Appends do not fail. -/
def SentUpload.From (cJSONParse : List UInt8 → Option Json) (id : ClientId) (u : SentUpload) :
    Prop :=
  u.io.append = (fun _ => {}) ∧
    match uploadTarget cJSONParse u.io u.req with
    | none => u.readings = []
    | some (id', root) => id' = id ∧ List.Forall₂ SendsTs (uploadItems root) u.readings

/-- The order of true time: readings are sent in the order of their measurement, the server's
    clock does not go back, and what is stored has been measured. -/
structure Timely (es : List Storing) : Prop where
  measured : es.Pairwise fun a b => a.reading.time.toNat ≤ b.reading.time.toNat
  clock : es.Pairwise fun a b => a.now.toNat ≤ b.now.toNat
  past : ∀ e ∈ es, e.reading.time.toNat ≤ e.now.toNat

/-- No dated reading follows an undated one that was stored after it had been measured. -/
def NoneOvertaken (es : List Storing) : Prop :=
  es.IsChain fun a b => a.reading.dated = false → b.reading.dated = true →
    a.now.toNat ≤ b.reading.time.toNat

/-! ## Stored times -/

theorem Measurement.ts_of_dated {m : Measurement} (h : m.dated = true) : m.ts = m.time := by
  rcases m.honest with heq | hle
  · exact heq
  · have hgt : m.ts > earliestClientTs := of_decide_eq_true h
    rw [gt_iff_lt, UInt32.lt_iff_toNat_lt] at hgt
    rw [UInt32.le_iff_toNat_le] at hle
    omega

theorem decodeReading_timestamp {item : Json} {m : Measurement} (h : SendsTs item m)
    (now : UInt32) : (decodeReading now item).timestamp = Storing.stored ⟨m, now⟩ := by
  obtain ⟨-, hts⟩ := h
  have hlt := m.ts.toNat_lt
  have hvalue : Binary64.truncate (valueDouble (m.ts.toNat : ℤ)) = (m.ts.toNat : ℤ) :=
    truncate_valueDouble (by rw [abs_lt]; omega)
  have hback : UInt32.ofInt (m.ts.toNat : ℤ) = m.ts := by
    apply UInt32.toNat_inj.mp
    rw [UInt32.ofInt, UInt32.toNat_ofNat']
    omega
  unfold decodeReading
  rw [hts]
  simp only [Option.map_some, hvalue, hback]
  rw [Storing.stored, Measurement.dated]
  by_cases hdated : m.ts > earliestClientTs
  · rw [if_pos hdated, decide_eq_true hdated, if_pos rfl]
  · rw [if_neg hdated, decide_eq_false hdated, if_neg Bool.false_ne_true]

theorem decodeItems_timestamps {items : List Json} {readings : List Measurement}
    (h : List.Forall₂ SendsTs items readings) (clock : Nat → UInt32) (i : Nat) :
    (decodeItems clock i items).map DataRecord.timestamp =
      (storings clock i readings).map Storing.stored := by
  induction h generalizing i with
  | nil => rfl
  | cons hs _ ih =>
    unfold decodeItems
    rw [if_pos hs.1, List.map_cons, decodeReading_timestamp hs, ih (i + 1)]
    rfl

/-! ## One upload -/

variable {cJSONParse : List UInt8 → Option Json} {g : UInt32} {id : ClientId}

theorem HoldsNewest.fileHeaderOk {fs : Fs} {own : List DataRecord}
    (h : HoldsNewest g fs id own) : FileHeaderOk g (fs (getFilepath id)) := by
  intro f hd hf hv
  obtain ⟨hd', hv', hm, hc, hw, he⟩ := header_of_holdsNewest h hf
  obtain rfl := Option.some.inj (hv.symm.trans hv')
  exact ⟨hm, hw, hc ▸ Nat.min_le_right _ _, he⟩

theorem appendAll_holdsNewest (hg : Fits g) {fs : Fs} {own : List DataRecord}
    (h : HoldsNewest g fs id own) (recs : List DataRecord) :
    HoldsNewest g (appendAll g id fs recs) id (own ++ recs) := by
  induction recs generalizing fs own with
  | nil => rwa [List.append_nil]
  | cons rec recs ih =>
    have := ih (append_holdsNewest hg rec h)
    rwa [List.append_assoc] at this

/-- An address that is bound to no other client stays so. -/
theorem evicted_upload {m : RegMap} {ip : CStr 16} (clock : Nat → UInt32) (root : Json)
    (h : m.evicted id (some ip.bytes) = none) {ip' : CStr 16}
    (h' : m.evicted id (some ip'.bytes) = none) :
    (m.upload clock id ip root).evicted id (some ip'.bytes) = none := by
  have hvictim : m.victim id (some ip.bytes) = none := Option.map_eq_none_iff.mp h
  unfold RegMap.upload
  by_cases hin : id.1 ∈ m.ids ∨ m.HasSlot id (some ip.bytes)
  · have hmem : id.1 ∈ (m.upload clock id ip root).ids := by
      refine RegMap.mem_update_ids id.ne |>.mpr ?_
      by_cases hid : id.1 ∈ m.ids
      · exact Or.inl ⟨hid, by rw [h]; exact fun hc => nomatch hc⟩
      · exact Or.inr (if_pos ⟨hid, hin.resolve_left hid⟩)
    exact Option.map_eq_none_iff.mpr (RegMap.victim_of_mem hmem _)
  · -- the client is new and the table full: nothing is entered
    rw [not_or] at hin
    have hfull : ¬m.entries.length < 16 := fun hlt => hin.2 (Or.inr hlt)
    dsimp only
    rw [RegMap.update, RegMap.dedup_of_victim_none hvictim, RegMap.enroll, dif_neg hin.1,
      dif_neg hfull]
    exact h'

/-- The client's storage as a run of its uploads finds it: it holds the records `own`, and no
    address of a later upload is bound to another client. -/
structure OwnFile (g : UInt32) (id : ClientId) (us : List SentUpload) (own : List DataRecord)
    (m : RegMap) (s : ServerState) : Prop where
  lists : s.reg.Lists m
  holds : HoldsNewest g s.fs id own
  unbound : ∀ u ∈ us, m.evicted id (some u.req.ip.bytes) = none

/-- An upload appends its readings, each under its stored time. -/
theorem upload_ownFile (hg : Fits g) {u : SentUpload} {us : List SentUpload}
    {own : List DataRecord} {m : RegMap} {s : ServerState} (h : OwnFile g id (u :: us) own m s)
    (hu : u.From cJSONParse id) :
    ∃ recs m', OwnFile g id us (own ++ recs) m' (serverStep cJSONParse g s u.request).1 ∧
      recs.map DataRecord.timestamp = u.events.map Storing.stored := by
  obtain ⟨happend, hbody⟩ := hu
  have hunbound := h.unbound u List.mem_cons_self
  obtain ⟨hlists, hfs⟩ := serverStep_leaves cJSONParse g h.lists u.request
  unfold SentUpload.request at hlists hfs
  rw [RegMap.request] at hlists
  rw [RegMap.requestFs] at hfs
  cases ht : uploadTarget cJSONParse u.io u.req with
  | none =>
    rw [ht] at hbody hlists hfs
    refine ⟨[], m, ⟨hlists, ?_, fun v hv => h.unbound v (List.mem_cons_of_mem _ hv)⟩, ?_⟩
    · rw [List.append_nil]
      exact Eq.mpr (congrArg (fun fs => HoldsNewest g fs id own) hfs) h.holds
    · unfold SentUpload.events
      rw [show u.readings = [] from hbody]
      rfl
  | some t =>
    obtain ⟨id', root⟩ := t
    rw [ht] at hbody hlists hfs
    obtain ⟨rfl, hitems⟩ := hbody
    dsimp only at hlists hfs
    rw [happend, storeReadings_eq hg u.clock id' 0 _ h.holds.fileHeaderOk] at hfs
    have hvictim : m.victim id' (some u.req.ip.bytes) = none :=
      Option.map_eq_none_iff.mp hunbound
    rw [dedupFs, hvictim] at hfs
    refine ⟨decodeItems u.clock 0 (uploadItems root), _, ⟨hlists, ?_, fun v hv => ?_⟩, ?_⟩
    · exact Eq.mpr (congrArg (fun fs => HoldsNewest g fs id' _) hfs)
        (appendAll_holdsNewest hg h.holds _)
    · exact evicted_upload u.clock root hunbound (h.unbound v (List.mem_cons_of_mem _ hv))
    · exact decodeItems_timestamps hitems u.clock 0

/-- After a run of uploads the file holds all their readings. -/
theorem uploads_ownFile (hg : Fits g) {us : List SentUpload} {own : List DataRecord} {m : RegMap}
    {s : ServerState} (h : OwnFile g id us own m s) (hus : ∀ u ∈ us, u.From cJSONParse id) :
    ∃ recs, HoldsNewest g (final (serverStep cJSONParse g) s (us.map SentUpload.request)).fs id
        (own ++ recs) ∧
      recs.map DataRecord.timestamp = (us.flatMap SentUpload.events).map Storing.stored := by
  induction us generalizing s m own with
  | nil => exact ⟨[], by rw [List.append_nil]; exact h.holds, rfl⟩
  | cons u us ih =>
    obtain ⟨recs, m', hnext, hrecs⟩ := upload_ownFile hg h (hus u List.mem_cons_self)
    obtain ⟨recs', hholds, hrecs'⟩ := ih hnext fun v hv => hus v (List.mem_cons_of_mem _ hv)
    refine ⟨recs ++ recs', ?_, ?_⟩
    · rw [← List.append_assoc]
      exact hholds
    · rw [List.map_append, hrecs, hrecs', List.flatMap_cons, List.map_append]

/-! ## Order -/

theorem isChain_congr {α : Type} {R S T : α → α → Prop} (h : ∀ a b, T a b → (R a b ↔ S a b))
    {l : List α} (hl : l.IsChain T) : l.IsChain R ↔ l.IsChain S := by
  induction l with
  | nil => exact ⟨fun _ => .nil, fun _ => .nil⟩
  | cons a l ih =>
    cases l with
    | nil => exact ⟨fun _ => .singleton a, fun _ => .singleton a⟩
    | cons b l =>
      rw [List.isChain_cons_cons] at hl
      rw [List.isChain_cons_cons, List.isChain_cons_cons, ih hl.2, h a b hl.1]

/-- Of two readings in a row, only an undated one before a dated one can be out of order. -/
theorem stored_le_iff {a b : Storing} (hmeasured : a.reading.time.toNat ≤ b.reading.time.toNat)
    (hclock : a.now.toNat ≤ b.now.toNat) (hpast : b.reading.time.toNat ≤ b.now.toNat) :
    a.stored.toNat ≤ b.stored.toNat ↔
      (a.reading.dated = false → b.reading.dated = true →
        a.now.toNat ≤ b.reading.time.toNat) := by
  unfold Storing.stored
  cases ha : a.reading.dated with
  | true =>
    rw [if_pos rfl, Measurement.ts_of_dated ha]
    refine iff_of_true ?_ fun hc => nomatch hc
    cases hb : b.reading.dated with
    | true => rwa [if_pos rfl, Measurement.ts_of_dated hb]
    | false => rw [if_neg Bool.false_ne_true]; omega
  | false =>
    rw [if_neg Bool.false_ne_true]
    cases hb : b.reading.dated with
    | true =>
      rw [if_pos rfl, Measurement.ts_of_dated hb]
      exact ⟨fun hle _ _ => hle, fun hle => hle rfl rfl⟩
    | false =>
      rw [if_neg Bool.false_ne_true]
      exact iff_of_true hclock fun _ hc => nomatch hc

/-- Stored times are in order exactly when nothing is overtaken. -/
theorem sorted_iff_noneOvertaken {es : List Storing} (h : Timely es) :
    (es.map Storing.stored).Pairwise (fun a b => a.toNat ≤ b.toNat) ↔ NoneOvertaken es := by
  have hT : es.Pairwise fun a b => a.reading.time.toNat ≤ b.reading.time.toNat ∧
      a.now.toNat ≤ b.now.toNat ∧ b.reading.time.toNat ≤ b.now.toNat := by
    have hboth := h.measured.and h.clock
    refine hboth.imp_of_mem fun _ hb hab => ⟨hab.1, hab.2, h.past _ hb⟩
  have htrans : ∀ a b c : UInt32, a.toNat ≤ b.toNat → b.toNat ≤ c.toNat → a.toNat ≤ c.toNat :=
    fun _ _ _ => Nat.le_trans
  have : Trans (fun a b : UInt32 => a.toNat ≤ b.toNat) (fun a b : UInt32 => a.toNat ≤ b.toNat)
      (fun a b : UInt32 => a.toNat ≤ b.toNat) := ⟨fun hab hbc => htrans _ _ _ hab hbc⟩
  rw [← List.isChain_iff_pairwise, List.isChain_map]
  exact isChain_congr (fun a b hab => stored_le_iff hab.1 hab.2.1 hab.2.2) hT.isChain

theorem Timely.rtake {es : List Storing} (h : Timely es) (n : Nat) : Timely (es.rtake n) where
  measured := h.measured.sublist (List.drop_sublist _ _)
  clock := h.clock.sublist (List.drop_sublist _ _)
  past e he := h.past e (List.mem_of_mem_drop he)

theorem map_rtake {α β : Type} (f : α → β) (l : List α) (n : Nat) :
    (l.rtake n).map f = (l.map f).rtake n := by
  rw [List.rtake, List.rtake, List.map_drop, List.length_map]

/-- **Order of uploaded readings.** A client that has no file yet and whose address is bound to
    no other uploads its readings, dated or not, in true time. All range reads return its
    records in order of time exactly when, among the readings the ring still holds, no dated
    one directly follows an undated one stored after it was measured. -/
theorem uploads_sorted_iff (cJSONParse : List UInt8 → Option Json) (hg : Fits g) (id : ClientId)
    {s : ServerState} {m : RegMap} (hlists : s.reg.Lists m)
    (hfile : s.fs (getFilepath id) = none) (us : List SentUpload)
    (hfrom : ∀ u ∈ us, u.From cJSONParse id) (hbound : ∀ u ∈ us, migrated s id u.req.ip = none)
    (htimely : Timely (us.flatMap SentUpload.events)) :
    let s' := final (serverStep cJSONParse g) s (us.map SentUpload.request)
    (∀ offset limit capacity,
      (dataStoreReadRange s'.fs id offset limit capacity).Pairwise
        fun a b => a.timestamp.toNat ≤ b.timestamp.toNat) ↔
      NoneOvertaken ((us.flatMap SentUpload.events).rtake g.toNat) := by
  intro s'
  have hown : OwnFile g id us [] m s :=
    ⟨hlists, holdsNewest_nil.mpr hfile, fun u hu => (migrated_eq hlists id u.req.ip) ▸ hbound u hu⟩
  obtain ⟨recs, hholds, hrecs⟩ := uploads_ownFile hg hown hfrom
  rw [List.nil_append] at hholds
  have hread := readRange_of_holdsNewest hg hholds
  have hsorted : ((recs.rtake g.toNat).Pairwise fun a b => a.timestamp.toNat ≤ b.timestamp.toNat) ↔
      NoneOvertaken ((us.flatMap SentUpload.events).rtake g.toNat) := by
    rw [← sorted_iff_noneOvertaken (htimely.rtake _), map_rtake, ← hrecs, ← map_rtake,
      List.pairwise_map]
  rw [← hsorted]
  constructor
  · intro hall
    have hlen : (recs.rtake g.toNat).length ≤ g.toNat := by
      rw [List.rtake, List.length_drop]
      omega
    have := hall 0 g g
    rwa [hread, UInt32.toNat_zero, List.drop_zero, Nat.min_self,
      List.take_of_length_le hlen] at this
  · intro hs offset limit capacity
    rw [hread]
    exact hs.sublist ((List.take_sublist _ _).trans (List.drop_sublist _ _))

/-- Client 1 uploads one reading taken before its clock was set and one taken after, a minute
    after the second. -/
def lateUpload : SentUpload where
  io := {}
  clock := fun _ => 1700000120
  req := ⟨ascii "/api/upload?id=1", ascii "[\x7b\"ts\":30\x7d,\x7b\"ts\":1700000060\x7d]",
    CStr.strncpy (ascii "10.0.0.7")⟩
  readings := [⟨1700000000, 30, Or.inr (by decide)⟩, ⟨1700000060, 1700000060, Or.inl rfl⟩]

theorem lateUpload_isSome :
    (uploadTarget Json.parse lateUpload.io lateUpload.req).isSome := by decide +kernel

/-- The client and the document of the upload. -/
def lateTarget : ClientId × Json :=
  (uploadTarget Json.parse lateUpload.io lateUpload.req).get lateUpload_isSome

theorem lateTarget_eq : uploadTarget Json.parse lateUpload.io lateUpload.req =
    some (lateTarget.1, lateTarget.2) := by
  rw [Prod.mk.eta, lateTarget, Option.some_get]

theorem lateUpload_from : lateUpload.From Json.parse ⟨CStr.strncpy (ascii "1"), by decide⟩ := by
  have hid : lateTarget.1 = ⟨CStr.strncpy (ascii "1"), by decide⟩ := by decide +kernel
  have hitems : List.Forall₂ SendsTs (uploadItems lateTarget.2) lateUpload.readings := by
    decide +kernel
  refine ⟨rfl, ?_⟩
  rw [lateTarget_eq]
  exact ⟨hid, hitems⟩

theorem lateUpload_timely : Timely ([lateUpload].flatMap SentUpload.events) where
  measured := by decide +kernel
  clock := by decide +kernel
  past := by decide +kernel

theorem uploads_sorted_iff_late :
    let id : ClientId := ⟨CStr.strncpy (ascii "1"), by decide⟩
    let s' := final (serverStep Json.parse 4314) bootState [lateUpload.request]
    (∀ offset limit capacity,
      (dataStoreReadRange s'.fs id offset limit capacity).Pairwise
        fun a b => a.timestamp.toNat ≤ b.timestamp.toNat) ↔
      NoneOvertaken (([lateUpload].flatMap SentUpload.events).rtake 4314) :=
  uploads_sorted_iff Json.parse (g := 4314) ⟨by decide, by decide⟩
    ⟨CStr.strncpy (ascii "1"), by decide⟩ lists_init rfl [lateUpload]
    (fun _ hu => List.mem_singleton.mp hu ▸ lateUpload_from) (by decide +kernel)
    lateUpload_timely

/-- The first reading is stored under the time of the upload, which is later than the second. -/
theorem late_upload_unsorted :
    let id : ClientId := ⟨CStr.strncpy (ascii "1"), by decide⟩
    let s' := final (serverStep Json.parse 4314) bootState [lateUpload.request]
    lateUpload.From Json.parse id ∧ Timely ([lateUpload].flatMap SentUpload.events) ∧
      (dataStoreReadRange s'.fs id 0 2 2).map DataRecord.timestamp = [1700000120, 1700000060] ∧
      ¬(dataStoreReadRange s'.fs id 0 2 2).Pairwise
        fun a b => a.timestamp.toNat ≤ b.timestamp.toNat :=
  ⟨lateUpload_from, lateUpload_timely, by decide +kernel, by decide +kernel⟩

end IndoorLogger
