import IndoorLogger.Client.WifiSync
import IndoorLogger.Server.ServerRuns

/-
  The body a device uploads, as the server reads it. With an id and a name that need no
  escape it is the JSON document of the batch (`parse_uploadBody`), and at most fifty readings
  of the sensors' range fit into the buffer (`length_bodyText_le`).
-/

namespace IndoorLogger

open Decimal Json

/-! ## The document of a batch -/

/-- The number `%d.%d` denotes. -/
def tempNumber (temperature : ℚ) : ℚ :=
  let tDec := (Binary64.truncate (temperature * 10)).tmod 10
  pointNumber (Binary64.truncate temperature) (formatInt (if tDec < 0 then -tDec else tDec))

/-- The members of a reading: names and values. -/
def readingValues (basicMode : Bool) (rec : ClientRecord ℚ) : List (List UInt8 × Json) :=
  [(ascii "ts", .num rec.timestamp.toInt), (ascii "up", .num rec.uptimeSec.toNat),
    (ascii "t", .num (tempNumber rec.temperature)),
    (ascii "h", .num (Binary64.truncate rec.humidity))] ++
  if basicMode then []
  else [(ascii "c", .num rec.eco2.toNat), (ascii "v", .num rec.tvoc.toNat),
    (ascii "a", .num rec.aqi.toNat)]

def readingJson (basicMode : Bool) (rec : ClientRecord ℚ) : Json :=
  .obj (readingValues basicMode rec)

def bodyJson (clientId : CStr 32) (assignedName : CStr 32) (basicMode : Bool)
    (records : List (ClientRecord ℚ)) : Json :=
  .obj [(ascii "id", .str clientId.bytes), (ascii "name", .str assignedName.bytes),
    (ascii "readings", .arr (records.map (readingJson basicMode)))]

/-! ## Reading the body -/

/-- The remainder of a division, with its sign dropped. -/
theorem abs_tmod (k n : ℤ) :
    (if k.tmod n < 0 then -k.tmod n else k.tmod n) = (k.natAbs % n.natAbs : ℕ) := by
  have h : (k.tmod n).natAbs = k.natAbs % n.natAbs := Int.natAbs_tmod k n
  split
  · omega
  · omega

/-- The tenths are printed as one digit. -/
theorem tenths_eq (temperature : ℚ) :
    (if (Binary64.truncate (temperature * 10)).tmod 10 < 0 then
        -(Binary64.truncate (temperature * 10)).tmod 10
      else (Binary64.truncate (temperature * 10)).tmod 10) =
      ((Binary64.truncate (temperature * 10)).natAbs % 10 : ℕ) := abs_tmod _ 10

theorem formatInt_natCast (n : ℕ) : formatInt n = formatNat n := by
  unfold formatInt
  rw [if_neg (by omega), Int.natAbs_natCast]

theorem reads_tempText (temperature : ℚ) :
    Reads (tempText temperature) (.num (tempNumber temperature)) := by
  rw [tempText, tempNumber, tenths_eq, formatInt_natCast, List.append_assoc]
  exact reads_point (Binary64.truncate temperature) _ isDigit_formatNat (formatNat_ne_nil _)

theorem reads_readingText (basicMode : Bool) (rec : ClientRecord ℚ) :
    Reads (readingText basicMode rec) (readingJson basicMode rec) := by
  have hts : ReadsMember (ascii "ts", formatInt rec.timestamp.toInt)
      (ascii "ts", .num rec.timestamp.toInt) := readsMember rfl (reads_int _)
  have hup : ReadsMember (ascii "up", formatNat rec.uptimeSec.toNat) (ascii "up", _) :=
    readsMember rfl (reads_nat _)
  have ht : ReadsMember (ascii "t", tempText rec.temperature) (ascii "t", _) :=
    readsMember rfl (reads_tempText _)
  have hh : ReadsMember (ascii "h", formatInt (Binary64.truncate rec.humidity)) (ascii "h", _) :=
    readsMember rfl (reads_int _)
  rw [readingJson, readingText]
  cases basicMode with
  | true => exact reads_obj hts (.cons hup (.cons ht (.cons hh .nil)))
  | false =>
    have hc : ReadsMember (ascii "c", formatNat rec.eco2.toNat) (ascii "c", _) :=
      readsMember rfl (reads_nat _)
    have hv : ReadsMember (ascii "v", formatNat rec.tvoc.toNat) (ascii "v", _) :=
      readsMember rfl (reads_nat _)
    have ha : ReadsMember (ascii "a", formatNat rec.aqi.toNat) (ascii "a", _) :=
      readsMember rfl (reads_nat _)
    exact reads_obj hts (.cons hup (.cons ht (.cons hh (.cons hc (.cons hv (.cons ha .nil))))))

/-- A string that needs no escape. -/
def Plain (s : List UInt8) : Prop := ∀ b ∈ s, isPlain b = true

instance (s : List UInt8) : Decidable (Plain s) := List.decidableBAll _ s

variable {clientId assignedName : CStr 32}

theorem bodyText_eq (clientId assignedName : CStr 32) (basicMode : Bool)
    (records : List (ClientRecord ℚ)) :
    bodyText clientId assignedName basicMode records =
      123 :: (commaSep ([(ascii "id", 34 :: (clientId.bytes ++ [34])),
        (ascii "name", 34 :: (assignedName.bytes ++ [34])),
        (ascii "readings", 91 :: (commaSep (records.map (readingText basicMode)) ++ [93]))].map
          memberText) ++ [125]) := by
  rw [bodyText]
  generalize commaSep (records.map (readingText basicMode)) = readings
  simp [commaSep, memberText, ascii]

theorem reads_bodyText (hid : Plain clientId.bytes) (hname : Plain assignedName.bytes)
    (basicMode : Bool) (records : List (ClientRecord ℚ)) :
    Reads (bodyText clientId assignedName basicMode records)
      (bodyJson clientId assignedName basicMode records) := by
  have hreadings : List.Forall₂ Reads (records.map (readingText basicMode))
      (records.map (readingJson basicMode)) := by
    rw [List.forall₂_map_left_iff, List.forall₂_map_right_iff]
    exact List.forall₂_same.mpr fun rec _ => reads_readingText basicMode rec
  rw [bodyText_eq]
  exact reads_obj (readsMember rfl (reads_str hid)) (.cons (readsMember rfl (reads_str hname))
    (.cons (readsMember rfl (reads_arr hreadings)) .nil))

/-! ## Bytes of the body -/

/-- Text without a NUL. -/
def NoNul (t : List UInt8) : Prop := ∀ b ∈ t, b ≠ 0

theorem NoNul.append {t u : List UInt8} (ht : NoNul t) (hu : NoNul u) : NoNul (t ++ u) := by
  intro b hb
  rcases List.mem_append.mp hb with hb | hb
  · exact ht b hb
  · exact hu b hb

theorem noNul_of_all {t : List UInt8} (h : t.all (· != 0) = true) : NoNul t := by
  intro b hb
  exact bne_iff_ne.mp (List.all_eq_true.mp h b hb)

theorem noNul_formatNat (n : ℕ) : NoNul (formatNat n) := by
  rintro b hb rfl
  exact absurd (isDigit_formatNat 0 hb) (by decide)

theorem noNul_formatInt (n : ℤ) : NoNul (formatInt n) := by
  rw [formatInt]
  split
  · exact NoNul.append (t := [45]) (noNul_of_all rfl) (noNul_formatNat _)
  · exact noNul_formatNat _

theorem noNul_commaSep {ts : List (List UInt8)} (h : ∀ t ∈ ts, NoNul t) : NoNul (commaSep ts) := by
  cases ts with
  | nil => exact noNul_of_all rfl
  | cons t ts =>
    refine NoNul.append (h t List.mem_cons_self) fun b hb => ?_
    obtain ⟨u, hu, hb⟩ := List.mem_flatten.mp hb
    obtain ⟨v, hv, rfl⟩ := List.mem_map.mp hu
    rcases List.mem_cons.mp hb with rfl | hb
    · decide
    · exact h v (List.mem_cons_of_mem _ hv) b hb

theorem noNul_memberText {m : List UInt8 × List UInt8} (hn : NoNul m.1) (ht : NoNul m.2) :
    NoNul (memberText m) :=
  NoNul.append (t := [34]) (noNul_of_all rfl)
    (hn.append (NoNul.append (t := [34, 58]) (noNul_of_all rfl) ht))

theorem noNul_readingText (basicMode : Bool) (rec : ClientRecord ℚ) :
    NoNul (readingText basicMode rec) := by
  have htemp : NoNul (tempText rec.temperature) :=
    ((noNul_formatInt _).append (noNul_of_all rfl)).append (noNul_formatInt _)
  have member : ∀ {name t : List UInt8}, name.all (· != 0) = true → NoNul t →
      NoNul (memberText (name, t)) := fun hn ht => noNul_memberText (noNul_of_all hn) ht
  have hmembers : ∀ t ∈ (readingMembers basicMode rec).map memberText, NoNul t := by
    cases basicMode with
    | true =>
      exact List.forall_mem_cons.mpr ⟨member rfl (noNul_formatInt _),
        List.forall_mem_cons.mpr ⟨member rfl (noNul_formatNat _),
        List.forall_mem_cons.mpr ⟨member rfl htemp,
        List.forall_mem_singleton.mpr (member rfl (noNul_formatInt _))⟩⟩⟩
    | false =>
      exact List.forall_mem_cons.mpr ⟨member rfl (noNul_formatInt _),
        List.forall_mem_cons.mpr ⟨member rfl (noNul_formatNat _),
        List.forall_mem_cons.mpr ⟨member rfl htemp,
        List.forall_mem_cons.mpr ⟨member rfl (noNul_formatInt _),
        List.forall_mem_cons.mpr ⟨member rfl (noNul_formatNat _),
        List.forall_mem_cons.mpr ⟨member rfl (noNul_formatNat _),
        List.forall_mem_singleton.mpr (member rfl (noNul_formatNat _))⟩⟩⟩⟩⟩⟩
  rw [readingText]
  exact ((noNul_of_all rfl).append (noNul_commaSep hmembers)).append (noNul_of_all rfl)

theorem noNul_bodyText (clientId assignedName : CStr 32) (basicMode : Bool)
    (records : List (ClientRecord ℚ)) :
    NoNul (bodyText clientId assignedName basicMode records) := by
  have hstr : ∀ s : CStr 32, NoNul s.bytes := by
    rintro s b hb rfl
    exact s.noNul hb
  have hreadings : NoNul (commaSep (records.map (readingText basicMode))) := by
    refine noNul_commaSep fun t ht => ?_
    obtain ⟨rec, -, rfl⟩ := List.mem_map.mp ht
    exact noNul_readingText basicMode rec
  rw [bodyText]
  exact (((((noNul_of_all rfl).append (hstr clientId)).append (noNul_of_all rfl)).append
    (hstr assignedName)).append (noNul_of_all rfl)).append hreadings |>.append (noNul_of_all rfl)

/-- A clock that is set, and readings in the range of the sensors. -/
structure InRange (rec : ClientRecord ℚ) : Prop where
  timestamp : 1577836800 < rec.timestamp.toInt
  temperature : -50 ≤ rec.temperature ∧ rec.temperature < 150
  humidity : 0 ≤ rec.humidity ∧ rec.humidity < 100

/-- What `read_sensors_and_store` appends: a time that is not negative, and readings in the
    range of the sensors. -/
structure Sampled (rec : ClientRecord ℚ) : Prop where
  timestamp : 0 ≤ rec.timestamp.toInt
  temperature : -50 ≤ rec.temperature ∧ rec.temperature < 150
  humidity : 0 ≤ rec.humidity ∧ rec.humidity < 100

theorem InRange.sampled {rec : ClientRecord ℚ} (h : InRange rec) : Sampled rec :=
  ⟨by have := h.timestamp; omega, h.temperature, h.humidity⟩

theorem Sampled.truncate_humidity {rec : ClientRecord ℚ} (h : Sampled rec) :
    0 ≤ Binary64.truncate rec.humidity ∧ Binary64.truncate rec.humidity < 100 :=
  Binary64.truncate_mem (by exact_mod_cast h.humidity.1) (by exact_mod_cast h.humidity.2)
    le_rfl (by decide)

theorem length_tempText_le {rec : ClientRecord ℚ} (h : Sampled rec) :
    (tempText rec.temperature).length ≤ 5 := by
  obtain ⟨h1, h2⟩ := Binary64.truncate_mem (a := -50) (b := 150) (by exact_mod_cast h.temperature.1)
    (by exact_mod_cast h.temperature.2) (by decide) (by decide)
  have hint : (formatInt (Binary64.truncate rec.temperature)).length ≤ 3 := by
    rcases lt_or_ge (Binary64.truncate rec.temperature) 0 with hn | hn
    · exact (length_formatInt_le (k := 2) (by decide) (by omega)).1
    · exact (length_formatInt_le (k := 3) (by decide) (by omega)).2 hn
  rw [tempText, tenths_eq, formatInt_natCast, List.length_append, List.length_append,
    length_formatNat_of_lt_ten (Nat.mod_lt _ (by decide))]
  exact Nat.add_le_add_right (Nat.add_le_add_right hint _) _

theorem length_memberText (name t : List UInt8) :
    (memberText (name, t)).length = name.length + t.length + 3 := by
  simp only [memberText, List.length_cons, List.length_append]
  omega

theorem length_readingText_le {rec : ClientRecord ℚ} (h : Sampled rec) (basicMode : Bool) :
    (readingText basicMode rec).length ≤ 78 := by
  have hts : (formatInt rec.timestamp.toInt).length ≤ 10 := by
    have := h.timestamp
    have := rec.timestamp.toInt_lt
    exact (length_formatInt_le (k := 10) (by decide) (by omega)).2 (by omega)
  have hup : (formatNat rec.uptimeSec.toNat).length ≤ 10 := by
    have := rec.uptimeSec.toNat_lt
    exact length_formatNat_of_lt (by decide) (by omega)
  have ht := length_tempText_le h
  have hh : (formatInt (Binary64.truncate rec.humidity)).length ≤ 2 := by
    obtain ⟨h1, h2⟩ := h.truncate_humidity
    exact (length_formatInt_le (k := 2) (by decide) (by omega)).2 h1
  have hc : (formatNat rec.eco2.toNat).length ≤ 5 := by
    have := rec.eco2.toNat_lt
    exact length_formatNat_of_lt (by decide) (by omega)
  have hv : (formatNat rec.tvoc.toNat).length ≤ 5 := by
    have := rec.tvoc.toNat_lt
    exact length_formatNat_of_lt (by decide) (by omega)
  have ha : (formatNat rec.aqi.toNat).length ≤ 3 := by
    have := rec.aqi.toNat_lt
    exact length_formatNat_of_lt (by decide) (by omega)
  have hname : (ascii "ts").length = 2 ∧ (ascii "up").length = 2 ∧ (ascii "t").length = 1 ∧
      (ascii "h").length = 1 ∧ (ascii "c").length = 1 ∧ (ascii "v").length = 1 ∧
      (ascii "a").length = 1 ∧ (ascii "\x7b").length = 1 ∧ (ascii "\x7d").length = 1 := by decide
  unfold readingText readingMembers
  cases basicMode with
  | true =>
    simp only [if_true, List.append_nil, List.map_cons, List.map_nil, commaSep, length_memberText,
      List.flatten_cons, List.flatten_nil, List.length_append, List.length_cons, hname]
    omega
  | false =>
    simp only [Bool.false_eq_true, if_false, List.cons_append, List.nil_append, List.map_cons,
      List.map_nil, commaSep, length_memberText, List.flatten_cons, List.flatten_nil,
      List.length_append, List.length_cons, List.length_nil, hname]
    omega

/-- A batch of sampled readings fits into the buffer. -/
theorem length_bodyText_le (clientId assignedName : CStr 32) (basicMode : Bool)
    {records : List (ClientRecord ℚ)} (h : ∀ rec ∈ records, Sampled rec)
    (hn : records.length ≤ uploadBatchSize) :
    (bodyText clientId assignedName basicMode records).length ≤ 4095 := by
  have hid := clientId.fits
  have hname := assignedName.fits
  have hreadings := length_commaSep_le (records.map (readingText basicMode)) 78
    fun t ht => by
      obtain ⟨rec, hrec, rfl⟩ := List.mem_map.mp ht
      exact length_readingText_le (h rec hrec) basicMode
  rw [List.length_map] at hreadings
  unfold uploadBatchSize at hn
  have hlit : (ascii "\x7b\"id\":\"").length = 7 ∧ (ascii "\",\"name\":\"").length = 10 ∧
      (ascii "\",\"readings\":[").length = 14 ∧ (ascii "]\x7d").length = 2 := by decide
  rw [bodyText]
  simp only [List.length_append, hlit]
  omega

/-! ## The request as the server parses it -/

/-- The body is read as the document of the batch, by any parser that reads JSON. -/
theorem parse_uploadBody {cJSONParse : List UInt8 → Option Json}
    (hparse : ∀ t v, Json.parse t = some v → cJSONParse t = some v)
    {io : UploadIo} (hmalloc : io.malloc = false) (hrecv : io.recv = false)
    (hid : Plain clientId.bytes) (hname : Plain assignedName.bytes) (basicMode : Bool)
    {records : List (ClientRecord ℚ)}
    (hfit : (bodyText clientId assignedName basicMode records).length ≤ 4095) :
    uploadRoot cJSONParse io (uploadBody clientId assignedName basicMode records) =
      .ok (bodyJson clientId assignedName basicMode records) := by
  have hbody : uploadBody clientId assignedName basicMode records =
      bodyText clientId assignedName basicMode records := List.take_of_length_le hfit
  have hreads := reads_bodyText hid hname basicMode records
  have hpos : (bodyText clientId assignedName basicMode records).length ≠ 0 := by
    rw [bodyText_eq]
    exact Nat.succ_ne_zero _
  have hstr : cString (bodyText clientId assignedName basicMode records) = _ :=
    cString_of_noNul fun hz => noNul_bodyText _ _ _ _ 0 hz rfl
  rw [hbody, uploadRoot_eq_ok_iff, hstr]
  exact ⟨hpos, by omega, hmalloc, hrecv, hparse _ _ hreads.parse_eq⟩

theorem uploadItems_bodyJson (clientId assignedName : CStr 32) (basicMode : Bool)
    (records : List (ClientRecord ℚ)) :
    uploadItems (bodyJson clientId assignedName basicMode records) =
      records.map (readingJson basicMode) := rfl

end IndoorLogger
