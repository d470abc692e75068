import IndoorLogger.Sync.ApiDocuments
import IndoorLogger.Sync.Delivery

/-
  The charts of the web page (`web_ui.h`) and the two handlers that answer for them. The page
  reads the member `timestamp` of what it is sent, which the buckets of the aggregated answer do
  not have: the charts of twelve hours and more are never drawn, the others show the records of
  their range (`charts_drawn_eq`).
-/

namespace IndoorLogger

open Decimal Json PercentEncoding

/-! ## The page -/

/-- `Math.floor(Date.now() / 1000) - hours * 3600`. -/
def chartSince (hours dateNow : Nat) : Int := (dateNow / 1000 : Nat) - (hours * 3600 : Nat)

/-- The URI that `fetchData` requests. -/
def fetchDataUri (id : List UInt8) (hours dateNow : Nat) : List UInt8 :=
  let since := formatInt (chartSince hours dateNow)
  if hours ≥ 12 then
    let bucket := if hours ≥ 24 then 900 else 300
    ascii "/api/data/aggregated?id=" ++ encode id ++ ascii "&since=" ++ since ++
      ascii "&bucket=" ++ formatNat bucket
  else ascii "/api/data?id=" ++ encode id ++ ascii "&since=" ++ since

/-- `fetchData`, with the server's answer to its request. -/
def fetchData (fuel : Nat) (fs : Fs) (id : List UInt8) (hours dateNow : Nat) : Option Json :=
  let uri := fetchDataUri id hours dateNow
  let body :=
    if hours ≥ 12 then (dataAggregatedGetHandler fuel {} fs uri).map AggregatedResponse.text
    else (dataGetHandler fuel false fs uri).map DataResponse.text
  body.bind Json.parse

/-- The property of an object, the last of that name. -/
def jsProperty (d : Json) (name : String) : Option Json :=
  match d with
  | .obj members => (members.reverse.find? fun m => m.1 = ascii name).map (·.2)
  | _ => none

/-- `d.timestamp >= since`, for a number or nothing. -/
def inRange (since : Int) (d : Json) : Bool :=
  match jsProperty d "timestamp" with
  | some (.num q) => decide ((since : ℚ) ≤ q)
  | _ => false

/-- `drawAllCharts`: the points that are drawn, none for no data or too little of it. -/
def drawAllCharts (currentData : List Json) (currentTimeRange dateNow : Nat) :
    Option (List Json) :=
  if currentData = [] then none
  else
    let filtered := currentData.filter (inRange (chartSince currentTimeRange dateNow))
    if filtered.length < 2 then none else some filtered

/-! ## The query -/

theorem atoi_formatNat {n : Nat} (h : n < 2 ^ 31) : atoi (formatNat n) = n := by
  obtain ⟨d, t, htext, hd, -⟩ := formatNat_cons n
  have hrange := isDigit_iff.mp hd
  have hspace : (formatNat n).dropWhile (fun b => b = 32 || 9 ≤ b && b ≤ 13) = formatNat n := by
    rw [htext]
    apply List.dropWhile_cons_of_neg
    simp only [Bool.or_eq_true, Bool.and_eq_true, decide_eq_true_eq, UInt8.le_iff_toNat_le,
      ← UInt8.toNat_inj, UInt8.reduceToNat]
    omega
  have hdigits : (formatNat n).takeWhile isDigit = formatNat n :=
    List.takeWhile_eq_self_iff.mpr isDigit_formatNat
  unfold atoi
  rw [hspace]
  dsimp only
  split
  case h_1 hneg =>
    obtain rfl := (List.cons.inj (htext.symm.trans hneg)).1
    exact absurd hd (by decide)
  case h_2 hplus =>
    obtain rfl := (List.cons.inj (htext.symm.trans hplus)).1
    exact absurd hd (by decide)
  case h_3 =>
    dsimp only
    rw [if_neg Bool.false_ne_true, hdigits, value_formatNat, min_eq_right (by omega),
      max_eq_right (by omega)]

theorem strchr_append {pre : List UInt8} {c : UInt8} (h : c ∉ pre) (t : List UInt8) :
    strchr (pre ++ c :: t) c = some (c :: t) := by
  have hdrop : (pre ++ c :: t).dropWhile (· ≠ c) = c :: t := by
    rw [List.dropWhile_append_of_pos, List.dropWhile_cons_of_neg (by simp)]
    intro b hb
    exact decide_eq_true fun he => h (he ▸ hb)
  unfold strchr
  rw [hdrop]

theorem unreserved_formatNat {n : Nat} : ∀ b ∈ formatNat n, isUnreserved b = true := by
  intro b hb
  have hrange := isDigit_iff.mp (isDigit_formatNat b hb)
  unfold isUnreserved
  simp only [Bool.or_eq_true, Bool.and_eq_true, decide_eq_true_eq, UInt8.le_iff_toNat_le,
    UInt8.reduceToNat]
  omega

/-- A parameter whose value is a number. -/
def numberParam (key : ParamKey) (n : Nat) : Param where
  key := key
  value := formatNat n
  noNul h := absurd (isDigit_formatNat 0 h) (by decide)

/-- The parameters of a request for data. -/
def dataParams (id : Id) (since : Nat) (rest : List Param) : List Param :=
  ⟨.id, id.bytes, id.noNul⟩ :: numberParam .since since :: rest

theorem dataParams_text (id : Id) (since : Nat) :
    queryText (dataParams id since []) =
        ascii "?id=" ++ encode id.bytes ++ ascii "&since=" ++ formatNat since ∧
      ∀ bucket, queryText (dataParams id since [numberParam .bucket bucket]) =
        ascii "?id=" ++ encode id.bytes ++ ascii "&since=" ++ formatNat since ++
          ascii "&bucket=" ++ formatNat bucket := by
  have hnumber : ∀ n, encode (formatNat n) = formatNat n := fun _ =>
    encode_unreserved unreserved_formatNat
  constructor
  · simp [queryText, dataParams, numberParam, Param.text, ParamKey.text, List.intercalate, hnumber,
      ascii]
  · intro bucket
    simp [queryText, dataParams, numberParam, Param.text, ParamKey.text, List.intercalate, hnumber,
      ascii]

/-- The query of a request. -/
theorem fetchDataUri_query (id : Id) {hours dateNow since : Nat}
    (hsince : chartSince hours dateNow = since) :
    ∃ rest, (∀ p ∈ rest, p.key = .bucket) ∧
      strchr (fetchDataUri id.bytes hours dateNow) 63 =
        some (queryText (dataParams id since rest)) := by
  obtain ⟨hplain, hbucket⟩ := dataParams_text id since
  have hquery : ∀ (path : List UInt8) (rest : List Param), (63 : UInt8) ∉ path →
      strchr (path ++ queryText (dataParams id since rest)) 63 =
        some (queryText (dataParams id since rest)) := fun _ _ hpath => strchr_append hpath _
  have hnumber : formatInt (since : Nat) = formatNat since := rfl
  unfold fetchDataUri
  dsimp only
  rw [hsince, hnumber]
  split
  case isTrue =>
    refine ⟨[numberParam .bucket (if hours ≥ 24 then 900 else 300)], ?_, ?_⟩
    · intro p hp
      rw [List.mem_singleton.mp hp]
      rfl
    · rw [← hquery (ascii "/api/data/aggregated") _ (by decide), hbucket]
      rfl
  case isFalse =>
    refine ⟨[], fun p hp => absurd hp List.not_mem_nil, ?_⟩
    rw [← hquery (ascii "/api/data") _ (by decide), hplain]
    rfl

theorem received_unreserved {n : Nat} {v : List UInt8} (hv : ∀ b ∈ v, isUnreserved b = true)
    (hlen : v.length < n) : received n v = v := by
  have hdec := urlDecode_encode_append v []
  rw [List.append_nil, encode_unreserved hv, urlDecode, List.append_nil] at hdec
  rw [received, encode_unreserved hv, List.take_of_length_le (by omega), hdec]

section

variable {id : Id} {since : Nat} {rest : List Param} {uri : List UInt8}
  (hquery : strchr uri 63 = some (queryText (dataParams id since rest)))

include hquery

theorem queryParam_id (hplain : PlainId id) : (queryParam uri "id" 32 : Id) = id := by
  have hfits := id.fits
  have hend : (ParamKey.id).EndsIn .id := Or.inl rfl
  have hsearch := search_cons_of_endsIn (p := ⟨.id, id.bytes, id.noNul⟩) hend
    (numberParam .since since :: rest)
  have hval : getQueryVal (some (queryText (dataParams id since rest))) (ascii "id") 32 =
      some id.bytes := by
    refine (getQueryVal_queryText _ .id 32).trans ?_
    unfold dataParams
    rw [hsearch.1, hsearch.2, if_neg (by simp), Option.map_some, received_unreserved hplain hfits]
  unfold queryParam
  rw [hquery, hval, Option.getD_some]
  exact CStr.strncpy_bytes id

/-- The time asked for is read, unless the id has the text of its key. -/
theorem sinceTs_eq (hid : ¬ParamKey.since.text <:+: id.bytes) (hsince : since < 2 ^ 31) :
    sinceTs uri = some (UInt32.ofNat since) := by
  have hlen : (formatNat since).length ≤ 10 := length_formatNat_of_lt (by decide) (by omega)
  have hno : ¬(ParamKey.id).EndsIn .since := by
    rintro (h | h)
    · cases h
    · cases h.1
  have hfirst := search_cons_of_not (p := ⟨.id, id.bytes, id.noNul⟩) hno
    (numberParam .since since :: rest)
  have hsecond := search_cons_of_endsIn (p := numberParam .since since) (k := .since) (Or.inl rfl)
    rest
  have hval : getQueryVal (some (queryText (dataParams id since rest))) (ascii "since") 16 =
      some (formatNat since) := by
    refine (getQueryVal_queryText _ .since 16).trans ?_
    unfold dataParams
    rw [hfirst.1, hfirst.2, hsecond.1, hsecond.2, if_neg (by simpa using hid), Option.map_some]
    exact congrArg some (received_unreserved unreserved_formatNat (by
      change (formatNat since).length < 16
      omega))
  have hbytes : (CStr.strncpy (formatNat since) : CStr 16).bytes = formatNat since := by
    have hcut : (CStr.strncpy (formatNat since) : CStr 16).bytes =
        (cString (formatNat since)).take 15 := rfl
    rw [hcut, cString_of_noNul (l := formatNat since) (numberParam .since since).noNul,
      List.take_of_length_le (by omega)]
  have hempty : (CStr.strncpy (formatNat since) : CStr 16).isEmpty = false := by
    rw [CStr.isEmpty_eq_false, ne_eq, ← CStr.bytes_eq_nil, hbytes]
    exact formatNat_ne_nil since
  unfold sinceTs queryParam atol
  rw [hquery, hval, Option.getD_some]
  dsimp only
  rw [hempty, if_neg Bool.false_ne_true, hbytes, atoi_formatNat hsince]
  refine congrArg some (UInt32.toNat_inj.mp ?_)
  rw [UInt32.ofInt, UInt32.toNat_ofNat', UInt32.toNat_ofNat']
  omega

/-- A key that no parameter has is read as empty. -/
theorem getQueryVal_absent (hrest : ∀ p ∈ rest, p.key = .bucket) {k : ParamKey} (hk : k ≠ .id)
    (hk' : k ≠ .since) (hk'' : k ≠ .bucket) (n : Nat) :
    getQueryVal (strchr uri 63) k.text n = none := by
  rw [hquery, getQueryVal_eq_none_iff]
  refine Or.inr fun p hp => ?_
  have hkey : p.key = .id ∨ p.key = .since ∨ p.key = .bucket := by
    rcases List.mem_cons.mp hp with rfl | hp
    · exact Or.inl rfl
    · rcases List.mem_cons.mp hp with rfl | hp
      · exact Or.inr (Or.inl rfl)
      · exact Or.inr (Or.inr (hrest p hp))
  rintro (he | ⟨he, -⟩)
  · rw [he] at hkey
    exact hkey.elim hk fun h => h.elim hk' hk''
  · rw [he] at hkey
    rcases hkey with h | h | h <;> cases h

theorem dataOffset_eq (hrest : ∀ p ∈ rest, p.key = .bucket) : dataOffset uri = 0 := by
  have hval := getQueryVal_absent hquery hrest (k := .offset) (by decide) (by decide) (by decide) 16
  have hparam : (queryParam uri "offset" 16 : CStr 16) = CStr.empty := by
    unfold queryParam
    rw [show ascii "offset" = ParamKey.offset.text from rfl, hval]
    rfl
  unfold dataOffset
  rw [hparam]
  rfl

theorem dataLimit_eq (hrest : ∀ p ∈ rest, p.key = .bucket) : dataLimit uri = 500 := by
  have hval := getQueryVal_absent hquery hrest (k := .limit) (by decide) (by decide) (by decide) 16
  have hparam : (queryParam uri "limit" 16 : CStr 16) = CStr.empty := by
    unfold queryParam
    rw [show ascii "limit" = ParamKey.limit.text from rfl, hval]
    rfl
  unfold dataLimit
  rw [hparam]
  rfl

end

/-! ## Points -/

/-- The records that a page is sent from `since` on and draws from `since'` on. -/
def chartRecords (since since' : Int) (recs : List DataRecord) : List DataRecord :=
  ((recs.filter fun rec => since ≤ rec.timestamp.toNat).take 500).filter fun rec =>
    since' ≤ rec.timestamp.toNat

theorem inRange_record (since : Int) (d : DataRecord) :
    inRange since d.document = decide (since ≤ d.timestamp.toNat) := by
  have hproperty : jsProperty d.document "timestamp" = some (.num d.timestamp.toNat) := rfl
  unfold inRange
  rw [hproperty]
  dsimp only
  rw [decide_eq_decide, ← Int.cast_natCast, Int.cast_le]

/-- A bucket has no time that the page reads. -/
theorem inRange_bucket (since : Int) (b : DataAggregated) : inRange since b.document = false := rfl

theorem filter_documents (since : Int) (recs : List DataRecord) :
    (recs.map DataRecord.document).filter (inRange since) =
      (recs.filter fun rec => since ≤ rec.timestamp.toNat).map DataRecord.document := by
  rw [List.filter_map]
  refine congrArg (List.map _) (List.filter_congr fun rec _ => ?_)
  exact inRange_record since rec

/-- The charts of documents of records. -/
theorem drawAllCharts_records (recs : List DataRecord) (hours dateNow : Nat) :
    let shown := recs.filter fun rec => chartSince hours dateNow ≤ rec.timestamp.toNat
    drawAllCharts (recs.map DataRecord.document) hours dateNow =
      if 2 ≤ shown.length then some (shown.map DataRecord.document) else none := by
  intro shown
  unfold drawAllCharts
  dsimp only
  rw [filter_documents, List.length_map]
  by_cases hnil : recs = []
  · have hshown : shown = [] := by
      unfold shown
      rw [hnil, List.filter_nil]
    rw [if_pos (by rw [hnil, List.map_nil]), hshown, if_neg (by decide)]
  · rw [if_neg (by rwa [List.map_eq_nil_iff])]
    by_cases hlen : 2 ≤ shown.length
    · rw [if_pos hlen, if_neg (Nat.not_lt.mpr hlen)]
    · rw [if_neg hlen, if_pos (Nat.lt_of_not_le hlen)]

/-- The charts of documents of buckets. -/
theorem drawAllCharts_buckets (bs : List DataAggregated) (hours dateNow : Nat) :
    drawAllCharts (bs.map DataAggregated.document) hours dateNow = none := by
  have hnone : (bs.map DataAggregated.document).filter (inRange (chartSince hours dateNow)) =
      [] := by
    rw [List.filter_eq_nil_iff]
    intro d hd
    obtain ⟨b, -, rfl⟩ := List.mem_map.mp hd
    rw [inRange_bucket]
    exact Bool.false_ne_true
  unfold drawAllCharts
  dsimp only
  rw [hnone]
  split
  · rfl
  · exact if_pos (by decide)

/-- The records that the server looks up for the page. -/
theorem sinceRecords_fetch {id : Id} {since : Nat} {rest : List Param} {uri : List UInt8}
    (hquery : strchr uri 63 = some (queryText (dataParams id since rest)))
    (hkey : ¬ParamKey.since.text <:+: id.bytes) (hsince : since < 2 ^ 31) (recs : List DataRecord) :
    sinceRecords uri recs = recs.filter fun rec => (since : Int) ≤ rec.timestamp.toNat := by
  have hnat : (UInt32.ofNat since).toNat = since := by
    rw [UInt32.toNat_ofNat']
    omega
  unfold sinceRecords
  rw [sinceTs_eq hquery hkey hsince]
  refine List.filter_congr fun rec _ => ?_
  rw [decide_eq_decide, UInt32.le_iff_toNat_le, hnat, Int.ofNat_le]

/-- Where there is no record since the time asked for, the page is sent older ones and drops
    them. -/
theorem filter_page {since since' : Int} (hle : since ≤ since') (recs : List DataRecord) :
    (if (recs.filter fun rec => since ≤ rec.timestamp.toNat) = [] then recs.take 500
      else (recs.filter fun rec => since ≤ rec.timestamp.toNat).take 500).filter
        (fun rec => since' ≤ rec.timestamp.toNat) = chartRecords since since' recs := by
  unfold chartRecords
  by_cases hnil : (recs.filter fun rec => since ≤ rec.timestamp.toNat) = []
  · rw [if_pos hnil, hnil, List.take_nil, List.filter_nil, List.filter_eq_nil_iff]
    intro rec hrec hlate
    rw [List.filter_eq_nil_iff] at hnil
    have hold := hnil rec (List.mem_of_mem_take hrec)
    rw [decide_eq_true_eq] at hold hlate
    omega
  · rw [if_neg hnil]

/-- **The charts of the page.** For a client whose records are in order of time, a range of less
    than twelve hours draws the records of the range, if they are two or more; a longer range
    draws nothing, whatever the server sends for it. -/
theorem charts_drawn_eq {total g : UInt32} (hinit : dataStoreInit total = some g) (hpos : 0 < g)
    {fs : Fs} {id : Id} (hplain : PlainId id) (hne : id ≠ CStr.empty)
    (hkey : ¬ParamKey.since.text <:+: id.bytes) {recs : List DataRecord}
    (h : HoldsSeq g fs id recs) (hsorted : recs.Pairwise fun a b => a.timestamp ≤ b.timestamp)
    {hours asked drawn : Nat} (hlater : asked ≤ drawn) (hlo : 0 ≤ chartSince hours asked)
    (hhi : chartSince hours asked < 2 ^ 31) {fuel : Nat} (hfuel : 2000 ≤ fuel) :
    let points := chartRecords (chartSince hours asked) (chartSince hours drawn) recs
    ∃ items, (fetchData fuel fs id.bytes hours asked).bind Json.items? = some items ∧
      drawAllCharts items hours drawn =
        if hours < 12 ∧ 2 ≤ points.length then some (points.map DataRecord.document)
        else none := by
  intro points
  obtain ⟨since, hsince⟩ := Int.eq_ofNat_of_zero_le hlo
  obtain ⟨rest, hrest, hquery⟩ := fetchDataUri_query id hsince
  have hid := queryParam_id hquery hplain
  have hholds : HoldsSeq g fs (queryParam (fetchDataUri id.bytes hours asked) "id" 32) recs :=
    hid.symm ▸ h
  have hnonempty : (queryParam (fetchDataUri id.bytes hours asked) "id" 32 : Id) ≠ CStr.empty :=
    hid.symm ▸ hne
  unfold fetchData
  dsimp only
  by_cases hlong : hours ≥ 12
  · obtain ⟨bs, hresp, -⟩ := dataAggregatedGetHandler_eq hinit hpos hnonempty hholds hsorted hfuel
    refine ⟨bs.map DataAggregated.document, ?_, ?_⟩
    · rw [if_pos hlong, hresp, Option.map_some, Option.bind_some, parse_buckets]
      rfl
    · rw [drawAllCharts_buckets, if_neg (by omega)]
  · have hlen : recs.length < 2 ^ fuel := by
      have hpow : 2 ^ 32 ≤ 2 ^ fuel := Nat.pow_le_pow_right (by decide) (by omega)
      exact (h.length_le.trans_lt g.toNat_lt).trans_le hpow
    have hlimit : (dataLimit (fetchDataUri id.bytes hours asked)).toNat = 500 := by
      rw [dataLimit_eq hquery hrest]
      rfl
    have hoffset : (dataOffset (fetchDataUri id.bytes hours asked)).toNat = 0 := by
      rw [dataOffset_eq hquery hrest]
      rfl
    have hlater' : chartSince hours asked ≤ chartSince hours drawn := by
      have := Nat.div_le_div_right (c := 1000) hlater
      unfold chartSince
      omega
    -- what is sent, less what the page drops
    obtain ⟨sent, hsent, hpoints⟩ : ∃ sent : List DataRecord,
        dataGetHandler fuel false fs (fetchDataUri id.bytes hours asked) =
          some (.records sent) ∧
        (sent.filter fun rec => chartSince hours drawn ≤ rec.timestamp.toNat) = points := by
      have hresp := dataGetHandler_eq hinit hpos hnonempty hholds hsorted hlen
      rw [hlimit, hoffset, sinceRecords_fetch hquery hkey (by omega), ← hsince, List.drop_zero]
        at hresp
      exact ⟨_, hresp, filter_page hlater' recs⟩
    refine ⟨sent.map DataRecord.document, ?_, ?_⟩
    · rw [if_neg hlong, hsent, Option.map_some, Option.bind_some, dataText_eq,
        (reads_records sent).parse_eq]
      rfl
    · rw [drawAllCharts_records, hpoints]
      exact if_congr (by omega) rfl rfl

/-- Two records, an hour apart. -/
def chartLog : List DataRecord :=
  [{ hundred with timestamp := 1700000000 }, { hundred with timestamp := 1700003600 }]

def chartFs : Fs := appendLog 2 Fs.blank (chartLog.map fun rec => (clientA, rec))

theorem chartFs_holds : HoldsSeq 2 chartFs clientA chartLog := by
  have hnewest := appendLog_holdsNewest (g := 2) ⟨by decide, by decide⟩
    (chartLog.map fun rec => (clientA, rec)) clientA
  obtain ⟨r, hr, hl⟩ := (holdsNewest_cons (by decide)).mp hnewest
  exact Or.inr ⟨r, hr, hl⟩

/-- A range of three hours, drawn two seconds after it was asked for. -/
theorem charts_drawn_three :
    let points := chartRecords (chartSince 3 1700005000000) (chartSince 3 1700005002000) chartLog
    ∃ items, (fetchData 2000 chartFs clientA.bytes 3 1700005000000).bind Json.items? =
        some items ∧
      drawAllCharts items 3 1700005002000 =
        if 3 < 12 ∧ 2 ≤ points.length then some (points.map DataRecord.document) else none :=
  charts_drawn_eq (by decide : dataStoreInit 34000 = some 2) (by decide) (by decide) (by decide)
    (by decide) chartFs_holds (by decide) (by decide) (by decide) (by decide) (le_refl 2000)

end IndoorLogger
