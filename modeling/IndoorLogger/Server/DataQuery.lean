import IndoorLogger.Server.HttpServer
import IndoorLogger.Server.ReadSince

/-
  `data_get_handler`: the records of a client, from an offset on or since a time. Both reads
  put their number of records into one variable, and the page is read whenever it is 0: a
  filter that matches nothing is answered with the page. `since_respected_iff` says for which
  stored sequences and queries the filter is respected.
-/

namespace IndoorLogger

/-! ## The handler -/

/-- `atol`, with a `long` of 32 bits. -/
def atol (s : List UInt8) : Int := atoi s

/-- The offset a query asks for. -/
def dataOffset (uri : List UInt8) : UInt32 :=
  let tmp : CStr 16 := queryParam uri "offset" 16
  if tmp.isEmpty then 0
  else
    let val := atoi tmp.bytes
    if val ≥ 0 then UInt32.ofInt val else 0

/-- The limit a query asks for, 500 unless it is positive, and 2000 at most. -/
def dataLimit (uri : List UInt8) : UInt32 :=
  let tmp : CStr 16 := queryParam uri "limit" 16
  let limit :=
    if tmp.isEmpty then 500
    else
      let val := atoi tmp.bytes
      if val > 0 then UInt32.ofInt val else 500
  if limit > 2000 then 2000 else limit

/-- `since_ts`, none when the query is found to have no value for it. -/
def sinceTs (uri : List UInt8) : Option UInt32 :=
  let sinceStr : CStr 16 := queryParam uri "since" 16
  if sinceStr.isEmpty then none else some (UInt32.ofInt (atol sinceStr.bytes))

/-- An answer of `data_get_handler`; the records are sent in chunks. -/
inductive DataResponse where
  | plain (text : String) (len : Nat)
  | error (code : Nat)
  | records (recs : List DataRecord)
  deriving DecidableEq

def DataResponse.emitted : DataResponse → List DataRecord
  | .records recs => recs
  | _ => []

/-- The chunks: a bracket, the records with a comma before all but the first, a bracket. -/
def DataResponse.chunks : DataResponse → List (List UInt8)
  | .records recs => [ascii "["] ++
      (recs.zipIdx.map fun (rec, i) => (if i > 0 then ascii "," else []) ++ recordJson rec) ++
      [ascii "]"]
  | _ => []

/-- The read since `since_ts`, with `fuel` for its search; nothing is read without a value. -/
def readFiltered (fuel : Nat) (fs : Fs) (clientId : Id) (uri : List UInt8) (limit : UInt32) :
    Option (List DataRecord) :=
  match sinceTs uri with
  | none => some []
  | some t => (dataStoreReadSince fuel fs clientId t limit).map (·.1)

/-- `data_get_handler`. -/
def dataGetHandler (fuel : Nat) (malloc : Bool) (fs : Fs) (uri : List UInt8) :
    Option DataResponse :=
  let clientId : Id := queryParam uri "id" 32
  if clientId.isEmpty then some (.plain "missing id" 10)
  else
    let offset := dataOffset uri
    let limit := dataLimit uri
    let available := dataStoreGetCount fs clientId
    if malloc then some (.error 500)
    else
      (readFiltered fuel fs clientId uri limit).map fun records =>
        if records.length = 0 then
          if offset ≥ available then .records []
          else
            let limit := if limit > available - offset then available - offset else limit
            .records (dataStoreReadRange fs clientId offset limit limit)
        else .records records

/-! ## What is emitted -/

theorem dataLimit_pos (uri : List UInt8) : 0 < (dataLimit uri).toNat := by
  have hofInt : ∀ val : Int, 0 < val → val ≤ 2147483647 → 0 < (UInt32.ofInt val).toNat := by
    intro val h0 h1
    rw [UInt32.ofInt, UInt32.toNat_ofNat']
    omega
  have hcap : ∀ limit : UInt32, 0 < limit.toNat →
      0 < (if limit > 2000 then 2000 else limit).toNat := by
    intro limit h
    split
    · decide
    · exact h
  unfold dataLimit
  apply hcap
  split
  · decide
  · dsimp only
    split
    case isTrue hval => exact hofInt _ hval (atoi_mem _).2
    case isFalse => decide

variable {g : UInt32} {fs : Fs} {recs : List DataRecord}

/-- The records since the time the query is found to ask for. -/
def sinceRecords (uri : List UInt8) (recs : List DataRecord) : List DataRecord :=
  match sinceTs uri with
  | none => []
  | some t => recs.filter fun rec => t ≤ rec.timestamp

/-- The page is sent whenever there is no record since the time asked for. -/
theorem dataGetHandler_eq {total : UInt32} (hinit : dataStoreInit total = some g) (hpos : 0 < g)
    {uri : List UInt8} (hid : (queryParam uri "id" 32 : Id) ≠ CStr.empty)
    (h : HoldsSeq g fs (queryParam uri "id" 32) recs)
    (hsorted : recs.Pairwise fun a b => a.timestamp ≤ b.timestamp) {fuel : Nat}
    (hfuel : recs.length < 2 ^ fuel) :
    dataGetHandler fuel false fs uri = some (.records
      (if sinceRecords uri recs = [] then
        (recs.drop (dataOffset uri).toNat).take (dataLimit uri).toNat
      else (sinceRecords uri recs).take (dataLimit uri).toNat)) := by
  have hg := (dataStoreInit_room hinit hpos).1
  have hcount := h.getCount_eq
  have hlimit := dataLimit_pos uri
  have hsince : readFiltered fuel fs (queryParam uri "id" 32) uri (dataLimit uri) =
      some ((sinceRecords uri recs).take (dataLimit uri).toNat) := by
    unfold readFiltered sinceRecords
    cases sinceTs uri with
    | none => rw [List.take_nil]
    | some t =>
      obtain ⟨probes, hread, -⟩ := h.readSince_eq hg hsorted t (dataLimit uri) hfuel
      dsimp only
      rw [hread, Option.map_some]
  unfold dataGetHandler
  dsimp only
  rw [CStr.isEmpty_eq_false.mpr hid, if_neg Bool.false_ne_true, if_neg Bool.false_ne_true, hsince,
    Option.map_some]
  refine congrArg some ?_
  by_cases hnone : sinceRecords uri recs = []
  · rw [if_pos hnone, hnone, List.take_nil, if_pos List.length_nil]
    by_cases ho : dataOffset uri ≥ dataStoreGetCount fs (queryParam uri "id" 32)
    · rw [if_pos ho, List.drop_eq_nil_of_le, List.take_nil]
      rwa [ge_iff_le, UInt32.le_iff_toNat_le, hcount] at ho
    · rw [if_neg ho, h.readRange_eq hg]
      rw [ge_iff_le, UInt32.le_iff_toNat_le, hcount] at ho
      have havail : (dataStoreGetCount fs (queryParam uri "id" 32) - dataOffset uri).toNat =
          recs.length - (dataOffset uri).toNat := by
        rw [UInt32.toNat_sub_of_le _ _ (by rw [UInt32.le_iff_toNat_le]; omega), hcount]
      refine congrArg DataResponse.records ?_
      rw [List.take_eq_take_iff, List.length_drop]
      simp only [gt_iff_lt, UInt32.lt_iff_toNat_lt, havail]
      split <;> omega
  · rw [if_neg hnone, if_neg]
    rw [List.length_take]
    have := List.length_pos_iff.mpr hnone
    omega

/-! ## The filter -/

/-- The query has a parameter `since=` with the decimal number `n`. -/
def CarriesSince (uri : List UInt8) (n : Nat) : Prop :=
  ∃ pre ds post, strchr uri 63 = some (pre ++ ascii "since=" ++ ds ++ post) ∧
    (pre.getLast? = some 63 ∨ pre.getLast? = some 38) ∧
    ds ≠ [] ∧ (∀ b ∈ ds, Decimal.isDigit b = true) ∧ Decimal.value ds = n ∧
    (post = [] ∨ post.head? = some 38)

/-- Nothing is emitted that is older than a time the query asks for, and nothing at all when
    no stored record is that recent. -/
def SinceRespected (uri : List UInt8) (recs emitted : List DataRecord) : Prop :=
  ∀ n, CarriesSince uri n →
    (∀ rec ∈ emitted, n ≤ rec.time) ∧ ((∀ rec ∈ recs, rec.time < n) → emitted = [])

/-- The lookup yields a time that some record reaches, and no record lies between it and `n`;
    or no record reaches it, and the page starts behind the sequence or at a record since `n`. -/
def FilterHolds (uri : List UInt8) (recs : List DataRecord) (n : Nat) : Prop :=
  (∃ t, sinceTs uri = some t ∧ (∃ rec ∈ recs, t ≤ rec.timestamp) ∧
    ∀ rec ∈ recs, ¬(t ≤ rec.timestamp ∧ rec.time < n)) ∨
  ((∀ t, sinceTs uri = some t → ∀ rec ∈ recs, rec.timestamp < t) ∧
    ∀ rec, recs[(dataOffset uri).toNat]? = some rec → n ≤ rec.time)

/-- In a sorted sequence the first record decides. -/
theorem forall_take_iff {l : List DataRecord} (hl : l.Pairwise fun a b => a.time ≤ b.time)
    {k : Nat} (hk : 0 < k) (n : Nat) :
    (∀ rec ∈ l.take k, n ≤ rec.time) ↔ ∀ rec, l[0]? = some rec → n ≤ rec.time := by
  cases l with
  | nil => simp
  | cons x l =>
    obtain ⟨k, rfl⟩ : ∃ j, k = j + 1 := ⟨k - 1, by omega⟩
    rw [List.take_succ_cons, List.getElem?_cons_zero]
    constructor
    · rintro h rec ⟨⟩
      exact h x List.mem_cons_self
    · intro h rec hrec
      have hx := h x rfl
      rcases List.mem_cons.mp hrec with rfl | hrec
      · exact hx
      · exact hx.trans (List.rel_of_pairwise_cons hl (List.mem_of_mem_take hrec))

theorem forall_filter_iff {l : List DataRecord} (hl : l.Pairwise fun a b => a.time ≤ b.time)
    (n : Nat) :
    (∀ rec, l[0]? = some rec → n ≤ rec.time) ↔ ∀ rec ∈ l, n ≤ rec.time := by
  rw [← forall_take_iff hl (Nat.succ_pos l.length), List.take_of_length_le (Nat.le_succ _)]

theorem sinceRecords_eq_nil_iff {uri : List UInt8} :
    sinceRecords uri recs = [] ↔ ∀ t, sinceTs uri = some t → ∀ rec ∈ recs, rec.timestamp < t := by
  unfold sinceRecords
  cases sinceTs uri with
  | none => simp
  | some t => simp [List.filter_eq_nil_iff]

theorem emitted_since_iff (hsorted : recs.Pairwise fun a b => a.time ≤ b.time)
    (uri : List UInt8) (n : Nat) :
    (∀ rec ∈ (if sinceRecords uri recs = [] then
        (recs.drop (dataOffset uri).toNat).take (dataLimit uri).toNat
      else (sinceRecords uri recs).take (dataLimit uri).toNat), n ≤ rec.time) ↔
      FilterHolds uri recs n := by
  have hlimit := dataLimit_pos uri
  unfold FilterHolds
  by_cases hnone : sinceRecords uri recs = []
  · rw [if_pos hnone, forall_take_iff (hsorted.sublist (List.drop_sublist _ _)) hlimit,
      List.getElem?_drop, Nat.add_zero]
    have hmiss := sinceRecords_eq_nil_iff.mp hnone
    constructor
    · exact fun h => Or.inr ⟨hmiss, h⟩
    · intro h
      rcases h with ⟨t, ht, ⟨rec, hrec, hle⟩, -⟩ | ⟨-, h⟩
      · exact absurd (hmiss t ht rec hrec) (UInt32.not_lt.mpr hle)
      · exact h
  · rw [if_neg hnone]
    have hmiss := mt sinceRecords_eq_nil_iff.mpr hnone
    cases hs : sinceTs uri with
    | none =>
      rw [sinceRecords, hs] at hnone
      exact absurd rfl hnone
    | some t =>
      have hrecs : sinceRecords uri recs = recs.filter fun rec => t ≤ rec.timestamp := by
        rw [sinceRecords, hs]
      have hsub := hsorted.sublist (List.filter_sublist (p := fun rec => t ≤ rec.timestamp))
      rw [hrecs, forall_take_iff hsub hlimit, forall_filter_iff hsub]
      obtain ⟨rec, hrec⟩ := List.exists_mem_of_ne_nil _ hnone
      rw [hrecs, List.mem_filter, decide_eq_true_eq] at hrec
      constructor
      · intro h
        refine Or.inl ⟨t, rfl, ⟨rec, hrec⟩, fun x hx hlt => ?_⟩
        have := h x (List.mem_filter.mpr ⟨hx, decide_eq_true hlt.1⟩)
        omega
      · intro h x hx
        rw [List.mem_filter, decide_eq_true_eq] at hx
        rcases h with ⟨t', ht', -, h⟩ | ⟨h, -⟩
        · cases ht'
          have := h x hx.1
          exact Nat.le_of_not_lt fun hlt => this ⟨hx.2, hlt⟩
        · exact absurd (h t rfl rec hrec.1) (UInt32.not_lt.mpr hrec.2)

/-- **The since filter.** For every client file whose records are sorted by timestamp and every
    query, `data_get_handler` answers, and the filter is respected exactly when nothing is read
    at all or the lookup finds records of that time, or none and the page has none either. -/
theorem since_respected_iff {total : UInt32} (hinit : dataStoreInit total = some g) (hpos : 0 < g)
    {uri : List UInt8} (h : HoldsSeq g fs (queryParam uri "id" 32) recs)
    (hsorted : recs.Pairwise fun a b => a.timestamp ≤ b.timestamp) (malloc : Bool) {fuel : Nat}
    (hfuel : recs.length < 2 ^ fuel) :
    ∃ resp, dataGetHandler fuel malloc fs uri = some resp ∧
      (SinceRespected uri recs resp.emitted ↔
        (queryParam uri "id" 32 : Id) = CStr.empty ∨ malloc = true ∨
          ∀ n, CarriesSince uri n → FilterHolds uri recs n) := by
  have hnone : ∀ resp : DataResponse, resp.emitted = [] →
      SinceRespected uri recs resp.emitted := by
    intro resp hresp n _
    rw [hresp]
    exact ⟨fun _ hrec => absurd hrec List.not_mem_nil, fun _ => rfl⟩
  by_cases hid : (queryParam uri "id" 32 : Id) = CStr.empty
  · refine ⟨.plain "missing id" 10, ?_, iff_of_true (hnone _ rfl) (Or.inl hid)⟩
    unfold dataGetHandler
    exact if_pos (CStr.isEmpty_iff.mpr hid)
  · cases malloc with
    | true =>
      refine ⟨.error 500, ?_, iff_of_true (hnone _ rfl) (Or.inr (Or.inl rfl))⟩
      unfold dataGetHandler
      dsimp only
      rw [CStr.isEmpty_eq_false.mpr hid, if_neg Bool.false_ne_true, if_pos rfl]
    | false =>
      refine ⟨_, dataGetHandler_eq hinit hpos hid h hsorted hfuel, ?_⟩
      have htimes : recs.Pairwise fun a b => a.time ≤ b.time :=
        hsorted.imp fun hab => UInt32.le_iff_toNat_le.mp hab
      have hiff := emitted_since_iff htimes uri
      rw [DataResponse.emitted]
      generalize hemitted : (if sinceRecords uri recs = [] then _ else _ : List DataRecord) =
        emitted at hiff ⊢
      -- every record sent is a stored one
      have hstored : ∀ rec ∈ emitted, rec ∈ recs := by
        intro rec hrec
        rw [← hemitted] at hrec
        split at hrec
        · exact List.mem_of_mem_drop (List.mem_of_mem_take hrec)
        · have := List.mem_of_mem_take hrec
          unfold sinceRecords at this
          split at this
          · cases this
          · exact List.mem_of_mem_filter this
      constructor
      · exact fun hs => Or.inr (Or.inr fun n hn => (hiff n).mp (hs n hn).1)
      · intro hc n hn
        have hf := (hc.resolve_left hid).resolve_left Bool.false_ne_true n hn
        have hall := (hiff n).mpr hf
        refine ⟨hall, fun hold => List.eq_nil_iff_forall_not_mem.mpr fun rec hrec => ?_⟩
        exact absurd (hall rec hrec) (Nat.not_le.mpr (hold rec (hstored rec hrec)))

/-- A query whose lookup yields the number it asks for: the filter is respected exactly when
    some record is that recent or the page starts behind the sequence. -/
theorem filterHolds_of_lookup {uri : List UInt8} {t : UInt32} (ht : sinceTs uri = some t) :
    FilterHolds uri recs t.toNat ↔
      (∃ rec ∈ recs, t ≤ rec.timestamp) ∨ recs.length ≤ (dataOffset uri).toNat := by
  unfold FilterHolds
  rw [ht]
  constructor
  · intro h
    rcases h with ⟨t', ht', h, -⟩ | ⟨hmiss, hpage⟩
    · cases ht'
      exact Or.inl h
    · refine Or.inr (Nat.le_of_not_lt fun hlt => ?_)
      have hge := hpage _ (List.getElem?_eq_getElem hlt)
      have hold := hmiss t rfl _ (List.getElem_mem hlt)
      exact absurd (UInt32.lt_iff_toNat_lt.mp hold) (Nat.not_lt.mpr hge)
  · intro h
    by_cases hsome : ∃ rec ∈ recs, t ≤ rec.timestamp
    · refine Or.inl ⟨t, rfl, hsome, fun rec _ hlt => ?_⟩
      exact absurd (UInt32.le_iff_toNat_le.mp hlt.1) (Nat.not_le.mpr hlt.2)
    · have hlen := h.resolve_left hsome
      refine Or.inr ⟨fun t' ht' rec hrec => ?_, fun rec hrec => ?_⟩
      · cases ht'
        exact UInt32.not_le.mp fun hle => hsome ⟨rec, hrec, hle⟩
      · rw [List.getElem?_eq_none hlen] at hrec
        cases hrec

/-- The one time that a query asks for whose text ends in it. -/
theorem carriesSince_seventy {uri : List UInt8}
    (huri : strchr uri 63 = some (ascii "?id=a&since=70")) {n : Nat} (h : CarriesSince uri n) :
    n = 70 := by
  obtain ⟨pre, ds, post, htext, -, hne, -, hvalue, hpost⟩ := h
  rw [huri, Option.some.injEq, List.append_assoc, List.append_assoc] at htext
  have hat : ∀ k < 15, (ascii "since=").isPrefixOf ((ascii "?id=a&since=70").drop k) = true →
      k = 6 := by decide
  have hlen := congrArg List.length htext
  rw [List.length_append, List.length_append] at hlen
  have hk : pre.length = 6 := by
    refine hat pre.length ?_ ?_
    · have hlen' : (ascii "?id=a&since=70").length = 14 := by decide
      omega
    · rw [htext, List.drop_left, List.isPrefixOf_iff_prefix]
      exact List.prefix_append _ _
  have hrest : ds ++ post = ascii "70" := by
    have hsplit : ascii "?id=a&" ++ (ascii "since=" ++ ascii "70") =
        pre ++ (ascii "since=" ++ (ds ++ post)) := htext
    obtain ⟨-, htail⟩ := List.append_inj hsplit hk.symm
    exact (List.append_cancel_left htail).symm
  -- nothing stands behind the digits
  rcases hpost with rfl | hhead
  · rw [List.append_nil] at hrest
    rw [← hvalue, hrest]
    decide
  · have hmem : (38 : UInt8) ∈ ds ++ post :=
      List.mem_append_right _ (List.mem_of_mem_head? hhead)
    rw [hrest] at hmem
    exact absurd hmem (by decide)

/-- A query since 70: three of four records are that recent. -/
theorem since_respected_recent :
    let uri := ascii "/api/data?id=a&since=70"
    ∃ resp, dataGetHandler 3 false minutesFs uri = some resp ∧
      SinceRespected uri minutesLog resp.emitted := by
  intro uri
  have hid : queryParam uri "id" 32 = clientA := by decide +kernel
  obtain ⟨resp, hresp, hiff⟩ := since_respected_iff (by decide : dataStoreInit 34640 = some 4)
    (by decide) (hid ▸ minutesFs_holds) (by decide) false (by decide : minutesLog.length < 2 ^ 3)
  refine ⟨resp, hresp, hiff.mpr (Or.inr (Or.inr fun n hn => ?_))⟩
  obtain rfl := carriesSince_seventy (by decide +kernel) hn
  exact (filterHolds_of_lookup (by decide +kernel : sinceTs uri = some 70)).mpr
    (Or.inl ⟨_, List.mem_cons_of_mem _ List.mem_cons_self, by decide⟩)

/-- A query since 200, which no record reaches, is answered with the record of time 100. -/
theorem since_filter_falls_through :
    let uri := ascii "/api/data?id=a&since=200"
    dataStoreInit 34000 = some 2 ∧ HoldsSeq 2 hundredFs (queryParam uri "id" 32) [hundred] ∧
      dataGetHandler 2 false hundredFs uri = some (.records [hundred]) ∧
      ¬SinceRespected uri [hundred] [hundred] := by
  intro uri
  have hid : queryParam uri "id" 32 = clientA := by decide +kernel
  refine ⟨by decide, hid ▸ hundredFs_holds, by decide +kernel, fun h => ?_⟩
  have hcarries : CarriesSince uri 200 :=
    ⟨ascii "?id=a&", ascii "200", [], by decide +kernel, Or.inr (by decide), by decide,
      by decide +kernel, by decide, Or.inl rfl⟩
  have hrec := (h 200 hcarries).1 hundred List.mem_cons_self
  exact absurd hrec (by decide)

end IndoorLogger
