import IndoorLogger.Lib.LowerBound
import IndoorLogger.Server.BoundedLog

/-
  `data_store_read_since`: a lower-bound search for the first record of a time, by reading one
  record at a time through the ring, and a range read from there on. The loop of the source
  is the search of the library over the logical sequence of the client (`sinceLoop_eq`).
-/

namespace IndoorLogger

open LowerBound

/-! ## data_store_read_since -/

/-- The loop, with `fuel` for its iterations: the index it ends with and the offsets it probes,
    none when the fuel runs out. A probe that reads nothing ends it. -/
def sinceLoop (fs : Fs) (clientId : Id) (sinceTs : UInt32) :
    Nat → UInt32 → UInt32 → Option (UInt32 × List UInt32)
  | fuel, lo, hi =>
    if lo < hi then
      match fuel with
      | 0 => none
      | fuel + 1 =>
        let mid := (lo + hi) / 2
        match dataStoreReadRange fs clientId mid 1 1 with
        | [rec] =>
          let r := if rec.timestamp < sinceTs then sinceLoop fs clientId sinceTs fuel (mid + 1) hi
            else sinceLoop fs clientId sinceTs fuel lo mid
          r.map fun r => (r.1, mid :: r.2)
        | _ => some (lo, [mid])
    else some (lo, [])

/-- `data_store_read_since`: the records copied to `out`, and the offsets probed. -/
def dataStoreReadSince (fuel : Nat) (fs : Fs) (clientId : Id) (sinceTs capacity : UInt32) :
    Option (List DataRecord × List UInt32) :=
  let count := dataStoreGetCount fs clientId
  if count = 0 || capacity = 0 then some ([], [])
  else
    (sinceLoop fs clientId sinceTs fuel 0 count).map fun r =>
      if r.1 ≥ count then ([], r.2)
      else
        let available := count - r.1
        let available := if available > capacity then capacity else available
        (dataStoreReadRange fs clientId r.1 available capacity, r.2)

/-! ## The search over the sequence -/

/-- The time of a record. -/
def DataRecord.time (rec : DataRecord) : Nat := rec.timestamp.toNat

variable {g : UInt32} {fs : Fs} {id : Id} {recs : List DataRecord}

/-- A probe reads the record at its offset. -/
theorem HoldsSeq.probe_eq (hg : Fits g) (h : HoldsSeq g fs id recs) (mid : UInt32)
    (hmid : mid.toNat < recs.length) :
    dataStoreReadRange fs id mid 1 1 = [recs[mid.toNat]] := by
  rw [h.readRange_eq hg, List.drop_eq_getElem_cons hmid]
  rfl

/-- The loop is the search for the first record that is not older, index by index. -/
theorem sinceLoop_eq (hg : Fits g) (h : HoldsSeq g fs id recs) (sinceTs : UInt32) (fuel : Nat)
    (lo hi : UInt32) (hhi : hi.toNat ≤ recs.length) :
    (sinceLoop fs id sinceTs fuel lo hi).map (fun r => (r.1.toNat, r.2.map UInt32.toNat)) =
      search (isBelow DataRecord.time sinceTs.toNat recs) fuel lo.toNat hi.toNat := by
  have hsmall : recs.length < 2 ^ 31 := by
    have := h.length_le
    have := hg.bytes
    omega
  induction fuel generalizing lo hi with
  | zero =>
    unfold sinceLoop search
    simp only [UInt32.lt_iff_toNat_lt]
    split <;> rfl
  | succ fuel ih =>
    unfold sinceLoop search
    simp only [UInt32.lt_iff_toNat_lt]
    by_cases hlt : lo.toNat < hi.toNat
    · -- the sum of two indices below 2^31 does not wrap
      have hmid : ((lo + hi) / 2).toNat = (lo.toNat + hi.toNat) / 2 := by
        rw [UInt32.toNat_div, UInt32.toNat_add, Nat.mod_eq_of_lt (by omega)]
        rfl
      have hin : ((lo + hi) / 2).toNat < recs.length := by omega
      have hsucc : ((lo + hi) / 2 + 1).toNat = (lo.toNat + hi.toNat) / 2 + 1 := by
        rw [UInt32.toNat_add, hmid, UInt32.toNat_one, Nat.mod_eq_of_lt (by omega)]
      rw [if_pos hlt, if_pos hlt, h.probe_eq hg _ hin]
      have hbelow : isBelow DataRecord.time sinceTs.toNat recs ((lo.toNat + hi.toNat) / 2) =
          decide (recs[((lo + hi) / 2).toNat].timestamp.toNat < sinceTs.toNat) := by
        unfold isBelow
        rw [← hmid, List.getElem?_eq_getElem hin]
        rfl
      have hup := ih ((lo + hi) / 2 + 1) hi hhi
      have hdown := ih lo ((lo + hi) / 2) (by omega)
      rw [hsucc] at hup
      rw [hmid] at hdown
      dsimp only
      rw [hbelow]
      simp only [decide_eq_true_eq]
      split
      · rw [← hup, Option.map_map, Option.map_map, ← hmid]
        rfl
      · rw [← hdown, Option.map_map, Option.map_map, ← hmid]
        rfl
    · rw [if_neg hlt, if_neg hlt]
      rfl

/-- The search finds the first record that is not older, and the rest is one range read. -/
theorem HoldsSeq.readSince_eq (hg : Fits g) (h : HoldsSeq g fs id recs)
    (hsorted : recs.Pairwise fun a b => a.timestamp ≤ b.timestamp)
    (sinceTs capacity : UInt32) {fuel : Nat} (hfuel : recs.length < 2 ^ fuel) :
    ∃ probes, dataStoreReadSince fuel fs id sinceTs capacity =
        some ((recs.filter fun rec => sinceTs ≤ rec.timestamp).take capacity.toNat, probes) ∧
      ∀ p ∈ probes, p.toNat < recs.length := by
  have hcount := h.getCount_eq
  have htimes : recs.Pairwise fun a b => DataRecord.time a ≤ DataRecord.time b :=
    hsorted.imp fun hab => UInt32.le_iff_toNat_le.mp hab
  obtain ⟨r, hr, hle, hfilter, hprobes⟩ := search_sorted sinceTs.toNat htimes hfuel
  have hkey : (recs.filter fun rec => sinceTs ≤ rec.timestamp) =
      recs.filter fun rec => sinceTs.toNat ≤ rec.time :=
    List.filter_congr fun rec _ => decide_eq_decide.mpr UInt32.le_iff_toNat_le
  unfold dataStoreReadSince
  dsimp only
  by_cases hnone : dataStoreGetCount fs id = 0
  · rw [hnone, UInt32.toNat_zero] at hcount
    obtain rfl : recs = [] := List.length_eq_zero_iff.mp hcount.symm
    refine ⟨[], ?_, fun p hp => absurd hp List.not_mem_nil⟩
    rw [if_pos (by rw [hnone]; rfl), List.filter_nil, List.take_nil]
  · by_cases hcap : capacity = 0
    · refine ⟨[], ?_, fun p hp => absurd hp List.not_mem_nil⟩
      rw [if_pos (by rw [hcap]; simp), hcap, UInt32.toNat_zero, List.take_zero]
    · have hloop := sinceLoop_eq hg h sinceTs fuel 0 (dataStoreGetCount fs id) (le_of_eq hcount)
      rw [hcount, UInt32.toNat_zero, hr] at hloop
      obtain ⟨s, hs, hsr⟩ := Option.map_eq_some_iff.mp hloop
      obtain ⟨lo, probes⟩ := s
      obtain rfl : (lo.toNat, probes.map UInt32.toNat) = r := hsr
      dsimp only at hle hfilter hprobes
      refine ⟨probes, ?_, fun p hp => hprobes _ (List.mem_map_of_mem hp)⟩
      rw [if_neg (by simp [hnone, hcap]), hs, Option.map_some, hkey, hfilter]
      dsimp only
      by_cases hend : lo ≥ dataStoreGetCount fs id
      · rw [if_pos hend]
        rw [ge_iff_le, UInt32.le_iff_toNat_le, hcount] at hend
        rw [List.drop_eq_nil_of_le hend, List.take_nil]
      · rw [if_neg hend, h.readRange_eq hg]
        rw [ge_iff_le, UInt32.le_iff_toNat_le, hcount] at hend
        have havail : (dataStoreGetCount fs id - lo).toNat = recs.length - lo.toNat := by
          rw [UInt32.toNat_sub_of_le _ _ (by rw [UInt32.le_iff_toNat_le]; omega), hcount]
        congr 2
        rw [List.take_eq_take_iff, List.length_drop]
        simp only [gt_iff_lt, UInt32.lt_iff_toNat_lt, havail]
        split <;> omega

/-- **Reading since a time is exact.** For every client file, wrapped or not, whose records are
    sorted by timestamp, the search ends after at most one iteration per halving of the
    sequence, probes offsets below the record count only, and the records returned are the
    first of those that are not older than `since_ts`, as many as fit. -/
theorem read_since_exact {total : UInt32} (hinit : dataStoreInit total = some g) (hpos : 0 < g)
    (h : HoldsSeq g fs id recs)
    (hsorted : recs.Pairwise fun a b => a.timestamp ≤ b.timestamp)
    (sinceTs capacity : UInt32) {fuel : Nat} (hfuel : recs.length < 2 ^ fuel) :
    ∃ probes, dataStoreReadSince fuel fs id sinceTs capacity =
        some ((recs.filter fun rec => sinceTs ≤ rec.timestamp).take capacity.toNat, probes) ∧
      ∀ p ∈ probes, p.toNat < recs.length :=
  h.readSince_eq (dataStoreInit_room hinit hpos).1 hsorted sinceTs capacity hfuel

/-- Three records of two clients in files of two records: the ring of `a` has wrapped, and the
    search finds the second of its two records. -/
theorem read_since_exact_wrapped :
    let a : Id := CStr.strncpy (ascii "a")
    let rec' (t : UInt32) : DataRecord := ⟨t, 2150, 4000, 400, 10, 1, 0⟩
    let fs := appendLog 2 Fs.blank [(a, rec' 10), (a, rec' 20), (a, rec' 30)]
    ∃ probes, dataStoreReadSince 2 fs a 25 5 = some ([rec' 30], probes) ∧
      ∀ p ∈ probes, p.toNat < 2 := by
  intro a rec' fs
  have hg : Fits 2 := ⟨by decide, by decide⟩
  have hnewest := appendLog_holdsNewest hg [(a, rec' 10), (a, rec' 20), (a, rec' 30)] a
  obtain ⟨r, hr, hl⟩ := (holdsNewest_cons (by decide)).mp hnewest
  have hseq : HoldsSeq 2 fs a [rec' 20, rec' 30] := Or.inr ⟨r, hr, hl⟩
  have hinit : dataStoreInit 34000 = some 2 := by decide
  exact read_since_exact hinit (by decide) hseq (by decide) 25 5 (by decide)

/-! ## A file with one record of time 100 -/

def hundred : DataRecord := ⟨100, 2150, 4000, 400, 10, 1, 0⟩

def clientA : Id := CStr.strncpy (ascii "a")

/-- The files after one append. -/
def hundredFs : Fs := appendLog 2 Fs.blank [(clientA, hundred)]

theorem hundredFs_holds : HoldsSeq 2 hundredFs clientA [hundred] := by
  have hg : Fits 2 := ⟨by decide, by decide⟩
  have hnewest := appendLog_holdsNewest hg [(clientA, hundred)] clientA
  obtain ⟨r, hr, hl⟩ := (holdsNewest_cons (by decide)).mp hnewest
  exact Or.inr ⟨r, hr, hl⟩

/-! ## A file that has wrapped -/

/-- The records of three minutes, two of them alike in time. -/
def minutesLog : List DataRecord :=
  [⟨60, 2150, 4000, 400, 10, 1, 0⟩, ⟨75, 2250, 4100, 410, 12, 1, 0⟩,
    ⟨75, -125, 9000, 450, 20, 2, 0⟩, ⟨130, 1980, 4250, 430, 15, 1, 0⟩]

/-- The files after five appends; the last one has overwritten the first. -/
def minutesFs : Fs :=
  appendLog 4 Fs.blank (({ hundred with timestamp := 30 } :: minutesLog).map fun rec =>
    (clientA, rec))

theorem minutesFs_holds : HoldsSeq 4 minutesFs clientA minutesLog := by
  have hnewest := appendLog_holdsNewest (g := 4) ⟨by decide, by decide⟩
    (({ hundred with timestamp := 30 } :: minutesLog).map fun rec => (clientA, rec)) clientA
  obtain ⟨r, hr, hl⟩ := (holdsNewest_cons (by decide)).mp hnewest
  exact Or.inr ⟨r, hr, hl⟩

end IndoorLogger
