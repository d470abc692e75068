import Mathlib.Algebra.Order.Ring.Int
import Mathlib.Data.UInt
import IndoorLogger.Lib.Machine
import IndoorLogger.Client.ClientTask

/-
  The wall clock of the client over light sleep, in which it stands still. It is advanced by the
  planned duration whatever woke the client, so that it is right exactly after the sleeps that
  last as planned and end before the seconds run over their 32 bits (`clock_exact_iff`).
-/

namespace IndoorLogger

open Machine

/-! ## The clock -/

/-- A `struct timeval`, with the 32 bits of its `tv_sec` and of its `tv_usec`. -/
structure Timeval where
  sec : Int32
  usec : UInt32
  deriving DecidableEq

def Timeval.Normalised (tv : Timeval) : Prop := tv.usec < 1000000

/-- The time in microseconds. -/
def Timeval.micros (tv : Timeval) : Int := tv.sec.toInt * 1000000 + tv.usec.toNat

instance (tv : Timeval) : Decidable tv.Normalised := inferInstanceAs (Decidable (_ < _))

/-- The clock at a time; its seconds wrap. -/
def Timeval.ofMicros (micros : Int) : Timeval :=
  ⟨Int32.ofInt (micros / 1000000), UInt32.ofNat (micros % 1000000).toNat⟩

/-- Microseconds are added, with the carry into the seconds. -/
def Timeval.addUsec (addUsec : UInt32) (tv : Timeval) : Timeval :=
  let tv := { tv with usec := tv.usec + addUsec }
  if tv.usec ≥ 1000000 then ⟨tv.sec + 1, tv.usec - 1000000⟩ else tv

/-- `client_adjust_time_after_sleep`; `getOk` when `gettimeofday` succeeds. -/
def clientAdjustTimeAfterSleep (getOk : Bool) (sleepMs : UInt32) (tv : Timeval) : Timeval :=
  if sleepMs = 0 then tv
  else if !getOk then tv
  else
    let addSec := sleepMs / 1000
    let addUsec := sleepMs % 1000 * 1000
    let tv := tv.addUsec addUsec
    { tv with sec := tv.sec + addSec.toInt32 }

/-- The places where the client sleeps; the last of them for `sleep_ticks`. -/
inductive SleepSite where
  | buttonCycle
  | timerCycle
  | loop (sleepTicks : UInt32)
  deriving DecidableEq

/-- `s_planned_sleep_ms`. -/
def plannedSleepMs (hz : UInt32) : SleepSite → UInt32
  | .buttonCycle => 300000
  | .timerCycle => 300000
  | .loop sleepTicks =>
    let sleepMs := sleepTicks * (1000 / hz)
    if sleepMs = 0 then 1 else sleepMs

/-- The wall clock, and the time it should show in microseconds. -/
structure WallClock where
  tv : Timeval
  trueMicros : Int

/-- What happens to the clock: time passes, the server sets it, or the client sleeps until the
    timer or the button wakes it. -/
inductive ClockInput where
  | awake (micros : Nat)
  | sync (ts : UInt32)
  | sleep (site : SleepSite) (micros : Nat) (getOk : Bool)

def clockStep (hz : UInt32) (c : WallClock) : ClockInput → WallClock × Unit
  | .awake micros =>
    ({ tv := Timeval.ofMicros (c.tv.micros + micros), trueMicros := c.trueMicros + micros }, ())
  | .sync ts => ({ c with tv := ⟨ts.toInt32, 0⟩ }, ())
  | .sleep site micros getOk =>
    ({ tv := clientAdjustTimeAfterSleep getOk (plannedSleepMs hz site) c.tv
       trueMicros := c.trueMicros + micros }, ())

/-! ## The seconds -/

variable {hz : UInt32} {tv : Timeval} {c : WallClock}

theorem toInt_ofInt_wrapped (n : Int) : ∃ k : Int, (Int32.ofInt n).toInt = n - k * 4294967296 := by
  have hwrap : (Int32.ofInt n).toInt = n.bmod 4294967296 := Int32.toInt_ofInt
  have hmod := Int.emod_add_mul_ediv n 4294967296
  rw [hwrap, Int.bmod_def]
  split
  · exact ⟨n / 4294967296, by omega⟩
  · exact ⟨n / 4294967296 + 1, by omega⟩

theorem toInt32_eq (n : UInt32) : n.toInt32 = Int32.ofInt n.toNat := by
  apply Int32.toBitVec_inj.mp
  rw [UInt32.toBitVec_toInt32]
  exact (BitVec.ofNat_toNat 32 n.toBitVec).symm

/-- What a normalised clock can show. -/
theorem micros_mem (h : tv.Normalised) :
    -2147483648000000 ≤ tv.micros ∧ tv.micros < 2147483648000000 := by
  have hmillion : (1000000 : UInt32).toNat = 1000000 := rfl
  have husec : tv.usec.toNat < 1000000 := UInt32.lt_iff_toNat_lt.mp h
  have hlo := tv.sec.le_toInt
  have hhi := tv.sec.toInt_lt
  unfold Timeval.micros
  omega

theorem toNat_usec_ofMicros (micros : Int) :
    (Timeval.ofMicros micros).usec.toNat = (micros % 1000000).toNat := by
  unfold Timeval.ofMicros
  rw [UInt32.toNat_ofNat']
  omega

/-- A clock that is set is normalised, and shows the time but for its wraps. -/
theorem ofMicros_spec (micros : Int) :
    (Timeval.ofMicros micros).Normalised ∧
      ∃ k : Int, (Timeval.ofMicros micros).micros = micros - k * 4294967296000000 := by
  have hmillion : (1000000 : UInt32).toNat = 1000000 := rfl
  have husec := toNat_usec_ofMicros micros
  constructor
  · rw [Timeval.Normalised, UInt32.lt_iff_toNat_lt, husec, hmillion]
    omega
  · obtain ⟨k, hk⟩ := toInt_ofInt_wrapped (micros / 1000000)
    refine ⟨k, ?_⟩
    rw [Timeval.micros, husec, show (Timeval.ofMicros micros).sec.toInt = _ from hk]
    omega

/-- A time that fits is shown. -/
theorem micros_ofMicros {micros : Int} (hlo : -2147483648000000 ≤ micros)
    (hhi : micros < 2147483648000000) : (Timeval.ofMicros micros).micros = micros := by
  obtain ⟨hnorm, k, hk⟩ := ofMicros_spec micros
  have hmem := micros_mem hnorm
  omega

/-- A clock that wraps falls behind. -/
theorem micros_ofMicros_le {micros : Int} (hlo : -2147483648000000 ≤ micros) :
    (Timeval.ofMicros micros).micros ≤ micros := by
  obtain ⟨hnorm, k, hk⟩ := ofMicros_spec micros
  have hmem := micros_mem hnorm
  omega

/-- The clock at the time it shows, some seconds later. -/
theorem ofMicros_eq (sec : Int) {usec : UInt32} (h : usec < 1000000) :
    Timeval.ofMicros (sec * 1000000 + usec.toNat) = ⟨Int32.ofInt sec, usec⟩ := by
  have hmillion : (1000000 : UInt32).toNat = 1000000 := rfl
  have husec : usec.toNat < 1000000 := UInt32.lt_iff_toNat_lt.mp h
  have hdiv : (sec * 1000000 + usec.toNat) / 1000000 = sec := by omega
  have hmod : ((sec * 1000000 + usec.toNat) % 1000000).toNat = usec.toNat := by omega
  unfold Timeval.ofMicros
  rw [hdiv, hmod, UInt32.ofNat_toNat]

theorem ofMicros_micros (h : tv.Normalised) : Timeval.ofMicros tv.micros = tv := by
  rw [Timeval.micros, ofMicros_eq _ h, Int32.ofInt_toInt]

/-- Time that passes does not depend on the wraps before it. -/
theorem ofMicros_add (micros d : Int) :
    Timeval.ofMicros ((Timeval.ofMicros micros).micros + d) = Timeval.ofMicros (micros + d) := by
  have husec := toNat_usec_ofMicros micros
  have hsec : (Timeval.ofMicros micros).sec = Int32.ofInt (micros / 1000000) := rfl
  have hdiv : ((Timeval.ofMicros micros).micros + d) / 1000000 =
      (Timeval.ofMicros micros).sec.toInt + (micros % 1000000 + d) / 1000000 := by
    rw [Timeval.micros]
    omega
  have hmod : ((Timeval.ofMicros micros).micros + d) % 1000000 = (micros + d) % 1000000 := by
    rw [Timeval.micros]
    omega
  have hsum : (micros + d) / 1000000 =
      micros / 1000000 + (micros % 1000000 + d) / 1000000 := by omega
  rw [Timeval.ofMicros, hdiv, hmod, Int32.ofInt_add, Int32.ofInt_toInt, hsec, ← Int32.ofInt_add,
    ← hsum]
  rfl

theorem sync_eq (ts : UInt32) :
    (⟨ts.toInt32, 0⟩ : Timeval) = Timeval.ofMicros (ts.toNat * 1000000) := by
  rw [toInt32_eq, ← ofMicros_eq ts.toNat (by decide : (0 : UInt32) < 1000000), UInt32.toNat_zero,
    Nat.cast_zero, add_zero]

/-! ## The adjustment -/

theorem addUsec_eq (h : tv.Normalised) {addUsec : UInt32} (hadd : addUsec.toNat < 1000000) :
    tv.addUsec addUsec = Timeval.ofMicros (tv.micros + addUsec.toNat) := by
  obtain ⟨sec, usec⟩ := tv
  have hmillion : (1000000 : UInt32).toNat = 1000000 := rfl
  have hlt : usec.toNat < 1000000 := UInt32.lt_iff_toNat_lt.mp h
  have hsum : (usec + addUsec).toNat = usec.toNat + addUsec.toNat := by
    rw [UInt32.toNat_add]
    exact Nat.mod_eq_of_lt (by omega)
  unfold Timeval.addUsec Timeval.micros
  dsimp only
  split
  case isTrue hge =>
    have hcarry : (usec + addUsec - 1000000).toNat = usec.toNat + addUsec.toNat - 1000000 := by
      rw [UInt32.toNat_sub_of_le _ _ hge, hsum, hmillion]
    rw [ge_iff_le, UInt32.le_iff_toNat_le, hsum, hmillion] at hge
    have hbelow : usec + addUsec - 1000000 < 1000000 := by
      rw [UInt32.lt_iff_toNat_lt, hcarry, hmillion]
      omega
    have htime : sec.toInt * 1000000 + usec.toNat + addUsec.toNat =
        (sec.toInt + 1) * 1000000 + (usec + addUsec - 1000000).toNat := by
      rw [hcarry]
      omega
    rw [htime, ofMicros_eq _ hbelow, Int32.ofInt_add, Int32.ofInt_toInt]
    rfl
  case isFalse hno =>
    have htime : sec.toInt * 1000000 + usec.toNat + addUsec.toNat =
        sec.toInt * 1000000 + (usec + addUsec).toNat := by
      rw [hsum]
      omega
    rw [htime, ofMicros_eq _ (UInt32.not_le.mp hno), Int32.ofInt_toInt]

/-- A normalised clock is advanced by the planned duration. -/
theorem adjust_eq (h : tv.Normalised) (getOk : Bool) (sleepMs : UInt32) :
    clientAdjustTimeAfterSleep getOk sleepMs tv =
      Timeval.ofMicros (tv.micros + (if getOk then sleepMs.toNat * 1000 else 0 : Nat)) := by
  have h1000 : (1000 : UInt32).toNat = 1000 := rfl
  have hkept : Timeval.ofMicros (tv.micros + (0 : Nat)) = tv := by
    rw [Nat.cast_zero, add_zero, ofMicros_micros h]
  unfold clientAdjustTimeAfterSleep
  split
  case isTrue h0 =>
    rw [h0]
    cases getOk <;> exact hkept.symm
  case isFalse =>
    cases getOk with
    | false => exact hkept.symm
    | true =>
      have hadd : (sleepMs % 1000 * 1000).toNat = sleepMs.toNat % 1000 * 1000 := by
        rw [UInt32.toNat_mul, UInt32.toNat_mod, h1000]
        omega
      have hdiv : (sleepMs / 1000).toNat = sleepMs.toNat / 1000 := by
        rw [UInt32.toNat_div, h1000]
      have hnorm := (ofMicros_spec (tv.micros + (sleepMs % 1000 * 1000).toNat)).1
      have hsec : (Timeval.ofMicros (tv.micros + (sleepMs % 1000 * 1000).toNat)).sec =
          Int32.ofInt ((tv.micros + (sleepMs % 1000 * 1000).toNat) / 1000000) := rfl
      rw [if_neg (by decide), if_pos rfl]
      dsimp only
      rw [addUsec_eq h (by omega), toInt32_eq, hdiv, hsec, ← Int32.ofInt_add,
        ← ofMicros_eq _ hnorm, toNat_usec_ofMicros, hadd]
      congr 1
      omega

/-! ## Runs -/

/-- The clock is normalised after a sleep and has gone on by what the sleep lasted. -/
def Compensated (hz : UInt32) (c : WallClock) : ClockInput → Prop
  | .sleep site micros getOk =>
    (clockStep hz c (.sleep site micros getOk)).1.tv.Normalised ∧
      (clockStep hz c (.sleep site micros getOk)).1.tv.micros = c.tv.micros + micros
  | _ => True

/-- A sleep lasts as planned; where the clock is not read, it lasts no time at all. It ends
    before the seconds wrap. -/
def LastsAsPlanned (hz : UInt32) (c : WallClock) : ClockInput → Prop
  | .sleep site micros getOk =>
    micros = (if getOk then (plannedSleepMs hz site).toNat * 1000 else 0) ∧
      c.tv.micros + micros < 2 ^ 31 * 1000000
  | _ => True

/-- The server's time is not ahead. -/
def SyncBehind (c : WallClock) : ClockInput → Prop
  | .sync ts => (ts.toNat : Int) * 1000000 ≤ c.trueMicros
  | _ => True

instance (hz : UInt32) (c : WallClock) : ∀ i, Decidable (Compensated hz c i)
  | .sleep _ _ _ => inferInstanceAs (Decidable (_ ∧ _))
  | .awake _ => inferInstanceAs (Decidable True)
  | .sync _ => inferInstanceAs (Decidable True)

instance (hz : UInt32) (c : WallClock) : ∀ i, Decidable (LastsAsPlanned hz c i)
  | .sleep _ _ _ => inferInstanceAs (Decidable (_ ∧ _))
  | .awake _ => inferInstanceAs (Decidable True)
  | .sync _ => inferInstanceAs (Decidable True)

instance (c : WallClock) : ∀ i, Decidable (SyncBehind c i)
  | .sync _ => inferInstanceAs (Decidable (_ ≤ _))
  | .awake _ => inferInstanceAs (Decidable True)
  | .sleep _ _ _ => inferInstanceAs (Decidable True)

theorem normalised_clockStep (h : c.tv.Normalised) (i : ClockInput) :
    (clockStep hz c i).1.tv.Normalised := by
  cases i with
  | awake micros => exact (ofMicros_spec _).1
  | sync ts => exact (by decide : (0 : UInt32) < 1000000)
  | sleep site micros getOk =>
    have hadjust := adjust_eq h getOk (plannedSleepMs hz site)
    unfold clockStep
    dsimp only
    rw [hadjust]
    exact (ofMicros_spec _).1

/-- The clock is compensated exactly for the sleeps that last as planned. -/
theorem compensated_iff (h : c.tv.Normalised) (i : ClockInput) :
    Compensated hz c i ↔ LastsAsPlanned hz c i := by
  cases i with
  | awake micros => exact Iff.rfl
  | sync ts => exact Iff.rfl
  | sleep site micros getOk =>
    have hnorm : (clockStep hz c (.sleep site micros getOk)).1.tv.Normalised :=
      normalised_clockStep h _
    have hadjust := adjust_eq h getOk (plannedSleepMs hz site)
    obtain ⟨hlo, hhi⟩ := micros_mem h
    have hplanned := (plannedSleepMs hz site).toNat_lt
    unfold Compensated LastsAsPlanned
    dsimp only
    rw [and_iff_right hnorm]
    unfold clockStep
    dsimp only
    rw [hadjust]
    -- what is added is less than a whole turn of the seconds
    generalize hadded : (if getOk then (plannedSleepMs hz site).toNat * 1000 else 0) = added
    have hadded_lt : added < 4294967296000 := by
      rw [← hadded]
      split <;> omega
    obtain ⟨hmem, k, hk⟩ := ofMicros_spec (c.tv.micros + added)
    have hafter := micros_mem hmem
    constructor
    · intro heq
      omega
    · rintro ⟨rfl, hfits⟩
      exact micros_ofMicros (by omega) (by omega)

/-- A clock that is not ahead does not get ahead. -/
theorem behind_clockStep (h : c.tv.Normalised) (hle : c.tv.micros ≤ c.trueMicros) {i : ClockInput}
    (hc : LastsAsPlanned hz c i) (hs : SyncBehind c i) :
    (clockStep hz c i).1.tv.micros ≤ (clockStep hz c i).1.trueMicros := by
  have hlo := (micros_mem h).1
  cases i with
  | awake micros =>
    have hbehind := @micros_ofMicros_le (c.tv.micros + micros) (by omega)
    unfold clockStep
    dsimp only
    omega
  | sync ts =>
    have hbehind := @micros_ofMicros_le (ts.toNat * 1000000) (by omega)
    unfold clockStep
    dsimp only
    rw [sync_eq]
    exact hbehind.trans hs
  | sleep site micros getOk =>
    have hmicros := ((compensated_iff h _).mpr hc).2
    unfold clockStep at hmicros ⊢
    dsimp only at hmicros ⊢
    rw [hmicros]
    omega

/-- **The compensation of the clock.** In every run from a normalised clock it is exact for each
    sleep precisely when each sleep lasts as planned, and then a clock that was not ahead of the
    true time never is, as long as the server's is not. -/
theorem clock_exact_iff (hz : UInt32) {c : WallClock} (h : c.tv.Normalised)
    (is : List ClockInput) :
    (Meets (clockStep hz) (Compensated hz) c is ↔ Meets (clockStep hz) (LastsAsPlanned hz) c is) ∧
      (Meets (clockStep hz) (LastsAsPlanned hz) c is → Meets (clockStep hz) SyncBehind c is →
        c.tv.micros ≤ c.trueMicros →
        Always (clockStep hz) (fun c => c.tv.Normalised ∧ c.tv.micros ≤ c.trueMicros) c is) := by
  have hrun : Always (clockStep hz) (fun c => c.tv.Normalised) c is :=
    always_of_step (fun c i hn => normalised_clockStep hn i) is h
  refine ⟨⟨hrun.meets fun c i hn => (compensated_iff hn i).mp,
    hrun.meets fun c i hn => (compensated_iff hn i).mpr⟩, fun hc hs hle => ?_⟩
  exact always_of_meets (fun c i hinv hi =>
    ⟨normalised_clockStep hinv.1 i, behind_clockStep hinv.1 hinv.2 hi.1 hi.2⟩) ⟨h, hle⟩ (hc.and hs)

/-- The button wakes the client in the first second of five minutes: the clock is ahead. -/
theorem early_wake_ahead :
    let c := (clockStep 100 ⟨⟨1700000000, 0⟩, 1700000000000000⟩
      (.sleep .timerCycle 1000000 true)).1
    c.tv = ⟨1700000300, 0⟩ ∧ c.trueMicros = 1700000001000000 ∧
      ¬Compensated 100 ⟨⟨1700000000, 0⟩, 1700000000000000⟩ (.sleep .timerCycle 1000000 true) := by
  decide +kernel

/-- Two sleeps that the timer ends. -/
theorem clock_exact_timer :
    let c : WallClock := ⟨⟨1700000000, 999999⟩, 1700000000999999⟩
    let is := [.sleep .timerCycle 300000000 true, .awake 100000, .sleep (.loop 500) 5000000 true]
    (Meets (clockStep 100) (Compensated 100) c is ↔
        Meets (clockStep 100) (LastsAsPlanned 100) c is) ∧
      (Meets (clockStep 100) (LastsAsPlanned 100) c is → Meets (clockStep 100) SyncBehind c is →
        c.tv.micros ≤ c.trueMicros →
        Always (clockStep 100) (fun c => c.tv.Normalised ∧ c.tv.micros ≤ c.trueMicros) c is) :=
  clock_exact_iff 100 (by decide) _

end IndoorLogger
