import IndoorLogger.Sensors.ReadSensors
import IndoorLogger.Sync.ReadingRoundTrip

/-
  The numbers of a measurement on their way to the server. The range of the sensor is the one
  invariant behind every conversion to an integer: the compensation words, the whole degrees,
  tenths and percents of the upload, and the hundredths of the server's record.
-/

namespace IndoorLogger

open Machine

/-! ## Conversions -/

/-- The whole part of a number is a value of the integer type from `lo` to below `hi`. -/
def FitsIn (lo hi : ℤ) (q : ℚ) : Prop :=
  lo ≤ Binary64.truncate q ∧ Binary64.truncate q < hi

/-- A number between whole numbers that the type has. -/
theorem fitsIn_of_mem {lo hi a b : ℤ} {q : ℚ} (ha : (a : ℚ) ≤ q) (hb : q < b) (ha0 : a ≤ 0)
    (hb0 : 0 < b) (hlo : lo ≤ a) (hhi : b ≤ hi) : FitsIn lo hi q := by
  obtain ⟨h1, h2⟩ := Binary64.truncate_mem ha hb ha0 hb0
  exact ⟨by omega, by omega⟩

/-- `uint16_t` keeps what fits into it. -/
theorem FitsIn.toNat_ofInt {q : ℚ} (h : FitsIn 0 (2 ^ 16) q) :
    ((UInt16.ofInt (Binary64.truncate q)).toNat : ℤ) = Binary64.truncate q :=
  toNat_ofInt16 h.1 h.2

/-- The compensation of a pair: both words fit, and what is written to the registers in a call
    that succeeds gives them back. -/
structure CompensationFits (d : Aht21Data) : Prop where
  tempWord : FitsIn 0 (2 ^ 16) (tempKelvin64 d.temperature)
  rhWord : FitsIn 0 (2 ^ 16) (rh512 d.humidity)
  registers : ∀ bus, (ens160SetEnv bus d.temperature d.humidity).2 = 0 →
    ∃ tLow tHigh rhLow rhHigh : UInt8,
      (ens160SetEnv bus d.temperature d.humidity).1 =
        [(0x26, tLow), (0x27, tHigh), (0x28, rhLow), (0x29, rhHigh)] ∧
      (tLow.toNat + 256 * tHigh.toNat : ℤ) = Binary64.truncate (tempKelvin64 d.temperature) ∧
      (rhLow.toNat + 256 * rhHigh.toNat : ℤ) = Binary64.truncate (rh512 d.humidity)

/-- The upload of a record: `int` holds the whole degrees, the tenths and the whole percents,
    the tenths print as one digit, and the server's integer types hold the hundredths that it
    computes from the text. -/
structure UploadFits (rec : ClientRecord ℚ) : Prop where
  degrees : FitsIn (-2 ^ 31) (2 ^ 31) rec.temperature
  tenths : FitsIn (-2 ^ 31) (2 ^ 31) (rec.temperature * 10)
  digit : |(Binary64.truncate (rec.temperature * 10)).tmod 10| ≤ 9
  percents : FitsIn (-2 ^ 31) (2 ^ 31) rec.humidity
  reads : ∀ basicMode, Json.Reads (readingText basicMode rec) (readingJson basicMode rec)
  tempX100 : FitsIn (-2 ^ 15) (2 ^ 15)
    (Binary64.round (valueDouble (tempNumber rec.temperature) * 100))
  humX100 : FitsIn 0 (2 ^ 16)
    (Binary64.round (valueDouble (Binary64.truncate rec.humidity) * 100))
  stored : ∀ now basicMode,
    (decodeReading now (readingJson basicMode rec)).tempX100.toInt =
        Binary64.truncate (Binary64.round (valueDouble (tempNumber rec.temperature) * 100)) ∧
      ((decodeReading now (readingJson basicMode rec)).humX100.toNat : ℤ) =
        Binary64.truncate (Binary64.round (valueDouble (Binary64.truncate rec.humidity) * 100))

/-! ## From the range of the sensor -/

/-- What arrives in two registers is the word they were made of. -/
theorem toNat_registers {low high : UInt8} {q : ℚ} (h : FitsIn 0 (2 ^ 16) q)
    (hdec : FixedCodec.u16.dec [low, high] = UInt16.ofInt (Binary64.truncate q)) :
    (low.toNat + 256 * high.toNat : ℤ) = Binary64.truncate q := by
  have hlow := low.toNat_lt
  have hhigh := high.toNat_lt
  have hnat : (FixedCodec.u16.dec [low, high]).toNat = low.toNat + 256 * high.toNat := by
    change (UInt16.ofNat (low.toNat + 256 * high.toNat)).toNat = _
    rw [UInt16.toNat_ofNat']
    omega
  rw [← h.toNat_ofInt, ← hdec, hnat]
  push_cast
  rfl

theorem SensorRange.compensationFits {d : Aht21Data} (h : SensorRange d) : CompensationFits d := by
  obtain ⟨⟨ht, ht'⟩, hh, hh'⟩ := h
  have htemp : FitsIn 0 (2 ^ 16) (tempKelvin64 d.temperature) := by
    unfold tempKelvin64
    exact fitsIn_of_mem (a := 0) (b := 27082) (by push_cast; linarith) (by push_cast; linarith)
      le_rfl (by decide) le_rfl (by decide)
  have hrh : FitsIn 0 (2 ^ 16) (rh512 d.humidity) := by
    unfold rh512
    exact fitsIn_of_mem (a := 0) (b := 51200) (by push_cast; linarith) (by push_cast; linarith)
      le_rfl (by decide) le_rfl (by decide)
  refine ⟨htemp, hrh, fun bus hok => ?_⟩
  obtain ⟨tLow, tHigh, rhLow, rhHigh, hwrites, hdecT, hdecRh⟩ := ens160SetEnv_words hok
  exact ⟨tLow, tHigh, rhLow, rhHigh, hwrites, toNat_registers htemp hdecT,
    toNat_registers hrh hdecRh⟩

theorem uploadFits_of_range {rec : ClientRecord ℚ}
    (ht : -50 ≤ rec.temperature ∧ rec.temperature < 150)
    (hh : 0 ≤ rec.humidity ∧ rec.humidity < 100) : UploadFits rec := by
  obtain ⟨hh0, hh1⟩ := Binary64.truncate_mem (q := rec.humidity) (a := 0) (b := 100)
    (by exact_mod_cast hh.1) (by exact_mod_cast hh.2) le_rfl (by decide)
  have hm := printedTenths_abs_le ht
  have hnear := hundredths_near _ hm
  have htemp : Binary64.truncate
      (Binary64.round (valueDouble (tempNumber rec.temperature) * 100)) =
        hundredths (printedTenths rec.temperature) := by
    rw [tempNumber_eq]
    rfl
  have hhum : Binary64.truncate
      (Binary64.round (valueDouble (Binary64.truncate rec.humidity) * 100)) =
        100 * Binary64.truncate rec.humidity := by
    rw [round_percent hh0 hh1, Binary64.truncate_intCast]
  rw [abs_le] at hm
  refine ⟨?_, ?_, ?_, ?_, fun basicMode => reads_readingText basicMode rec, ?_, ?_,
    fun now basicMode => ⟨?_, ?_⟩⟩
  · exact fitsIn_of_mem (a := -50) (b := 150) (by exact_mod_cast ht.1) (by exact_mod_cast ht.2)
      (by decide) (by decide) (by decide) (by decide)
  · exact fitsIn_of_mem (a := -500) (b := 1500) (by push_cast; linarith [ht.1])
      (by push_cast; linarith [ht.2]) (by decide) (by decide) (by decide) (by decide)
  · have hmod : ((Binary64.truncate (rec.temperature * 10)).tmod 10).natAbs =
        (Binary64.truncate (rec.temperature * 10)).natAbs % 10 := Int.natAbs_tmod _ 10
    rw [abs_le]
    omega
  · exact ⟨by omega, by omega⟩
  · rw [FitsIn, htemp]
    constructor <;> omega
  · rw [FitsIn, hhum]
    constructor <;> omega
  · rw [toInt_tempX100 now basicMode ht, htemp]
  · rw [toNat_humX100 now basicMode hh0 hh1, hhum]

/-- **The sensor's range.** Whatever frame the sensor sends, the pair computed of it is in range
    and tells the five measured bytes, and no conversion of it overflows: neither in the
    compensation nor in a record with this pair, on the client or on the server. -/
theorem sensor_values_in_range {bus : Aht21Bus} {frame : Aht21Frame}
    (hframe : aht21Receive bus = some frame) :
    ∃ d, aht21Read bus = some d ∧ SensorRange d ∧
      (∀ bus' frame', aht21Receive bus' = some frame' → payload frame' ≠ payload frame →
        aht21Read bus' ≠ some d) ∧
      CompensationFits d ∧
      ∀ rec : ClientRecord ℚ, rec.temperature = d.temperature → rec.humidity = d.humidity →
        UploadFits rec := by
  have hrange := sensorRange_convert frame
  refine ⟨aht21Convert frame, ?_, hrange, ?_, hrange.compensationFits, ?_⟩
  · rw [aht21Read, hframe]
    rfl
  · intro bus' frame' hframe' hne heq
    rw [aht21Read, hframe', Option.map_some, Option.some.injEq] at heq
    exact hne (payload_eq_of_convert heq)
  · intro rec ht hh
    exact uploadFits_of_range (ht ▸ hrange.temperature) (hh ▸ hrange.humidity)

/-- The sensor with a frame to send. -/
def busOf (frame : Aht21Frame) : Aht21Bus := ⟨fun _ => true, fun _ => some frame⟩

def lowestFrame : Aht21Frame := #v[0, 0, 0, 0, 0, 0, 0]

def highestFrame : Aht21Frame := #v[255, 255, 255, 255, 255, 255, 255]

/-- Both halves of the byte that the two numbers share are set. -/
def mildFrame : Aht21Frame := #v[28, 119, 209, 165, 210, 78, 0]

/-- The lowest and the highest numbers, and a frame between them that gives another pair. -/
theorem sensor_values_in_range_frames :
    (∃ d, aht21Read (busOf lowestFrame) = some d ∧ SensorRange d ∧ CompensationFits d) ∧
      (∃ d, aht21Read (busOf highestFrame) = some d ∧ SensorRange d ∧ CompensationFits d) ∧
      ∃ d, aht21Read (busOf mildFrame) = some d ∧ SensorRange d ∧ CompensationFits d ∧
        aht21Read (busOf lowestFrame) ≠ some d ∧ aht21Read (busOf highestFrame) ≠ some d ∧
        UploadFits ⟨1700000000, 60, d.temperature, d.humidity, 412, 15, 1, false⟩ := by
  have hreceive : ∀ frame, aht21Receive (busOf frame) = some frame := fun _ => rfl
  obtain ⟨d, hd, hdrange, -, hdfits, -⟩ := sensor_values_in_range (hreceive lowestFrame)
  obtain ⟨e, he, herange, -, hefits, -⟩ := sensor_values_in_range (hreceive highestFrame)
  obtain ⟨m, hm, hmrange, hother, hmfits, hupload⟩ := sensor_values_in_range (hreceive mildFrame)
  exact ⟨⟨d, hd, hdrange, hdfits⟩, ⟨e, he, herange, hefits⟩, m, hm, hmrange, hmfits,
    hother _ _ (hreceive lowestFrame) (by decide), hother _ _ (hreceive highestFrame) (by decide),
    hupload _ rfl rfl⟩

/-! ## Runs -/

/-- After the reading at the start, a record of a run is in the range of the sensors, whichever
    readings fail. -/
theorem sampled_readSensors (aht : Aht21Bus) (ens : Ens160Bus) (tickPeriodMs : UInt32)
    (ios : List SensorInput) :
    ∀ o ∈ outputs (readSensorsAndStore tickPeriodMs) (readAtStart aht ens Sensors.start) ios,
      Sampled o.record := by
  have hstart : SensorRange (readAtStart aht ens Sensors.start).lastAht :=
    sensorRange_getD aht sensorRange_start
  refine forall_outputs (P := fun s => SensorRange s.lastAht) (fun s io hs => ?_) ios hstart
  have hrange := sensorRange_getD io.aht hs
  refine ⟨hrange, ?_, hrange.temperature, hrange.humidity⟩
  unfold readSensorsAndStore
  dsimp only
  split
  · exact uptimeSec_nonneg io.ticks tickPeriodMs
  case isFalse htime =>
    rw [Int32.le_iff_toInt_le] at htime
    exact le_of_lt (not_le.mp htime)

end IndoorLogger
