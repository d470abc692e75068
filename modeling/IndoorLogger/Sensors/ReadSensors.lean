import IndoorLogger.Client.DataStorage
import IndoorLogger.Lib.Machine
import IndoorLogger.Sensors.Aht21
import IndoorLogger.Sensors.Ens160

/-
  `read_sensors_and_store` of the client's `main.c`: a sensor that does not answer leaves its
  last values in place, and these are stored again. Every record of a run has a temperature and
  a humidity in the range of the sensor.
-/

namespace IndoorLogger

open Machine

/-- `last_aht_data` and `last_ens_data`. -/
structure Sensors where
  lastAht : Aht21Data
  lastEns : Ens160Data

/-- Before the first reading. -/
def Sensors.start : Sensors := ⟨⟨0, 0⟩, ⟨0, 0, 0⟩⟩

/-- What one call finds: the two sensors, the tick count, `time(NULL)` and the mode. -/
structure SensorInput where
  aht : Aht21Bus
  ens : Ens160Bus
  ticks : UInt32
  time : Int32
  basicMode : Bool

/-- The record handed to the storage, the register writes of the compensation and the result. -/
structure SensorOutput where
  record : ClientRecord ℚ
  envWrites : List (UInt8 × UInt8)
  ok : Bool

/-- The reading at the start, which is only displayed. -/
def readAtStart (aht : Aht21Bus) (ens : Ens160Bus) (s : Sensors) : Sensors where
  lastAht := (aht21Read aht).getD s.lastAht
  lastEns :=
    match ens160Read ens with
    | .ok data => data
    | .error _ => s.lastEns

/-- `read_sensors_and_store`, up to the append. -/
def readSensorsAndStore (tickPeriodMs : UInt32) (s : Sensors) (io : SensorInput) :
    Sensors × SensorOutput :=
  let lastAht := (aht21Read io.aht).getD s.lastAht
  let lastEns :=
    if io.basicMode then ⟨0, 0, 0⟩
    else
      match ens160Read io.ens with
      | .ok data => data
      | .error _ => s.lastEns
  let uptimeSec := io.ticks * tickPeriodMs / 1000
  (⟨lastAht, lastEns⟩,
    { record :=
        { timestamp := if io.time ≤ 0 then uptimeSec.toInt32 else io.time
          uptimeSec := uptimeSec
          temperature := lastAht.temperature
          humidity := lastAht.humidity
          eco2 := lastEns.eco2
          tvoc := lastEns.tvoc
          aqi := lastEns.aqi
          synced := false }
      envWrites :=
        if io.basicMode then []
        else (ens160SetEnv io.ens lastAht.temperature lastAht.humidity).1
      ok := (aht21Read io.aht).isSome && (io.basicMode || (ens160Read io.ens).toOption.isSome) })

theorem sensorRange_read {bus : Aht21Bus} {d : Aht21Data} (h : aht21Read bus = some d) :
    SensorRange d := by
  obtain ⟨buf, -, rfl⟩ := Option.map_eq_some_iff.mp h
  exact sensorRange_convert buf

theorem sensorRange_start : SensorRange Sensors.start.lastAht := by
  constructor
  · norm_num [Sensors.start]
  · norm_num [Sensors.start]

/-- A reading that fails leaves a pair that is in range. -/
theorem sensorRange_getD (bus : Aht21Bus) {last : Aht21Data} (h : SensorRange last) :
    SensorRange ((aht21Read bus).getD last) := by
  cases hread : aht21Read bus with
  | none => exact h
  | some d => exact sensorRange_read hread

/-- The uptime in seconds is a time that is not negative. -/
theorem uptimeSec_nonneg (ticks tickPeriodMs : UInt32) :
    0 ≤ (ticks * tickPeriodMs / 1000).toInt32.toInt := by
  have hlt := (ticks * tickPeriodMs).toNat_lt
  have hnat : (ticks * tickPeriodMs / 1000).toNat = (ticks * tickPeriodMs).toNat / 1000 :=
    UInt32.toNat_div _ _
  have htoInt : (ticks * tickPeriodMs / 1000).toInt32.toInt =
      (ticks * tickPeriodMs / 1000).toBitVec.toInt := rfl
  rw [htoInt, BitVec.toInt_eq_toNat_of_lt]
  · exact Int.natCast_nonneg _
  · rw [UInt32.toNat_toBitVec, hnat]
    omega

end IndoorLogger
