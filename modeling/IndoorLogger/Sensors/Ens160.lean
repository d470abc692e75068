import IndoorLogger.Lib.Binary64
import IndoorLogger.Lib.FixedCodec

/-
  The air quality sensor (`ens160.c`): reading its data, and the compensation words written to
  its registers. Temperatures and humidities are exact numbers.
-/

namespace IndoorLogger

/-! ## Reading -/

/-- `ens160_data_t`. -/
structure Ens160Data where
  aqi : UInt8
  eco2 : UInt16
  tvoc : UInt16
  deriving DecidableEq

/-- The answers of the bus to the register reads and writes of one call. -/
structure Ens160Bus where
  readStatus : Nat → Option UInt8
  readData : Option (Vector UInt8 5)
  writeReg : UInt8 → UInt8 → Bool

/-- The polling loop, with `left` attempts after this one: the last status that was read. -/
def pollStatus (bus : Ens160Bus) (attempt : Nat) : Nat → Option UInt8
  | 0 => bus.readStatus attempt
  | left + 1 =>
    match bus.readStatus attempt with
    | none => none
    | some status =>
      if status &&& 0x02 ≠ 0 then some status else pollStatus bus (attempt + 1) left

/-- `ens160_read`. -/
def ens160Read (bus : Ens160Bus) : Except Int Ens160Data :=
  match pollStatus bus 0 2 with
  | none => .error (-1)
  | some status =>
    if status &&& 0x02 = 0 then .error (-2)
    else
      match bus.readData with
      | none => .error (-1)
      | some buf =>
        .ok {
          aqi := buf[0]
          tvoc := buf[1].toUInt16 ||| (buf[2].toUInt16 <<< 8)
          eco2 := buf[3].toUInt16 ||| (buf[4].toUInt16 <<< 8) }

/-! ## Compensation -/

def ens160RegTempIn : UInt8 := 0x26

def ens160RegRhIn : UInt8 := 0x28

/-- `temp_k`, before it is cut to sixteen bits. -/
def tempKelvin64 (temperature : ℚ) : ℚ := (temperature + 27315 / 100) * 64

/-- `rh`, before it is cut to sixteen bits. -/
def rh512 (humidity : ℚ) : ℚ := humidity * 512

/-- Register writes in order, until one of them fails: those that were made, and whether all
    were. -/
def writeRegs (bus : Ens160Bus) : List (UInt8 × UInt8) → List (UInt8 × UInt8) × Int
  | [] => ([], 0)
  | (reg, val) :: writes =>
    if bus.writeReg reg val then
      ((reg, val) :: (writeRegs bus writes).1, (writeRegs bus writes).2)
    else ([], -1)

/-- `ens160_set_env`. -/
def ens160SetEnv (bus : Ens160Bus) (temperature humidity : ℚ) : List (UInt8 × UInt8) × Int :=
  let tempK := UInt16.ofInt (Binary64.truncate (tempKelvin64 temperature))
  let rh := UInt16.ofInt (Binary64.truncate (rh512 humidity))
  writeRegs bus
    [(ens160RegTempIn, (tempK &&& 0xFF).toUInt8), (ens160RegTempIn + 1, (tempK >>> 8).toUInt8),
      (ens160RegRhIn, (rh &&& 0xFF).toUInt8), (ens160RegRhIn + 1, (rh >>> 8).toUInt8)]

/-- The register bytes are the little-endian image of the word. -/
theorem registerBytes (w : UInt16) :
    [(w &&& 0xFF).toUInt8, (w >>> 8).toUInt8] = FixedCodec.u16.enc w := by
  have hlow : (w &&& 0xFF).toUInt8 = FixedCodec.byte w.toNat 0 := by
    apply UInt8.toNat_inj.mp
    rw [UInt16.toNat_toUInt8, UInt16.toNat_and, FixedCodec.byte_toNat, pow_zero, Nat.div_one,
      show (0xFF : UInt16).toNat = 2 ^ 8 - 1 from rfl, Nat.and_two_pow_sub_one_eq_mod,
      Nat.mod_mod]
  have hhigh : (w >>> 8).toUInt8 = FixedCodec.byte w.toNat 1 := by
    apply UInt8.toNat_inj.mp
    rw [UInt16.toNat_toUInt8, UInt16.toNat_shiftRight, FixedCodec.byte_toNat,
      Nat.shiftRight_eq_div_pow]
    rfl
  rw [hlow, hhigh]
  rfl

/-- Writes that all succeed were all made. -/
theorem writeRegs_eq {bus : Ens160Bus} {writes : List (UInt8 × UInt8)}
    (h : (writeRegs bus writes).2 = 0) : (writeRegs bus writes).1 = writes := by
  induction writes with
  | nil => rfl
  | cons write writes ih =>
    obtain ⟨reg, val⟩ := write
    unfold writeRegs at h ⊢
    split at h
    case isTrue hok => rw [if_pos hok, ih h]
    case isFalse => cases h

/-- The two words that arrive at the sensor when all writes succeed. -/
theorem ens160SetEnv_words {bus : Ens160Bus} {temperature humidity : ℚ}
    (h : (ens160SetEnv bus temperature humidity).2 = 0) :
    ∃ tLow tHigh rhLow rhHigh : UInt8,
      (ens160SetEnv bus temperature humidity).1 =
        [(0x26, tLow), (0x27, tHigh), (0x28, rhLow), (0x29, rhHigh)] ∧
      FixedCodec.u16.dec [tLow, tHigh] =
        UInt16.ofInt (Binary64.truncate (tempKelvin64 temperature)) ∧
      FixedCodec.u16.dec [rhLow, rhHigh] =
        UInt16.ofInt (Binary64.truncate (rh512 humidity)) := by
  refine ⟨_, _, _, _, writeRegs_eq h, ?_, ?_⟩
  · rw [registerBytes, FixedCodec.dec_enc]
  · rw [registerBytes, FixedCodec.dec_enc]

end IndoorLogger
