import Mathlib.Data.Rat.Floor
import Mathlib.Tactic.Linarith
import Mathlib.Tactic.NormNum

/-
  The temperature and humidity sensor (`aht21.c`). A frame packs two 20-bit numbers into five
  bytes, the fourth of them shared; the pair computed of them is exact here, not rounded to
  `float`. It stays in the range of the sensor and determines the five bytes.
-/

namespace IndoorLogger

/-! ## A measurement -/

/-- `buf` of `aht21_read`. -/
abbrev Aht21Frame := Vector UInt8 7

/-- `aht21_data_t`. -/
structure Aht21Data where
  temperature : ℚ
  humidity : ℚ
  deriving DecidableEq

def humRaw (buf : Aht21Frame) : UInt32 :=
  (buf[1].toUInt32 <<< 12) ||| (buf[2].toUInt32 <<< 4) ||| (buf[3] >>> 4).toUInt32

def tempRaw (buf : Aht21Frame) : UInt32 :=
  ((buf[3] &&& 0x0F).toUInt32 <<< 16) ||| (buf[4].toUInt32 <<< 8) ||| buf[5].toUInt32

/-- What `aht21_read` stores of a frame. -/
def aht21Convert (buf : Aht21Frame) : Aht21Data where
  humidity := (humRaw buf).toNat / 2 ^ 20 * 100
  temperature := (tempRaw buf).toNat / 2 ^ 20 * 200 - 50

/-- The answers of the bus to the attempts of one call. -/
structure Aht21Bus where
  trigger : Nat → Bool
  readRaw : Nat → Option Aht21Frame

/-- A loop of three attempts that stops at the first that succeeds. -/
def threeAttempts {α : Type} (attempt : Nat → Option α) : Option α :=
  (attempt 0).or ((attempt 1).or (attempt 2))

/-- The frame that arrives: the measurement is triggered, then read. -/
def aht21Receive (bus : Aht21Bus) : Option Aht21Frame :=
  match threeAttempts fun i => if bus.trigger i then some () else none with
  | none => none
  | some () => threeAttempts bus.readRaw

/-- `aht21_read`, none for -1. A frame of a busy sensor is only logged. -/
def aht21Read (bus : Aht21Bus) : Option Aht21Data := (aht21Receive bus).map aht21Convert

/-! ## The two numbers -/

/-- A field shifted over a field that fits below it. -/
theorem toNat_shiftLeft_or {a b : UInt32} {k : Nat} (hk : k < 32) (ha : a.toNat * 2 ^ k < 2 ^ 32)
    (hb : b.toNat < 2 ^ k) :
    ((a <<< UInt32.ofNat k) ||| b).toNat = a.toNat * 2 ^ k + b.toNat := by
  have hshift : (a <<< UInt32.ofNat k).toNat = a.toNat <<< k := by
    rw [UInt32.toNat_shiftLeft, UInt32.toNat_ofNat', Nat.mod_mod_of_dvd k (by decide : 32 ∣ 2 ^ 32),
      Nat.mod_eq_of_lt hk, Nat.shiftLeft_eq, Nat.mod_eq_of_lt ha]
  rw [UInt32.toNat_or, hshift, ← Nat.shiftLeft_add_eq_or_of_lt hb, Nat.shiftLeft_eq]

theorem toNat_humRaw (buf : Aht21Frame) :
    (humRaw buf).toNat = buf[1].toNat * 2 ^ 12 + (buf[2].toNat * 2 ^ 4 + buf[3].toNat / 2 ^ 4) := by
  have h1 := buf[1].toNat_lt
  have h2 := buf[2].toNat_lt
  have h3 := buf[3].toNat_lt
  have hhigh : ((buf[3] >>> 4).toUInt32).toNat = buf[3].toNat / 2 ^ 4 := by
    rw [UInt8.toNat_toUInt32, UInt8.toNat_shiftRight, Nat.shiftRight_eq_div_pow]
    rfl
  have hlow : ((buf[2].toUInt32 <<< 4) ||| (buf[3] >>> 4).toUInt32).toNat =
      buf[2].toNat * 2 ^ 4 + buf[3].toNat / 2 ^ 4 := by
    rw [← hhigh, ← UInt8.toNat_toUInt32 buf[2]]
    exact toNat_shiftLeft_or (k := 4) (by decide) (by rw [UInt8.toNat_toUInt32]; omega) (by omega)
  rw [humRaw, UInt32.or_assoc, ← hlow, ← UInt8.toNat_toUInt32 buf[1]]
  exact toNat_shiftLeft_or (k := 12) (by decide) (by rw [UInt8.toNat_toUInt32]; omega) (by omega)

theorem toNat_tempRaw (buf : Aht21Frame) :
    (tempRaw buf).toNat =
      buf[3].toNat % 2 ^ 4 * 2 ^ 16 + (buf[4].toNat * 2 ^ 8 + buf[5].toNat) := by
  have h4 := buf[4].toNat_lt
  have h5 := buf[5].toNat_lt
  have hhigh : ((buf[3] &&& 0x0F).toUInt32).toNat = buf[3].toNat % 2 ^ 4 := by
    rw [UInt8.toNat_toUInt32, UInt8.toNat_and]
    exact Nat.and_two_pow_sub_one_eq_mod _ 4
  have hlow : ((buf[4].toUInt32 <<< 8) ||| buf[5].toUInt32).toNat =
      buf[4].toNat * 2 ^ 8 + buf[5].toNat := by
    rw [← UInt8.toNat_toUInt32 buf[4], ← UInt8.toNat_toUInt32 buf[5]]
    exact toNat_shiftLeft_or (k := 8) (by decide) (by rw [UInt8.toNat_toUInt32]; omega)
      (by rw [UInt8.toNat_toUInt32]; omega)
  rw [tempRaw, UInt32.or_assoc, ← hlow, ← hhigh]
  exact toNat_shiftLeft_or (k := 16) (by decide) (by rw [hhigh]; omega) (by omega)

theorem humRaw_lt (buf : Aht21Frame) : (humRaw buf).toNat < 2 ^ 20 := by
  have h1 := buf[1].toNat_lt
  have h2 := buf[2].toNat_lt
  have h3 := buf[3].toNat_lt
  rw [toNat_humRaw]
  omega

theorem tempRaw_lt (buf : Aht21Frame) : (tempRaw buf).toNat < 2 ^ 20 := by
  have h4 := buf[4].toNat_lt
  have h5 := buf[5].toNat_lt
  rw [toNat_tempRaw]
  omega

/-- The bytes 1 to 5 of a frame, those that are measured. -/
def payload (buf : Aht21Frame) : List UInt8 := [buf[1], buf[2], buf[3], buf[4], buf[5]]

/-- The two numbers hold all five bytes: the shared one is split between them. -/
theorem payload_eq_of_raw {f g : Aht21Frame} (hhum : humRaw f = humRaw g)
    (htemp : tempRaw f = tempRaw g) : payload f = payload g := by
  have hh := congrArg UInt32.toNat hhum
  have ht := congrArg UInt32.toNat htemp
  rw [toNat_humRaw, toNat_humRaw] at hh
  rw [toNat_tempRaw, toNat_tempRaw] at ht
  have f2 := f[2].toNat_lt
  have f3 := f[3].toNat_lt
  have f4 := f[4].toNat_lt
  have f5 := f[5].toNat_lt
  have g2 := g[2].toNat_lt
  have g3 := g[3].toNat_lt
  have g4 := g[4].toNat_lt
  have g5 := g[5].toNat_lt
  have h1 : f[1] = g[1] := UInt8.toNat_inj.mp (by omega)
  have h2 : f[2] = g[2] := UInt8.toNat_inj.mp (by omega)
  have h3 : f[3] = g[3] := UInt8.toNat_inj.mp (by omega)
  have h4 : f[4] = g[4] := UInt8.toNat_inj.mp (by omega)
  have h5 : f[5] = g[5] := UInt8.toNat_inj.mp (by omega)
  rw [payload, payload, h1, h2, h3, h4, h5]

/-! ## The pair -/

/-- The range of the sensor. -/
structure SensorRange (d : Aht21Data) : Prop where
  temperature : -50 ≤ d.temperature ∧ d.temperature < 150
  humidity : 0 ≤ d.humidity ∧ d.humidity < 100

/-- A 20-bit number as a share of one. -/
theorem share_mem {n : Nat} (h : n < 2 ^ 20) : 0 ≤ (n : ℚ) / 2 ^ 20 ∧ (n : ℚ) / 2 ^ 20 < 1 := by
  have hn : (n : ℚ) < 2 ^ 20 := by exact_mod_cast h
  exact ⟨by positivity, by rwa [div_lt_one (by norm_num)]⟩

theorem sensorRange_convert (buf : Aht21Frame) : SensorRange (aht21Convert buf) := by
  obtain ⟨h1, h2⟩ := share_mem (humRaw_lt buf)
  obtain ⟨h3, h4⟩ := share_mem (tempRaw_lt buf)
  constructor
  · unfold aht21Convert
    constructor <;> linarith
  · unfold aht21Convert
    constructor <;> linarith

/-- The pair determines the five bytes. -/
theorem payload_eq_of_convert {f g : Aht21Frame} (h : aht21Convert f = aht21Convert g) :
    payload f = payload g := by
  have hhum : ((humRaw f).toNat : ℚ) / 2 ^ 20 * 100 = (humRaw g).toNat / 2 ^ 20 * 100 :=
    congrArg Aht21Data.humidity h
  have htemp : ((tempRaw f).toNat : ℚ) / 2 ^ 20 * 200 - 50 =
      (tempRaw g).toNat / 2 ^ 20 * 200 - 50 := congrArg Aht21Data.temperature h
  have hh : ((humRaw f).toNat : ℚ) = (humRaw g).toNat := by linarith
  have ht : ((tempRaw f).toNat : ℚ) = (tempRaw g).toNat := by linarith
  exact payload_eq_of_raw (UInt32.toNat_inj.mp (Nat.cast_injective hh))
    (UInt32.toNat_inj.mp (Nat.cast_injective ht))

end IndoorLogger
