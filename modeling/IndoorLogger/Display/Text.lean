import Mathlib.Tactic.Ring
import IndoorLogger.Lib.BitMap
import IndoorLogger.Lib.CString
import IndoorLogger.Display.Font

/-
  Scaled text on the display. The coordinates of a pixel are computed as `int` and handed to a
  driver that takes eight bits of them; what is drawn is the unclipped text, each pixel of it
  cut to eight bits (`lit_displayDrawStringScaled`). Text that ends before column 256 is clipped
  for that reason, longer text comes back on the left.
-/

namespace IndoorLogger

open BitMap

/-! ## The frame buffer -/

/-- `d->dev.width` and `d->dev.height`, as `display_init` sets them. -/
def screenWidth : Nat := 128

def screenHeight : Nat := 32

/-- `d->fb`. -/
abbrev FrameBuffer := Vector UInt8 512

/-- `display_clear_fb`. -/
def displayClearFb : FrameBuffer := Vector.replicate 512 0

/-- `ssd1306_color_t`. -/
inductive Ssd1306Color where
  | transparent
  | black
  | white
  | invert
  deriving DecidableEq

/-- `ssd1306_draw_pixel`, none for `-EINVAL`. -/
def ssd1306DrawPixel (fb : FrameBuffer) (x y : Int8) (color : Ssd1306Color) :
    Option FrameBuffer :=
  if x.toInt ≥ screenWidth ∨ x.toInt < 0 ∨ y.toInt ≥ screenHeight ∨ y.toInt < 0 then none
  else
    let index := (x.toInt + y.toInt / 8 * screenWidth).toNat
    let bit := (y.toInt % 8).toNat
    let mask := 1 <<< UInt8.ofNat bit
    match color with
    | .white => some (setBit fb index bit)
    | .black => some (fb.setIfInBounds index (fb[index]?.getD 0 &&& ~~~mask))
    | .invert => some (fb.setIfInBounds index (fb[index]?.getD 0 ^^^ mask))
    | .transparent => some fb

/-- `display_draw_pixel`: the coordinates are cut to eight bits. -/
def displayDrawPixel (fb : FrameBuffer) (x y : Int) (color : Ssd1306Color) : FrameBuffer :=
  (ssd1306DrawPixel fb (Int8.ofInt x) (Int8.ofInt y) color).getD fb

/-! ## Text -/

/-- The test of a bit in the bitmap of a character. -/
def fontBit (font : FontInfo) (ch : FontCharDesc) (x y : Nat) : Bool :=
  let bytesPerRow := (ch.width.toNat + 7) / 8
  let byteIdx := UInt8.ofNat (bytesPerRow * y + x / 8)
  let bitIdx := 7 - x % 8
  (font.bitmap[ch.offset.toNat + byteIdx.toNat]?.getD 0).toNat.testBit bitIdx

/-- The two inner loops of a character: one bit of it, magnified. -/
def displayDrawBit (x y : Int) (scale : Nat) (fb : FrameBuffer) : FrameBuffer :=
  (List.range scale).foldl (fun fb sy =>
    (List.range scale).foldl (fun fb sx =>
      displayDrawPixel fb (x + (sx : Nat)) (y + (sy : Nat)) .white) fb) fb

/-- `display_draw_char_scaled`. -/
def displayDrawCharScaled (font : FontInfo) (x0 y0 : Int) (c : UInt8) (scale : Nat)
    (fb : FrameBuffer) : FrameBuffer :=
  match fontGetCharDesc font c with
  | none => fb
  | some ch =>
    (List.range font.height.toNat).foldl (fun fb y =>
      (List.range ch.width.toNat).foldl (fun fb x =>
        if fontBit font ch x y then
          displayDrawBit (x0 + (x * scale : Nat)) (y0 + (y * scale : Nat)) scale fb
        else fb) fb) fb

/-- `display_draw_string_scaled`, over the bytes before the terminator. -/
def displayDrawStringScaled (font : FontInfo) (y0 : Int) (scale : Nat) :
    Int → List UInt8 → FrameBuffer → FrameBuffer
  | _, [], fb => fb
  | x, c :: str, fb =>
    let fb := displayDrawCharScaled font x y0 c scale fb
    let x := x +
      (match fontGetCharDesc font c with
        | some ch => ch.width.toNat * scale
        | none => scale : Nat)
    let x := if str = [] then x else x + (font.c.toNat * scale : Nat)
    displayDrawStringScaled font y0 scale x str fb

/-! ## The unclipped text -/

/-- A bit of a character in the font: a row is a byte, with the leftmost pixel in bit 7. -/
def glcdBit (c : UInt8) (x y : Nat) : Bool :=
  (fontsGlcd5x7Bitmaps[7 * c.toNat + y]?.getD 0).toNat.testBit (7 - x)

/-- The pixel is in the bit at `x`, `y` of a character at `x0`, `y0`. -/
def InBit (x0 y0 : Int) (scale x y : Nat) (px py : Int) : Prop :=
  (x0 + (x * scale : Nat) ≤ px ∧ px < x0 + (x * scale : Nat) + scale) ∧
    (y0 + (y * scale : Nat) ≤ py ∧ py < y0 + (y * scale : Nat) + scale)

/-- A character covers the pixel. -/
def CharCovers (x0 y0 : Int) (scale : Nat) (c : UInt8) (px py : Int) : Prop :=
  ∃ y < 7, ∃ x < 5, glcdBit c x y = true ∧ InBit x0 y0 scale x y px py

/-- The text covers the pixel: character `i` stands at `x0 + i * 6 * scale`. -/
def Covers (x0 y0 : Int) (scale : Nat) (str : List UInt8) (px py : Int) : Prop :=
  ∃ i < str.length, CharCovers (x0 + (i * 6 * scale : Nat)) y0 scale (str[i]?.getD 0) px py

instance (x0 y0 : Int) (scale x y : Nat) (px py : Int) : Decidable (InBit x0 y0 scale x y px py) :=
  inferInstanceAs (Decidable (_ ∧ _))

instance (x0 y0 : Int) (scale : Nat) (c : UInt8) (px py : Int) :
    Decidable (CharCovers x0 y0 scale c px py) :=
  inferInstanceAs (Decidable (∃ y < 7, _))

instance (x0 y0 : Int) (scale : Nat) (str : List UInt8) (px py : Int) :
    Decidable (Covers x0 y0 scale str px py) :=
  inferInstanceAs (Decidable (∃ i < str.length, _))

/-- A coordinate as the driver takes it. -/
def cut8 (x : Int) : Int := (Int8.ofInt x).toInt

/-- A pixel of the screen is lit. -/
def lit (fb : FrameBuffer) (px py : Nat) : Bool := testBit fb (px + py / 8 * screenWidth) (py % 8)

theorem cut8_eq (x : Int) : cut8 x = x.bmod 256 := Int8.toInt_ofInt

/-- The coordinates of the screen are taken as they are. -/
theorem cut8_of_mem {x : Int} (h : -128 ≤ x) (h' : x < 128) : cut8 x = x := by
  rw [cut8_eq, Int.bmod_def]
  omega

/-! ## What is lit -/

variable {px py : Nat}

/-- A pixel that is drawn lights the one its coordinates are cut to. -/
theorem lit_displayDrawPixel (hx : px < 128) (hy : py < 32) (fb : FrameBuffer) (x y : Int) :
    lit (displayDrawPixel fb x y .white) px py = true ↔
      lit fb px py = true ∨ (cut8 x = px ∧ cut8 y = py) := by
  unfold displayDrawPixel ssd1306DrawPixel
  rw [← cut8, ← cut8]
  split
  case isTrue hoff =>
    rw [Option.getD_none]
    refine ⟨Or.inl, fun h => h.resolve_right fun hp => ?_⟩
    unfold screenWidth screenHeight at hoff
    omega
  case isFalse hon =>
    unfold screenWidth screenHeight at hon
    rw [Option.getD_some]
    unfold lit
    rw [testBit_setBit fb (by unfold screenWidth; omega) (by omega), Bool.or_eq_true,
      decide_eq_true_eq]
    refine or_congr_right ?_
    unfold screenWidth
    omega

/-- Some pixel of `p` is cut to this one. -/
def Cut (p : Int → Int → Prop) (px py : Nat) : Prop :=
  ∃ qx qy, p qx qy ∧ cut8 qx = px ∧ cut8 qy = py

theorem lit_displayDrawBit (hx : px < 128) (hy : py < 32) (x0 y0 : Int) (scale x y : Nat)
    (fb : FrameBuffer) :
    lit (displayDrawBit (x0 + (x * scale : Nat)) (y0 + (y * scale : Nat)) scale fb) px py = true ↔
      lit fb px py = true ∨ Cut (InBit x0 y0 scale x y) px py := by
  have hpixel : ∀ (sy : Nat) (fb : FrameBuffer) (sx : Nat),
      lit (displayDrawPixel fb (x0 + (x * scale : Nat) + (sx : Nat))
          (y0 + (y * scale : Nat) + (sy : Nat)) .white) px py = true ↔
        lit fb px py = true ∨ (cut8 (x0 + (x * scale : Nat) + (sx : Nat)) = px ∧
          cut8 (y0 + (y * scale : Nat) + (sy : Nat)) = py) := fun sy fb sx =>
    lit_displayDrawPixel hx hy fb _ _
  have hrow := fun (fb : FrameBuffer) (sy : Nat) =>
    foldl_range_iff (P := fun fb => lit fb px py = true) (hpixel sy) fb scale
  unfold displayDrawBit
  refine (foldl_range_iff (P := fun fb => lit fb px py = true) hrow fb scale).trans
    (or_congr_right ?_)
  constructor
  · rintro ⟨sy, hsy, sx, hsx, hpx, hpy⟩
    exact ⟨_, _, ⟨⟨by omega, by omega⟩, by omega, by omega⟩, hpx, hpy⟩
  · rintro ⟨qx, qy, ⟨⟨hx0, hx1⟩, hy0, hy1⟩, hpx, hpy⟩
    refine ⟨(qy - (y0 + (y * scale : Nat))).toNat, by omega,
      (qx - (x0 + (x * scale : Nat))).toNat, by omega, ?_, ?_⟩
    · rw [Int.toNat_of_nonneg (by omega), add_sub_cancel]
      exact hpx
    · rw [Int.toNat_of_nonneg (by omega), add_sub_cancel]
      exact hpy

/-- The font has its bits where the loops look for them. -/
theorem fontBit_glcd5x7 (c : UInt8) {x y : Nat} (hx : x < 5) (hy : y < 7) :
    fontBit fontsGlcd5x7Info ⟨5, UInt16.ofNat (7 * c.toNat)⟩ x y = glcdBit c x y := by
  have hc := c.toNat_lt
  have hoffset : (UInt16.ofNat (7 * c.toNat)).toNat = 7 * c.toNat := by
    rw [UInt16.toNat_ofNat']
    exact Nat.mod_eq_of_lt (by omega)
  have hbyte : (UInt8.ofNat (((5 : UInt8).toNat + 7) / 8 * y + x / 8)).toNat = y := by
    have h5 : ((5 : UInt8).toNat + 7) / 8 = 1 := rfl
    rw [h5, UInt8.toNat_ofNat']
    omega
  unfold fontBit glcdBit
  dsimp only
  rw [hoffset, hbyte, Nat.mod_eq_of_lt (by omega)]
  rfl

theorem lit_displayDrawCharScaled (hx : px < 128) (hy : py < 32) (x0 y0 : Int) (c : UInt8)
    (scale : Nat) (fb : FrameBuffer) :
    lit (displayDrawCharScaled fontsGlcd5x7Info x0 y0 c scale fb) px py = true ↔
      lit fb px py = true ∨ Cut (CharCovers x0 y0 scale c) px py := by
  have hbit : ∀ (y : Nat) (fb : FrameBuffer) (x : Nat),
      lit (if fontBit fontsGlcd5x7Info ⟨5, UInt16.ofNat (7 * c.toNat)⟩ x y then
          displayDrawBit (x0 + (x * scale : Nat)) (y0 + (y * scale : Nat)) scale fb
        else fb) px py = true ↔
        lit fb px py = true ∨
          (fontBit fontsGlcd5x7Info ⟨5, UInt16.ofNat (7 * c.toNat)⟩ x y = true ∧
            Cut (InBit x0 y0 scale x y) px py) := by
    intro y fb x
    split
    case isTrue h =>
      rw [lit_displayDrawBit hx hy, and_iff_right h]
    case isFalse h => exact (or_iff_left fun hc => h hc.1).symm
  have hrow := fun (fb : FrameBuffer) (y : Nat) =>
    foldl_range_iff (P := fun fb => lit fb px py = true) (hbit y) fb 5
  unfold displayDrawCharScaled
  rw [fontGetCharDesc_glcd5x7]
  dsimp only
  refine (foldl_range_iff (P := fun fb => lit fb px py = true) hrow fb 7).trans
    (or_congr_right ?_)
  constructor
  · rintro ⟨y, hy7, x, hx5, hset, qx, qy, hin, hpx, hpy⟩
    rw [fontBit_glcd5x7 c hx5 hy7] at hset
    exact ⟨qx, qy, ⟨y, hy7, x, hx5, hset, hin⟩, hpx, hpy⟩
  · rintro ⟨qx, qy, ⟨y, hy7, x, hx5, hset, hin⟩, hpx, hpy⟩
    rw [← fontBit_glcd5x7 c hx5 hy7] at hset
    exact ⟨y, hy7, x, hx5, hset, qx, qy, hin, hpx, hpy⟩

/-- The first character, and the rest of the text six columns on. -/
theorem covers_cons (x0 y0 : Int) (scale : Nat) (c : UInt8) (str : List UInt8) (qx qy : Int) :
    Covers x0 y0 scale (c :: str) qx qy ↔
      CharCovers x0 y0 scale c qx qy ∨ Covers (x0 + (6 * scale : Nat)) y0 scale str qx qy := by
  have hnext : ∀ i : Nat, x0 + ((i + 1) * 6 * scale : Nat) =
      x0 + (6 * scale : Nat) + (i * 6 * scale : Nat) := by
    intro i
    rw [Nat.add_mul, Nat.add_mul, Nat.one_mul]
    push_cast
    omega
  unfold Covers
  rw [List.length_cons, Nat.exists_lt_succ_left]
  simp only [List.getElem?_cons_zero, List.getElem?_cons_succ, Option.getD_some, hnext]
  simp

/-- The text is drawn as it is unclipped, each pixel cut to eight bits. -/
theorem lit_displayDrawStringScaled (hx : px < 128) (hy : py < 32) (y0 : Int) (scale : Nat)
    (x0 : Int) (str : List UInt8) (fb : FrameBuffer) :
    lit (displayDrawStringScaled fontsGlcd5x7Info y0 scale x0 str fb) px py = true ↔
      lit fb px py = true ∨ Cut (Covers x0 y0 scale str) px py := by
  induction str generalizing x0 fb with
  | nil =>
    refine ⟨Or.inl, fun h => h.resolve_right ?_⟩
    rintro ⟨qx, qy, ⟨i, hi, -⟩, -⟩
    exact absurd hi (Nat.not_lt_zero i)
  | cons c str ih =>
    have hwidth : (5 : UInt8).toNat = 5 := rfl
    have hspace : fontsGlcd5x7Info.c.toNat = 1 := rfl
    have hdrawn : lit (displayDrawStringScaled fontsGlcd5x7Info y0 scale x0 (c :: str) fb) px py =
        lit (displayDrawStringScaled fontsGlcd5x7Info y0 scale (x0 + (6 * scale : Nat)) str
          (displayDrawCharScaled fontsGlcd5x7Info x0 y0 c scale fb)) px py := by
      rw [displayDrawStringScaled, fontGetCharDesc_glcd5x7]
      dsimp only
      rw [hwidth, hspace]
      cases str with
      | nil => rfl
      | cons c' str =>
        have hsum : x0 + (5 * scale : Nat) + (1 * scale : Nat) = x0 + (6 * scale : Nat) := by
          push_cast
          omega
        rw [if_neg (List.cons_ne_nil c' str), hsum]
    rw [hdrawn, ih, lit_displayDrawCharScaled hx hy, or_assoc]
    refine or_congr_right ?_
    unfold Cut
    simp only [covers_cons]
    constructor
    · rintro (⟨qx, qy, hcov, hcut⟩ | ⟨qx, qy, hcov, hcut⟩)
      · exact ⟨qx, qy, Or.inl hcov, hcut⟩
      · exact ⟨qx, qy, Or.inr hcov, hcut⟩
    · rintro ⟨qx, qy, hcov | hcov, hcut⟩
      · exact Or.inl ⟨qx, qy, hcov, hcut⟩
      · exact Or.inr ⟨qx, qy, hcov, hcut⟩

/-! ## Clipping -/

/-- Drawn on a cleared screen the text is the part of it that is on the screen. -/
def Clipped (x0 y0 : Int) (scale : Nat) (str : List UInt8) : Prop :=
  ∀ px < 128, ∀ py < 32,
    lit (displayDrawStringScaled fontsGlcd5x7Info y0 scale x0 str displayClearFb) px py = true ↔
      Covers x0 y0 scale str px py

/-- What is cut to a pixel of the screen comes from text that covers this pixel anyway. -/
def CutsWithin (x0 y0 : Int) (scale : Nat) (str : List UInt8) : Prop :=
  ∀ qx qy, Covers x0 y0 scale str qx qy → 0 ≤ cut8 qx → 0 ≤ cut8 qy → cut8 qy < 32 →
    Covers x0 y0 scale str (cut8 qx) (cut8 qy)

theorem lit_displayClearFb (px py : Nat) : lit displayClearFb px py = false := testBit_zero _ _

theorem cut8_mem (x : Int) : -128 ≤ cut8 x ∧ cut8 x < 128 := by
  rw [cut8_eq, Int.bmod_def]
  omega

/-- What is lit on a cleared screen. -/
theorem lit_text {px py : Nat} (hx : px < 128) (hy : py < 32) (x0 y0 : Int) (scale : Nat)
    (str : List UInt8) :
    lit (displayDrawStringScaled fontsGlcd5x7Info y0 scale x0 str displayClearFb) px py = true ↔
      Cut (Covers x0 y0 scale str) px py := by
  rw [lit_displayDrawStringScaled hx hy, lit_displayClearFb]
  exact or_iff_right Bool.false_ne_true

theorem Clipped.cutsWithin {x0 y0 : Int} {scale : Nat} {str : List UInt8}
    (h : Clipped x0 y0 scale str) : CutsWithin x0 y0 scale str := by
  intro qx qy hcov hx hy hy'
  have hx' := (cut8_mem qx).2
  have hcut : Cut (Covers x0 y0 scale str) (cut8 qx).toNat (cut8 qy).toNat :=
    ⟨qx, qy, hcov, (Int.toNat_of_nonneg hx).symm, (Int.toNat_of_nonneg hy).symm⟩
  have hpixel := (lit_text (by omega) (by omega) x0 y0 scale str).mpr hcut
  have hon := (h _ (by omega) _ (by omega)).mp hpixel
  rwa [Int.toNat_of_nonneg hx, Int.toNat_of_nonneg hy] at hon

theorem CutsWithin.clipped {x0 y0 : Int} {scale : Nat} {str : List UInt8}
    (h : CutsWithin x0 y0 scale str) : Clipped x0 y0 scale str := by
  intro px hx py hy
  rw [lit_text hx hy]
  constructor
  · rintro ⟨qx, qy, hcov, hpx, hpy⟩
    have hon := h qx qy hcov (by omega) (by omega) (by omega)
    rwa [hpx, hpy] at hon
  · exact fun hcov => ⟨px, py, hcov, cut8_of_mem (by omega) (by omega),
      cut8_of_mem (by omega) (by omega)⟩

/-! ## The texts of the client -/

/-- A text covers six columns for each byte, but for the last column, and seven rows. -/
theorem Covers.mem {x0 y0 : Int} {scale : Nat} {str : List UInt8} {px py : Int}
    (h : Covers x0 y0 scale str px py) :
    (x0 ≤ px ∧ px + scale < x0 + (6 * scale * str.length : Nat)) ∧
      (y0 ≤ py ∧ py < y0 + (7 * scale : Nat)) := by
  obtain ⟨i, hi, y, hy, x, hx, -, ⟨hpx, hpx'⟩, hpy, hpy'⟩ := h
  have hright : i * 6 * scale + x * scale + 2 * scale ≤ 6 * scale * str.length := by
    calc i * 6 * scale + x * scale + 2 * scale = (i * 6 + x + 2) * scale := by ring
      _ ≤ 6 * str.length * scale := Nat.mul_le_mul_right scale (by omega)
      _ = 6 * scale * str.length := by ring
  have hbottom : y * scale + scale ≤ 7 * scale := by
    calc y * scale + scale = (y + 1) * scale := by ring
      _ ≤ 7 * scale := Nat.mul_le_mul_right scale hy
  omega

/-- A text that ends before column 256 is clipped. -/
theorem clipped_of_within {x0 y0 : Int} {scale : Nat} {str : List UInt8} (hx : -128 ≤ x0)
    (hx' : x0 + (6 * scale * str.length : Nat) ≤ 256 + scale) (hy : -128 ≤ y0)
    (hy' : y0 + (7 * scale : Nat) ≤ 256) : Clipped x0 y0 scale str := by
  refine CutsWithin.clipped fun qx qy hcov hx0 hy0 _ => ?_
  obtain ⟨⟨hx1, hx2⟩, hy1, hy2⟩ := hcov.mem
  have hcut : ∀ q : Int, -128 ≤ q → q < 256 → 0 ≤ cut8 q → cut8 q = q := by
    intro q hq hq' hpos
    rw [cut8_eq, Int.bmod_def] at hpos ⊢
    omega
  rwa [hcut qx (by omega) (by omega) hx0, hcut qy (by omega) (by omega) hy0]

/-- Where and how large `update_display` draws a text. -/
structure TextOrigin where
  x : Int
  y : Int
  scale : Nat

/-- A new id: the largest scale up to three it has room for, in the middle. -/
def idOrigin (str : List UInt8) : TextOrigin :=
  let len := str.length
  let scale := 3
  let scale := if len * 6 * scale > 128 then 2 else scale
  let scale := if len * 6 * scale > 128 then 1 else scale
  let x : Int := ((128 : Int) - (len * (6 * scale) : Nat)).tdiv 2
  ⟨if x < 0 then 0 else x, ((32 : Int) - (7 * scale : Nat)).tdiv 2, scale⟩

/-- The name of the client. -/
def nameOrigin (str : List UInt8) : TextOrigin :=
  let w := str.length * 12
  ⟨if w > 128 then 0 else ((128 : Int) - (w : Nat)).tdiv 2, 10, 2⟩

/-- The line of the temperature, or of the time, at `y`. -/
def lineOrigin (y : Int) (str : List UInt8) : TextOrigin :=
  ⟨((128 : Int) - (str.length * 12 : Nat)).tdiv 2, y, 2⟩

def TextOrigin.Clips (o : TextOrigin) (str : List UInt8) : Prop := Clipped o.x o.y o.scale str

/-- Half of a distance, rounded to zero. -/
theorem tdiv_two (d : Int) :
    (0 ≤ d → 0 ≤ d.tdiv 2 ∧ 2 * d.tdiv 2 ≤ d) ∧ (d < 0 → d ≤ 2 * d.tdiv 2 ∧ d.tdiv 2 ≤ 0) := by
  constructor
  · intro h
    rw [Int.tdiv_eq_ediv_of_nonneg h]
    omega
  · intro h
    have hneg : d.tdiv 2 = -((-d) / 2) := by
      rw [← Int.tdiv_eq_ediv_of_nonneg (by omega), Int.neg_tdiv, Int.neg_neg]
    rw [hneg]
    omega

/-- An id is clipped, whatever its length. -/
theorem idOrigin_clips {str : List UInt8} (h : str.length ≤ 31) : (idOrigin str).Clips str := by
  have hfits : ∀ scale : Nat, 1 ≤ scale → scale ≤ 3 →
      str.length * (6 * scale) ≤ 186 →
      TextOrigin.Clips ⟨if ((128 : Int) - (str.length * (6 * scale) : Nat)).tdiv 2 < 0 then 0
        else ((128 : Int) - (str.length * (6 * scale) : Nat)).tdiv 2,
        ((32 : Int) - (7 * scale : Nat)).tdiv 2, scale⟩ str := by
    intro scale hpos hle hwidth
    obtain ⟨hx, hx'⟩ := tdiv_two ((128 : Int) - (str.length * (6 * scale) : Nat))
    obtain ⟨hy, hy'⟩ := (tdiv_two ((32 : Int) - (7 * scale : Nat))).1 (by omega)
    have hw : 6 * scale * str.length = str.length * (6 * scale) := Nat.mul_comm _ _
    unfold TextOrigin.Clips
    dsimp only
    refine clipped_of_within ?_ ?_ (by omega) (by omega)
    · split <;> omega
    · rw [hw]
      split <;> omega
  unfold idOrigin
  dsimp only
  by_cases h3 : str.length * 6 * 3 > 128
  · rw [if_pos h3]
    by_cases h2 : str.length * 6 * 2 > 128
    · rw [if_pos h2]
      exact hfits 1 (by decide) (by decide) (by omega)
    · rw [if_neg h2]
      exact hfits 2 (by decide) (by decide) (by omega)
  · rw [if_neg h3, if_neg h3]
    exact hfits 3 (by decide) (by decide) (by omega)

/-- A name is clipped up to 21 bytes. -/
theorem nameOrigin_clips {str : List UInt8} (h : str.length ≤ 21) :
    (nameOrigin str).Clips str := by
  obtain ⟨hx, -⟩ := tdiv_two ((128 : Int) - (str.length * 12 : Nat))
  unfold TextOrigin.Clips nameOrigin
  dsimp only
  refine clipped_of_within ?_ ?_ (by decide) (by decide)
  · split <;> omega
  · split <;> omega

/-- A line of at most fifteen bytes is clipped. -/
theorem lineOrigin_clips {str : List UInt8} (h : str.length ≤ 15) {y : Int} (hy : 0 ≤ y)
    (hy' : y ≤ 17) : (lineOrigin y str).Clips str := by
  obtain ⟨hx, hx'⟩ := tdiv_two ((128 : Int) - (str.length * 12 : Nat))
  unfold TextOrigin.Clips lineOrigin
  dsimp only
  exact clipped_of_within (by omega) (by omega) (by omega) (by omega)

/-! ## Long names -/

/-- A bit of a text, counted in columns and rows of the font. -/
def TextBit (str : List UInt8) (k y : Nat) : Prop :=
  y < 7 ∧ k % 6 < 5 ∧ k / 6 < str.length ∧ glcdBit (str[k / 6]?.getD 0) (k % 6) y = true

instance (str : List UInt8) (k y : Nat) : Decidable (TextBit str k y) :=
  inferInstanceAs (Decidable (_ ∧ _))

/-- At scale two, the column 128 of a text comes back at its start. Its bits are set there only
    where the text has a bit anyway. -/
def ReturnsWithin (str : List UInt8) : Prop :=
  ∀ k < 6 * str.length, ∀ y < 7, TextBit str (k + 128) y → TextBit str k y

instance (str : List UInt8) : Decidable (ReturnsWithin str) :=
  inferInstanceAs (Decidable (∀ k < _, _))

/-- A name that starts on the left edge. -/
theorem covers_name (str : List UInt8) (px py : Int) :
    Covers 0 10 2 str px py ↔
      0 ≤ px ∧ 10 ≤ py ∧ TextBit str (px / 2).toNat ((py - 10) / 2).toNat := by
  constructor
  · rintro ⟨i, hi, y, hy, x, hx, hbit, ⟨hpx, hpx'⟩, hpy, hpy'⟩
    obtain hk : (px / 2).toNat = 6 * i + x := by omega
    obtain hrow : ((py - 10) / 2).toNat = y := by omega
    have hdiv : (6 * i + x) / 6 = i := by omega
    have hmod : (6 * i + x) % 6 = x := by omega
    refine ⟨by omega, by omega, ?_⟩
    rw [hk, hrow]
    unfold TextBit
    rw [hdiv, hmod]
    exact ⟨hy, hx, hi, hbit⟩
  · rintro ⟨hpx, hpy, hy, hx, hi, hbit⟩
    exact ⟨_, hi, _, hy, _, hx, hbit, by constructor <;> omega, by constructor <;> omega⟩

/-- A name that starts on the left edge is clipped exactly when what comes back is covered. -/
theorem clipped_name_iff {str : List UInt8} (h : str.length ≤ 31) :
    Clipped 0 10 2 str ↔ ReturnsWithin str := by
  constructor
  · intro hclip k _ y hy hbit
    have hlen : (k + 128) / 6 < str.length := hbit.2.2.1
    have hcov : Covers 0 10 2 str (2 * (k + 128 : Nat)) (10 + 2 * y) := by
      rw [covers_name]
      refine ⟨by omega, by omega, ?_⟩
      rwa [show (2 * ((k + 128 : Nat) : Int) / 2).toNat = k + 128 by omega,
        show ((10 + 2 * (y : Int) - 10) / 2).toNat = y by omega]
    have hx : cut8 (2 * (k + 128 : Nat)) = 2 * k := by
      rw [cut8_eq, Int.bmod_def]
      omega
    have hy' : cut8 (10 + 2 * y) = 10 + 2 * y := cut8_of_mem (by omega) (by omega)
    have hback := hclip.cutsWithin _ _ hcov (by omega) (by omega) (by omega)
    rw [hx, hy', covers_name] at hback
    rw [show (2 * (k : Int) / 2).toNat = k by omega,
      show ((10 + 2 * (y : Int) - 10) / 2).toNat = y by omega] at hback
    exact hback.2.2
  · intro hret
    refine CutsWithin.clipped fun qx qy hcov hx0 _ _ => ?_
    obtain ⟨⟨hx, hx'⟩, hy, hy'⟩ := hcov.mem
    have hcuty : cut8 qy = qy := cut8_of_mem (by omega) (by omega)
    rw [hcuty]
    by_cases hleft : qx < 256
    · have hcutx : cut8 qx = qx := by
        rw [cut8_eq, Int.bmod_def] at hx0 ⊢
        omega
      rwa [hcutx]
    · -- the text ends before column 384, where the coordinate is negative again
      have hcutx : cut8 qx = qx - 256 := by
        rw [cut8_eq, Int.bmod_def]
        omega
      obtain ⟨-, -, hbit⟩ := (covers_name str qx qy).mp hcov
      rw [hcutx, covers_name]
      refine ⟨by omega, by omega, hret _ (by omega) _ (by omega) ?_⟩
      rwa [show ((qx - 256) / 2).toNat + 128 = (qx / 2).toNat by omega]

/-- A name of at most 31 bytes. -/
theorem nameOrigin_clips_iff {str : List UInt8} (h : str.length ≤ 31) :
    (nameOrigin str).Clips str ↔ ReturnsWithin str := by
  by_cases hshort : str.length ≤ 21
  · refine iff_of_true (nameOrigin_clips hshort) fun k _ y _ hbit => ?_
    have hlen : (k + 128) / 6 < str.length := hbit.2.2.1
    omega
  · have horigin : nameOrigin str = ⟨0, 10, 2⟩ := by
      unfold nameOrigin
      dsimp only
      rw [if_pos (by omega)]
    rw [horigin]
    exact clipped_name_iff h

/-- **Scaled text.** A text, wherever it starts and however large it is, is clipped exactly when
    no pixel of it that is cut to eight bits falls on a pixel of the screen it does not cover.
    A name is clipped exactly when its columns from 128 on, which its 22nd byte reaches, have no
    bit that the columns from its start do not have. An id and a line always are. -/
theorem scaled_text_clipped_iff (x0 y0 : Int) (scale : Nat) (str : List UInt8) (name id : CStr 32)
    (line : CStr 16) :
    (Clipped x0 y0 scale str ↔ CutsWithin x0 y0 scale str) ∧
      ((nameOrigin name.bytes).Clips name.bytes ↔ ReturnsWithin name.bytes) ∧
      (idOrigin id.bytes).Clips id.bytes ∧
      (lineOrigin 0 line.bytes).Clips line.bytes ∧
      (lineOrigin 17 line.bytes).Clips line.bytes ∧
      Clipped 0 0 2 line.bytes ∧ Clipped 0 17 2 line.bytes := by
  have hline := line.fits
  refine ⟨⟨Clipped.cutsWithin, CutsWithin.clipped⟩,
    nameOrigin_clips_iff (Nat.le_of_lt_succ name.fits),
    idOrigin_clips (Nat.le_of_lt_succ id.fits), ?_, ?_, ?_, ?_⟩
  · exact lineOrigin_clips (by omega) (by decide) (by decide)
  · exact lineOrigin_clips (by omega) (by decide) (by decide)
  · exact clipped_of_within (by decide) (by omega) (by decide) (by decide)
  · exact clipped_of_within (by decide) (by omega) (by decide) (by decide)

/-- The top of the last of 22 letters, in column 256, is drawn at the left edge of the screen. -/
theorem name_wraps :
    let name : List UInt8 := List.replicate 22 65
    name.length ≤ 31 ∧ nameOrigin name = ⟨0, 10, 2⟩ ∧
      lit (displayDrawStringScaled fontsGlcd5x7Info 10 2 0 name displayClearFb) 0 10 = true ∧
      ¬Covers 0 10 2 name 0 10 ∧ ¬(nameOrigin name).Clips name := by
  have hcov : Covers 0 10 2 (List.replicate 22 65) 256 10 :=
    ⟨21, by decide, 0, by decide, 2, by decide, by decide +kernel, by decide⟩
  have hno : ¬Covers 0 10 2 (List.replicate 22 65) 0 10 := by
    rintro ⟨i, -, y, -, x, -, hbit, ⟨hx, -⟩, hy, -⟩
    obtain rfl : i = 0 := by omega
    obtain rfl : x = 0 := by omega
    obtain rfl : y = 0 := by omega
    revert hbit
    decide +kernel
  have horigin : nameOrigin (List.replicate 22 65) = ⟨0, 10, 2⟩ := by rfl
  have hlit : lit (displayDrawStringScaled fontsGlcd5x7Info 10 2 0 (List.replicate 22 65)
      displayClearFb) 0 10 = true :=
    (lit_text (by decide) (by decide) 0 10 2 _).mpr ⟨256, 10, hcov, by decide, by decide⟩
  refine ⟨by decide, horigin, hlit, hno, fun hclip => ?_⟩
  rw [horigin] at hclip
  exact hno ((hclip 0 (by decide) 10 (by decide)).mp hlit)

end IndoorLogger
