import IndoorLogger.Lib.PackedRows
import IndoorLogger.Display.Text

/-
  `components/fonts/tools`: the tool that makes a font of pictures, against the functions that
  draw with it. Text drawn with the font that the tool makes is the pictures of its characters
  side by side, whatever the pictures show, exactly for pictures of at most 256 bytes: the
  drawing function counts the bytes of a character in a `uint8_t` (`fonts_draw_iff`).
-/

namespace IndoorLogger

open BitMap PackedRows

/-! ## The tool -/

/-- A picture of mode "1", row by row. -/
structure Image (w h : Nat) where
  data : List Nat
  length_eq : data.length = w * h

/-- The test `if bit` of a pixel. -/
def Image.pixel {w h : Nat} (im : Image w h) (row idx : Nat) : Bool :=
  decide (im.data[row * w + idx]?.getD 0 ≠ 0)

/-- What `gen_char` returns, but for the texts of its comments. -/
structure GenChar where
  index : Nat
  code : Nat
  offset : Nat
  rows : List (List Nat)

section

variable {w h : Nat}

/-- The loop over one byte of a row. -/
def genByte (im : Image w h) (row b : Nat) : Nat :=
  let byte := (List.range 8).foldl (fun byte i =>
    let idx := b * 8 + i
    let bit := if idx < w then im.pixel row idx else false
    (if bit then byte ||| 1 else byte) <<< 1) 0
  byte >>> 1

/-- `gen_char`. -/
def genChar (index c : Nat) (im : Image w h) : GenChar :=
  let bw := (w + 7) / 8
  { index := index
    code := c
    offset := bw * h * index
    rows := (List.range h).map fun row => (List.range bw).map fun b => genByte im row b }

/-- `template.c`, as a compiler reads the tables that it prints. -/
def fontOfChars (w h first last : Nat) (chars : List GenChar) : FontInfo where
  height := UInt8.ofNat h
  c := 0
  charStart := UInt8.ofNat first
  charEnd := UInt8.ofNat last
  charDescriptors := (chars.map fun char => ⟨UInt8.ofNat w, UInt16.ofNat char.offset⟩).toArray
  bitmap := (chars.flatMap fun char => char.rows.flatten.map UInt8.ofNat).toArray

/-- `main` of create_font.py; `glyph` is the picture that is drawn of a code. None for a range
    it refuses. -/
def createFont (glyph : Nat → Image w h) (first last : Nat) : Option FontInfo :=
  if (last : Int) - first < 1 then none
  else
    some (fontOfChars w h first last ((List.range (last - first + 1)).map fun idx =>
      genChar idx (idx + first) (glyph (idx + first))))

end

/-! ## Drawing with any font -/

namespace FontInfo

variable (font : FontInfo) (y0 : Int) (scale : Nat)

/-- A character of the font covers the pixel. -/
def CharCovers (x0 : Int) (c : UInt8) (qx qy : Int) : Prop :=
  ∃ ch, fontGetCharDesc font c = some ch ∧ ∃ y < font.height.toNat, ∃ x < ch.width.toNat,
    fontBit font ch x y = true ∧ InBit x0 y0 scale x y qx qy

/-- The columns from a character to the next. -/
def advance (c : UInt8) : Nat :=
  (match fontGetCharDesc font c with
    | some ch => ch.width.toNat * scale
    | none => scale) + font.c.toNat * scale

/-- A text in the font covers the pixel. -/
def TextCovers : Int → List UInt8 → Int → Int → Prop
  | _, [], _, _ => False
  | x0, c :: str, qx, qy =>
    font.CharCovers y0 scale x0 c qx qy ∨ TextCovers (x0 + font.advance scale c) str qx qy

variable {px py : Nat}

theorem lit_charScaled (hx : px < 128) (hy : py < 32) (x0 : Int) (c : UInt8) (fb : FrameBuffer) :
    lit (displayDrawCharScaled font x0 y0 c scale fb) px py = true ↔
      lit fb px py = true ∨ Cut (font.CharCovers y0 scale x0 c) px py := by
  unfold displayDrawCharScaled
  cases hch : fontGetCharDesc font c with
  | none =>
    refine (or_iff_left ?_).symm
    rintro ⟨qx, qy, ⟨ch, hsome, -⟩, -⟩
    rw [hch] at hsome
    cases hsome
  | some ch =>
    have hbit : ∀ (y : Nat) (fb : FrameBuffer) (x : Nat),
        lit (if fontBit font ch x y then
            displayDrawBit (x0 + (x * scale : Nat)) (y0 + (y * scale : Nat)) scale fb
          else fb) px py = true ↔
          lit fb px py = true ∨
            (fontBit font ch x y = true ∧ Cut (InBit x0 y0 scale x y) px py) := by
      intro y fb x
      split
      case isTrue h => rw [lit_displayDrawBit hx hy, and_iff_right h]
      case isFalse h => exact (or_iff_left fun hc => h hc.1).symm
    have hrow := fun (fb : FrameBuffer) (y : Nat) =>
      foldl_range_iff (P := fun fb => lit fb px py = true) (hbit y) fb ch.width.toNat
    refine (foldl_range_iff (P := fun fb => lit fb px py = true) hrow fb
      font.height.toNat).trans (or_congr_right ?_)
    constructor
    · rintro ⟨y, hy', x, hx', hset, qx, qy, hin, hpx, hpy⟩
      exact ⟨qx, qy, ⟨ch, hch, y, hy', x, hx', hset, hin⟩, hpx, hpy⟩
    · rintro ⟨qx, qy, ⟨ch', hch', y, hy', x, hx', hset, hin⟩, hpx, hpy⟩
      obtain rfl : ch = ch' := Option.some.inj (hch.symm.trans hch')
      exact ⟨y, hy', x, hx', hset, qx, qy, hin, hpx, hpy⟩

theorem cut_or {p q : Int → Int → Prop} :
    Cut (fun qx qy => p qx qy ∨ q qx qy) px py ↔ Cut p px py ∨ Cut q px py := by
  constructor
  · rintro ⟨qx, qy, hp | hq, hcut⟩
    · exact .inl ⟨qx, qy, hp, hcut⟩
    · exact .inr ⟨qx, qy, hq, hcut⟩
  · rintro (⟨qx, qy, hp, hcut⟩ | ⟨qx, qy, hq, hcut⟩)
    · exact ⟨qx, qy, .inl hp, hcut⟩
    · exact ⟨qx, qy, .inr hq, hcut⟩

/-- The text is drawn as it is unclipped, each pixel cut to eight bits. -/
theorem lit_stringScaled (hx : px < 128) (hy : py < 32) (x0 : Int) (str : List UInt8)
    (fb : FrameBuffer) :
    lit (displayDrawStringScaled font y0 scale x0 str fb) px py = true ↔
      lit fb px py = true ∨ Cut (font.TextCovers y0 scale x0 str) px py := by
  induction str generalizing x0 fb with
  | nil =>
    refine (or_iff_left ?_).symm
    rintro ⟨qx, qy, hcov, -⟩
    exact hcov
  | cons c str ih =>
    have hdrawn : lit (displayDrawStringScaled font y0 scale x0 (c :: str) fb) px py =
        lit (displayDrawStringScaled font y0 scale (x0 + font.advance scale c) str
          (displayDrawCharScaled font x0 y0 c scale fb)) px py := by
      rw [displayDrawStringScaled]
      cases str with
      | nil => rfl
      | cons c' str =>
        rw [if_neg (List.cons_ne_nil c' str), Int.add_assoc, ← Nat.cast_add]
        rfl
    rw [hdrawn, ih, font.lit_charScaled y0 scale hx hy, or_assoc]
    exact or_congr_right cut_or.symm

end FontInfo

/-! ## Drawing with a generated font -/

section

variable {w h : Nat} (glyph : Nat → Image w h) (first last : Nat) (y0 : Int) (scale : Nat)

/-- The picture of a character, magnified, covers the pixel. -/
def PictureCovers (x0 : Int) (c : UInt8) (qx qy : Int) : Prop :=
  (first ≤ c.toNat ∧ c.toNat ≤ last) ∧ ∃ y < h, ∃ x < w,
    (glyph c.toNat).pixel y x = true ∧ InBit x0 y0 scale x y qx qy

/-- The pictures of a text cover the pixel. They stand side by side, with one magnified column
    in the place of a character that has none. -/
def PicturesCover : Int → List UInt8 → Int → Int → Prop
  | _, [], _, _ => False
  | x0, c :: str, qx, qy =>
    PictureCovers glyph first last y0 scale x0 c qx qy ∨
      PicturesCover (x0 + (if first ≤ c.toNat ∧ c.toNat ≤ last then w * scale else scale : Nat)) str
        qx qy

/-- Every text, wherever it starts and however large it is, is drawn on a cleared screen as its
    pictures, each pixel cut to eight bits. -/
def DrawsPictures (font : FontInfo) : Prop :=
  ∀ y0 scale x0 str, 0 ∉ str → ∀ px < 128, ∀ py < 32,
    lit (displayDrawStringScaled font y0 scale x0 str displayClearFb) px py = true ↔
      Cut (PicturesCover glyph first last y0 scale x0 str) px py

/-- The font that the tool makes. -/
def fontOf : FontInfo :=
  fontOfChars w h first last ((List.range (last - first + 1)).map fun idx =>
    genChar idx (idx + first) (glyph (idx + first)))

theorem createFont_eq (h : first < last) :
    createFont glyph first last = some (fontOf glyph first last) := by
  unfold createFont
  rw [if_neg (by omega)]
  rfl

/-- The bytes of a picture are its rows, packed. -/
theorem genChar_rows (index c : Nat) (im : Image w h) :
    (genChar index c im).rows.flatten = packed w h im.pixel := by
  unfold packed packRow
  rw [List.flatMap_def]
  rfl

theorem fontOf_bitmap :
    (fontOf glyph first last).bitmap = ((List.range (last - first + 1)).flatMap fun idx =>
      (packed w h (glyph (idx + first)).pixel).map UInt8.ofNat).toArray := by
  unfold fontOf fontOfChars
  dsimp only
  rw [List.flatMap_map]
  simp only [genChar_rows]

variable (hw : w ≤ 255) (hh : h ≤ 255) (hlast : last ≤ 255) (hlt : first < last)

include hlast hlt in
theorem fontGetCharDesc_fontOf (c : UInt8) :
    fontGetCharDesc (fontOf glyph first last) c =
      if first ≤ c.toNat ∧ c.toNat ≤ last then
        some ⟨UInt8.ofNat w, UInt16.ofNat (rowBytes w * h * (c.toNat - first))⟩
      else none := by
  have hfirst : (UInt8.ofNat first).toNat = first :=
    UInt8.toNat_ofNat_of_lt' (Nat.lt_succ_of_le (hlt.le.trans hlast))
  have hend : (UInt8.ofNat last).toNat = last :=
    UInt8.toNat_ofNat_of_lt' (Nat.lt_succ_of_le hlast)
  unfold fontGetCharDesc
  by_cases hin : first ≤ c.toNat ∧ c.toNat ≤ last
  · have hout : ¬(decide (c < (fontOf glyph first last).charStart) ||
        decide (c > (fontOf glyph first last).charEnd)) = true := by
      rw [Bool.or_eq_true, decide_eq_true_eq, decide_eq_true_eq, gt_iff_lt, UInt8.lt_iff_toNat_lt,
        UInt8.lt_iff_toNat_lt]
      change ¬(c.toNat < (UInt8.ofNat first).toNat ∨ (UInt8.ofNat last).toNat < c.toNat)
      omega
    have hidx : (c - (fontOf glyph first last).charStart).toNat = c.toNat - first := by
      rw [UInt8.toNat_sub_of_le _ _ (UInt8.le_iff_toNat_le.mpr (by
        change (UInt8.ofNat first).toNat ≤ c.toNat
        omega))]
      change c.toNat - (UInt8.ofNat first).toNat = _
      rw [hfirst]
    rw [if_neg hout, if_pos hin, hidx]
    unfold fontOf fontOfChars
    dsimp only
    rw [List.getElem?_toArray, List.getElem?_map, List.getElem?_map,
      List.getElem?_range (by omega)]
    rfl
  · have hout : (decide (c < (fontOf glyph first last).charStart) ||
        decide (c > (fontOf glyph first last).charEnd)) = true := by
      rw [Bool.or_eq_true, decide_eq_true_eq, decide_eq_true_eq, gt_iff_lt, UInt8.lt_iff_toNat_lt,
        UInt8.lt_iff_toNat_lt]
      change c.toNat < (UInt8.ofNat first).toNat ∨ (UInt8.ofNat last).toNat < c.toNat
      omega
    rw [if_pos hout, if_neg hin]

/-- Byte `k` of picture `idx`. -/
theorem fontOf_byte {idx k : Nat} (hidx : idx < last - first + 1) (hk : k < rowBytes w * h) :
    ((fontOf glyph first last).bitmap[rowBytes w * h * idx + k]?.getD 0).toNat =
      (packed w h (glyph (idx + first)).pixel)[k]?.getD 0 := by
  have hlen : ∀ i, ((packed w h (glyph (i + first)).pixel).map UInt8.ofNat).length =
      rowBytes w * h := by
    intro i
    rw [List.length_map, length_packed, Nat.mul_comm]
  rw [fontOf_bitmap, List.getElem?_toArray, Nat.mul_comm (rowBytes w * h),
    getElem?_flatMap_blocks hlen hidx hk, List.getElem?_map]
  cases hb : (packed w h (glyph (idx + first)).pixel)[k]? with
  | none => rfl
  | some b =>
    rw [Option.map_some, Option.getD_some, Option.getD_some, UInt8.toNat_ofNat']
    exact Nat.mod_eq_of_lt (packed_lt (List.mem_of_getElem? hb))

include hw in
/-- The test of a bit, with the index of its byte cut to eight bits. -/
theorem fontBit_fontOf {idx x y : Nat} (hidx : idx < last - first + 1)
    (hoffset : rowBytes w * h * idx < 65536)
    (hk : (rowBytes w * y + x / 8) % 256 < rowBytes w * h) :
    fontBit (fontOf glyph first last)
        ⟨UInt8.ofNat w, UInt16.ofNat (rowBytes w * h * idx)⟩ x y =
      ((packed w h (glyph (idx + first)).pixel)[(rowBytes w * y + x / 8) % 256]?.getD 0).testBit
        (7 - x % 8) := by
  have hwidth : (UInt8.ofNat w).toNat = w := UInt8.toNat_ofNat_of_lt' (Nat.lt_succ_of_le hw)
  unfold fontBit
  dsimp only
  rw [hwidth, UInt8.toNat_ofNat', UInt16.toNat_ofNat', Nat.mod_eq_of_lt hoffset,
    show (w + 7) / 8 = rowBytes w from rfl]
  exact congrArg (Nat.testBit · (7 - x % 8)) (fontOf_byte glyph first last hidx hk)

include hw hh in
theorem size_le : rowBytes w * h ≤ 8160 :=
  (Nat.mul_le_mul (show rowBytes w ≤ 32 by unfold rowBytes; omega) hh).trans (by decide)

section

variable (hbytes : rowBytes w * h ≤ 256)

include hw hh hlast hlt hbytes

theorem charCovers_fontOf (x0 : Int) (c : UInt8) (qx qy : Int) :
    (fontOf glyph first last).CharCovers y0 scale x0 c qx qy ↔
      PictureCovers glyph first last y0 scale x0 c qx qy := by
  have hwidth : (UInt8.ofNat w).toNat = w := UInt8.toNat_ofNat_of_lt' (Nat.lt_succ_of_le hw)
  have hheight : (fontOf glyph first last).height.toNat = h :=
    UInt8.toNat_ofNat_of_lt' (Nat.lt_succ_of_le hh)
  unfold FontInfo.CharCovers PictureCovers
  rw [fontGetCharDesc_fontOf glyph first last hlast hlt, hheight]
  by_cases hin : first ≤ c.toNat ∧ c.toNat ≤ last
  · have hcode : c.toNat - first + first = c.toNat := by omega
    have hbit : ∀ {x y : Nat}, x < w → y < h →
        fontBit (fontOf glyph first last)
          ⟨UInt8.ofNat w, UInt16.ofNat (rowBytes w * h * (c.toNat - first))⟩ x y =
            (glyph c.toNat).pixel y x := by
      intro x y hx hy
      have hindex := index_lt hx hy
      have hoffset : rowBytes w * h * (c.toNat - first) ≤ 256 * 255 :=
        Nat.mul_le_mul hbytes (by omega)
      have hcut : (rowBytes w * y + x / 8) % 256 = rowBytes w * y + x / 8 :=
        Nat.mod_eq_of_lt (by omega)
      rw [fontBit_fontOf glyph first last hw (by omega) (by omega) (by rw [hcut]; exact hindex),
        hcut, testBit_packed _ hx hy, hcode]
    rw [if_pos hin, and_iff_right hin]
    constructor
    · rintro ⟨ch, hch, y, hy, x, hx, hset, hpixel⟩
      obtain rfl := Option.some.inj hch
      rw [hwidth] at hx
      rw [hbit hx hy] at hset
      exact ⟨y, hy, x, hx, hset, hpixel⟩
    · rintro ⟨y, hy, x, hx, hset, hpixel⟩
      refine ⟨_, rfl, y, hy, x, hwidth.symm ▸ hx, ?_, hpixel⟩
      rw [hbit hx hy]
      exact hset
  · rw [if_neg hin]
    refine iff_of_false ?_ fun hc => hin hc.1
    rintro ⟨ch, hch, -⟩
    cases hch

theorem textCovers_fontOf (x0 : Int) (str : List UInt8) (qx qy : Int) :
    (fontOf glyph first last).TextCovers y0 scale x0 str qx qy ↔
      PicturesCover glyph first last y0 scale x0 str qx qy := by
  have hwidth : (UInt8.ofNat w).toNat = w := UInt8.toNat_ofNat_of_lt' (Nat.lt_succ_of_le hw)
  have hadvance : ∀ c, (fontOf glyph first last).advance scale c =
      if first ≤ c.toNat ∧ c.toNat ≤ last then w * scale else scale := by
    intro c
    unfold FontInfo.advance
    rw [fontGetCharDesc_fontOf glyph first last hlast hlt,
      show (fontOf glyph first last).c.toNat = 0 from rfl, Nat.zero_mul, Nat.add_zero]
    by_cases hin : first ≤ c.toNat ∧ c.toNat ≤ last
    · rw [if_pos hin, if_pos hin]
      exact congrArg (· * scale) hwidth
    · rw [if_neg hin, if_neg hin]
  induction str generalizing x0 with
  | nil => exact Iff.rfl
  | cons c str ih =>
    unfold FontInfo.TextCovers PicturesCover
    rw [hadvance]
    exact or_congr (charCovers_fontOf glyph first last y0 scale hw hh hlast hlt hbytes x0 c qx qy)
      (ih _)

theorem drawsPictures_fontOf : DrawsPictures glyph first last (fontOf glyph first last) := by
  intro y0 scale x0 str _ px hpx py hpy
  have hcov : (fontOf glyph first last).TextCovers y0 scale x0 str =
      PicturesCover glyph first last y0 scale x0 str := by
    funext qx qy
    exact propext (textCovers_fontOf glyph first last y0 scale hw hh hlast hlt hbytes x0 str qx qy)
  rw [FontInfo.lit_stringScaled _ y0 scale hpx hpy, hcov, lit_displayClearFb]
  exact or_iff_right Bool.false_ne_true

end

end

/-! ## Pictures of more bytes -/

/-- A picture of one pixel. -/
def Image.dot (w h row idx : Nat) : Image w h where
  data := (List.range (w * h)).map fun k => if k = row * w + idx then 1 else 0
  length_eq := by rw [List.length_map, List.length_range]

theorem Image.pixel_dot {w h row idx : Nat} (hidx : idx < w) {row' idx' : Nat} (hrow' : row' < h)
    (hidx' : idx' < w) :
    (Image.dot w h row idx).pixel row' idx' = true ↔ row' = row ∧ idx' = idx := by
  have hlt : row' * w + idx' < w * h := by
    have := Nat.mul_le_mul_right w (Nat.succ_le_of_lt hrow')
    rw [Nat.succ_mul, Nat.mul_comm h] at this
    omega
  unfold Image.pixel Image.dot
  rw [List.getElem?_map, List.getElem?_range hlt, Option.map_some, Option.getD_some,
    decide_eq_true_eq]
  constructor
  · intro h
    have heq : row' * w + idx' = row * w + idx := by
      by_contra hne
      exact h (if_neg hne)
    have hmod : (row' * w + idx') % w = (row * w + idx) % w := congrArg (· % w) heq
    rw [Nat.mul_add_mod', Nat.mul_add_mod', Nat.mod_eq_of_lt hidx', Nat.mod_eq_of_lt hidx] at hmod
    rw [hmod] at heq
    exact ⟨Nat.eq_of_mul_eq_mul_right (Nat.zero_lt_of_lt hidx) (Nat.add_right_cancel heq), hmod⟩
  · rintro ⟨rfl, rfl⟩
    rw [if_pos rfl]
    exact Nat.one_ne_zero

/-- **The font tool and the drawing functions.** For a size and a range of characters that fit
    their fields, the font that the tool makes of pictures draws every text as its pictures,
    whatever they show, exactly if a picture takes at most 256 bytes. -/
theorem fonts_draw_iff {w h first last : Nat} (hw : w ≤ 255) (hh : h ≤ 255) (hlast : last ≤ 255)
    (hlt : first < last) :
    (∀ glyph : Nat → Image w h, ∃ font, createFont glyph first last = some font ∧
        DrawsPictures glyph first last font) ↔
      (w + 7) / 8 * h ≤ 256 := by
  constructor
  · intro hall
    by_contra hlarge
    have hlarge : 256 < rowBytes w * h := Nat.lt_of_not_le hlarge
    have hpos : 0 < rowBytes w := Nat.pos_of_mul_pos_right (Nat.zero_lt_of_lt hlarge)
    have hrow : 256 / rowBytes w < h := Nat.div_lt_of_lt_mul hlarge
    have hmod := Nat.mod_lt 256 hpos
    have hidx : 8 * (256 % rowBytes w) < w := by
      unfold rowBytes at hmod ⊢
      omega
    -- a picture whose only pixel is in byte 256, and a text of one character with this picture
    let glyph : Nat → Image w h := fun _ =>
      Image.dot w h (256 / rowBytes w) (8 * (256 % rowBytes w))
    let c : UInt8 := UInt8.ofNat (max first 1)
    have hc : c.toNat = max first 1 :=
      UInt8.toNat_ofNat_of_lt' (Nat.lt_succ_of_le (max_le (hlt.le.trans hlast) (by omega)))
    have hin : first ≤ c.toNat ∧ c.toNat ≤ last := by omega
    obtain ⟨font, hfont, hdraws⟩ := hall glyph
    rw [createFont_eq glyph first last hlt] at hfont
    obtain rfl := Option.some.inj hfont
    have hnone : ∀ qx qy, ¬(fontOf glyph first last).TextCovers (-(256 / rowBytes w : Nat)) 1
        (-(8 * (256 % rowBytes w) : Nat)) [c] qx qy := by
      rintro qx qy (⟨ch, hch, y, -, x, -, hset, -⟩ | hnil)
      · rw [fontGetCharDesc_fontOf glyph first last hlast hlt, if_pos hin] at hch
        obtain rfl := Option.some.inj hch
        have hbyte : (rowBytes w * y + x / 8) % 256 < 256 := Nat.mod_lt _ (by decide)
        have hsize := size_le hw hh
        have hoffset : rowBytes w * h * (c.toNat - first) ≤ 8160 * 1 :=
          Nat.mul_le_mul hsize (by omega)
        rw [fontBit_fontOf glyph first last hw (by omega) (by omega) (by omega),
          testBit_packed_byte _ (by omega) (Nat.mod_lt x (by decide))] at hset
        split at hset
        case isTrue hwidth =>
          obtain ⟨hy, hx⟩ := (Image.pixel_dot hidx (Nat.div_lt_of_lt_mul (by omega)) hwidth).mp hset
          have hcol : (rowBytes w * y + x / 8) % 256 % rowBytes w = 256 % rowBytes w := by omega
          have hsame : (rowBytes w * y + x / 8) % 256 = 256 := by
            rw [← Nat.div_add_mod ((rowBytes w * y + x / 8) % 256) (rowBytes w), hy, hcol,
              Nat.div_add_mod]
          omega
        case isFalse => exact absurd hset Bool.false_ne_true
      · exact hnil
    have hcov : PicturesCover glyph first last (-(256 / rowBytes w : Nat)) 1
        (-(8 * (256 % rowBytes w) : Nat)) [c] 0 0 := by
      refine .inl ⟨hin, 256 / rowBytes w, hrow, 8 * (256 % rowBytes w), hidx,
        (Image.pixel_dot hidx hrow hidx).mpr ⟨rfl, rfl⟩, ?_⟩
      unfold InBit
      omega
    have hzero : (0 : UInt8) ∉ [c] := by
      intro hmem
      have := congrArg UInt8.toNat (List.mem_singleton.mp hmem)
      rw [hc] at this
      change 0 = _ at this
      omega
    have hlit := (hdraws _ 1 _ [c] hzero 0 (by decide) 0 (by decide)).mpr
      ⟨0, 0, hcov, by decide, by decide⟩
    rw [FontInfo.lit_stringScaled _ _ 1 (by decide) (by decide), lit_displayClearFb] at hlit
    obtain ⟨qx, qy, htext, -⟩ := hlit.resolve_left Bool.false_ne_true
    exact hnone qx qy htext
  · intro hbytes glyph
    exact ⟨_, createFont_eq glyph first last hlt,
      drawsPictures_fontOf glyph first last hw hh hlast hlt hbytes⟩

/-- Pictures of 16 by 32 pixels, one of each printable character. -/
theorem fonts_draw_large :
    (∀ glyph : Nat → Image 16 32, ∃ font, createFont glyph 32 126 = some font ∧
        DrawsPictures glyph 32 126 font) ↔ (16 + 7) / 8 * 32 ≤ 256 :=
  fonts_draw_iff (by decide) (by decide) (by decide) (by decide)

end IndoorLogger
