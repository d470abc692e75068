/-
  `font_info_t` of `components/fonts`, and the built-in font that the client draws with. The
  module is data, but for what a lookup in that font returns (`fontGetCharDesc_glcd5x7`).
-/

namespace IndoorLogger

/-- `font_char_desc_t`. -/
structure FontCharDesc where
  width : UInt8
  offset : UInt16
  deriving DecidableEq

/-- `font_info_t`. -/
structure FontInfo where
  height : UInt8
  c : UInt8
  charStart : UInt8
  charEnd : UInt8
  charDescriptors : Array FontCharDesc
  bitmap : Array UInt8

/-- `font_get_char_desc`. -/
def fontGetCharDesc (font : FontInfo) (c : UInt8) : Option FontCharDesc :=
  if c < font.charStart || c > font.charEnd then none
  else font.charDescriptors[(c - font.charStart).toNat]?

/-- `_fonts_glcd_5x7_bitmaps`, two characters a line. -/
def fontsGlcd5x7Bitmaps : Array UInt8 := #[
  0x00, 0x00, 0x00, 0x00, 0x00, 0x00, 0x00, 0x70, 0xF8, 0xA8, 0xF8, 0xD8, 0x88, 0x70,
  0x70, 0xF8, 0xA8, 0xF8, 0x88, 0xD8, 0x70, 0x00, 0x50, 0xF8, 0xF8, 0xF8, 0x70, 0x20,
  0x00, 0x20, 0x70, 0xF8, 0xF8, 0x70, 0x20, 0x70, 0x50, 0xF8, 0xA8, 0xF8, 0x20, 0x70,
  0x20, 0x70, 0xF8, 0xF8, 0xF8, 0x20, 0x70, 0x00, 0x00, 0x20, 0x70, 0x70, 0x20, 0x00,
  0xF8, 0xF8, 0xD8, 0x88, 0x88, 0xD8, 0xF8, 0x00, 0x00, 0x20, 0x50, 0x50, 0x20, 0x00,
  0xF8, 0xF8, 0xD8, 0xA8, 0xA8, 0xD8, 0xF8, 0x00, 0x38, 0x18, 0x68, 0xA0, 0xA0, 0x40,
  0x70, 0x88, 0x88, 0x70, 0x20, 0xF8, 0x20, 0x78, 0x48, 0x78, 0x40, 0x40, 0x40, 0xC0,
  0x78, 0x48, 0x78, 0x48, 0x48, 0x58, 0xC0, 0x20, 0xA8, 0x70, 0xD8, 0xD8, 0x70, 0xA8,
  0x80, 0xC0, 0xF0, 0xF8, 0xF0, 0xC0, 0x80, 0x08, 0x18, 0x78, 0xF8, 0x78, 0x18, 0x08,
  0x20, 0x70, 0xA8, 0x20, 0xA8, 0x70, 0x20, 0xD8, 0xD8, 0xD8, 0xD8, 0xD8, 0x00, 0xD8,
  0x78, 0xA8, 0xA8, 0x68, 0x28, 0x28, 0x28, 0x30, 0x48, 0x50, 0x28, 0x10, 0x48, 0x48,
  0x00, 0x00, 0x00, 0x00, 0x00, 0xF8, 0xF8, 0x20, 0x70, 0xA8, 0x20, 0xA8, 0x70, 0x20,
  0x00, 0x20, 0x70, 0xA8, 0x20, 0x20, 0x20, 0x00, 0x20, 0x20, 0x20, 0xA8, 0x70, 0x20,
  0x00, 0x20, 0x10, 0xF8, 0x10, 0x20, 0x00, 0x00, 0x20, 0x40, 0xF8, 0x40, 0x20, 0x00,
  0x00, 0x80, 0x80, 0x80, 0xF8, 0x00, 0x00, 0x00, 0x50, 0xF8, 0xF8, 0x50, 0x00, 0x00,
  0x00, 0x20, 0x20, 0x70, 0xF8, 0xF8, 0x00, 0x00, 0xF8, 0xF8, 0x70, 0x20, 0x20, 0x00,
  0x00, 0x00, 0x00, 0x00, 0x00, 0x00, 0x00, 0x20, 0x20, 0x20, 0x20, 0x20, 0x00, 0x20,
  0x50, 0x50, 0x50, 0x00, 0x00, 0x00, 0x00, 0x50, 0x50, 0xF8, 0x50, 0xF8, 0x50, 0x50,
  0x20, 0x78, 0xA0, 0x70, 0x28, 0xF0, 0x20, 0xC0, 0xC8, 0x10, 0x20, 0x40, 0x98, 0x18,
  0x40, 0xA0, 0xA0, 0x40, 0xA8, 0x90, 0x68, 0x30, 0x30, 0x20, 0x40, 0x00, 0x00, 0x00,
  0x10, 0x20, 0x40, 0x40, 0x40, 0x20, 0x10, 0x40, 0x20, 0x10, 0x10, 0x10, 0x20, 0x40,
  0x20, 0xA8, 0x70, 0xF8, 0x70, 0xA8, 0x20, 0x00, 0x20, 0x20, 0xF8, 0x20, 0x20, 0x00,
  0x00, 0x00, 0x00, 0x00, 0x30, 0x30, 0x20, 0x00, 0x00, 0x00, 0xF8, 0x00, 0x00, 0x00,
  0x00, 0x00, 0x00, 0x00, 0x00, 0x30, 0x30, 0x00, 0x08, 0x10, 0x20, 0x40, 0x80, 0x00,
  0x70, 0x88, 0x98, 0xA8, 0xC8, 0x88, 0x70, 0x20, 0x60, 0x20, 0x20, 0x20, 0x20, 0x70,
  0x70, 0x88, 0x08, 0x70, 0x80, 0x80, 0xF8, 0xF8, 0x08, 0x10, 0x30, 0x08, 0x88, 0x70,
  0x10, 0x30, 0x50, 0x90, 0xF8, 0x10, 0x10, 0xF8, 0x80, 0xF0, 0x08, 0x08, 0x88, 0x70,
  0x38, 0x40, 0x80, 0xF0, 0x88, 0x88, 0x70, 0xF8, 0x08, 0x08, 0x10, 0x20, 0x40, 0x80,
  0x70, 0x88, 0x88, 0x70, 0x88, 0x88, 0x70, 0x70, 0x88, 0x88, 0x78, 0x08, 0x10, 0xE0,
  0x00, 0x00, 0x20, 0x00, 0x20, 0x00, 0x00, 0x00, 0x00, 0x20, 0x00, 0x20, 0x20, 0x40,
  0x08, 0x10, 0x20, 0x40, 0x20, 0x10, 0x08, 0x00, 0x00, 0xF8, 0x00, 0xF8, 0x00, 0x00,
  0x40, 0x20, 0x10, 0x08, 0x10, 0x20, 0x40, 0x70, 0x88, 0x08, 0x30, 0x20, 0x00, 0x20,
  0x70, 0x88, 0xA8, 0xB8, 0xB0, 0x80, 0x78, 0x20, 0x50, 0x88, 0x88, 0xF8, 0x88, 0x88,
  0xF0, 0x88, 0x88, 0xF0, 0x88, 0x88, 0xF0, 0x70, 0x88, 0x80, 0x80, 0x80, 0x88, 0x70,
  0xF0, 0x88, 0x88, 0x88, 0x88, 0x88, 0xF0, 0xF8, 0x80, 0x80, 0xF0, 0x80, 0x80, 0xF8,
  0xF8, 0x80, 0x80, 0xF0, 0x80, 0x80, 0x80, 0x78, 0x88, 0x80, 0x80, 0x98, 0x88, 0x78,
  0x88, 0x88, 0x88, 0xF8, 0x88, 0x88, 0x88, 0x70, 0x20, 0x20, 0x20, 0x20, 0x20, 0x70,
  0x38, 0x10, 0x10, 0x10, 0x10, 0x90, 0x60, 0x88, 0x90, 0xA0, 0xC0, 0xA0, 0x90, 0x88,
  0x80, 0x80, 0x80, 0x80, 0x80, 0x80, 0xF8, 0x88, 0xD8, 0xA8, 0xA8, 0xA8, 0x88, 0x88,
  0x88, 0x88, 0xC8, 0xA8, 0x98, 0x88, 0x88, 0x70, 0x88, 0x88, 0x88, 0x88, 0x88, 0x70,
  0xF0, 0x88, 0x88, 0xF0, 0x80, 0x80, 0x80, 0x70, 0x88, 0x88, 0x88, 0xA8, 0x90, 0x68,
  0xF0, 0x88, 0x88, 0xF0, 0xA0, 0x90, 0x88, 0x70, 0x88, 0x80, 0x70, 0x08, 0x88, 0x70,
  0xF8, 0xA8, 0x20, 0x20, 0x20, 0x20, 0x20, 0x88, 0x88, 0x88, 0x88, 0x88, 0x88, 0x70,
  0x88, 0x88, 0x88, 0x88, 0x88, 0x50, 0x20, 0x88, 0x88, 0x88, 0xA8, 0xA8, 0xA8, 0x50,
  0x88, 0x88, 0x50, 0x20, 0x50, 0x88, 0x88, 0x88, 0x88, 0x50, 0x20, 0x20, 0x20, 0x20,
  0xF8, 0x08, 0x10, 0x70, 0x40, 0x80, 0xF8, 0x78, 0x40, 0x40, 0x40, 0x40, 0x40, 0x78,
  0x00, 0x80, 0x40, 0x20, 0x10, 0x08, 0x00, 0x78, 0x08, 0x08, 0x08, 0x08, 0x08, 0x78,
  0x20, 0x50, 0x88, 0x00, 0x00, 0x00, 0x00, 0x00, 0x00, 0x00, 0x00, 0x00, 0x00, 0xF8,
  0x60, 0x60, 0x20, 0x10, 0x00, 0x00, 0x00, 0x00, 0x00, 0x60, 0x10, 0x70, 0x90, 0x78,
  0x80, 0x80, 0xB0, 0xC8, 0x88, 0xC8, 0xB0, 0x00, 0x00, 0x70, 0x88, 0x80, 0x88, 0x70,
  0x08, 0x08, 0x68, 0x98, 0x88, 0x98, 0x68, 0x00, 0x00, 0x70, 0x88, 0xF8, 0x80, 0x70,
  0x10, 0x28, 0x20, 0x70, 0x20, 0x20, 0x20, 0x00, 0x00, 0x70, 0x98, 0x98, 0x68, 0x08,
  0x80, 0x80, 0xB0, 0xC8, 0x88, 0x88, 0x88, 0x20, 0x00, 0x60, 0x20, 0x20, 0x20, 0x70,
  0x10, 0x00, 0x10, 0x10, 0x10, 0x90, 0x60, 0x80, 0x80, 0x90, 0xA0, 0xC0, 0xA0, 0x90,
  0x60, 0x20, 0x20, 0x20, 0x20, 0x20, 0x70, 0x00, 0x00, 0xD0, 0xA8, 0xA8, 0xA8, 0xA8,
  0x00, 0x00, 0xB0, 0xC8, 0x88, 0x88, 0x88, 0x00, 0x00, 0x70, 0x88, 0x88, 0x88, 0x70,
  0x00, 0x00, 0xB0, 0xC8, 0xC8, 0xB0, 0x80, 0x00, 0x00, 0x68, 0x98, 0x98, 0x68, 0x08,
  0x00, 0x00, 0xB0, 0xC8, 0x80, 0x80, 0x80, 0x00, 0x00, 0x78, 0x80, 0x70, 0x08, 0xF0,
  0x20, 0x20, 0xF8, 0x20, 0x20, 0x28, 0x10, 0x00, 0x00, 0x88, 0x88, 0x88, 0x98, 0x68,
  0x00, 0x00, 0x88, 0x88, 0x88, 0x50, 0x20, 0x00, 0x00, 0x88, 0x88, 0xA8, 0xA8, 0x50,
  0x00, 0x00, 0x88, 0x50, 0x20, 0x50, 0x88, 0x00, 0x00, 0x88, 0x88, 0x78, 0x08, 0x88,
  0x00, 0x00, 0xF8, 0x10, 0x20, 0x40, 0xF8, 0x10, 0x20, 0x20, 0x40, 0x20, 0x20, 0x10,
  0x20, 0x20, 0x20, 0x00, 0x20, 0x20, 0x20, 0x40, 0x20, 0x20, 0x10, 0x20, 0x20, 0x40,
  0x40, 0xA8, 0x10, 0x00, 0x00, 0x00, 0x00, 0x20, 0x70, 0xD8, 0x88, 0x88, 0xF8, 0x00,
  0x70, 0x88, 0x80, 0x80, 0x88, 0x70, 0x10, 0x00, 0x88, 0x00, 0x88, 0x88, 0x98, 0x68,
  0x18, 0x00, 0x70, 0x88, 0xF8, 0x80, 0x78, 0xF8, 0x00, 0x60, 0x10, 0x70, 0x90, 0x78,
  0x00, 0x88, 0x60, 0x10, 0x70, 0x90, 0x78, 0xC0, 0x00, 0x60, 0x10, 0x70, 0x90, 0x78,
  0x30, 0x00, 0x60, 0x10, 0x70, 0x90, 0x78, 0x00, 0x78, 0xC0, 0xC0, 0x78, 0x10, 0x30,
  0xF8, 0x00, 0x70, 0x88, 0xF8, 0x80, 0x78, 0x88, 0x00, 0x70, 0x88, 0xF8, 0x80, 0x78,
  0xC0, 0x00, 0x70, 0x88, 0xF8, 0x80, 0x78, 0x28, 0x00, 0x30, 0x10, 0x10, 0x10, 0x38,
  0x30, 0x48, 0x30, 0x10, 0x10, 0x10, 0x38, 0x60, 0x00, 0x30, 0x10, 0x10, 0x10, 0x38,
  0xA8, 0x50, 0x88, 0x88, 0xF8, 0x88, 0x88, 0x20, 0x00, 0x20, 0x50, 0x88, 0xF8, 0x88,
  0x30, 0x00, 0xF0, 0x80, 0xE0, 0x80, 0xF0, 0x00, 0x00, 0x78, 0x10, 0x78, 0x90, 0x78,
  0x38, 0x50, 0x90, 0xF8, 0x90, 0x90, 0x98, 0x70, 0x88, 0x00, 0x70, 0x88, 0x88, 0x70,
  0x00, 0x88, 0x70, 0x88, 0x88, 0x88, 0x70, 0x00, 0xC0, 0x00, 0x70, 0x88, 0x88, 0x70,
  0x70, 0x88, 0x00, 0x88, 0x88, 0x98, 0x68, 0x00, 0xC0, 0x00, 0x88, 0x88, 0x98, 0x68,
  0x48, 0x00, 0x48, 0x48, 0x48, 0x38, 0x08, 0x88, 0x70, 0x88, 0x88, 0x88, 0x88, 0x70,
  0x88, 0x00, 0x88, 0x88, 0x88, 0x88, 0x70, 0x20, 0x20, 0xF8, 0xA0, 0xA0, 0xF8, 0x20,
  0x30, 0x58, 0x48, 0xE0, 0x40, 0x48, 0xF8, 0xD8, 0xD8, 0x70, 0xF8, 0x20, 0xF8, 0x20,
  0xE0, 0x90, 0x90, 0xE0, 0x90, 0xB8, 0x90, 0x18, 0x28, 0x20, 0x70, 0x20, 0x20, 0xA0,
  0x18, 0x00, 0x60, 0x10, 0x70, 0x90, 0x78, 0x18, 0x00, 0x30, 0x10, 0x10, 0x10, 0x38,
  0x00, 0x18, 0x00, 0x70, 0x88, 0x88, 0x70, 0x00, 0x18, 0x00, 0x88, 0x88, 0x98, 0x68,
  0x00, 0x78, 0x00, 0x70, 0x48, 0x48, 0x48, 0xF8, 0x00, 0xC8, 0xE8, 0xB8, 0x98, 0x88,
  0x70, 0x90, 0x90, 0x78, 0x00, 0xF8, 0x00, 0x70, 0x88, 0x88, 0x70, 0x00, 0xF8, 0x00,
  0x20, 0x00, 0x20, 0x60, 0x80, 0x88, 0x70, 0x00, 0x00, 0x00, 0xF8, 0x80, 0x80, 0x00,
  0x00, 0x00, 0x00, 0xF8, 0x08, 0x08, 0x00, 0x80, 0x88, 0x90, 0xB8, 0x48, 0x98, 0x20,
  0x80, 0x88, 0x90, 0xA8, 0x58, 0xB8, 0x08, 0x20, 0x20, 0x00, 0x20, 0x20, 0x20, 0x20,
  0x00, 0x28, 0x50, 0xA0, 0x50, 0x28, 0x00, 0x00, 0xA0, 0x50, 0x28, 0x50, 0xA0, 0x00,
  0x20, 0x88, 0x20, 0x88, 0x20, 0x88, 0x20, 0x50, 0xA8, 0x50, 0xA8, 0x50, 0xA8, 0x50,
  0x10, 0x10, 0x10, 0x10, 0x10, 0x10, 0x10, 0x10, 0x10, 0x10, 0x10, 0xF0, 0x10, 0x10,
  0x10, 0x10, 0xF0, 0x10, 0xF0, 0x10, 0x10, 0x28, 0x28, 0x28, 0x28, 0xE8, 0x28, 0x28,
  0x00, 0x00, 0x00, 0x00, 0xF8, 0x28, 0x28, 0x00, 0x00, 0xF0, 0x10, 0xF0, 0x10, 0x10,
  0x28, 0x28, 0xE8, 0x08, 0xE8, 0x28, 0x28, 0x28, 0x28, 0x28, 0x28, 0x28, 0x28, 0x28,
  0x00, 0x00, 0xF8, 0x08, 0xE8, 0x28, 0x28, 0x28, 0x28, 0xE8, 0x08, 0xF8, 0x00, 0x00,
  0x28, 0x28, 0x28, 0x28, 0xF8, 0x00, 0x00, 0x10, 0x10, 0xF0, 0x10, 0xF0, 0x00, 0x00,
  0x00, 0x00, 0x00, 0x00, 0xF0, 0x10, 0x10, 0x10, 0x10, 0x10, 0x10, 0x18, 0x00, 0x00,
  0x10, 0x10, 0x10, 0x10, 0xF8, 0x00, 0x00, 0x00, 0x00, 0x00, 0x00, 0xF8, 0x10, 0x10,
  0x10, 0x10, 0x10, 0x10, 0x18, 0x10, 0x10, 0x00, 0x00, 0x00, 0x00, 0xF8, 0x00, 0x00,
  0x10, 0x10, 0x10, 0x10, 0xF8, 0x10, 0x10, 0x10, 0x10, 0x18, 0x10, 0x18, 0x10, 0x10,
  0x28, 0x28, 0x28, 0x28, 0x28, 0x28, 0x28, 0x28, 0x28, 0x28, 0x20, 0x38, 0x00, 0x00,
  0x00, 0x00, 0x38, 0x20, 0x28, 0x28, 0x28, 0x28, 0x28, 0xE8, 0x00, 0xF8, 0x00, 0x00,
  0x00, 0x00, 0xF8, 0x00, 0xE8, 0x28, 0x28, 0x28, 0x28, 0x28, 0x20, 0x28, 0x28, 0x28,
  0x00, 0x00, 0xF8, 0x00, 0xF8, 0x00, 0x00, 0x28, 0x28, 0xE8, 0x00, 0xE8, 0x28, 0x28,
  0x10, 0x10, 0xF8, 0x00, 0xF8, 0x00, 0x00, 0x28, 0x28, 0x28, 0x28, 0xF8, 0x00, 0x00,
  0x00, 0x00, 0xF8, 0x00, 0xF8, 0x10, 0x10, 0x00, 0x00, 0x00, 0x00, 0xF8, 0x28, 0x28,
  0x28, 0x28, 0x28, 0x28, 0x38, 0x00, 0x00, 0x10, 0x10, 0x18, 0x10, 0x18, 0x00, 0x00,
  0x00, 0x00, 0x18, 0x10, 0x18, 0x10, 0x10, 0x00, 0x00, 0x00, 0x00, 0x38, 0x28, 0x28,
  0x28, 0x28, 0x28, 0x28, 0xF8, 0x28, 0x28, 0x10, 0x10, 0xF8, 0x10, 0xF8, 0x10, 0x10,
  0x10, 0x10, 0x10, 0x10, 0xF0, 0x00, 0x00, 0x00, 0x00, 0x00, 0x00, 0x18, 0x10, 0x10,
  0xF8, 0xF8, 0xF8, 0xF8, 0xF8, 0xF8, 0xF8, 0x00, 0x00, 0x00, 0x00, 0xF8, 0xF8, 0xF8,
  0xE0, 0xE0, 0xE0, 0xE0, 0xE0, 0xE0, 0xE0, 0x18, 0x18, 0x18, 0x18, 0x18, 0x18, 0x18,
  0xF8, 0xF8, 0xF8, 0xF8, 0x00, 0x00, 0x00, 0x00, 0x00, 0x68, 0x90, 0x90, 0x90, 0x68,
  0x00, 0x70, 0x88, 0xF0, 0x88, 0x88, 0xF0, 0x00, 0xF8, 0x98, 0x80, 0x80, 0x80, 0x80,
  0x00, 0xF8, 0x50, 0x50, 0x50, 0x50, 0x50, 0xF8, 0x88, 0x40, 0x20, 0x40, 0x88, 0xF8,
  0x00, 0x00, 0x78, 0x90, 0x90, 0x90, 0x60, 0x00, 0x50, 0x50, 0x50, 0x50, 0x68, 0xC0,
  0x00, 0xF8, 0xA0, 0x20, 0x20, 0x20, 0x20, 0xF8, 0x20, 0x70, 0x88, 0x88, 0x70, 0x20,
  0x20, 0x50, 0x88, 0xF8, 0x88, 0x50, 0x20, 0x20, 0x50, 0x88, 0x88, 0x50, 0x50, 0xD8,
  0x30, 0x40, 0x30, 0x70, 0x88, 0x88, 0x70, 0x00, 0x00, 0x00, 0x70, 0xA8, 0xA8, 0x70,
  0x08, 0x70, 0x98, 0xA8, 0xA8, 0xC8, 0x70, 0x70, 0x80, 0x80, 0xF0, 0x80, 0x80, 0x70,
  0x70, 0x88, 0x88, 0x88, 0x88, 0x88, 0x88, 0x00, 0xF8, 0x00, 0xF8, 0x00, 0xF8, 0x00,
  0x20, 0x20, 0xF8, 0x20, 0x20, 0x00, 0xF8, 0x40, 0x20, 0x10, 0x20, 0x40, 0x00, 0xF8,
  0x10, 0x20, 0x40, 0x20, 0x10, 0x00, 0xF8, 0x38, 0x28, 0x20, 0x20, 0x20, 0x20, 0x20,
  0x20, 0x20, 0x20, 0x20, 0x20, 0xA0, 0xA0, 0x30, 0x30, 0x00, 0xF8, 0x00, 0x30, 0x30,
  0x00, 0xE8, 0xB8, 0x00, 0xE8, 0xB8, 0x00, 0x70, 0xD8, 0xD8, 0x70, 0x00, 0x00, 0x00,
  0x00, 0x00, 0x00, 0x30, 0x30, 0x00, 0x00, 0x00, 0x00, 0x00, 0x00, 0x30, 0x00, 0x00,
  0x38, 0x20, 0x20, 0x20, 0xA0, 0xA0, 0x60, 0x70, 0x48, 0x48, 0x48, 0x48, 0x00, 0x00,
  0x70, 0x18, 0x30, 0x60, 0x78, 0x00, 0x00, 0x00, 0x00, 0x78, 0x78, 0x78, 0x78, 0x00,
  0x00, 0x00, 0x00, 0x00, 0x00, 0x00, 0x00, 0x08, 0x28, 0x08, 0x28, 0x00, 0x78, 0x08]

/-- `_fonts_glcd_5x7_descriptors`: each character is five pixels wide, and has seven bytes. -/
def fontsGlcd5x7Descriptors : Array FontCharDesc :=
  Array.ofFn fun code : Fin 256 => ⟨5, UInt16.ofNat (7 * code)⟩

/-- `_fonts_glcd_5x7_info`. -/
def fontsGlcd5x7Info : FontInfo where
  height := 7
  c := 1
  charStart := 0
  charEnd := 255
  charDescriptors := fontsGlcd5x7Descriptors
  bitmap := fontsGlcd5x7Bitmaps

/-- Every byte has a character. -/
theorem fontGetCharDesc_glcd5x7 (c : UInt8) :
    fontGetCharDesc fontsGlcd5x7Info c = some ⟨5, UInt16.ofNat (7 * c.toNat)⟩ := by
  have hrange : ¬(decide (c < 0) || decide (c > 255)) = true := by
    rw [Bool.or_eq_true, decide_eq_true_eq, decide_eq_true_eq, not_or]
    refine ⟨UInt8.not_lt.mpr UInt8.zero_le, UInt8.not_lt.mpr ?_⟩
    rw [UInt8.le_iff_toNat_le]
    exact Nat.le_of_lt_succ c.toNat_lt
  have hindex : (c - 0).toNat = c.toNat := congrArg UInt8.toNat (UInt8.sub_zero c)
  unfold fontGetCharDesc fontsGlcd5x7Info
  dsimp only
  rw [if_neg hrange, hindex]
  unfold fontsGlcd5x7Descriptors
  rw [Array.getElem?_ofFn, dif_pos c.toNat_lt]

end IndoorLogger
