import MainboardFirmware.Oled.Frame

/-!
# Font — `firmware/components/ssd1306/font8x8_basic.h`

The table of 8x8 glyphs, one row a character and one byte a column of it, and what the text functions
of the component make of a character: its row, inverted and flipped as asked.
-/

namespace MainboardFirmware
namespace Oled

/-- `font8x8_basic_tr` -/
def font8x8BasicTr : List (List UInt8) :=
  [ [0x00, 0x00, 0x00, 0x00, 0x00, 0x00, 0x00, 0x00], -- U+0000
    [0x00, 0x04, 0x02, 0xFF, 0x02, 0x04, 0x00, 0x00], -- U+0001
    [0x00, 0x20, 0x40, 0xFF, 0x40, 0x20, 0x00, 0x00], -- U+0002
    [0x00, 0x00, 0x00, 0x00, 0x00, 0x00, 0x00, 0x00], -- U+0003
    [0x00, 0x00, 0x00, 0x00, 0x00, 0x00, 0x00, 0x00], -- U+0004
    [0x00, 0x00, 0x00, 0x00, 0x00, 0x00, 0x00, 0x00], -- U+0005
    [0x00, 0x00, 0x00, 0x00, 0x00, 0x00, 0x00, 0x00], -- U+0006
    [0x00, 0x00, 0x00, 0x00, 0x00, 0x00, 0x00, 0x00], -- U+0007
    [0x00, 0x00, 0x00, 0x00, 0x00, 0x00, 0x00, 0x00], -- U+0008
    [0x00, 0x00, 0x00, 0x00, 0x00, 0x00, 0x00, 0x00], -- U+0009
    [0x00, 0x00, 0x00, 0x00, 0x00, 0x00, 0x00, 0x00], -- U+000A
    [0x00, 0x00, 0x00, 0x00, 0x00, 0x00, 0x00, 0x00], -- U+000B
    [0x00, 0x00, 0x00, 0x00, 0x00, 0x00, 0x00, 0x00], -- U+000C
    [0x00, 0x00, 0x00, 0x00, 0x00, 0x00, 0x00, 0x00], -- U+000D
    [0x00, 0x00, 0x00, 0x00, 0x00, 0x00, 0x00, 0x00], -- U+000E
    [0x00, 0x00, 0x00, 0x00, 0x00, 0x00, 0x00, 0x00], -- U+000F
    [0x00, 0x00, 0x00, 0x00, 0x00, 0x00, 0x00, 0x00], -- U+0010
    [0x00, 0x00, 0x00, 0x00, 0x00, 0x00, 0x00, 0x00], -- U+0011
    [0x00, 0x00, 0x00, 0x00, 0x00, 0x00, 0x00, 0x00], -- U+0012
    [0x00, 0x00, 0x00, 0x00, 0x00, 0x00, 0x00, 0x00], -- U+0013
    [0x00, 0x00, 0x00, 0x00, 0x00, 0x00, 0x00, 0x00], -- U+0014
    [0x00, 0x00, 0x00, 0x00, 0x00, 0x00, 0x00, 0x00], -- U+0015
    [0x00, 0x00, 0x00, 0x00, 0x00, 0x00, 0x00, 0x00], -- U+0016
    [0x00, 0x00, 0x00, 0x00, 0x00, 0x00, 0x00, 0x00], -- U+0017
    [0x00, 0x00, 0x00, 0x00, 0x00, 0x00, 0x00, 0x00], -- U+0018
    [0x00, 0x00, 0x00, 0x00, 0x00, 0x00, 0x00, 0x00], -- U+0019
    [0x00, 0x00, 0x00, 0x00, 0x00, 0x00, 0x00, 0x00], -- U+001A
    [0x00, 0x00, 0x00, 0x00, 0x00, 0x00, 0x00, 0x00], -- U+001B
    [0x00, 0x00, 0x00, 0x00, 0x00, 0x00, 0x00, 0x00], -- U+001C
    [0x00, 0x00, 0x00, 0x00, 0x00, 0x00, 0x00, 0x00], -- U+001D
    [0x00, 0x00, 0x00, 0x00, 0x00, 0x00, 0x00, 0x00], -- U+001E
    [0x00, 0x00, 0x00, 0x00, 0x00, 0x00, 0x00, 0x00], -- U+001F
    [0x00, 0x00, 0x00, 0x00, 0x00, 0x00, 0x00, 0x00], -- U+0020
    [0x00, 0x00, 0x06, 0x5F, 0x5F, 0x06, 0x00, 0x00], -- U+0021
    [0x00, 0x03, 0x03, 0x00, 0x03, 0x03, 0x00, 0x00], -- U+0022
    [0x14, 0x7F, 0x7F, 0x14, 0x7F, 0x7F, 0x14, 0x00], -- U+0023
    [0x24, 0x2E, 0x6B, 0x6B, 0x3A, 0x12, 0x00, 0x00], -- U+0024
    [0x46, 0x66, 0x30, 0x18, 0x0C, 0x66, 0x62, 0x00], -- U+0025
    [0x30, 0x7A, 0x4F, 0x5D, 0x37, 0x7A, 0x48, 0x00], -- U+0026
    [0x04, 0x07, 0x03, 0x00, 0x00, 0x00, 0x00, 0x00], -- U+0027
    [0x00, 0x1C, 0x3E, 0x63, 0x41, 0x00, 0x00, 0x00], -- U+0028
    [0x00, 0x41, 0x63, 0x3E, 0x1C, 0x00, 0x00, 0x00], -- U+0029
    [0x08, 0x2A, 0x3E, 0x1C, 0x1C, 0x3E, 0x2A, 0x08], -- U+002A
    [0x08, 0x08, 0x3E, 0x3E, 0x08, 0x08, 0x00, 0x00], -- U+002B
    [0x00, 0x80, 0xE0, 0x60, 0x00, 0x00, 0x00, 0x00], -- U+002C
    [0x08, 0x08, 0x08, 0x08, 0x08, 0x08, 0x00, 0x00], -- U+002D
    [0x00, 0x00, 0x60, 0x60, 0x00, 0x00, 0x00, 0x00], -- U+002E
    [0x60, 0x30, 0x18, 0x0C, 0x06, 0x03, 0x01, 0x00], -- U+002F
    [0x3E, 0x7F, 0x71, 0x59, 0x4D, 0x7F, 0x3E, 0x00], -- U+0030
    [0x40, 0x42, 0x7F, 0x7F, 0x40, 0x40, 0x00, 0x00], -- U+0031
    [0x62, 0x73, 0x59, 0x49, 0x6F, 0x66, 0x00, 0x00], -- U+0032
    [0x22, 0x63, 0x49, 0x49, 0x7F, 0x36, 0x00, 0x00], -- U+0033
    [0x18, 0x1C, 0x16, 0x53, 0x7F, 0x7F, 0x50, 0x00], -- U+0034
    [0x27, 0x67, 0x45, 0x45, 0x7D, 0x39, 0x00, 0x00], -- U+0035
    [0x3C, 0x7E, 0x4B, 0x49, 0x79, 0x30, 0x00, 0x00], -- U+0036
    [0x03, 0x03, 0x71, 0x79, 0x0F, 0x07, 0x00, 0x00], -- U+0037
    [0x36, 0x7F, 0x49, 0x49, 0x7F, 0x36, 0x00, 0x00], -- U+0038
    [0x06, 0x4F, 0x49, 0x69, 0x3F, 0x1E, 0x00, 0x00], -- U+0039
    [0x00, 0x00, 0x66, 0x66, 0x00, 0x00, 0x00, 0x00], -- U+003A
    [0x00, 0x80, 0xE6, 0x66, 0x00, 0x00, 0x00, 0x00], -- U+003B
    [0x08, 0x1C, 0x36, 0x63, 0x41, 0x00, 0x00, 0x00], -- U+003C
    [0x24, 0x24, 0x24, 0x24, 0x24, 0x24, 0x00, 0x00], -- U+003D
    [0x00, 0x41, 0x63, 0x36, 0x1C, 0x08, 0x00, 0x00], -- U+003E
    [0x02, 0x03, 0x51, 0x59, 0x0F, 0x06, 0x00, 0x00], -- U+003F
    [0x3E, 0x7F, 0x41, 0x5D, 0x5D, 0x1F, 0x1E, 0x00], -- U+0040
    [0x7C, 0x7E, 0x13, 0x13, 0x7E, 0x7C, 0x00, 0x00], -- U+0041
    [0x41, 0x7F, 0x7F, 0x49, 0x49, 0x7F, 0x36, 0x00], -- U+0042
    [0x1C, 0x3E, 0x63, 0x41, 0x41, 0x63, 0x22, 0x00], -- U+0043
    [0x41, 0x7F, 0x7F, 0x41, 0x63, 0x3E, 0x1C, 0x00], -- U+0044
    [0x41, 0x7F, 0x7F, 0x49, 0x5D, 0x41, 0x63, 0x00], -- U+0045
    [0x41, 0x7F, 0x7F, 0x49, 0x1D, 0x01, 0x03, 0x00], -- U+0046
    [0x1C, 0x3E, 0x63, 0x41, 0x51, 0x73, 0x72, 0x00], -- U+0047
    [0x7F, 0x7F, 0x08, 0x08, 0x7F, 0x7F, 0x00, 0x00], -- U+0048
    [0x00, 0x41, 0x7F, 0x7F, 0x41, 0x00, 0x00, 0x00], -- U+0049
    [0x30, 0x70, 0x40, 0x41, 0x7F, 0x3F, 0x01, 0x00], -- U+004A
    [0x41, 0x7F, 0x7F, 0x08, 0x1C, 0x77, 0x63, 0x00], -- U+004B
    [0x41, 0x7F, 0x7F, 0x41, 0x40, 0x60, 0x70, 0x00], -- U+004C
    [0x7F, 0x7F, 0x0E, 0x1C, 0x0E, 0x7F, 0x7F, 0x00], -- U+004D
    [0x7F, 0x7F, 0x06, 0x0C, 0x18, 0x7F, 0x7F, 0x00], -- U+004E
    [0x1C, 0x3E, 0x63, 0x41, 0x63, 0x3E, 0x1C, 0x00], -- U+004F
    [0x41, 0x7F, 0x7F, 0x49, 0x09, 0x0F, 0x06, 0x00], -- U+0050
    [0x1E, 0x3F, 0x21, 0x71, 0x7F, 0x5E, 0x00, 0x00], -- U+0051
    [0x41, 0x7F, 0x7F, 0x09, 0x19, 0x7F, 0x66, 0x00], -- U+0052
    [0x26, 0x6F, 0x4D, 0x59, 0x73, 0x32, 0x00, 0x00], -- U+0053
    [0x03, 0x41, 0x7F, 0x7F, 0x41, 0x03, 0x00, 0x00], -- U+0054
    [0x7F, 0x7F, 0x40, 0x40, 0x7F, 0x7F, 0x00, 0x00], -- U+0055
    [0x1F, 0x3F, 0x60, 0x60, 0x3F, 0x1F, 0x00, 0x00], -- U+0056
    [0x7F, 0x7F, 0x30, 0x18, 0x30, 0x7F, 0x7F, 0x00], -- U+0057
    [0x43, 0x67, 0x3C, 0x18, 0x3C, 0x67, 0x43, 0x00], -- U+0058
    [0x07, 0x4F, 0x78, 0x78, 0x4F, 0x07, 0x00, 0x00], -- U+0059
    [0x47, 0x63, 0x71, 0x59, 0x4D, 0x67, 0x73, 0x00], -- U+005A
    [0x00, 0x7F, 0x7F, 0x41, 0x41, 0x00, 0x00, 0x00], -- U+005B
    [0x01, 0x03, 0x06, 0x0C, 0x18, 0x30, 0x60, 0x00], -- U+005C
    [0x00, 0x41, 0x41, 0x7F, 0x7F, 0x00, 0x00, 0x00], -- U+005D
    [0x08, 0x0C, 0x06, 0x03, 0x06, 0x0C, 0x08, 0x00], -- U+005E
    [0x80, 0x80, 0x80, 0x80, 0x80, 0x80, 0x80, 0x80], -- U+005F
    [0x00, 0x00, 0x03, 0x07, 0x04, 0x00, 0x00, 0x00], -- U+0060
    [0x20, 0x74, 0x54, 0x54, 0x3C, 0x78, 0x40, 0x00], -- U+0061
    [0x41, 0x7F, 0x3F, 0x48, 0x48, 0x78, 0x30, 0x00], -- U+0062
    [0x38, 0x7C, 0x44, 0x44, 0x6C, 0x28, 0x00, 0x00], -- U+0063
    [0x30, 0x78, 0x48, 0x49, 0x3F, 0x7F, 0x40, 0x00], -- U+0064
    [0x38, 0x7C, 0x54, 0x54, 0x5C, 0x18, 0x00, 0x00], -- U+0065
    [0x48, 0x7E, 0x7F, 0x49, 0x03, 0x02, 0x00, 0x00], -- U+0066
    [0x98, 0xBC, 0xA4, 0xA4, 0xF8, 0x7C, 0x04, 0x00], -- U+0067
    [0x41, 0x7F, 0x7F, 0x08, 0x04, 0x7C, 0x78, 0x00], -- U+0068
    [0x00, 0x44, 0x7D, 0x7D, 0x40, 0x00, 0x00, 0x00], -- U+0069
    [0x60, 0xE0, 0x80, 0x80, 0xFD, 0x7D, 0x00, 0x00], -- U+006A
    [0x41, 0x7F, 0x7F, 0x10, 0x38, 0x6C, 0x44, 0x00], -- U+006B
    [0x00, 0x41, 0x7F, 0x7F, 0x40, 0x00, 0x00, 0x00], -- U+006C
    [0x7C, 0x7C, 0x18, 0x38, 0x1C, 0x7C, 0x78, 0x00], -- U+006D
    [0x7C, 0x7C, 0x04, 0x04, 0x7C, 0x78, 0x00, 0x00], -- U+006E
    [0x38, 0x7C, 0x44, 0x44, 0x7C, 0x38, 0x00, 0x00], -- U+006F
    [0x84, 0xFC, 0xF8, 0xA4, 0x24, 0x3C, 0x18, 0x00], -- U+0070
    [0x18, 0x3C, 0x24, 0xA4, 0xF8, 0xFC, 0x84, 0x00], -- U+0071
    [0x44, 0x7C, 0x78, 0x4C, 0x04, 0x1C, 0x18, 0x00], -- U+0072
    [0x48, 0x5C, 0x54, 0x54, 0x74, 0x24, 0x00, 0x00], -- U+0073
    [0x00, 0x04, 0x3E, 0x7F, 0x44, 0x24, 0x00, 0x00], -- U+0074
    [0x3C, 0x7C, 0x40, 0x40, 0x3C, 0x7C, 0x40, 0x00], -- U+0075
    [0x1C, 0x3C, 0x60, 0x60, 0x3C, 0x1C, 0x00, 0x00], -- U+0076
    [0x3C, 0x7C, 0x70, 0x38, 0x70, 0x7C, 0x3C, 0x00], -- U+0077
    [0x44, 0x6C, 0x38, 0x10, 0x38, 0x6C, 0x44, 0x00], -- U+0078
    [0x9C, 0xBC, 0xA0, 0xA0, 0xFC, 0x7C, 0x00, 0x00], -- U+0079
    [0x4C, 0x64, 0x74, 0x5C, 0x4C, 0x64, 0x00, 0x00], -- U+007A
    [0x08, 0x08, 0x3E, 0x77, 0x41, 0x41, 0x00, 0x00], -- U+007B
    [0x00, 0x00, 0x00, 0x77, 0x77, 0x00, 0x00, 0x00], -- U+007C
    [0x41, 0x41, 0x77, 0x3E, 0x08, 0x08, 0x00, 0x00], -- U+007D
    [0x02, 0x03, 0x01, 0x03, 0x02, 0x03, 0x01, 0x00], -- U+007E
    [0x00, 0x00, 0x00, 0x00, 0x00, 0x00, 0x00, 0x00] ] -- U+007F

/-- `font8x8_basic_tr[(uint8_t)text[i]]` -/
def fontRow (text : List UInt8) (i : ℕ) : Except OledFault (List UInt8) :=
  match text[i]? with
  | none => .error .source
  | some ch =>
      match font8x8BasicTr[ch.toNat]? with
      | none => .error .font
      | some row => .ok row

/-- The row as it goes into the buffer. -/
def glyphImage (flip invert : Bool) (row : List UInt8) : List UInt8 :=
  let image := if invert = true then ssd1306Invert row else row
  if flip = true then ssd1306Flip image else image

theorem font8x8BasicTr_length : font8x8BasicTr.length = 128 := by
  rfl

theorem font8x8BasicTr_row_length : ∀ row ∈ font8x8BasicTr, row.length = 8 := by
  have hall : (font8x8BasicTr.all fun row => row.length == 8) = true := by
    rfl
  simpa using hall

@[simp] theorem glyphImage_length (flip invert : Bool) (row : List UInt8) :
    (glyphImage flip invert row).length = row.length := by
  cases flip <;> cases invert <;> simp [glyphImage, ssd1306Invert, ssd1306Flip]

end Oled
end MainboardFirmware
