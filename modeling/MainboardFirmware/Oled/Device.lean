import MainboardFirmware.Oled.Font

/-!
# Device — `firmware/components/ssd1306/ssd1306.c`

The device structure and the operations that write the page buffer and show it. None of them looks at
what came of a transfer, so an operation is a function from one device to the next together with the
calls it makes: images for `i2c_display_image` or `spi_display_image`, and waits.
-/

namespace MainboardFirmware
namespace Oled

/-! ## Data -/

/-- `SSD1306_t`, without the handles of the two buses. -/
structure Ssd1306Dev where
  address : ℤ
  width : ℕ
  height : ℕ
  pages : ℕ
  scEnable : Bool
  scStart : ℤ
  scEnd : ℤ
  scDirection : ℤ
  page : Frame
  flip : Bool

/-- A blank device as `Kconfig.projbuild` has it by default: 128x64 on I2C, not flipped. -/
def Ssd1306Dev.panel128x64 : Ssd1306Dev where
  address := 0x3C
  width := 128
  height := 64
  pages := 8
  scEnable := false
  scStart := 0
  scEnd := 0
  scDirection := 0
  page := Frame.blank
  flip := false

/-- What an operation asks of the rest of the firmware. -/
inductive DisplayCall
  /-- `i2c_display_image` or `spi_display_image`, by the address of the device -/
  | image (page seg : ℕ) (images : List UInt8)
  /-- `vTaskDelay` -/
  | delay (ticks : ℤ)
  deriving DecidableEq, Repr

/-- A device and the calls made for it, in order. -/
structure Screen where
  dev : Ssd1306Dev
  calls : List DisplayCall

namespace Screen

def displayImage (page seg : ℕ) (images : List UInt8) (s : Screen) : Screen :=
  { s with calls := s.calls ++ [.image page seg images] }

def vTaskDelay (ticks : ℤ) (s : Screen) : Screen :=
  { s with calls := s.calls ++ [.delay ticks] }

def setPage (page : Frame) (s : Screen) : Screen :=
  { s with dev := { s.dev with page := page } }

end Screen

/-- A loop whose rounds only make calls makes them round after round. -/
theorem Screen.up_calls {body : ℕ → Screen → Except OledFault Screen} (out : ℕ → List DisplayCall)
    {lo n : ℕ} {s : Screen} (hbody : ∀ i, lo ≤ i → i < lo + n → ∀ calls,
      Ends (body i ⟨s.dev, calls⟩) fun s' => s' = ⟨s.dev, calls ++ out i⟩) :
    Ends (Loop.up body lo n s) fun s' =>
      s' = ⟨s.dev, s.calls ++ (List.range' lo n).flatMap out⟩ := by
  have hloop : Ends (Loop.up body lo n s) fun s' =>
      s' = ⟨s.dev, s.calls ++ (List.range' lo (lo + n - lo)).flatMap out⟩ := by
    refine Loop.up_ends (fun i t =>
      t = (⟨s.dev, s.calls ++ (List.range' lo (i - lo)).flatMap out⟩ : Screen)) (by simp) ?_
    intro i t hlo hi ht
    have hcount : i + 1 - lo = i - lo + 1 := by omega
    have hindex : lo + (i - lo) = i := by omega
    rw [ht, hcount, List.range'_concat, Nat.one_mul, hindex, List.flatMap_append,
      List.flatMap_singleton, ← List.append_assoc]
    exact hbody i hlo hi _
  rwa [Nat.add_sub_cancel_left] at hloop

/-! ## The buffer as a whole -/

def ssd1306ShowBuffer (s : Screen) : Except OledFault Screen :=
  Loop.up (fun page s => do
    let segs ← s.dev.page.readRow page 0 s.dev.width
    return s.displayImage page 0 segs) 0 s.dev.pages s

/-- The 128 bytes from `index` on, as `memcpy` reads them. -/
def readBytes (buffer : List UInt8) (index : ℕ) : Except OledFault (List UInt8) :=
  if index + 128 ≤ buffer.length then .ok ((buffer.drop index).take 128) else .error .source

def ssd1306SetBuffer (buffer : List UInt8) (s : Screen) : Except OledFault Screen :=
  Loop.up (fun page s => do
    let bytes ← readBytes buffer (128 * page)
    return s.setPage (← s.dev.page.writeRow page 0 bytes)) 0 s.dev.pages s

/-- `ssd1306_get_buffer`, with what it writes to `buffer` as the result. -/
def ssd1306GetBuffer (dev : Ssd1306Dev) : Except OledFault (List UInt8) :=
  Loop.up (fun page buffer => do return buffer ++ (← dev.page.readRow page 0 128)) 0 dev.pages []

def ssd1306SetPage (page : ℕ) (buffer : List UInt8) (s : Screen) : Except OledFault Screen := do
  let bytes ← readBytes buffer 0
  return s.setPage (← s.dev.page.writeRow page 0 bytes)

def ssd1306GetPage (dev : Ssd1306Dev) (page : ℕ) : Except OledFault (List UInt8) :=
  dev.page.readRow page 0 128

/-! ## Images and text -/

/-- `ssd1306_display_image`; `images` are the `width` bytes it is given. -/
def ssd1306DisplayImage (page seg : ℕ) (images : List UInt8) (s : Screen) :
    Except OledFault Screen := do
  let s := s.displayImage page seg images
  return s.setPage (← s.dev.page.writeRow page seg images)

/-- Bytes of the buffer shown where they are from leave it as it is. -/
theorem displayImage_own {s : Screen} {page seg width : ℕ} (hpage : page < 8)
    (hseg : seg + width ≤ 128) :
    Ends (ssd1306DisplayImage page seg ((List.range' seg width).map (s.dev.page.seg page)) s)
      fun s' => s' = s.displayImage page seg ((List.range' seg width).map (s.dev.page.seg page)) := by
  have hlength : ((List.range' seg width).map (s.dev.page.seg page)).length = width := by
    rw [List.length_map, List.length_range']
  refine (Frame.writeRow_ends (f := s.dev.page) hpage (by omega)).bind fun f' hf' => Ends.ok ?_
  have hsame : f' = s.dev.page := by
    apply Frame.ext_seg
    intro p _ c _
    rw [hf']
    split
    next hin =>
      rcases hin with ⟨rfl, hlo, hhi⟩
      have hindex : c - seg < width := by omega
      have hback : seg + (c - seg) = c := by omega
      simp [List.getD_eq_getElem?_getD, hindex, hback]
    next => rfl
  rw [hsame]
  rfl

/-- The loop of the text functions: `n` characters of the text from `i` on, the first one in segment
`seg`. -/
def displayGlyphs (page seg : ℕ) (text : List UInt8) (i n : ℕ) (invert : Bool) (s : Screen) :
    Except OledFault Screen :=
  Loop.up (fun k s => do
    let row ← fontRow text (i + k)
    ssd1306DisplayImage page (seg + 8 * k) (glyphImage s.dev.flip invert row) s) 0 n s

def ssd1306DisplayText (page : ℕ) (text : List UInt8) (textLen : ℕ) (invert : Bool) (s : Screen) :
    Except OledFault Screen :=
  if s.dev.pages ≤ page then .ok s
  else displayGlyphs page 0 text 0 (min textLen 16) invert s

/-- The `space` of the two functions that clear. -/
def space : List UInt8 :=
  List.replicate 16 0x00

def ssd1306ClearScreen (invert : Bool) (s : Screen) : Except OledFault Screen :=
  Loop.up (fun page s => ssd1306DisplayText page space 16 invert s) 0 s.dev.pages s

def ssd1306ClearLine (page : ℕ) (invert : Bool) (s : Screen) : Except OledFault Screen :=
  ssd1306DisplayText page space 16 invert s

/-! ## Fading -/

/-- The loop over the segments of a page in `ssd1306_fadeout`. -/
def fadeSegments (page : ℕ) (image : UInt8) (s : Screen) : Except OledFault Screen :=
  Loop.up (fun seg s => do
    let s := s.displayImage page seg [image]
    return s.setPage (← s.dev.page.write page seg image)) 0 128 s

/-- The loop over the lines of a page, with the byte shown last. -/
def fadeLines (page : ℕ) (s : Screen) : Except OledFault (UInt8 × Screen) :=
  Loop.up (fun _ (image, s) => do
    let image := if s.dev.flip = true then image >>> 1 else image <<< 1
    return (image, ← fadeSegments page image s)) 0 8 (0xFF, s)

def ssd1306Fadeout (s : Screen) : Except OledFault Screen :=
  Loop.up (fun page s => do return (← fadeLines page s).2) 0 s.dev.pages s

end Oled
end MainboardFirmware
