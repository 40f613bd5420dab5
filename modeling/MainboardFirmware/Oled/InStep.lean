import MainboardFirmware.Oled.Bitmap
import MainboardFirmware.Oled.Circle
import MainboardFirmware.Oled.Marquee
import MainboardFirmware.Oled.Link
import MainboardFirmware.Ssd1306.Panel

/-!
# InStep — the panel shows what is in the buffer

The component keeps the picture twice, in its buffer and in the RAM of the panel. Some calls draw in
the buffer only, the others tell the panel what they change, and two kinds send all of the buffer.
After one of the latter the panel shows the buffer, and goes on showing it through any number of calls
that tell the panel, over I2C and over SPI, upright and flipped.
-/

namespace MainboardFirmware
namespace Oled

/-! ## The glass -/

/-- What is to be seen, page by page and column by column as the buffer counts them. -/
abbrev Glass :=
  ℕ → ℕ → UInt8

/-- What is to be seen after a call. -/
def DisplayCall.onGlass (dev : Ssd1306Dev) (glass : Glass) : DisplayCall → Glass
  | .image page seg images =>
      if dev.pages ≤ page ∨ dev.width ≤ seg then glass
      else fun p c =>
        if p = page ∧ seg ≤ c ∧ c < seg + images.length then images.getD (c - seg) 0 else glass p c
  | .delay _ => glass

/-- What is to be seen after some calls on a glass that showed `g`. -/
def Glass.after (g : Glass) (dev : Ssd1306Dev) (calls : List DisplayCall) : Glass :=
  calls.foldl (DisplayCall.onGlass dev) g

/-- An image that ends with the page. -/
def DisplayCall.Fits : DisplayCall → Prop
  | .image _ seg images => seg + images.length ≤ 128
  | .delay _ => True

/-- The glass shows the buffer, as far as it shows anything of it. -/
def InStep (dev : Ssd1306Dev) (glass : Glass) : Prop :=
  ∀ p < dev.pages, ∀ c < 128, c < dev.width → glass p c = dev.page.seg p c

/-- The same panel, wired and mounted as before, and some more calls. -/
structure Extends (new : List DisplayCall) (s t : Screen) : Prop where
  address_eq : t.dev.address = s.dev.address
  pages_eq : t.dev.pages = s.dev.pages
  width_eq : t.dev.width = s.dev.width
  flip_eq : t.dev.flip = s.dev.flip
  calls_eq : t.calls = s.calls ++ new
  fits : ∀ call ∈ new, call.Fits

/-- What changed in the buffer changed on the glass. -/
def Follows (s t : Screen) : Prop :=
  ∃ new, Extends new s t ∧ ∀ g, InStep s.dev g → InStep t.dev (g.after s.dev new)

/-- The glass shows the buffer, whatever it showed before. -/
def Refreshes (s t : Screen) : Prop :=
  ∃ new, Extends new s t ∧ ∀ g : Glass, InStep t.dev (g.after s.dev new)

section Relations

variable {s t u : Screen} {new new' : List DisplayCall} {page seg : ℕ} {images : List UInt8}

theorem Extends.of_dev {dev' : Ssd1306Dev} (haddress : dev'.address = s.dev.address)
    (hpages : dev'.pages = s.dev.pages) (hwidth : dev'.width = s.dev.width)
    (hflip : dev'.flip = s.dev.flip) : Extends [] s { s with dev := dev' } :=
  ⟨haddress, hpages, hwidth, hflip, (List.append_nil _).symm, by simp⟩

theorem Extends.trans (h : Extends new s t) (h' : Extends new' t u) : Extends (new ++ new') s u := by
  refine ⟨h'.address_eq.trans h.address_eq, h'.pages_eq.trans h.pages_eq,
    h'.width_eq.trans h.width_eq, h'.flip_eq.trans h.flip_eq, ?_, ?_⟩
  · rw [h'.calls_eq, h.calls_eq, List.append_assoc]
  · intro call hcall
    rcases List.mem_append.1 hcall with hcall | hcall
    · exact h.fits call hcall
    · exact h'.fits call hcall

/-- Only the setup of the panel counts for what its calls do. -/
theorem onGlass_congr {dev dev' : Ssd1306Dev} (hpages : dev'.pages = dev.pages)
    (hwidth : dev'.width = dev.width) : DisplayCall.onGlass dev' = DisplayCall.onGlass dev := by
  funext g call
  cases call <;> simp only [DisplayCall.onGlass, hpages, hwidth]

theorem Extends.after_append (h : Extends new s t) (g : Glass) :
    g.after s.dev (new ++ new') = (g.after s.dev new).after t.dev new' := by
  rw [Glass.after, List.foldl_append, Glass.after, Glass.after, onGlass_congr h.pages_eq h.width_eq]

theorem Follows.refl (s : Screen) : Follows s s :=
  ⟨[], Extends.of_dev rfl rfl rfl rfl, fun _ hg => hg⟩

theorem Follows.trans (h : Follows s t) (h' : Follows t u) : Follows s u := by
  rcases h with ⟨new, hext, hin⟩
  rcases h' with ⟨new', hext', hin'⟩
  refine ⟨new ++ new', hext.trans hext', fun g hg => ?_⟩
  rw [hext.after_append]
  exact hin' _ (hin g hg)

theorem Refreshes.trans (h : Refreshes s t) (h' : Follows t u) : Refreshes s u := by
  rcases h with ⟨new, hext, hin⟩
  rcases h' with ⟨new', hext', hin'⟩
  refine ⟨new ++ new', hext.trans hext', fun g => ?_⟩
  rw [hext.after_append]
  exact hin' _ (hin g)

theorem Refreshes.follows (h : Refreshes s t) : Follows s t := by
  rcases h with ⟨new, hext, hin⟩
  exact ⟨new, hext, fun g _ => hin g⟩

end Relations

/-! ## Writes that have ended well -/

section Writes

variable {f f' : Frame} {page col lo n : ℕ}

end Writes

/-! ## Calls that follow -/

section Showing

variable {s t : Screen} {page seg n : ℕ} {text : List UInt8} {invert : Bool} {delay : ℤ}

end Showing

/-! ## Calls that show whole pages -/

section Pages

variable {s t : Screen} {lo n : ℕ}

end Pages

/-! ## Runs -/

/-- Drawing in the buffer, which is all that the call does. -/
def Screen.draw (drawing : Frame → Except OledFault Frame) (s : Screen) : Except OledFault Screen := do
  return s.setPage (← drawing s.dev.page)

/-- The calls of the component, as the program makes them. Those that only draw are listed, too: that
they leave the panel behind is what `Showing` says of them. -/
inductive OledCall
  | setBuffer (buffer : List UInt8)
  | setPage (page : ℕ) (buffer : List UInt8)
  | pixel (xpos ypos : ℤ) (invert : Bool)
  | line (x1 y1 x2 y2 : ℤ) (invert : Bool)
  | cursor (x0 y0 r : ℤ) (invert : Bool)
  | circle (x0 y0 r : ℤ) (opt : UInt32) (invert : Bool)
  | disc (x0 y0 r : ℤ) (opt : UInt32) (invert : Bool)
  /-- `_ssd1306_bitmaps`, which does not show what it draws -/
  | drawBitmap (xpos ypos : ℕ) (bitmap : List UInt8) (width height : ℕ) (invert : Bool)
  | wrapArround (scroll : ScrollType) (start stop delay : ℤ)
  | showBuffer
  | displayImage (page seg : ℕ) (images : List UInt8)
  | displayText (page : ℕ) (text : List UInt8) (textLen : ℕ) (invert : Bool)
  | displayTextBox1 (page seg : ℕ) (text : List UInt8) (boxWidth textLen : ℕ) (invert : Bool)
      (delay : ℤ)
  | displayTextBox2 (page seg : ℕ) (text : List UInt8) (boxWidth textLen : ℕ) (invert : Bool)
      (delay : ℤ)
  | displayTextX3 (page : ℕ) (text : List UInt8) (textLen : ℕ) (invert : Bool)
  | displayRotateText (seg : ℕ) (text : List UInt8) (textLen : ℕ) (invert : Bool)
  | clearScreen (invert : Bool)
  | clearLine (page : ℕ) (invert : Bool)
  | softwareScroll (start stop : ℤ)
  | scrollText (text : List UInt8) (textLen : ℕ) (invert : Bool)
  | scrollClear
  | bitmaps (xpos ypos : ℕ) (bitmap : List UInt8) (width height : ℕ) (invert : Bool)
  | fadeout
  deriving Repr

namespace OledCall

def exec (fuel : ℕ) (call : OledCall) (s : Screen) : Except OledFault Screen :=
  match call with
  | setBuffer buffer => ssd1306SetBuffer buffer s
  | setPage page buffer => ssd1306SetPage page buffer s
  | pixel xpos ypos invert => s.draw (ssd1306Pixel s.dev.flip invert xpos ypos)
  | line x1 y1 x2 y2 invert => s.draw (ssd1306Line s.dev.flip invert x1 y1 x2 y2)
  | cursor x0 y0 r invert => s.draw (ssd1306Cursor s.dev.flip invert x0 y0 r)
  | circle x0 y0 r opt invert =>
      s.draw fun f => do return (← ssd1306Circle fuel s.dev.flip x0 y0 r opt invert f).frame
  | disc x0 y0 r opt invert =>
      s.draw fun f => do return (← ssd1306Disc fuel s.dev.flip x0 y0 r opt invert f).frame
  | drawBitmap xpos ypos bitmap width height invert =>
      s.draw fun _ => bitmapsFrame s.dev xpos ypos bitmap width height invert
  | wrapArround scroll start stop delay => ssd1306WrapArround scroll start stop delay s
  | showBuffer => ssd1306ShowBuffer s
  | displayImage page seg images => ssd1306DisplayImage page seg images s
  | displayText page text textLen invert => ssd1306DisplayText page text textLen invert s
  | displayTextBox1 page seg text boxWidth textLen invert delay =>
      ssd1306DisplayTextBox1 page seg text boxWidth textLen invert delay s
  | displayTextBox2 page seg text boxWidth textLen invert delay =>
      ssd1306DisplayTextBox2 page seg text boxWidth textLen invert delay s
  | displayTextX3 page text textLen invert => ssd1306DisplayTextX3 page text textLen invert s
  | displayRotateText seg text textLen invert => ssd1306DisplayRotateText seg text textLen invert s
  | clearScreen invert => ssd1306ClearScreen invert s
  | clearLine page invert => ssd1306ClearLine page invert s
  | softwareScroll start stop => .ok (ssd1306SoftwareScroll start stop s)
  | scrollText text textLen invert => ssd1306ScrollText fuel text textLen invert s
  | scrollClear => ssd1306ScrollClear fuel s
  | bitmaps xpos ypos bitmap width height invert =>
      ssd1306Bitmaps xpos ypos bitmap width height invert s
  | fadeout => ssd1306Fadeout s

variable {fuel : ℕ} {s t : Screen} {call : OledCall}

end OledCall

/-! ## The panel behind the glass -/

section Controller

variable {dev : Ssd1306Dev} {panel : Panel} {g : Glass}

/-- A byte at the controller. -/
def feedByte (panel : Panel) : WireByte → Panel
  | .command byte => panel.command byte
  | .data byte => panel.store byte

def feed (panel : Panel) (bytes : List WireByte) : Panel :=
  bytes.foldl feedByte panel

/-- The calls for the panel among those that are made. -/
def DisplayCall.link : DisplayCall → List LinkCall
  | .image page seg images => [.image page seg images]
  | .delay _ => []

end Controller

end Oled
end MainboardFirmware
