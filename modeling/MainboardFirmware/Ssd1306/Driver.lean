import MainboardFirmware.Bus.I2cBusApi
import MainboardFirmware.Esp.CString

/-!
# Driver — `firmware/main/drivers/ic/ssd1306.c`

The five operations of the display driver, over any bus. The driver has no context argument: its
state is a handful of static variables. Reading behind the font table and writing behind the data
buffer are undefined in C and end `show_text` with a `Ssd1306Fault`.
-/

namespace MainboardFirmware

/-! ## Data -/

variable {β η σ : Type}

/-- `display_config_t`; the driver does not look at `extra`. -/
structure DisplayConfig (β : Type) where
  bus : Option β
  i2cAddr : UInt8
  width : UInt16
  height : UInt16
  deriving DecidableEq, Repr

/-- The static variables of the driver. -/
structure Ssd1306 (β η : Type) where
  i2cBus : Option β
  devHandle : Option η
  scrWidth : UInt16
  scrHeight : UInt16
  isInitialized : Bool
  deriving DecidableEq, Repr

/-- Their initial values. -/
def Ssd1306.static : Ssd1306 β η :=
  ⟨none, none, 128, 64, false⟩

/-- The driver and the bus it talks over. -/
structure Ssd1306World (β η σ : Type) where
  dev : Ssd1306 β η
  bus : σ

/-- What `show_text` does outside its arrays. -/
inductive Ssd1306Fault
  /-- it reads behind `font_8x8` -/
  | fontTable
  /-- it writes behind `data_stream` -/
  | dataStream
  deriving DecidableEq, Repr

/-! ## The font -/

/-- The designated initializers of `font_8x8`. -/
def font8x8Init : List (Nat × List UInt8) :=
  [ (0x00, [0x00, 0x00, 0x00, 0x00, 0x00, 0x00, 0x00, 0x00]),
    ('!'.toNat - 0x20, [0x00, 0x00, 0x5f, 0x00, 0x00, 0x00, 0x00, 0x00]),
    ('0'.toNat - 0x20, [0x3e, 0x51, 0x49, 0x45, 0x3e, 0x00, 0x00, 0x00]),
    ('1'.toNat - 0x20, [0x00, 0x42, 0x7f, 0x40, 0x00, 0x00, 0x00, 0x00]),
    ('2'.toNat - 0x20, [0x42, 0x61, 0x51, 0x49, 0x46, 0x00, 0x00, 0x00]),
    ('3'.toNat - 0x20, [0x21, 0x41, 0x45, 0x4b, 0x31, 0x00, 0x00, 0x00]),
    ('4'.toNat - 0x20, [0x18, 0x14, 0x12, 0x7f, 0x10, 0x00, 0x00, 0x00]),
    ('5'.toNat - 0x20, [0x27, 0x45, 0x45, 0x45, 0x39, 0x00, 0x00, 0x00]),
    ('A'.toNat - 0x20, [0x7c, 0x12, 0x11, 0x12, 0x7c, 0x00, 0x00, 0x00]),
    ('B'.toNat - 0x20, [0x7f, 0x49, 0x49, 0x49, 0x36, 0x00, 0x00, 0x00]),
    ('C'.toNat - 0x20, [0x3e, 0x41, 0x41, 0x41, 0x22, 0x00, 0x00, 0x00]),
    ('D'.toNat - 0x20, [0x7f, 0x41, 0x41, 0x41, 0x3e, 0x00, 0x00, 0x00]),
    ('E'.toNat - 0x20, [0x7f, 0x49, 0x49, 0x49, 0x41, 0x00, 0x00, 0x00]),
    ('H'.toNat - 0x20, [0x7f, 0x08, 0x08, 0x08, 0x7f, 0x00, 0x00, 0x00]),
    ('K'.toNat - 0x20, [0x7f, 0x08, 0x14, 0x22, 0x41, 0x00, 0x00, 0x00]),
    ('M'.toNat - 0x20, [0x7f, 0x02, 0x0c, 0x02, 0x7f, 0x00, 0x00, 0x00]),
    ('O'.toNat - 0x20, [0x3e, 0x41, 0x41, 0x41, 0x3e, 0x00, 0x00, 0x00]),
    ('P'.toNat - 0x20, [0x7f, 0x09, 0x09, 0x09, 0x06, 0x00, 0x00, 0x00]),
    ('R'.toNat - 0x20, [0x7f, 0x09, 0x19, 0x29, 0x46, 0x00, 0x00, 0x00]),
    ('S'.toNat - 0x20, [0x46, 0x49, 0x49, 0x49, 0x31, 0x00, 0x00, 0x00]),
    ('T'.toNat - 0x20, [0x01, 0x01, 0x7f, 0x01, 0x01, 0x00, 0x00, 0x00]),
    ('V'.toNat - 0x20, [0x1f, 0x20, 0x40, 0x20, 0x1f, 0x00, 0x00, 0x00]),
    ('W'.toNat - 0x20, [0x3f, 0x40, 0x38, 0x40, 0x3f, 0x00, 0x00, 0x00]),
    ('Y'.toNat - 0x20, [0x03, 0x04, 0x78, 0x04, 0x03, 0x00, 0x00, 0x00])]

/-- The number of rows of `font_8x8`: one more than the last designator. -/
def font8x8Rows : Nat :=
  'Y'.toNat - 0x20 + 1

/-- `font_8x8[idx]`; a row without an initializer is zero, behind the last row there is nothing. -/
def font8x8 (idx : Nat) : Option (List UInt8) :=
  if idx < font8x8Rows then
    some ((font8x8Init.lookup idx).getD (List.replicate 8 0x00))
  else
    none

/-- The font row for position `c` of the text. -/
def fontIdx (text : CString) (c : Nat) : Nat :=
  if c < text.length then
    let ch := text.getD c 0
    if 0x20 ≤ ch ∧ ch ≤ 0x5F then (ch - 0x20).toNat else 0
  else
    0

/-- The size of `data_stream`. -/
def ssd1306StreamSize : Nat := 129

/-- `max_chars` for a width of the screen. -/
def ssd1306MaxChars (width : UInt16) : Nat :=
  width.toNat / 8

/-- The rendering loop of `show_text` with `n` characters left from position `c` on, the bytes before
it being in `stream`. -/
def renderText (text : CString) : Nat → Nat → List UInt8 → Except Ssd1306Fault (List UInt8)
  | 0, _, stream => .ok stream
  | n + 1, c, stream =>
      match font8x8 (fontIdx text c) with
      | none => .error .fontTable
      | some glyph =>
          if ssd1306StreamSize < stream.length + 8 then .error .dataStream
          else renderText text n (c + 1) (stream ++ glyph)

/-! ## Operations -/

variable (api : I2cBusApi β η σ)

/-- `_ssd1306_send_cmd` -/
def ssd1306SendCmd (cmd : UInt8) (w : Ssd1306World β η σ) : EspErr × Ssd1306World β η σ :=
  let (ret, bus) := api.write w.dev.i2cBus w.dev.devHandle [0x00, cmd] w.bus
  (ret, ⟨w.dev, bus⟩)

/-- The data write of `clear` and `show_text`. -/
def ssd1306SendData (stream : List UInt8) (w : Ssd1306World β η σ) :
    EspErr × Ssd1306World β η σ :=
  let (ret, bus) := api.write w.dev.i2cBus w.dev.devHandle stream w.bus
  (ret, ⟨w.dev, bus⟩)

/-- Page `page`, column 0. What the three commands return is not looked at. -/
def ssd1306Address (page : UInt8) (w : Ssd1306World β η σ) : Ssd1306World β η σ :=
  let (_, w) := ssd1306SendCmd api (0xB0 + page) w
  let (_, w) := ssd1306SendCmd api 0x00 w
  let (_, w) := ssd1306SendCmd api 0x10 w
  w

/-- The loop of `ssd1306_clear_hw` with `n` pages left from `page` on. -/
def ssd1306ClearPages : Nat → UInt8 → Ssd1306World β η σ → EspErr × Ssd1306World β η σ
  | 0, _, w => (espOk, w)
  | n + 1, page, w =>
      let (ret, w) := ssd1306SendData api (0x40 :: List.replicate 128 0x00) (ssd1306Address api page w)
      if ret ≠ espOk then (ret, w) else ssd1306ClearPages n (page + 1) w

/-- `ssd1306_clear_hw` -/
def ssd1306Clear (w : Ssd1306World β η σ) : EspErr × Ssd1306World β η σ :=
  if w.dev.isInitialized = false then (espFail, w) else ssd1306ClearPages api 8 0 w

/-- `init_cmds` -/
def ssd1306InitCmds : List UInt8 :=
  [ 0xAE, -- display off
    0xD5, 0x80, -- clock divide ratio
    0xA8, 0x3F, -- multiplex ratio
    0xD3, 0x00, -- display offset
    0x40, -- start line
    0x8D, 0x14, -- charge pump
    0x20, 0x02, -- page addressing mode
    0xA1, -- segment re-map
    0xC8, -- COM scan direction
    0xDA, 0x12, -- COM pins
    0x81, 0xCF, -- contrast
    0xD9, 0xF1, -- pre-charge period
    0xDB, 0x40, -- VCOMH deselect level
    0xA4, -- resume to RAM content
    0xA6, -- normal display
    0xAF] -- display on

/-- The command loop of `ssd1306_init_hw`; the first command that fails ends it. -/
def ssd1306SendCmds : List UInt8 → Ssd1306World β η σ → EspErr × Ssd1306World β η σ
  | [], w => (espOk, w)
  | cmd :: cmds, w =>
      let (ret, w) := ssd1306SendCmd api cmd w
      if ret ≠ espOk then (ret, w) else ssd1306SendCmds cmds w

/-- `ssd1306_init_hw` -/
def ssd1306Init (cfg : Option (DisplayConfig β)) (w : Ssd1306World β η σ) :
    EspErr × Ssd1306World β η σ :=
  match cfg with
  | none => (espErrInvalidArg, w)
  | some cfg =>
      if cfg.bus = none then
        (espErrInvalidArg, w)
      else
        -- the flag keeps what an earlier init left in it
        let dev := { w.dev with
          i2cBus := cfg.bus
          scrWidth := cfg.width
          scrHeight := cfg.height }
        let (ret, handle, bus) :=
          api.addDevice dev.i2cBus cfg.i2cAddr 400000 (some "SSD1306_OLED") dev.devHandle w.bus
        let w : Ssd1306World β η σ := ⟨{ dev with devHandle := handle }, bus⟩
        if ret ≠ espOk then
          (ret, w)
        else
          let (ret, w) := ssd1306SendCmds api ssd1306InitCmds w
          if ret ≠ espOk then (ret, w)
          else ssd1306Clear api ⟨{ w.dev with isInitialized := true }, w.bus⟩

/-- `ssd1306_show_text_hw`; `none` is a `NULL` text. -/
def ssd1306ShowText (row : UInt8) (text : Option CString) (w : Ssd1306World β η σ) :
    Except Ssd1306Fault (EspErr × Ssd1306World β η σ) :=
  match text with
  | none => .ok (espFail, w)
  | some text =>
      if w.dev.isInitialized = false then
        .ok (espFail, w)
      else if 8 ≤ row then
        .ok (espErrInvalidArg, w)
      else
        let w := ssd1306Address api row w
        -- the text is rendered only after the commands are sent
        match renderText text (ssd1306MaxChars w.dev.scrWidth) 0 [0x40] with
        | .error fault => .error fault
        | .ok stream => .ok (ssd1306SendData api stream w)

/-- `ssd1306_set_brightness_hw` -/
def ssd1306SetBrightness (level : UInt8) (w : Ssd1306World β η σ) :
    EspErr × Ssd1306World β η σ :=
  if w.dev.isInitialized = false then
    (espFail, w)
  else
    let (ret, w) := ssd1306SendCmd api 0x81 w
    if ret = espOk then ssd1306SendCmd api level w else (ret, w)

/-- `ssd1306_deinit_hw` -/
def ssd1306Deinit (w : Ssd1306World β η σ) : Ssd1306World β η σ :=
  if w.dev.isInitialized = false then
    w
  else
    let (_, w) := ssd1306SendCmd api 0xAE w
    ⟨{ w.dev with isInitialized := false, i2cBus := none, devHandle := none }, w.bus⟩

/-! ## Rendering -/

/-- The columns of the first `n` characters of a text, left to right. -/
def renderedText (text : CString) (n : Nat) : List UInt8 :=
  (List.range n).flatMap fun c => (font8x8 (fontIdx text c)).getD []

theorem font8x8_length {idx : Nat} {glyph : List UInt8} (h : font8x8 idx = some glyph) :
    glyph.length = 8 := by
  have hall : ∀ i < font8x8Rows,
      ((font8x8Init.lookup i).getD (List.replicate 8 0x00)).length = 8 := by
    decide
  unfold font8x8 at h
  split at h
  · rename_i hidx
    rw [← Option.some.inj h]
    exact hall idx hidx
  · exact absurd h (by simp)

/-- A rendering that stays inside the arrays appends the columns of its characters. -/
theorem renderText_ok {text : CString} {n c : Nat} {stream out : List UInt8}
    (h : renderText text n c stream = .ok out) :
    out = stream ++ (List.range' c n).flatMap (fun c => (font8x8 (fontIdx text c)).getD []) ∧
      out.length = stream.length + 8 * n ∧ (0 < n → out.length ≤ ssd1306StreamSize) := by
  induction n generalizing c stream with
  | zero =>
      simp only [renderText, Except.ok.injEq] at h
      simp [← h]
  | succ n ih =>
      simp only [renderText] at h
      cases hglyph : font8x8 (fontIdx text c) with
      | none =>
          simp [hglyph] at h
      | some glyph =>
          have hlength := font8x8_length hglyph
          simp only [hglyph] at h
          split at h
          · exact absurd h (by simp)
          rename_i hroom
          -- one character is appended, the others are the induction hypothesis
          rcases ih h with ⟨hout, hlen, hfit⟩
          refine ⟨?_, by rw [hlen, List.length_append, hlength]; omega, fun _ => ?_⟩
          · rw [hout, List.range'_succ, List.flatMap_cons, hglyph, Option.getD_some,
              List.append_assoc]
          · by_cases hn : 0 < n
            · exact hfit hn
            · rw [hlen, List.length_append, hlength]
              omega

/-- Where the characters have room in the buffer, the rendering ends well exactly if all of them have a
row in the font table. -/
theorem renderText_of_room {text : CString} {n c : Nat} {stream : List UInt8}
    (hroom : stream.length + 8 * n ≤ ssd1306StreamSize) :
    ((∀ k < n, (font8x8 (fontIdx text (c + k))).isSome) ∧
        ∃ out, renderText text n c stream = .ok out) ∨
      ((∃ k < n, font8x8 (fontIdx text (c + k)) = none) ∧
        renderText text n c stream = .error .fontTable) := by
  induction n generalizing c stream with
  | zero =>
      exact Or.inl ⟨by simp, stream, rfl⟩
  | succ n ih =>
      cases hglyph : font8x8 (fontIdx text c) with
      | none =>
          exact Or.inr ⟨⟨0, Nat.succ_pos n, hglyph⟩, by simp [renderText, hglyph]⟩
      | some glyph =>
          have hlength := font8x8_length hglyph
          have hfit : ¬ ssd1306StreamSize < stream.length + 8 := by omega
          have heq : renderText text (n + 1) c stream = renderText text n (c + 1) (stream ++ glyph) := by
            simp only [renderText, hglyph, hfit, if_false]
          have hrest := @ih (c + 1) (stream ++ glyph) (by rw [List.length_append, hlength]; omega)
          rw [heq]
          simp only [Nat.add_assoc, Nat.add_comm 1] at hrest
          rcases hrest with ⟨hall, hok⟩ | ⟨⟨k, hk, hnone⟩, herror⟩
          · refine Or.inl ⟨fun k hk => ?_, hok⟩
            cases k with
            | zero =>
                simp [hglyph]
            | succ k =>
                exact hall k (Nat.lt_of_succ_lt_succ hk)
          · exact Or.inr ⟨⟨k + 1, Nat.succ_lt_succ hk, hnone⟩, herror⟩

end MainboardFirmware
