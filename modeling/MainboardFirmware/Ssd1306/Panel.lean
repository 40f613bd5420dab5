import Mathlib.Data.Fintype.EquivFin
import Mathlib.Data.List.GetD
import Mathlib.Tactic.IntervalCases
import MainboardFirmware.Ssd1306.Driver

/-!
# Panel — what the display shows after `show_text` and `clear`

The panel is eight pages of 128 columns with a page and a column pointer. Data bytes go where the
pointers stand, so a page written with the pointers elsewhere is written wrong. Both operations set
the pointers with three commands whose results they ignore, and look at the result of the data write
only. `ESP_OK` then means what it says exactly if every command that did not get through would not
have moved a pointer.
-/

namespace MainboardFirmware

/-! ## The panel -/

-- the pointers count modulo the number of pages and modulo the width of a page
local instance pages_neZero : NeZero 8 := ⟨by decide⟩
local instance columns_neZero : NeZero 128 := ⟨by decide⟩

/-- The display RAM and the pointers of page addressing mode. -/
structure Panel where
  ram : Fin 8 → Fin 128 → UInt8
  page : Fin 8
  col : Fin 128

namespace Panel

/-- The addressing commands: the page, and the lower and the higher half of the column. -/
def command (p : Panel) (cmd : UInt8) : Panel :=
  if 0xB0 ≤ cmd ∧ cmd ≤ 0xB7 then
    { p with page := Fin.ofNat 8 (cmd - 0xB0).toNat }
  else if cmd ≤ 0x0F then
    { p with col := Fin.ofNat 128 (p.col.val / 16 * 16 + cmd.toNat) }
  else if cmd ≤ 0x17 then
    { p with col := Fin.ofNat 128 ((cmd - 0x10).toNat * 16 + p.col.val % 16) }
  else
    p

/-- One data byte; the column wraps inside the page. -/
def store (p : Panel) (byte : UInt8) : Panel :=
  ⟨Function.update p.ram p.page (Function.update (p.ram p.page) p.col byte), p.page, p.col + 1⟩

/-- One bus write: the control byte says whether commands or data follow. -/
def write (p : Panel) : List UInt8 → Panel
  | [] => p
  | control :: bytes =>
      if control = 0x00 then bytes.foldl command p
      else if control = 0x40 then bytes.foldl store p
      else p

end Panel

/-- A bus with the panel on it; `answers k` is the result of its `k`-th write. -/
structure PanelBus where
  panel : Panel
  answers : Nat → EspErr
  writes : Nat

namespace PanelBus

/-- The answer to the next write. -/
def answer (s : PanelBus) : EspErr :=
  s.answers s.writes

/-- The bus after one more write; one that fails has no effect on the panel. -/
def after (s : PanelBus) (data : List UInt8) : PanelBus :=
  ⟨if s.answer = espOk then s.panel.write data else s.panel, s.answers, s.writes + 1⟩

end PanelBus

/-- The bus functions on one simulated panel. The driver never reads, and what it registers is not
followed here. -/
def panelApi : I2cBusApi Unit Unit PanelBus where
  addDevice _ _ _ _ _ s := (espOk, some (), s)
  write bus dev data s :=
    match bus, dev with
    | some (), some () => (s.answer, s.after data)
    | none, _ => (espErrInvalidState, s)
    | some (), none => (espErrInvalidArg, s)
  writeRead _ _ _ _ s := (espFail, [], s)

abbrev PanelWorld := Ssd1306World Unit Unit PanelBus

/-- A driver state at the start of an operation. -/
def PanelWorld.begin (dev : Ssd1306 Unit Unit) (panel : Panel) (answers : Nat → EspErr) :
    PanelWorld :=
  ⟨dev, panel, answers, 0⟩

namespace PanelWorld

variable (dev : Ssd1306 Unit Unit) (panel : Panel) (answers : Nat → EspErr)

@[simp] theorem begin_dev : (PanelWorld.begin dev panel answers).dev = dev := rfl

end PanelWorld

/-- The driver holds a bus and a device. -/
def Ssd1306.Attached (dev : Ssd1306 Unit Unit) : Prop :=
  dev.i2cBus = some () ∧ dev.devHandle = some ()

/-! ## The properties and the conditions -/

/-- Page `row` shows the text in the columns of its whole characters, the other pages are as they
were. -/
structure ShowsText (text : CString) (width : UInt16) (row : UInt8) (before after : Panel) : Prop where
  shown : ∀ page : Fin 8, page.val = row.toNat → ∀ k : Fin 128, k.val < 8 * ssd1306MaxChars width →
    after.ram page k = (renderedText text (ssd1306MaxChars width)).getD k.val 0
  others : ∀ page : Fin 8, page.val ≠ row.toNat → after.ram page = before.ram page

/-- If `show_text` returns `ESP_OK` the panel shows the text. -/
def ShowTextLaw (w : PanelWorld) (row : UInt8) (text : CString) : Prop :=
  ∀ w', ssd1306ShowText panelApi row (some text) w = .ok (espOk, w') →
    ShowsText text w.dev.scrWidth row w.bus.panel w'.bus.panel

/-- If `clear` returns `ESP_OK` the panel is blank. -/
def ClearLaw (w : PanelWorld) : Prop :=
  (ssd1306Clear panelApi w).1 = espOk →
    ∀ page col, (ssd1306Clear panelApi w).2.bus.panel.ram page col = 0

/-- `show_text` gets as far as a data write that arrives and has something to write. -/
structure TextArrives (dev : Ssd1306 Unit Unit) (answers : Nat → EspErr) (row : UInt8) : Prop where
  ready : dev.isInitialized = true
  attached : dev.Attached
  row_lt : row < 8
  width_pos : 0 < ssd1306MaxChars dev.scrWidth
  width_le : ssd1306MaxChars dev.scrWidth ≤ 16
  data_ok : answers 3 = espOk

/-- Each of the three commands before the data write gets through or finds its pointer where it
wants it. -/
structure AddressingOk (answers : Nat → EspErr) (row : UInt8) (page : Fin 8) (col : Fin 128) :
    Prop where
  page_ok : answers 0 = espOk ∨ page.val = row.toNat
  low_ok : answers 1 = espOk ∨ col.val % 16 = 0
  high_ok : answers 2 = espOk ∨ col.val / 16 = 0

/-- All eight data writes of `clear` arrive. -/
structure ClearArrives (dev : Ssd1306 Unit Unit) (answers : Nat → EspErr) : Prop where
  ready : dev.isInitialized = true
  attached : dev.Attached
  data_ok : ∀ k < 8, answers (4 * k + 3) = espOk

/-- Every page command of `clear` gets through, the first one unless the pointer is on page 0. The
columns do not matter, since the data goes round the whole page. -/
structure PagesOk (answers : Nat → EspErr) (page : Fin 8) : Prop where
  first_ok : answers 0 = espOk ∨ page = 0
  later_ok : ∀ k, 1 ≤ k → k < 8 → answers (4 * k) = espOk

/-! ## Writes that arrive -/

section Writes

variable {w : PanelWorld}

theorem sendCmd_attached (hat : w.dev.Attached) (cmd : UInt8) :
    ssd1306SendCmd panelApi cmd w = (w.bus.answer, ⟨w.dev, w.bus.after [0x00, cmd]⟩) := by
  simp [ssd1306SendCmd, panelApi, hat.1, hat.2]

theorem sendData_attached (hat : w.dev.Attached) (stream : List UInt8) :
    ssd1306SendData panelApi stream w = (w.bus.answer, ⟨w.dev, w.bus.after stream⟩) := by
  simp [ssd1306SendData, panelApi, hat.1, hat.2]

/-- Without a bus or a device nothing arrives. -/
theorem sendData_detached (hat : ¬ w.dev.Attached) (stream : List UInt8) :
    (ssd1306SendData panelApi stream w).1 ≠ espOk := by
  rcases w with ⟨⟨bus, dev, width, height, ready⟩, s⟩
  cases bus with
  | none =>
      exact espErrInvalidState_ne_ok
  | some u =>
      cases dev with
      | none =>
          exact espErrInvalidArg_ne_ok
      | some v =>
          exact absurd ⟨rfl, rfl⟩ hat

@[simp] theorem address_dev (api : I2cBusApi Unit Unit PanelBus) (page : UInt8) (w : PanelWorld) :
    (ssd1306Address api page w).dev = w.dev := rfl

theorem command_page (p : Panel) {page : UInt8} {r : Fin 8} (h : r.val = page.toNat) :
    p.command (0xB0 + page) = { p with page := r } := by
  have hall : ∀ r : Fin 8, (0xB0 ≤ 0xB0 + UInt8.ofNat r.val ∧ 0xB0 + UInt8.ofNat r.val ≤ 0xB7) ∧
      Fin.ofNat 8 (0xB0 + UInt8.ofNat r.val - 0xB0).toNat = r := by
    decide
  have hpage : page = UInt8.ofNat r.val := by
    rw [h, UInt8.ofNat_toNat]
  rw [hpage, Panel.command, if_pos (hall r).1, (hall r).2]

theorem command_low (p : Panel) :
    p.command 0x00 = { p with col := Fin.ofNat 128 (p.col.val / 16 * 16) } := by
  simp [Panel.command]

theorem command_high (p : Panel) :
    p.command 0x10 = { p with col := Fin.ofNat 128 (p.col.val % 16) } := by
  simp [Panel.command]

theorem after_cmd (s : PanelBus) (cmd : UInt8) :
    s.after [0x00, cmd] =
      ⟨if s.answers s.writes = espOk then s.panel.command cmd else s.panel, s.answers,
        s.writes + 1⟩ := rfl

/-- The column after the two column commands, of which `low` and `high` got through. -/
theorem column_eq_zero_iff (c : Fin 128) (low high : Bool) :
    let c' := if low then Fin.ofNat 128 (c.val / 16 * 16) else c
    (if high then Fin.ofNat 128 (c'.val % 16) else c') = 0 ↔
      (low = true ∨ c.val % 16 = 0) ∧ (high = true ∨ c.val / 16 = 0) := by
  have hc := c.isLt
  have hzero : (0 : Fin 128).val = 0 := rfl
  intro c'
  rw [Fin.ext_iff, hzero]
  cases low <;> cases high <;>
    simp only [c', Bool.false_eq_true, if_false, if_true, Fin.val_ofNat, false_or, true_or, true_and,
      and_true, and_self, iff_true] <;> omega

/-- What the three addressing commands do. -/
structure Addressed (page : Fin 8) (w w' : PanelWorld) : Prop where
  dev_eq : w'.dev = w.dev
  answers_eq : w'.bus.answers = w.bus.answers
  writes_eq : w'.bus.writes = w.bus.writes + 3
  ram_eq : w'.bus.panel.ram = w.bus.panel.ram
  page_eq : w'.bus.panel.page =
    if w.bus.answers w.bus.writes = espOk then page else w.bus.panel.page
  col_eq_zero_iff : w'.bus.panel.col = 0 ↔
    (w.bus.answers (w.bus.writes + 1) = espOk ∨ w.bus.panel.col.val % 16 = 0) ∧
      (w.bus.answers (w.bus.writes + 2) = espOk ∨ w.bus.panel.col.val / 16 = 0)

theorem address_attached (hat : w.dev.Attached) {page : UInt8} {r : Fin 8}
    (h : r.val = page.toNat) : Addressed r w (ssd1306Address panelApi page w) := by
  have hpage := sendCmd_attached hat (0xB0 + page)
  have hlow := sendCmd_attached (w := ⟨w.dev, w.bus.after [0x00, 0xB0 + page]⟩) hat 0x00
  have hhigh := sendCmd_attached
    (w := ⟨w.dev, (w.bus.after [0x00, 0xB0 + page]).after [0x00, 0x00]⟩) hat 0x10
  have heq : ssd1306Address panelApi page w =
      ⟨w.dev, ((w.bus.after [0x00, 0xB0 + page]).after [0x00, 0x00]).after [0x00, 0x10]⟩ := by
    simp only [ssd1306Address, hpage, hlow, hhigh]
  rw [heq]
  simp only [after_cmd, command_page _ h, command_low, command_high]
  -- each command touches one pointer and no RAM
  refine ⟨rfl, rfl, rfl, ?_, ?_, ?_⟩
  · split <;> split <;> split <;> rfl
  · split <;> split <;> split <;> rfl
  · have hcol := column_eq_zero_iff w.bus.panel.col
      (decide (w.bus.answers (w.bus.writes + 1) = espOk))
      (decide (w.bus.answers (w.bus.writes + 2) = espOk))
    simp only [decide_eq_true_eq] at hcol
    rw [← hcol]
    split <;> split <;> split <;> rfl

end Writes

/-! ## Data -/

section Data

variable {p : Panel}

theorem foldl_store_page (bytes : List UInt8) (p : Panel) :
    (bytes.foldl Panel.store p).page = p.page := by
  induction bytes generalizing p with
  | nil =>
      rfl
  | cons byte bytes ih =>
      exact ih (p.store byte)

/-- Up to a page of data: the bytes lie one after the other from the column pointer on, and nothing
else changes. -/
theorem foldl_store_ram (bytes : List UInt8) (hlength : bytes.length ≤ 128) (p : Panel)
    (page : Fin 8) (k : Fin 128) :
    (bytes.foldl Panel.store p).ram page k =
      if page = p.page ∧ (k - p.col).val < bytes.length then bytes.getD (k - p.col).val 0
      else p.ram page k := by
  induction bytes generalizing p with
  | nil =>
      simp
  | cons byte bytes ih =>
      have hrest := ih (by simp at hlength; omega) (p.store byte)
      rw [List.foldl_cons, hrest]
      have hk := k.isLt
      have hc := p.col.isLt
      by_cases hpage : page = p.page
      · by_cases hcol : k = p.col
        · -- the byte just stored; the rest does not come round to it
          have hfar : (k - (p.col + 1)).val = 127 := by
            rw [hcol]
            simp only [Fin.sub_def, Fin.add_def, Fin.val_one']
            omega
          have hshort : ¬ 127 < bytes.length := by
            simp at hlength
            omega
          have hhere : (k - p.col).val < (byte :: bytes).length := by
            simp [hcol]
          rw [if_neg fun h => hshort (lt_of_eq_of_lt hfar.symm h.2), if_pos ⟨hpage, hhere⟩]
          simp [Panel.store, hpage, hcol]
        · have hnext : (k - p.col).val = (k - (p.col + 1)).val + 1 := by
            have hne : k.val ≠ p.col.val := fun h => hcol (Fin.ext h)
            simp only [Fin.sub_def, Fin.add_def, Fin.val_one']
            omega
          simp [Panel.store, hpage, hcol, hnext]
      · simp [Panel.store, hpage]

end Data

/-! ## `show_text` -/

section ShowText

variable {w : PanelWorld} {row : UInt8} {text : CString}

/-- A rendering inside the arrays is sent, whatever became of the commands before it. -/
theorem showText_rendered (hready : w.dev.isInitialized = true) (hrow : row < 8)
    {stream : List UInt8}
    (hstream : renderText text (ssd1306MaxChars w.dev.scrWidth) 0 [0x40] = .ok stream) :
    ssd1306ShowText panelApi row (some text) w =
      .ok (ssd1306SendData panelApi stream (ssd1306Address panelApi row w)) := by
  simp [ssd1306ShowText, hready, UInt8.not_le.2 hrow, hstream]

/-- An `ESP_OK` of `show_text` comes from the data write, on an initialised driver with a device. -/
theorem showText_ok {w' : PanelWorld}
    (h : ssd1306ShowText panelApi row (some text) w = .ok (espOk, w')) :
    w.dev.isInitialized = true ∧ row < 8 ∧ w.dev.Attached ∧
      ∃ stream, renderText text (ssd1306MaxChars w.dev.scrWidth) 0 [0x40] = .ok stream ∧
        ssd1306SendData panelApi stream (ssd1306Address panelApi row w) = (espOk, w') := by
  cases hready : w.dev.isInitialized with
  | false =>
      simp only [ssd1306ShowText, hready, if_true, Except.ok.injEq, Prod.mk.injEq] at h
      exact absurd h.1 (by decide)
  | true =>
      by_cases hrow : row < 8
      · cases hstream : renderText text (ssd1306MaxChars w.dev.scrWidth) 0 [0x40] with
        | error fault =>
            simp [ssd1306ShowText, hready, UInt8.not_le.2 hrow, hstream] at h
        | ok stream =>
            rw [showText_rendered hready hrow hstream, Except.ok.injEq] at h
            refine ⟨rfl, hrow, ?_, stream, rfl, h⟩
            by_contra hat
            exact sendData_detached (w := ssd1306Address panelApi row w) hat stream
              (congrArg Prod.fst h)
      · simp only [ssd1306ShowText, hready, Bool.true_eq_false, if_false, UInt8.not_lt.1 hrow,
          if_true, Except.ok.injEq, Prod.mk.injEq] at h
        exact absurd h.1 (by decide)

/-- A text without characters outside the font table fits a panel of up to 16 characters. -/
theorem renderText_exists (hfont : ∀ c, (font8x8 (fontIdx text c)).isSome) {n c : Nat}
    {stream : List UInt8} (hroom : stream.length + 8 * n ≤ ssd1306StreamSize) :
    ∃ out, renderText text n c stream = .ok out := by
  rcases renderText_of_room hroom with ⟨_, hok⟩ | ⟨⟨k, _, hnone⟩, _⟩
  · exact hok
  · have hsome := hfont (c + k)
    rw [hnone] at hsome
    exact Bool.noConfusion hsome

/-- The rendering starts with the control byte for data. -/
theorem renderText_stream {n : Nat} {stream : List UInt8}
    (h : renderText text n 0 [0x40] = .ok stream) :
    stream = 0x40 :: renderedText text n ∧ (renderedText text n).length = 8 * n ∧ n ≤ 16 := by
  rcases renderText_ok h with ⟨hout, hlength, hfit⟩
  have heq : stream = 0x40 :: renderedText text n := by
    rw [hout, renderedText, List.range_eq_range']
    rfl
  rw [heq] at hlength hfit
  simp only [List.length_cons, List.length_nil, ssd1306StreamSize] at hlength hfit
  exact ⟨heq, by omega, by omega⟩

/-- The panel after a data write that arrived. -/
theorem sendData_arrived (hat : w.dev.Attached) (hok : w.bus.answer = espOk) (bytes : List UInt8) :
    ssd1306SendData panelApi (0x40 :: bytes) w =
      (espOk, ⟨w.dev, bytes.foldl Panel.store w.bus.panel, w.bus.answers, w.bus.writes + 1⟩) := by
  rw [sendData_attached hat, hok]
  simp [PanelBus.after, hok, Panel.write]

/-- With both pointers at the start of the row, the data is where it should be. -/
theorem showsText_of_pointers {before p : Panel} {width : UInt16} (hram : p.ram = before.ram)
    (hpage : p.page.val = row.toNat) (hcol : p.col = 0)
    (hlength : (renderedText text (ssd1306MaxChars width)).length = 8 * ssd1306MaxChars width)
    (hfit : ssd1306MaxChars width ≤ 16) :
    ShowsText text width row before
      ((renderedText text (ssd1306MaxChars width)).foldl Panel.store p) := by
  have hshort : (renderedText text (ssd1306MaxChars width)).length ≤ 128 := by omega
  constructor
  · intro page hrow k hk
    have hsame : page = p.page := Fin.ext (hrow.trans hpage.symm)
    have hoff : k - p.col = k := by
      rw [hcol, Fin.ext_iff, Fin.sub_def]
      have hzero : (0 : Fin 128).val = 0 := rfl
      simp only [hzero]
      omega
    rw [foldl_store_ram _ hshort, hoff, if_pos ⟨hsame, hlength ▸ hk⟩]
  · intro page hrow
    have hother : page ≠ p.page := fun h => hrow (h ▸ hpage)
    funext k
    rw [foldl_store_ram _ hshort, if_neg (fun h => hother h.1), hram]

/-- One exclamation mark. -/
def exclaim : CString :=
  [0x21]

/-- Behind its end a text is blank. -/
theorem glyph_exclaim_succ (c : Nat) :
    font8x8 (fontIdx exclaim (c + 1)) = some (List.replicate 8 0x00) := by
  have hidx : fontIdx exclaim (c + 1) = 0 := by simp [fontIdx, exclaim]
  rw [hidx]
  decide

/-- Only column 2 has anything of it. -/
theorem renderedText_exclaim {n : Nat} (hn : 0 < n) (j : Nat) :
    (renderedText exclaim n).getD j 0 = if j = 2 then 0x5f else 0 := by
  rcases Nat.exists_eq_succ_of_ne_zero hn.ne' with ⟨m, rfl⟩
  have hzero : ∀ b ∈ (List.range m).flatMap
      (fun c => (font8x8 (fontIdx exclaim (c + 1))).getD []), b = 0 := by
    intro b hb
    rcases List.mem_flatMap.1 hb with ⟨c, _, hb⟩
    rw [glyph_exclaim_succ, Option.getD_some] at hb
    exact List.eq_of_mem_replicate hb
  have hsplit : renderedText exclaim (m + 1) = [0x00, 0x00, 0x5f, 0x00, 0x00, 0x00, 0x00, 0x00] ++
      (List.range m).flatMap (fun c => (font8x8 (fontIdx exclaim (c + 1))).getD []) := by
    have hhead : (font8x8 (fontIdx exclaim 0)).getD [] =
        [0x00, 0x00, 0x5f, 0x00, 0x00, 0x00, 0x00, 0x00] := by
      decide
    rw [renderedText, List.range_succ_eq_map, List.flatMap_cons, List.flatMap_map, hhead]
  rw [hsplit]
  by_cases hj : j < 8
  · rw [List.getD_append _ _ _ _ hj]
    interval_cases j <;> rfl
  · rw [List.getD_append_right _ _ _ _ (by simpa using hj), if_neg (by omega)]
    -- behind the first character everything is blank
    rcases Nat.lt_or_ge (j - 8) ((List.range m).flatMap
      (fun c => (font8x8 (fontIdx exclaim (c + 1))).getD [])).length with hlt | hge
    · exact hzero _ (by
        rw [List.getD_eq_getElem _ _ (by simpa using hlt)]
        exact List.getElem_mem _)
    · rw [List.getD_eq_default _ _ (by simpa using hge)]

theorem exclaim_inFont (c : Nat) : (font8x8 (fontIdx exclaim c)).isSome := by
  cases c with
  | zero =>
      decide
  | succ c =>
      rw [glyph_exclaim_succ]
      rfl

/-- On a panel with every pixel lit the exclamation mark is seen in its place only if both pointers
were. -/
theorem pointers_of_showsText {before p : Panel} {width : UInt16} {r : Fin 8}
    (hram : ∀ page k, p.ram page k = 0xFF) (hr : r.val = row.toNat)
    (hwidth : 0 < ssd1306MaxChars width)
    (hlength : (renderedText exclaim (ssd1306MaxChars width)).length ≤ 128)
    (h : ShowsText exclaim width row before
      ((renderedText exclaim (ssd1306MaxChars width)).foldl Panel.store p)) :
    p.page = r ∧ p.col = 0 := by
  have htwo : (2 : Fin 128).val = 2 := rfl
  have hzero : (0 : Fin 128).val = 0 := rfl
  have hpixel := h.shown r hr 2 (by omega)
  rw [htwo, renderedText_exclaim hwidth 2, if_pos rfl, foldl_store_ram _ hlength] at hpixel
  split at hpixel
  · rename_i hin
    rw [renderedText_exclaim hwidth] at hpixel
    -- no other byte that was sent is the one of column 2
    have hoff : (2 - p.col).val = 2 := by
      by_contra hne
      rw [if_neg hne] at hpixel
      exact absurd hpixel (by decide)
    have hlt := p.col.isLt
    rw [Fin.sub_def] at hoff
    simp only [htwo] at hoff
    refine ⟨hin.1.symm, ?_⟩
    rw [Fin.ext_iff, hzero]
    omega
  · rw [hram] at hpixel
    exact absurd hpixel (by decide)

/-- The pointers after the addressing commands. -/
theorem addressed_pointers_iff {dev : Ssd1306 Unit Unit} {answers : Nat → EspErr} {panel : Panel}
    {w' : PanelWorld} {r : Fin 8} (hr : r.val = row.toNat)
    (h : Addressed r (.begin dev panel answers) w') :
    (w'.bus.panel.page = r ∧ w'.bus.panel.col = 0) ↔
      AddressingOk answers row panel.page panel.col := by
  have hpage : w'.bus.panel.page = if answers 0 = espOk then r else panel.page := h.page_eq
  have hcol : w'.bus.panel.col = 0 ↔ (answers 1 = espOk ∨ panel.col.val % 16 = 0) ∧
      (answers 2 = espOk ∨ panel.col.val / 16 = 0) := h.col_eq_zero_iff
  rw [hcol, hpage]
  have hrow : (if answers 0 = espOk then r else panel.page) = r ↔
      (answers 0 = espOk ∨ panel.page.val = row.toNat) := by
    by_cases hfirst : answers 0 = espOk
    · simp [hfirst]
    · simp [hfirst, Fin.ext_iff, hr]
  rw [hrow]
  exact ⟨fun hall => ⟨hall.1, hall.2.1, hall.2.2⟩, fun hall => ⟨hall.1, hall.2, hall.3⟩⟩

/-- For every state of the driver and the pointers and every pattern of failing writes: whatever the
RAM and the text, an `ESP_OK` of `show_text` is true exactly if, the data write arriving, each
addressing command gets through or finds its pointer in place. -/
theorem showTextLaw_iff (dev : Ssd1306 Unit Unit) (answers : Nat → EspErr) (row : UInt8)
    (page : Fin 8) (col : Fin 128) :
    (∀ ram text, ShowTextLaw (.begin dev ⟨ram, page, col⟩ answers) row text) ↔
      (TextArrives dev answers row → AddressingOk answers row page col) := by
  constructor
  · -- one text and one RAM content tell every pair of pointers apart
    intro hlaw harrives
    have hrow : row.toNat < 8 := UInt8.lt_iff_toNat_lt.1 harrives.row_lt
    have hle := harrives.width_le
    have hexists : ∃ stream,
        renderText exclaim (ssd1306MaxChars dev.scrWidth) 0 [0x40] = .ok stream := by
      refine renderText_exists exclaim_inFont ?_
      simp only [List.length_singleton, ssd1306StreamSize]
      omega
    rcases hexists with ⟨stream, hstream⟩
    rcases renderText_stream hstream with ⟨heq, hlength, _⟩
    have hresult := showText_rendered (w := .begin dev ⟨fun _ _ => 0xFF, page, col⟩ answers)
      harrives.ready harrives.row_lt hstream
    have haddressed := address_attached (w := .begin dev ⟨fun _ _ => 0xFF, page, col⟩ answers)
      harrives.attached (show (⟨row.toNat, hrow⟩ : Fin 8).val = row.toNat from rfl)
    generalize ssd1306Address panelApi row _ = w at haddressed hresult
    have hok : w.bus.answer = espOk := by
      rw [PanelBus.answer, haddressed.answers_eq, haddressed.writes_eq]
      exact harrives.data_ok
    rw [heq, sendData_arrived (haddressed.dev_eq ▸ harrives.attached) hok] at hresult
    have hram : ∀ p k, w.bus.panel.ram p k = 0xFF := by
      intro p k
      rw [haddressed.ram_eq]
      rfl
    exact (addressed_pointers_iff rfl haddressed).1 (pointers_of_showsText hram rfl
      harrives.width_pos (by omega) (hlaw _ exclaim _ hresult))
  · -- with the pointers in place the data goes where it should, whatever it is
    intro hcond ram text w' h
    rcases showText_ok h with ⟨hready, hrow, hat, stream, hstream, hsent⟩
    have hrow' : row.toNat < 8 := UInt8.lt_iff_toNat_lt.1 hrow
    have haddressed := address_attached hat
      (show (⟨row.toNat, hrow'⟩ : Fin 8).val = row.toNat from rfl)
    rcases renderText_stream hstream with ⟨heq, hlength, hfit⟩
    generalize ssd1306Address panelApi row _ = w at haddressed hsent
    have hat' : w.dev.Attached := haddressed.dev_eq ▸ hat
    have hok : w.bus.answer = espOk := by
      rw [sendData_attached hat'] at hsent
      exact congrArg Prod.fst hsent
    rw [heq, sendData_arrived hat' hok, Prod.mk.injEq] at hsent
    rw [PanelBus.answer, haddressed.answers_eq, haddressed.writes_eq] at hok
    rw [← hsent.2]
    by_cases hwidth : 0 < ssd1306MaxChars dev.scrWidth
    · have haddr := hcond ⟨hready, hat, hrow, hwidth, hfit, hok⟩
      rcases (addressed_pointers_iff rfl haddressed).2 haddr with ⟨hpage, hcol⟩
      exact showsText_of_pointers haddressed.ram_eq (congrArg Fin.val hpage) hcol hlength hfit
    · -- a panel narrower than a character gets no data
      have hnone : ssd1306MaxChars dev.scrWidth = 0 := Nat.eq_zero_of_not_pos hwidth
      refine ⟨fun _ _ k hk => ?_, fun p _ => ?_⟩
      · simp [hnone] at hk
      · simp only [PanelWorld.begin_dev, hnone]
        exact congrFun haddressed.ram_eq p

end ShowText

/-! ## `clear` -/

section Clear

variable {answers : Nat → EspErr} {page : Fin 8}

/-- The page pointer when round `k` of the loop begins; the data of round `k` goes to
`pagePointer answers page (k + 1)`. -/
def pagePointer (answers : Nat → EspErr) (page : Fin 8) : Nat → Fin 8
  | 0 => page
  | k + 1 => if answers (4 * k) = espOk then Fin.ofNat 8 k else pagePointer answers page k

/-- A page of zeros blanks the page the pointer is on, wherever the column is. -/
theorem foldl_store_zeros (p : Panel) (r : Fin 8) (k : Fin 128) :
    ((List.replicate 128 0x00).foldl Panel.store p).ram r k =
      if r = p.page then 0 else p.ram r k := by
  rw [foldl_store_ram _ (by simp)]
  have hin : (k - p.col).val < (List.replicate 128 (0x00 : UInt8)).length := by
    rw [List.length_replicate]
    exact (k - p.col).isLt
  rw [List.getD_eq_getElem _ _ hin, List.getElem_replicate]
  simp

/-- The rounds from `k` on blank the pages the pointer is on in them, and no other. -/
structure PagesCleared (answers : Nat → EspErr) (page : Fin 8) (k : Nat) (w w' : PanelWorld) :
    Prop where
  hit : ∀ j, k ≤ j → j < 8 → ∀ c, w'.bus.panel.ram (pagePointer answers page (j + 1)) c = 0
  missed : ∀ r, (∀ j, k ≤ j → j < 8 → pagePointer answers page (j + 1) ≠ r) →
    w'.bus.panel.ram r = w.bus.panel.ram r

/-- One round, which blanks the page the pointer is on, before the others. -/
theorem PagesCleared.round {k : Nat} (hk : k < 8) {w w₁ w₂ w' : PanelWorld}
    (hram : w₁.bus.panel.ram = w.bus.panel.ram)
    (hpointer : w₁.bus.panel.page = pagePointer answers page (k + 1))
    (hblanked : w₂.bus.panel = (List.replicate 128 0x00).foldl Panel.store w₁.bus.panel)
    (hrest : PagesCleared answers page (k + 1) w₂ w') : PagesCleared answers page k w w' where
  hit j hj hj' c := by
    rcases Nat.eq_or_lt_of_le hj with heq | hlt
    · subst heq
      by_cases hagain : ∃ j, k + 1 ≤ j ∧ j < 8 ∧
          pagePointer answers page (j + 1) = pagePointer answers page (k + 1)
      · rcases hagain with ⟨j, hj, hj', hsame⟩
        exact hsame ▸ hrest.hit j hj hj' c
      · -- blanked in this round and left alone by the later ones
        have hlast := hrest.missed (pagePointer answers page (k + 1))
          fun j hj hj' hsame => hagain ⟨j, hj, hj', hsame⟩
        rw [hlast, hblanked, foldl_store_zeros, if_pos hpointer.symm]
    · exact hrest.hit j hlt hj' c
  missed r hmiss := by
    have hother : r ≠ w₁.bus.panel.page := by
      rw [hpointer]
      exact (hmiss k le_rfl hk).symm
    rw [hrest.missed r fun j hj hj' => hmiss j (Nat.le_of_succ_le hj) hj']
    funext c
    rw [hblanked, foldl_store_zeros, if_neg hother, hram]

/-- The rounds from `k` on are round `k` and the rounds after it. -/
theorem forall_rounds_iff {k : Nat} (hk : k < 8) (P : Nat → Prop) :
    (∀ j, k ≤ j → j < 8 → P j) ↔ P k ∧ ∀ j, k + 1 ≤ j → j < 8 → P j := by
  constructor
  · intro hall
    exact ⟨hall k le_rfl hk, fun j hj hj' => hall j (Nat.le_of_succ_le hj) hj'⟩
  · rintro ⟨hfirst, hrest⟩ j hj hj'
    rcases Nat.eq_or_lt_of_le hj with heq | hlt
    · exact heq ▸ hfirst
    · exact hrest j hlt hj'

theorem clearPages_spec (answers : Nat → EspErr) (page : Fin 8) {n k : Nat} (hk : k + n = 8)
    {w : PanelWorld} (hat : w.dev.Attached) (hans : w.bus.answers = answers)
    (hwrites : w.bus.writes = 4 * k) (hpage : w.bus.panel.page = pagePointer answers page k) :
    ((ssd1306ClearPages panelApi n (UInt8.ofNat k) w).1 = espOk ↔
        ∀ j, k ≤ j → j < 8 → answers (4 * j + 3) = espOk) ∧
      ((ssd1306ClearPages panelApi n (UInt8.ofNat k) w).1 = espOk →
        PagesCleared answers page k w (ssd1306ClearPages panelApi n (UInt8.ofNat k) w).2) := by
  -- the induction is on the rounds that are left
  induction n generalizing k w with
  | zero =>
      refine ⟨⟨fun _ j hj hj' => absurd hj' (by omega), fun _ => rfl⟩, fun _ => ⟨?_, fun _ _ => rfl⟩⟩
      intro j hj hj'
      omega
  | succ n ih =>
      have hk' : k < 8 := by omega
      have hr : (Fin.ofNat 8 k).val = (UInt8.ofNat k).toNat := by
        rw [Fin.val_ofNat, UInt8.toNat_ofNat']
        omega
      have haddressed := address_attached hat hr
      have hpointer : (ssd1306Address panelApi (UInt8.ofNat k) w).bus.panel.page =
          pagePointer answers page (k + 1) := by
        rw [haddressed.page_eq, hans, hwrites, hpage, pagePointer]
      simp only [ssd1306ClearPages]
      generalize ssd1306Address panelApi (UInt8.ofNat k) w = w₁ at haddressed hpointer ⊢
      have hat₁ : w₁.dev.Attached := haddressed.dev_eq ▸ hat
      have hanswer : w₁.bus.answer = answers (4 * k + 3) := by
        rw [PanelBus.answer, haddressed.answers_eq, haddressed.writes_eq, hans, hwrites]
      rw [forall_rounds_iff hk']
      by_cases hok : answers (4 * k + 3) = espOk
      · rw [sendData_arrived hat₁ (hanswer.trans hok)]
        have hnext : UInt8.ofNat k + 1 = UInt8.ofNat (k + 1) := by
          rw [UInt8.ofNat_add]
          rfl
        have hrest := ih (k := k + 1) (by omega)
          (w := ⟨w₁.dev, (List.replicate 128 0x00).foldl Panel.store w₁.bus.panel, w₁.bus.answers,
            w₁.bus.writes + 1⟩) hat₁ (haddressed.answers_eq.trans hans)
          (by simp only [haddressed.writes_eq, hwrites]; omega)
          (by rw [← hpointer]; exact foldl_store_page _ _)
        simp only [ne_eq, not_true_eq_false, if_false, hnext]
        refine ⟨?_, fun hret => ?_⟩
        · rw [hrest.1]
          exact (and_iff_right hok).symm
        · exact (hrest.2 hret).round hk' haddressed.ram_eq hpointer rfl
      · -- a data write that fails ends the loop with its error
        have hret : (ssd1306SendData panelApi (0x40 :: List.replicate 128 0x00) w₁).1 ≠ espOk := by
          rw [sendData_attached hat₁, hanswer]
          exact hok
        simp only [hret, ne_eq, not_false_eq_true, if_true, false_iff, false_implies, and_true]
        exact fun hall => hok hall.1

/-- The eight rounds reach the eight pages exactly if no page command is needed in vain. -/
theorem pagePointer_surjective_iff :
    (∀ r, ∃ j < 8, pagePointer answers page (j + 1) = r) ↔ PagesOk answers page := by
  constructor
  · intro hall
    have hsurj : Function.Surjective fun j : Fin 8 => pagePointer answers page (j.val + 1) := by
      intro r
      rcases hall r with ⟨j, hj, hr⟩
      exact ⟨⟨j, hj⟩, hr⟩
    have hinj := Finite.injective_iff_surjective.2 hsurj
    -- a page command that fails leaves the pointer where the round before had it
    have hlater : ∀ k, 1 ≤ k → k < 8 → answers (4 * k) = espOk := by
      intro k hk hk'
      by_contra hfail
      rcases Nat.exists_eq_add_of_le' hk with ⟨m, rfl⟩
      have hsame : pagePointer answers page (m + 1 + 1) = pagePointer answers page (m + 1) := by
        rw [pagePointer, if_neg hfail]
      have heq := @hinj ⟨m + 1, hk'⟩ ⟨m, by omega⟩ hsame
      simp at heq
    refine ⟨?_, hlater⟩
    rcases hall 0 with ⟨j, hj, hr⟩
    by_cases hfirst : answers 0 = espOk
    · exact Or.inl hfirst
    · refine Or.inr ?_
      cases j with
      | zero =>
          simpa [pagePointer, hfirst] using hr
      | succ j =>
          rw [pagePointer, if_pos (hlater (j + 1) (by omega) hj), Fin.ext_iff, Fin.val_ofNat] at hr
          have hzero : (0 : Fin 8).val = 0 := rfl
          omega
  · intro hok r
    refine ⟨r.val, r.isLt, ?_⟩
    have hself : Fin.ofNat 8 r.val = r := Fin.ext (Nat.mod_eq_of_lt r.isLt)
    by_cases hr : r.val = 0
    · have hzero : r = 0 := Fin.ext hr
      rcases hok.first_ok with hfirst | hpage
      · rw [pagePointer, hr, if_pos hfirst, ← hr, hself]
      · subst hzero
        by_cases hfirst : answers 0 = espOk <;> simp [pagePointer, hfirst, hpage]
    · rw [pagePointer, if_pos (hok.later_ok r.val (by omega) r.isLt), hself]

/-- For every state of the driver and the pointers and every pattern of failing writes: whatever the
RAM, an `ESP_OK` of `clear` is true exactly if, the data writes arriving, the page commands do. -/
theorem clearLaw_iff (dev : Ssd1306 Unit Unit) (answers : Nat → EspErr) (page : Fin 8)
    (col : Fin 128) :
    (∀ ram, ClearLaw (.begin dev ⟨ram, page, col⟩ answers)) ↔
      (ClearArrives dev answers → PagesOk answers page) := by
  have hspec : dev.Attached → ∀ ram, _ := fun hat ram =>
    clearPages_spec answers page (n := 8) (k := 0) rfl
      (w := PanelWorld.begin dev ⟨ram, page, col⟩ answers) hat rfl rfl rfl
  have hcleared : dev.isInitialized = true → ∀ ram,
      ssd1306Clear panelApi (PanelWorld.begin dev ⟨ram, page, col⟩ answers) =
        ssd1306ClearPages panelApi 8 (UInt8.ofNat 0)
          (PanelWorld.begin dev ⟨ram, page, col⟩ answers) := by
    intro hready ram
    simp [ssd1306Clear, hready]
  constructor
  · intro hlaw harrives
    have hlit := hlaw fun _ _ => 0xFF
    have hwhole := hspec harrives.attached fun _ _ => 0xFF
    rw [ClearLaw, hcleared harrives.ready] at hlit
    have hret := hwhole.1.2 fun j _ hj => harrives.data_ok j hj
    rw [← pagePointer_surjective_iff]
    intro r
    by_contra hmiss
    -- a page never reached is still lit
    have hkept := (hwhole.2 hret).missed r fun j _ hj hr => hmiss ⟨j, hj, hr⟩
    have hzero := hlit hret r 0
    rw [hkept] at hzero
    exact absurd (show (0xFF : UInt8) = 0 from hzero) (by decide)
  · intro hcond ram hret r c
    cases hready : dev.isInitialized with
    | false =>
        simp only [ssd1306Clear, PanelWorld.begin_dev, hready, if_true] at hret
        exact absurd hret (by decide)
    | true =>
        rw [hcleared hready] at hret ⊢
        have hat : dev.Attached := by
          by_contra hnot
          refine sendData_detached (w := ssd1306Address panelApi (UInt8.ofNat 0)
            (PanelWorld.begin dev ⟨ram, page, col⟩ answers)) hnot (0x40 :: List.replicate 128 0x00) ?_
          by_contra hfail
          simp only [ssd1306ClearPages, hfail, ne_eq, not_false_eq_true, if_true] at hret
        have hwhole := hspec hat ram
        have hdata := hwhole.1.1 hret
        have hpages := hcond ⟨hready, hat, fun k hk => hdata k (Nat.zero_le k) hk⟩
        rcases pagePointer_surjective_iff.2 hpages r with ⟨j, hj, hr⟩
        exact hr ▸ (hwhole.2 hret).hit j (Nat.zero_le j) hj c

end Clear

/-! ## Both operations -/

/-- For every driver state, pointers, row, and pattern of failing writes, over all RAM contents and
texts: `ESP_OK` of `show_text` and `ESP_OK` of `clear` say the truth exactly under the conditions on
their addressing commands. -/
theorem display_shows_what_it_reports_iff (dev : Ssd1306 Unit Unit) (answers : Nat → EspErr)
    (row : UInt8) (page : Fin 8) (col : Fin 128) :
    ((∀ ram text, ShowTextLaw (.begin dev ⟨ram, page, col⟩ answers) row text) ↔
        (TextArrives dev answers row → AddressingOk answers row page col)) ∧
      ((∀ ram, ClearLaw (.begin dev ⟨ram, page, col⟩ answers)) ↔
        (ClearArrives dev answers → PagesOk answers page)) :=
  ⟨showTextLaw_iff dev answers row page col, clearLaw_iff dev answers page col⟩

/-- A blank panel with its pointers at the origin, and a driver whose next write fails. -/
def firstCommandLost : PanelWorld :=
  .begin ⟨some (), some (), 128, 64, true⟩ ⟨fun _ _ => 0, 0, 0⟩
    fun k => if k = 0 then espFail else espOk

/-- The page command of a `show_text` for row 3 is lost: `ESP_OK` is returned, row 3 is blank and the
text is on row 0. -/
theorem text_on_wrong_row :
    (∃ w', ssd1306ShowText panelApi 3 (some exclaim) firstCommandLost = .ok (espOk, w') ∧
        w'.bus.panel.ram 3 2 = 0x00 ∧ w'.bus.panel.ram 0 2 = 0x5f) ∧
      ¬ ShowTextLaw firstCommandLost 3 exclaim := by
  have hrun : (ssd1306ShowText panelApi 3 (some exclaim) firstCommandLost).toOption.map (fun r =>
      (r.1, r.2.bus.panel.ram 3 2, r.2.bus.panel.ram 0 2)) = some (espOk, 0x00, 0x5f) := by
    decide +kernel
  cases hok : ssd1306ShowText panelApi 3 (some exclaim) firstCommandLost with
  | error fault =>
      simp [hok, Except.toOption] at hrun
  | ok r =>
      rcases r with ⟨ret, w'⟩
      simp only [hok, Except.toOption, Option.map_some, Option.some.injEq, Prod.mk.injEq] at hrun
      rcases hrun with ⟨rfl, hblank, hwrong⟩
      refine ⟨⟨w', rfl, hblank, hwrong⟩, fun hlaw => ?_⟩
      have hshown : w'.bus.panel.ram 3 2 = (renderedText exclaim 16).getD 2 0 :=
        (hlaw w' hok).shown 3 rfl 2 (by decide)
      rw [hblank, renderedText_exclaim (by decide) 2] at hshown
      exact absurd hshown (by decide)

end MainboardFirmware
