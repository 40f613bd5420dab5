import MainboardFirmware.Ssd1306.Panel
import MainboardFirmware.Ssd1306.Traffic

/-!
# Stream — the data buffer of `show_text` and what is put into it

`show_text` renders as many characters as the configured width has room for into a buffer of 129
bytes, and looks each of them up in a table that ends with its last designated row. Neither bound is
related to what it bounds: a width from 136 on writes behind the buffer, and a character from `'Z'` on
reads behind the table.
-/

namespace MainboardFirmware

open Machine

variable {β η : Type}

/-! ## One call -/

section Call

variable {w : TrafficWorld β η} {row : UInt8} {text : CString}

/-- The messages of a rendering that is sent. -/
def textMessages (dev : Ssd1306 β η) (row : UInt8) (stream : List UInt8) : List (Message β η) :=
  [⟨dev.i2cBus, dev.devHandle, [0x00, 0xB0 + row]⟩, ⟨dev.i2cBus, dev.devHandle, [0x00, 0x00]⟩,
    ⟨dev.i2cBus, dev.devHandle, [0x00, 0x10]⟩, ⟨dev.i2cBus, dev.devHandle, stream⟩]

/-- Three commands of two bytes, and the stream. -/
theorem textMessages_length (dev : Ssd1306 β η) (row : UInt8) {stream : List UInt8}
    (hlength : stream.length ≤ ssd1306StreamSize) :
    ∀ m ∈ textMessages dev row stream, m.data.length ≤ ssd1306StreamSize := by
  have hcommand : 2 ≤ ssd1306StreamSize := by
    decide
  intro m hm
  simp only [textMessages, List.mem_cons, List.not_mem_nil, or_false] at hm
  rcases hm with rfl | rfl | rfl | rfl
  · exact hcommand
  · exact hcommand
  · exact hcommand
  · exact hlength

/-- On a driver that is initialised and a row of the panel, `show_text` comes down to the rendering. -/
theorem showText_of_rendered (hready : w.dev.isInitialized = true) (hrow : row < 8)
    {stream : List UInt8}
    (hstream : renderText text (ssd1306MaxChars w.dev.scrWidth) 0 [0x40] = .ok stream) :
    ∃ ret w', ssd1306ShowText trafficApi row (some text) w = .ok (ret, w') ∧
      w'.bus.log = w.bus.log ++ textMessages w.dev row stream := by
  have hdev : (ssd1306Address trafficApi row w).dev = w.dev := rfl
  refine ⟨(ssd1306SendData trafficApi stream (ssd1306Address trafficApi row w)).1,
    (ssd1306SendData trafficApi stream (ssd1306Address trafficApi row w)).2, ?_, ?_⟩
  · simp only [ssd1306ShowText, hready, Bool.true_eq_false, if_false, UInt8.not_le.2 hrow, hdev,
      hstream]
  · simp [ssd1306SendData, ssd1306Address, ssd1306SendCmd, trafficApi, textMessages]

theorem showText_of_fault (hready : w.dev.isInitialized = true) (hrow : row < 8)
    {fault : Ssd1306Fault}
    (hfault : renderText text (ssd1306MaxChars w.dev.scrWidth) 0 [0x40] = .error fault) :
    ssd1306ShowText trafficApi row (some text) w = .error fault := by
  have hdev : (ssd1306Address trafficApi row w).dev = w.dev := rfl
  simp only [ssd1306ShowText, hready, Bool.true_eq_false, if_false, UInt8.not_le.2 hrow, hdev,
    hfault]

/-- In every other case it touches nothing. -/
theorem showText_of_refused (text : Option CString)
    (h : text = none ∨ w.dev.isInitialized = false ∨ 8 ≤ row) :
    ∃ ret, ssd1306ShowText trafficApi row text w = .ok (ret, w) := by
  cases text with
  | none =>
      exact ⟨espFail, rfl⟩
  | some text =>
      by_cases hready : w.dev.isInitialized = false
      · exact ⟨espFail, by simp [ssd1306ShowText, hready]⟩
      · have hrow : 8 ≤ row := by
          rcases h with hnone | hdown | hrow
          · exact absurd hnone (by simp)
          · exact absurd hdown hready
          · exact hrow
        exact ⟨espErrInvalidArg, by simp [ssd1306ShowText, hready, hrow]⟩

end Call

/-! ## The buffer -/

/-- Whatever the row, the text and the answers of the bus, `show_text` stays inside its buffer and sends
no message that is longer. -/
def StreamFits (s : DisplayState β η) : Prop :=
  ∀ row text answers,
    let call := ssd1306ShowText trafficApi row text (TrafficWorld.begin s.dev answers s.log)
    call ≠ .error .dataStream ∧ ∀ ret w', call = .ok (ret, w') →
      ∃ sent, w'.bus.log = s.log ++ sent ∧ ∀ m ∈ sent, m.data.length ≤ ssd1306StreamSize

/-- A buffer with room for the control byte and all characters is not left. -/
theorem streamFits_of_room {s : DisplayState β η}
    (hroom : s.dev.isInitialized = true → ssd1306MaxChars s.dev.scrWidth ≤ 16) : StreamFits s := by
  intro row text answers call
  by_cases hrefused : text = none ∨ s.dev.isInitialized = false ∨ 8 ≤ row
  · rcases @showText_of_refused _ _ (TrafficWorld.begin s.dev answers s.log) row text hrefused with
      ⟨ret, hcall⟩
    have heq : call = .ok (ret, TrafficWorld.begin s.dev answers s.log) := hcall
    rw [heq]
    refine ⟨by simp, ?_⟩
    intro ret' w' hsame
    cases hsame
    exact ⟨[], by simp [TrafficWorld.begin], by simp⟩
  · simp only [not_or, Bool.not_eq_false] at hrefused
    rcases hrefused with ⟨htext, hready, hrow⟩
    rcases Option.ne_none_iff_exists'.1 htext with ⟨text, rfl⟩
    have hsize : [(0x40 : UInt8)].length + 8 * ssd1306MaxChars s.dev.scrWidth ≤
        ssd1306StreamSize := by
      have hchars := hroom hready
      simp only [List.length_singleton, ssd1306StreamSize]
      omega
    -- a lookup behind the font ends the call before the buffer is full
    rcases @renderText_of_room text _ 0 _ hsize with ⟨_, stream, hstream⟩ | ⟨_, hfault⟩
    · rcases @showText_of_rendered _ _ (TrafficWorld.begin s.dev answers s.log) row text hready
        (UInt8.not_le.1 hrow) stream hstream with ⟨ret, w, hcall, hlog⟩
      have heq : call = .ok (ret, w) := hcall
      rw [heq]
      refine ⟨by simp, ?_⟩
      intro ret' w' hsame
      cases hsame
      have hlength : stream.length ≤ ssd1306StreamSize := by
        rw [(renderText_ok hstream).2.1]
        exact hsize
      exact ⟨_, hlog, textMessages_length s.dev row hlength⟩
    · have heq : call = .error .fontTable :=
        @showText_of_fault _ _ (TrafficWorld.begin s.dev answers s.log) row text hready
          (UInt8.not_le.1 hrow) _ hfault
      rw [heq]
      exact ⟨by simp, by simp⟩

/-- The rendering of an empty text leaves a buffer without that room. -/
theorem renderText_blank {n c : Nat} {stream : List UInt8} (hn : 0 < n)
    (hfull : ssd1306StreamSize < stream.length + 8 * n) :
    renderText [] n c stream = .error .dataStream := by
  have hblank : font8x8 (fontIdx [] c) = some (List.replicate 8 0x00) := by
    have hidx : fontIdx [] c = 0 := by
      simp [fontIdx]
    rw [hidx]
    decide
  induction n generalizing c stream with
  | zero =>
      exact absurd hn (Nat.lt_irrefl 0)
  | succ n ih =>
      -- either this character leaves the buffer, or one of the others does
      by_cases hfit : ssd1306StreamSize < stream.length + 8
      · simp [renderText, hblank, hfit]
      · have hnext : 0 < n := by omega
        have heq : renderText [] (n + 1) c stream =
            renderText [] n (c + 1) (stream ++ List.replicate 8 0x00) := by
          simp only [renderText, hblank, hfit, if_false]
        rw [heq]
        apply ih hnext
        · rw [List.length_append, List.length_replicate]
          omega
        · have hidx : fontIdx [] (c + 1) = 0 := by
            simp [fontIdx]
          rw [hidx]
          decide

theorem not_streamFits_of_full {s : DisplayState β η} (hready : s.dev.isInitialized = true)
    (hfull : 16 < ssd1306MaxChars s.dev.scrWidth) : ¬StreamFits s := by
  intro hfits
  have hfault : renderText [] (ssd1306MaxChars s.dev.scrWidth) 0 [0x40] = .error .dataStream := by
    apply renderText_blank
    · omega
    · simp only [List.length_singleton, ssd1306StreamSize]
      omega
  have hcall := @showText_of_fault _ _
    (TrafficWorld.begin s.dev ⟨(espOk, none), fun _ => espOk⟩ s.log) 0 [] hready (by decide) _ hfault
  exact (hfits 0 (some []) ⟨(espOk, none), fun _ => espOk⟩).1 hcall

theorem maxChars_le_iff (width : UInt16) : ssd1306MaxChars width ≤ 16 ↔ width < 136 := by
  rw [UInt16.lt_iff_toNat_lt]
  have h136 : (136 : UInt16).toNat = 136 := rfl
  rw [h136, ssd1306MaxChars]
  omega

/-- A successful `init` with its width on record. -/
theorem displayStep_init_ok {s : DisplayState β η} {config : DisplayConfig β}
    {answers : DisplayAnswers η}
    (hok : (ssd1306Init trafficApi (some config)
      (TrafficWorld.begin s.dev answers s.log)).1 = espOk) :
    let s' := displayStep s ⟨.init (some config), answers⟩
    s'.last = .ok config.bus answers.addDevice.2 config.width ∧ DisplayInv s' ∧
      s'.dev.isInitialized = true := by
  intro s'
  have hlast : s'.last = .ok config.bus answers.addDevice.2 config.width := by
    show (if some (ssd1306Init trafficApi (some config)
      (TrafficWorld.begin s.dev answers s.log)).1 = some espOk then _ else _) = _
    rw [hok, if_pos rfl]
  refine ⟨hlast, ?_⟩
  rcases displayStep_init_cases s (some config) answers with ⟨_, hfailed, _⟩ |
    ⟨_, _, c, hholds, hdev⟩ | ⟨_, _, hfailed, _⟩
  · exact absurd (hlast.symm.trans hfailed) (by simp)
  · have hwidth : LastInit.ok c.bus answers.addDevice.2 c.width =
        .ok config.bus answers.addDevice.2 config.width := hholds.symm.trans hlast
    simp only [LastInit.ok.injEq, true_and] at hwidth
    have hdev' : s'.dev = Ssd1306.initialised c answers := hdev
    unfold DisplayInv
    rw [hlast, hdev']
    exact ⟨fun _ => ⟨hwidth.1, rfl, hwidth.2⟩, rfl⟩
  · exact absurd (hlast.symm.trans hfailed) (by simp)

/-- For every configuration that `init` accepts, whatever the driver held before and whatever is called
after it: `show_text` stays inside its buffer until the next `init` exactly if the width is below 136. -/
theorem stream_fits_iff (s : DisplayState β η) (config : DisplayConfig β)
    (answers : DisplayAnswers η)
    (hok : (ssd1306Init trafficApi (some config)
      (TrafficWorld.begin s.dev answers s.log)).1 = espOk) :
    (∀ calls : List (DisplayMove β η), (∀ m ∈ calls, ∀ cfg, m.call ≠ .init cfg) →
      StreamFits (run displayStep (displayStep s ⟨.init (some config), answers⟩) calls)) ↔
        config.width < 136 := by
  rcases displayStep_init_ok hok with ⟨hlast, hinv, hready⟩
  constructor
  · -- the state right after `init` shows it
    intro hfits
    rw [← maxChars_le_iff]
    by_contra hfull
    have hwidth : (displayStep s ⟨.init (some config), answers⟩).dev.scrWidth = config.width := by
      unfold DisplayInv at hinv
      rw [hlast] at hinv
      exact (hinv hready).2.2
    apply not_streamFits_of_full hready
    · rw [hwidth]
      omega
    · exact hfits [] (by simp)
  · intro hwidth calls hcalls
    -- no call but `init` changes the width under the flag
    let inv : DisplayState β η → Prop := fun s =>
      s.last = .ok config.bus answers.addDevice.2 config.width ∧ DisplayInv s
    have hrun : inv (run displayStep (displayStep s ⟨.init (some config), answers⟩) calls) := by
      apply @inv_run_of_labels _ _ displayStep inv (fun m => ∀ cfg, m.call ≠ .init cfg)
      · intro s m hs hm
        rcases displayStep_other hs.2 hm with ⟨hsame, hnext⟩
        exact ⟨hsame.trans hs.1, hnext⟩
      · exact ⟨hlast, hinv⟩
      · exact hcalls
    apply streamFits_of_room
    intro hup
    have hkept := hrun.2
    unfold DisplayInv at hkept
    rw [hrun.1] at hkept
    rw [(hkept hup).2.2]
    exact (maxChars_le_iff config.width).2 hwidth

/-- A bus that answers everything well and registers device 11. -/
def allWell : DisplayAnswers Nat :=
  ⟨(espOk, some 11), fun _ => espOk⟩

/-- The display of the board. -/
def boardDisplay : DisplayConfig Nat :=
  ⟨some 1, 0x3C, 128, 64⟩

theorem stream_fits_iff_board :
    (∀ calls : List (DisplayMove Nat Nat), (∀ m ∈ calls, ∀ cfg, m.call ≠ .init cfg) →
      StreamFits (run displayStep
        (displayStep DisplayState.start ⟨.init (some boardDisplay), allWell⟩) calls)) ↔
      boardDisplay.width < 136 :=
  stream_fits_iff DisplayState.start boardDisplay allWell (by decide +kernel)

/-- One character wider. -/
def wideDisplay : DisplayConfig Nat :=
  ⟨some 1, 0x3C, 136, 64⟩

/-- It is accepted, and even an empty text is written behind the end of the buffer. -/
theorem wide_display_leaves_buffer :
    let s := displayStep DisplayState.start ⟨.init (some wideDisplay), allWell⟩
    (ssd1306Init trafficApi (some wideDisplay)
        (TrafficWorld.begin (Ssd1306.static : Ssd1306 Nat Nat) allWell [])).1 = espOk ∧
      ssd1306ShowText trafficApi 0 (some []) (TrafficWorld.begin s.dev allWell s.log) =
        .error .dataStream ∧
      ¬ StreamFits s := by
  intro s
  have hok : (ssd1306Init trafficApi (some wideDisplay)
      (TrafficWorld.begin (Ssd1306.static : Ssd1306 Nat Nat) allWell [])).1 = espOk := by
    decide +kernel
  have hwidth : s.dev.scrWidth = 136 := by
    decide +kernel
  have hready : s.dev.isInitialized = true := by
    decide +kernel
  have hchars : ssd1306MaxChars s.dev.scrWidth = 17 := by
    rw [hwidth]
    rfl
  clear_value s
  refine ⟨hok, ?_, ?_⟩
  · have hfault : renderText [] (ssd1306MaxChars s.dev.scrWidth) 0 [0x40] = .error .dataStream := by
      rw [hchars]
      exact renderText_blank (Nat.succ_pos 16) (by decide)
    exact @showText_of_fault _ _ (TrafficWorld.begin s.dev allWell s.log) 0 [] hready (by decide) _
      hfault
  · apply not_streamFits_of_full hready
    exact hchars ▸ Nat.lt_succ_self 16

/-! ## The glyphs -/

/-- The glyph of a character: the initializer of its row, and blank without one or outside the font. -/
def glyphOf (ch : UInt8) : List UInt8 :=
  if 0x20 ≤ ch ∧ ch ≤ 0x5F then
    (font8x8Init.lookup (ch - 0x20).toNat).getD (List.replicate 8 0x00)
  else
    List.replicate 8 0x00

/-- The first `n` characters of a text, blank behind its end. -/
def glyphsOf (text : CString) (n : Nat) : List UInt8 :=
  (text.take n).flatMap glyphOf ++ List.replicate (8 * (n - text.length)) 0x00

/-- Whatever the row and the answers of the bus, every lookup of `show_text` is inside the font table and
the last message is the text, in as many characters as the width has room for. -/
def SendsGlyphs (dev : Ssd1306 β η) (text : CString) : Prop :=
  ∀ row < 8, ∀ answers log, ∃ ret w',
    ssd1306ShowText trafficApi row (some text) (TrafficWorld.begin dev answers log) =
      .ok (ret, w') ∧
    w'.bus.log.getLast? = some ⟨dev.i2cBus, dev.devHandle,
      0x40 :: glyphsOf text (ssd1306MaxChars dev.scrWidth)⟩

/-- The characters of the font that come after its last row. -/
def BehindFont (ch : UInt8) : Prop :=
  0x5A ≤ ch ∧ ch ≤ 0x5F

/-- The row looked up for a character. -/
def rowOf (ch : UInt8) : Nat :=
  (if 0x20 ≤ ch ∧ ch ≤ 0x5F then ch - 0x20 else 0 : UInt8).toNat

theorem font_lookup (ch : UInt8) :
    (BehindFont ch ∧ font8x8 (rowOf ch) = none) ∨
      (¬ BehindFont ch ∧ font8x8 (rowOf ch) = some (glyphOf ch)) := by
  by_cases hfont : 0x20 ≤ ch ∧ ch ≤ 0x5F
  · have hrow : rowOf ch = (ch - 0x20).toNat := by
      simp [rowOf, hfont]
    have hsub : (ch - 0x20).toNat = ch.toNat - 32 := UInt8.toNat_sub_of_le _ _ hfont.1
    -- the table ends with the row of 'Y'
    have hrows : (ch - 0x20).toNat < font8x8Rows ↔ ch.toNat < 90 := by
      have hlow : 32 ≤ ch.toNat := UInt8.le_iff_toNat_le.1 hfont.1
      have hlast : font8x8Rows = 58 := rfl
      rw [hsub, hlast]
      omega
    have hbehind : BehindFont ch ↔ ¬ ch.toNat < 90 := by
      rw [BehindFont, UInt8.le_iff_toNat_le, Nat.not_lt]
      exact ⟨fun h => h.1, fun h => ⟨h, hfont.2⟩⟩
    by_cases hbefore : ch.toNat < 90
    · refine Or.inr ⟨fun h => hbehind.1 h hbefore, ?_⟩
      rw [hrow, font8x8, if_pos (hrows.2 hbefore), glyphOf, if_pos hfont]
    · refine Or.inl ⟨hbehind.2 hbefore, ?_⟩
      rw [hrow, font8x8, if_neg (fun h => hbefore (hrows.1 h))]
  · refine Or.inr ⟨fun h => hfont ⟨UInt8.le_trans (by decide) h.1, h.2⟩, ?_⟩
    have hrow : rowOf ch = 0 := by
      simp [rowOf, hfont]
    rw [hrow, glyphOf, if_neg hfont]
    decide

/-- Position `c` of a text is looked up as its character, or as a blank behind the end. -/
theorem fontIdx_eq (text : CString) (c : Nat) :
    fontIdx text c = rowOf (text.getD c 0x20) := by
  by_cases hc : c < text.length
  · simp only [fontIdx, hc, if_true, rowOf, List.getD_eq_getElem _ _ hc]
    split <;> rfl
  · simp only [fontIdx, hc, if_false, List.getD_eq_default _ _ (Nat.le_of_not_lt hc)]
    rfl

/-- One more character. -/
theorem glyphsOf_succ (text : CString) (n : Nat) :
    glyphsOf text (n + 1) = glyphsOf text n ++ glyphOf (text.getD n 0x20) := by
  by_cases hn : n < text.length
  · have hpad : n + 1 - text.length = 0 ∧ n - text.length = 0 := by omega
    rw [glyphsOf, glyphsOf, hpad.1, hpad.2, List.getD_eq_getElem _ _ hn,
      List.take_succ_eq_append_getElem hn]
    simp only [Nat.mul_zero, List.replicate_zero, List.append_nil, List.flatMap_append,
      List.flatMap_cons, List.flatMap_nil]
  · -- behind the end of the text the padding grows by one blank glyph
    have hlength : text.length ≤ n := Nat.le_of_not_lt hn
    have hpad : 8 * (n + 1 - text.length) = 8 * (n - text.length) + 8 := by omega
    have hblank : glyphOf 0x20 = List.replicate 8 0x00 := by decide
    rw [glyphsOf, glyphsOf, hpad, List.getD_eq_default _ _ hlength, hblank,
      List.take_of_length_le hlength, List.take_of_length_le (Nat.le_succ_of_le hlength),
      List.append_assoc, List.replicate_append_replicate]

/-- A rendering without lookups behind the table is the glyphs of the text. -/
theorem renderedText_eq_glyphsOf {text : CString} {n : Nat}
    (h : ∀ c < n, ¬ BehindFont (text.getD c 0x20)) : renderedText text n = glyphsOf text n := by
  induction n with
  | zero =>
      simp [renderedText, glyphsOf]
  | succ n ih =>
      have hrest := ih fun c hc => h c (Nat.lt_succ_of_lt hc)
      have hlast : font8x8 (fontIdx text n) = some (glyphOf (text.getD n 0x20)) := by
        rw [fontIdx_eq]
        rcases font_lookup (text.getD n 0x20) with ⟨hbehind, _⟩ | ⟨_, hglyph⟩
        · exact absurd hbehind (h n (Nat.lt_succ_self n))
        · exact hglyph
      calc renderedText text (n + 1)
          = renderedText text n ++ (font8x8 (fontIdx text n)).getD [] := by
            simp [renderedText, List.range_succ]
        _ = glyphsOf text n ++ glyphOf (text.getD n 0x20) := by
            rw [hrest, hlast, Option.getD_some]
        _ = glyphsOf text (n + 1) := (glyphsOf_succ text n).symm

/-- Only the characters of the text can be behind the font. -/
theorem forall_not_behindFont_iff (text : CString) (n : Nat) :
    (∀ c < n, ¬ BehindFont (text.getD c 0x20)) ↔ ∀ ch ∈ text.take n, ¬ BehindFont ch := by
  constructor
  · intro h ch hch
    rcases List.getElem_of_mem hch with ⟨c, hc, rfl⟩
    have hlength := hc
    rw [List.length_take, Nat.lt_min] at hlength
    have hnot := h c hlength.1
    rwa [List.getD_eq_getElem _ _ hlength.2, ← List.getElem_take (h := hc)] at hnot
  · intro h c hc
    by_cases hlength : c < text.length
    · rw [List.getD_eq_getElem _ _ hlength]
      apply h
      have htake : c < (text.take n).length := by
        rw [List.length_take]
        exact Nat.lt_min.2 ⟨hc, hlength⟩
      rw [← List.getElem_take (h := htake)]
      exact List.getElem_mem htake
    · rw [List.getD_eq_default _ _ (Nat.le_of_not_lt hlength)]
      exact fun hblank => absurd hblank.1 (by decide)

/-- A text without characters behind the font is sent as its glyphs, if the buffer has room for it. -/
theorem sendsGlyphs_of_font {dev : Ssd1306 β η} (hready : dev.isInitialized = true)
    (hchars : ssd1306MaxChars dev.scrWidth ≤ 16) {text : CString}
    (hfont : ∀ ch ∈ text.take (ssd1306MaxChars dev.scrWidth), ¬ BehindFont ch) :
    SendsGlyphs dev text := by
  have hroom : [(0x40 : UInt8)].length + 8 * ssd1306MaxChars dev.scrWidth ≤ ssd1306StreamSize := by
    simp only [List.length_singleton, ssd1306StreamSize]
    omega
  rw [← forall_not_behindFont_iff] at hfont
  intro row hrow answers log
  rcases @renderText_of_room text _ 0 _ hroom with ⟨_, stream, hstream⟩ | ⟨⟨c, hc, hnone⟩, _⟩
  · rcases @showText_of_rendered _ _ (TrafficWorld.begin dev answers log) row text hready hrow
      stream hstream with ⟨ret, w', hcall, hlog⟩
    refine ⟨ret, w', hcall, ?_⟩
    rw [hlog, (renderText_stream hstream).1, renderedText_eq_glyphsOf hfont]
    simp [textMessages, TrafficWorld.begin]
  · rw [Nat.zero_add, fontIdx_eq] at hnone
    rcases font_lookup (text.getD c 0x20) with ⟨hbehind, _⟩ | ⟨_, hglyph⟩
    · exact absurd hbehind (hfont c hc)
    · exact absurd (hglyph.symm.trans hnone) (by simp)

/-- On a panel of up to 128 columns: `show_text` sends the glyphs of the text, with every lookup inside
the font table, exactly if none of the characters it has room for is one of the six behind `'Y'`. -/
theorem sends_glyphs_iff (dev : Ssd1306 β η) (hready : dev.isInitialized = true)
    (hwidth : dev.scrWidth ≤ 128) (text : CString) :
    SendsGlyphs dev text ↔
      ∀ ch ∈ text.take (ssd1306MaxChars dev.scrWidth), ¬ BehindFont ch := by
  have hroom : [(0x40 : UInt8)].length + 8 * ssd1306MaxChars dev.scrWidth ≤ ssd1306StreamSize := by
    have hle : dev.scrWidth.toNat ≤ 128 := UInt16.le_iff_toNat_le.1 hwidth
    simp only [List.length_singleton, ssd1306StreamSize, ssd1306MaxChars]
    omega
  rw [← forall_not_behindFont_iff]
  constructor
  · -- one row and one bus are enough, since the rendering does not depend on them
    intro hsends
    rcases hsends 0 (by decide) ⟨(espOk, none), fun _ => espOk⟩ [] with ⟨ret, w', hcall, _⟩
    rcases @renderText_of_room text _ 0 _ hroom with ⟨hall, _⟩ | ⟨_, hfault⟩
    · intro c hc hbehind
      have hrow := hall c hc
      rw [Nat.zero_add, fontIdx_eq] at hrow
      rcases font_lookup (text.getD c 0x20) with ⟨_, hnone⟩ | ⟨hnot, _⟩
      · rw [hnone] at hrow
        exact Bool.noConfusion hrow
      · exact hnot hbehind
    · have hundefined := @showText_of_fault _ _
        (TrafficWorld.begin dev ⟨(espOk, none), fun _ => espOk⟩ []) 0 text hready (by decide) _ hfault
      rw [hundefined] at hcall
      cases hcall
  · intro hfont
    apply sendsGlyphs_of_font hready
    · have hle : dev.scrWidth.toNat ≤ 128 := UInt16.le_iff_toNat_le.1 hwidth
      rw [ssd1306MaxChars]
      omega
    · exact (forall_not_behindFont_iff text _).1 hfont

/-- A driver on the display of the board. -/
def boardDriver : Ssd1306 Nat Nat :=
  Ssd1306.initialised boardDisplay allWell

theorem sends_glyphs_iff_ready :
    SendsGlyphs boardDriver (ascii "READY") ↔
      ∀ ch ∈ (ascii "READY").take (ssd1306MaxChars boardDriver.scrWidth), ¬ BehindFont ch :=
  sends_glyphs_iff boardDriver rfl (by decide) (ascii "READY")

/-- The last letter of the alphabet is looked up behind the table. -/
theorem letter_z_reads_behind_font :
    ssd1306ShowText trafficApi 0 (some (ascii "Z")) (TrafficWorld.begin boardDriver allWell []) =
        .error .fontTable ∧
      ¬ SendsGlyphs boardDriver (ascii "Z") := by
  have hcall : ssd1306ShowText trafficApi 0 (some (ascii "Z"))
      (TrafficWorld.begin boardDriver allWell []) = .error .fontTable := by
    apply showText_of_fault rfl (by decide)
    decide
  refine ⟨hcall, ?_⟩
  intro hsends
  rcases hsends 0 (by decide) allWell [] with ⟨ret, w', hok, _⟩
  rw [hcall] at hok
  cases hok

end MainboardFirmware
