import MainboardFirmware.Oled.Scroll

/-!
# Marquee — `ssd1306_display_text_box1` and `ssd1306_display_text_box2`

Text that runs through a box of one page from right to left, one column a step. The box is a window on
the strip of all columns of the text, and every step moves the window by one column. The second function
lets the text come in from the right and leave on the left; it is the first one with the text between
two boxes of blanks.
-/

namespace MainboardFirmware
namespace Oled

/-! ## The code -/

/-- One step to the left with `column` coming in. The last segment of a box without any would be the
one before it. -/
def boxStep (page seg width : ℕ) (column : UInt8) (delay : ℤ) (s : Screen) :
    Except OledFault Screen :=
  Loop.up (fill page fun col f => f.read page (col + 1)) seg width s.dev.page >>= fun f =>
    if seg + width = 0 then .error .pageArray
    else do
      let f ← f.write page (seg + width - 1) column
      let segs ← f.readRow page seg width
      let s ← ssd1306DisplayImage page seg segs (s.setPage f)
      return s.vTaskDelay delay

/-- The loop over the characters from `i` on, `n` of them, column by column. -/
def boxScroll (page seg width : ℕ) (text : List UInt8) (i n : ℕ) (invert : Bool) (delay : ℤ)
    (s : Screen) : Except OledFault Screen :=
  Loop.up (fun i s => do
    let image := glyphImage s.dev.flip invert (← fontRow text i)
    Loop.up (fun bit => boxStep page seg width (image.getD bit 0) delay) 0 8 s) i n s

def ssd1306DisplayTextBox1 (page seg : ℕ) (text : List UInt8) (boxWidth textLen : ℕ) (invert : Bool)
    (delay : ℤ) (s : Screen) : Except OledFault Screen :=
  if s.dev.pages ≤ page then .ok s
  else if s.dev.width < seg + 8 * boxWidth then .ok s
  else do
    let s ← displayGlyphs page seg text 0 boxWidth invert s
    boxScroll page seg (8 * boxWidth) text boxWidth (textLen - boxWidth) invert delay
      (s.vTaskDelay delay)

/-- As many blanks as the box has room for. -/
def blanks (boxWidth : ℕ) : List UInt8 :=
  List.replicate boxWidth 0x20

def ssd1306DisplayTextBox2 (page seg : ℕ) (text : List UInt8) (boxWidth textLen : ℕ) (invert : Bool)
    (delay : ℤ) (s : Screen) : Except OledFault Screen :=
  if s.dev.pages ≤ page then .ok s
  else if s.dev.width < seg + 8 * boxWidth then .ok s
  else do
    let s ← displayGlyphs page seg (blanks boxWidth) 0 boxWidth invert s
    let s ← boxScroll page seg (8 * boxWidth) text 0 textLen invert delay (s.vTaskDelay delay)
    boxScroll page seg (8 * boxWidth) (blanks boxWidth) 0 boxWidth invert delay s

/-! ## One step -/

section Step

variable {s : Screen} {page seg width : ℕ}

/-- The window of `width` bytes of a strip from byte `k` on. -/
def window (strip : ℕ → UInt8) (width k : ℕ) : List UInt8 :=
  (List.range' 0 width).map fun c => strip (k + c)

/-- The box shows the window from byte `k` on, and around it the buffer is `f`. -/
def ShowsWindow (page seg width : ℕ) (f : Frame) (strip : ℕ → UInt8) (k : ℕ) (g : Frame) : Prop :=
  ∀ p, ∀ c < 128, g.seg p c =
    if p = page ∧ seg ≤ c ∧ c < seg + width then strip (k + (c - seg)) else f.seg p c

/-- With the next byte of the strip coming in, the window moves by one. -/
theorem boxStep_ends {f : Frame} {strip : ℕ → UInt8} {k : ℕ} (hpage : page < 8) (hpos : 0 < width)
    (hwidth : seg + width < 128) (delay : ℤ)
    (hs : ShowsWindow page seg width f strip k s.dev.page) :
    Ends (boxStep page seg width (strip (k + width)) delay s) fun s' => SameSetup s s' ∧
      ShowsWindow page seg width f strip (k + 1) s'.dev.page ∧
      s'.calls = s.calls ++ [.image page seg (window strip width (k + 1)), .delay delay] := by
  have hshift := @fill_up_ends s.dev.page page (fun col f => f.read page (col + 1))
    (fun col => s.dev.page.seg page (col + 1)) seg width hpage (by omega) fun col g _ hcol hg => by
      rw [Frame.read_ok hpage (by omega), hg _ _ (Or.inr (Nat.le_succ col))]
  refine hshift.bind fun g hg => ?_
  rw [if_neg (by omega)]
  refine (Frame.write_ends hpage (by omega) (strip (k + width))).bind fun h hh => ?_
  have hwindow : ShowsWindow page seg width f strip (k + 1) h := by
    intro p c hc
    rw [hh, hg]
    by_cases hlast : p = page ∧ c = seg + width - 1
    · have hnext : k + 1 + (c - seg) = k + width := by omega
      rw [if_pos hlast, if_pos ⟨hlast.1, by omega, by omega⟩, hnext]
    · rw [if_neg hlast]
      by_cases hin : p = page ∧ seg ≤ c ∧ c < seg + width
      · have hnext : k + (c + 1 - seg) = k + 1 + (c - seg) := by omega
        rw [if_pos hin, if_pos hin, hs page (c + 1) (by omega), if_pos ⟨rfl, by omega, by omega⟩,
          hnext]
      · rw [if_neg hin, if_neg hin, hs p c hc, if_neg hin]
  have hshown : (List.range' seg width).map (h.seg page) = window strip width (k + 1) := by
    rw [window, List.range'_eq_map_range, List.range'_eq_map_range, List.map_map, List.map_map]
    apply List.map_congr_left
    intro c hc
    rw [List.mem_range] at hc
    have hcol : seg + c - seg = c := by omega
    simp only [Function.comp_apply]
    rw [hwindow page (seg + c) (by omega), if_pos ⟨rfl, by omega, by omega⟩, hcol, Nat.zero_add]
  rw [Frame.readRow_ok hpage (by omega), Ends.ok_bind]
  refine (displayImage_own hpage (by omega)).bind ?_
  rintro s' rfl
  refine Ends.ok ⟨rfl, hwindow, ?_⟩
  simp [Screen.vTaskDelay, Screen.displayImage, Screen.setPage, hshown]

/-- What the steps from byte `k` on ask for. -/
def boxCalls (page seg width : ℕ) (strip : ℕ → UInt8) (delay : ℤ) (k n : ℕ) : List DisplayCall :=
  (List.range' k n).flatMap fun k => [.image page seg (window strip width (k + 1)), .delay delay]

/-- A run of steps from byte `k` to byte `k'` of the strip. -/
structure Runs (page seg width : ℕ) (f : Frame) (strip : ℕ → UInt8) (delay : ℤ) (k n : ℕ)
    (s s' : Screen) : Prop where
  same : SameSetup s s'
  shows : ShowsWindow page seg width f strip (k + n) s'.dev.page
  calls : s'.calls = s.calls ++ boxCalls page seg width strip delay k n

theorem Runs.refl {f : Frame} {strip : ℕ → UInt8} {k : ℕ} (delay : ℤ)
    (hs : ShowsWindow page seg width f strip k s.dev.page) :
    Runs page seg width f strip delay k 0 s s :=
  ⟨SameSetup.refl s, hs, by simp [boxCalls]⟩

theorem Runs.trans {f : Frame} {strip : ℕ → UInt8} {delay : ℤ} {k m n : ℕ} {t s' : Screen}
    (h : Runs page seg width f strip delay k m s t)
    (h' : Runs page seg width f strip delay (k + m) n t s') :
    Runs page seg width f strip delay k (m + n) s s' := by
  refine ⟨h.same.trans h'.same, ?_, ?_⟩
  · rw [← Nat.add_assoc]
    exact h'.shows
  · have hcalls : boxCalls page seg width strip delay k (m + n) =
        boxCalls page seg width strip delay k m ++
          boxCalls page seg width strip delay (k + m) n := by
      rw [boxCalls, boxCalls, boxCalls, ← List.flatMap_append, List.range'_append_1]
    rw [h'.calls, h.calls, hcalls, List.append_assoc]

/-- The columns of one character come in. -/
theorem boxGlyph_runs {f : Frame} {strip : ℕ → UInt8} {k : ℕ} {image : List UInt8}
    (hpage : page < 8) (hpos : 0 < width) (hwidth : seg + width < 128) (delay : ℤ)
    (hs : ShowsWindow page seg width f strip k s.dev.page)
    (himage : ∀ bit < 8, strip (k + bit + width) = image.getD bit 0) :
    Ends (Loop.up (fun bit => boxStep page seg width (image.getD bit 0) delay) 0 8 s)
      (Runs page seg width f strip delay k 8 s) := by
  apply Loop.up_zero_ends fun bit t => Runs page seg width f strip delay k bit s t
  · exact Runs.refl delay hs
  · intro bit t hbit ht
    rw [← himage bit hbit]
    refine (boxStep_ends hpage hpos hwidth delay ht.shows).mono fun s' hs' => ?_
    exact ht.trans ⟨hs'.1, hs'.2.1, by simpa [boxCalls] using hs'.2.2⟩

/-- The characters from `i` on come in. -/
theorem boxScroll_runs {f : Frame} {strip : ℕ → UInt8} {k i n : ℕ} {text : List UInt8}
    (hpage : page < 8) (hpos : 0 < width) (hwidth : seg + width < 128) (invert : Bool) (delay : ℤ)
    (htext : InFont text (i + n)) (hs : ShowsWindow page seg width f strip k s.dev.page)
    (hstrip : ∀ m < n, ∀ bit < 8, strip (k + 8 * m + bit + width) =
      (glyphImage s.dev.flip invert (glyphRow text (i + m))).getD bit 0) :
    Ends (boxScroll page seg width text i n invert delay s)
      (Runs page seg width f strip delay k (8 * n) s) := by
  unfold boxScroll
  refine (Loop.up_ends (fun j t => Runs page seg width f strip delay k (8 * (j - i)) s t) ?_ ?_).mono
    fun s' hs' => ?_
  · rw [Nat.sub_self]
    exact Runs.refl delay hs
  · intro j t hlo hhi ht
    rcases htext.fontRow hhi with ⟨hrow, hlength⟩
    have hflip : t.dev.flip = s.dev.flip := by rw [ht.same]
    have hchar : i + (j - i) = j := by omega
    have hcount : 8 * (j + 1 - i) = 8 * (j - i) + 8 := by omega
    rw [hrow, hflip, Ends.ok_bind, hcount]
    refine (boxGlyph_runs hpage hpos hwidth delay ht.shows fun bit hbit => ?_).mono
      fun s' hs' => ht.trans hs'
    rw [hstrip (j - i) (by omega) bit hbit, hchar]
  · rwa [Nat.add_sub_cancel_left] at hs'

end Step

/-! ## The first box -/

section Box1

variable {s : Screen} {page seg : ℕ} {text : List UInt8}

/-- The strip of the columns of a text. -/
def textStrip (flip invert : Bool) (text : List UInt8) (c : ℕ) : UInt8 :=
  (glyphImage flip invert (glyphRow text (c / 8))).getD (c % 8) 0

/-- What the glyphs of the text in the box ask for. -/
def glyphCalls (flip invert : Bool) (page seg : ℕ) (text : List UInt8) (n : ℕ) : List DisplayCall :=
  (List.range n).map fun k => .image page (seg + 8 * k) (glyphImage flip invert (glyphRow text k))

/-- The glyphs at the beginning of the text are the first window of its strip. -/
theorem displayGlyphs_window {n : ℕ} (hpage : page < 8) (hseg : seg + 8 * n ≤ 128)
    (htext : InFont text n) (invert : Bool) :
    Ends (displayGlyphs page seg text 0 n invert s) fun s' => SameSetup s s' ∧
      ShowsWindow page seg (8 * n) s.dev.page (textStrip s.dev.flip invert text) 0 s'.dev.page ∧
      s'.calls = s.calls ++ glyphCalls s.dev.flip invert page seg text n := by
  unfold displayGlyphs
  apply Loop.up_zero_ends fun k t => SameSetup s t ∧
    ShowsWindow page seg (8 * k) s.dev.page (textStrip s.dev.flip invert text) 0 t.dev.page ∧
    t.calls = s.calls ++ glyphCalls s.dev.flip invert page seg text k
  · refine ⟨SameSetup.refl s, fun p c _ => ?_, by simp [glyphCalls]⟩
    rw [if_neg (by omega)]
  · rintro k t hk ⟨hsame, hshows, hcalls⟩
    rcases htext.fontRow hk with ⟨hrow, hlength⟩
    have hflip : t.dev.flip = s.dev.flip := by rw [hsame]
    have himage : (glyphImage s.dev.flip invert (glyphRow text k)).length = 8 := by
      rw [glyphImage_length, hlength]
    rw [Nat.zero_add, hrow, Ends.ok_bind, hflip]
    refine (displayImage_ends hpage (by omega)).mono fun s' hs' =>
      ⟨hsame.trans hs'.1, fun p c hc => ?_, ?_⟩
    · rw [hs'.2.2, himage]
      by_cases hin : p = page ∧ seg + 8 * k ≤ c ∧ c < seg + 8 * k + 8
      · have hchar : (0 + (c - seg)) / 8 = k := by omega
        have hcol : (0 + (c - seg)) % 8 = c - (seg + 8 * k) := by omega
        rw [if_pos hin, if_pos ⟨hin.1, by omega, by omega⟩, textStrip, hchar, hcol]
      · rw [if_neg hin, hshows p c hc]
        by_cases hbefore : p = page ∧ seg ≤ c ∧ c < seg + 8 * k
        · rw [if_pos hbefore, if_pos ⟨hbefore.1, hbefore.2.1, by omega⟩]
        · rw [if_neg hbefore, if_neg (by omega)]
    · rw [hs'.2.1, hcalls, List.append_assoc, glyphCalls, glyphCalls, List.range_succ, List.map_append]
      rfl

/-- For every box inside the panel that is not empty and every text: the first box stays inside the
buffer, shows the beginning of the text and then every window of its strip to the end, one after the
other, and changes nothing around the box. -/
theorem text_box1_runs {boxWidth textLen : ℕ} (hpages : s.dev.pages ≤ 8) (hpage : page < s.dev.pages)
    (hpos : 0 < boxWidth) (hwidth : seg + 8 * boxWidth ≤ s.dev.width)
    (hinside : seg + 8 * boxWidth < 128) (hlen : boxWidth ≤ textLen) (htext : InFont text textLen)
    (invert : Bool) (delay : ℤ) :
    Ends (ssd1306DisplayTextBox1 page seg text boxWidth textLen invert delay s) fun s' =>
      SameSetup s s' ∧
      ShowsWindow page seg (8 * boxWidth) s.dev.page (textStrip s.dev.flip invert text)
        (8 * (textLen - boxWidth)) s'.dev.page ∧
      s'.calls = s.calls ++ (glyphCalls s.dev.flip invert page seg text boxWidth ++ [.delay delay] ++
        boxCalls page seg (8 * boxWidth) (textStrip s.dev.flip invert text) delay 0
          (8 * (textLen - boxWidth))) := by
  unfold ssd1306DisplayTextBox1
  rw [if_neg (by omega), if_neg (by omega)]
  refine (displayGlyphs_window (by omega) (by omega) (fun i hi => htext i (by omega)) invert).bind
    fun t ht => ?_
  rcases ht with ⟨hsame, hshows, hcalls⟩
  have hflip : (t.vTaskDelay delay).dev.flip = s.dev.flip := by
    rw [Screen.vTaskDelay, hsame]
  have htext' : InFont text (boxWidth + (textLen - boxWidth)) := fun i hi => htext i (by omega)
  have hstart : ShowsWindow page seg (8 * boxWidth) s.dev.page (textStrip s.dev.flip invert text) 0
      (t.vTaskDelay delay).dev.page := hshows
  refine (boxScroll_runs (by omega) (by omega) hinside invert delay htext' hstart ?_).mono ?_
  · intro m hm bit hbit
    have hchar : (0 + 8 * m + bit + 8 * boxWidth) / 8 = boxWidth + m := by omega
    have hcol : (0 + 8 * m + bit + 8 * boxWidth) % 8 = bit := by omega
    rw [textStrip, hchar, hcol, hflip]
  · intro s' hs'
    refine ⟨hsame.trans hs'.same, ?_, ?_⟩
    · have hshown := hs'.shows
      rwa [Nat.zero_add] at hshown
    · rw [hs'.calls, Screen.vTaskDelay, hcalls]
      simp only [List.append_assoc]

/-- Three letters through a box of two. -/
theorem text_box1_runs_three :
    let s : Screen := ⟨.panel128x64, []⟩
    let text : List UInt8 := [0x48, 0x69, 0x21]
    Ends (ssd1306DisplayTextBox1 3 8 text 2 3 false 5 s) fun s' => SameSetup s s' ∧
      ShowsWindow 3 8 (8 * 2) s.dev.page (textStrip s.dev.flip false text) (8 * (3 - 2))
        s'.dev.page ∧
      s'.calls = s.calls ++ (glyphCalls s.dev.flip false 3 8 text 2 ++ [.delay 5] ++
        boxCalls 3 8 (8 * 2) (textStrip s.dev.flip false text) 5 0 (8 * (3 - 2))) :=
  text_box1_runs (by decide) (by decide) (by decide) (by decide) (by decide) (by decide)
    (inFont_of_all (by decide) (by decide)) false 5

end Box1

/-! ## The second box -/

section Box2

variable {text : List UInt8} {boxWidth textLen : ℕ}

/-- The text between two boxes of blanks. -/
def padded (text : List UInt8) (boxWidth textLen : ℕ) : List UInt8 :=
  blanks boxWidth ++ text.take textLen ++ blanks boxWidth

theorem fontRow_congr {text text' : List UInt8} {i j : ℕ} (h : text[i]? = text'[j]?) :
    fontRow text i = fontRow text' j := by
  rw [fontRow, fontRow, h]

theorem fontRow_padded_before {i : ℕ} (hi : i < boxWidth) :
    fontRow (blanks boxWidth) i = fontRow (padded text boxWidth textLen) i := by
  have hlength : i < (blanks boxWidth).length := by
    rwa [blanks, List.length_replicate]
  apply fontRow_congr
  rw [padded, List.append_assoc, List.getElem?_append_left hlength]

theorem fontRow_padded_text (hlen : textLen ≤ text.length) {i : ℕ} (hi : i < textLen) :
    fontRow text i = fontRow (padded text boxWidth textLen) (boxWidth + i) := by
  have hlength : boxWidth + i < (blanks boxWidth ++ text.take textLen).length := by
    rw [List.length_append, blanks, List.length_replicate, List.length_take]
    omega
  apply fontRow_congr
  rw [padded, List.getElem?_append_left hlength, List.getElem?_append_right (by simp [blanks])]
  simp [blanks, hi]

theorem fontRow_padded_after (hlen : textLen ≤ text.length) (i : ℕ) :
    fontRow (blanks boxWidth) i =
      fontRow (padded text boxWidth textLen) (boxWidth + textLen + i) := by
  have hlength : (blanks boxWidth ++ text.take textLen).length = boxWidth + textLen := by
    rw [List.length_append, blanks, List.length_replicate, List.length_take]
    omega
  apply fontRow_congr
  rw [padded, List.getElem?_append_right (by omega), hlength, Nat.add_sub_cancel_left]

/-- The same glyphs, found further on in another text. -/
theorem boxScroll_shift {text text' : List UInt8} {d i n : ℕ}
    (h : ∀ j, i ≤ j → j < i + n → fontRow text j = fontRow text' (d + j)) (page seg width : ℕ)
    (invert : Bool) (delay : ℤ) (s : Screen) :
    boxScroll page seg width text i n invert delay s =
      boxScroll page seg width text' (d + i) n invert delay s := by
  apply Loop.up_shift
  intro j hlo hhi
  funext t
  rw [h j hlo hhi]

theorem displayGlyphs_congr {text text' : List UInt8} {n : ℕ}
    (h : ∀ i < n, fontRow text i = fontRow text' i) (page seg : ℕ) (invert : Bool) (s : Screen) :
    displayGlyphs page seg text 0 n invert s = displayGlyphs page seg text' 0 n invert s := by
  apply Loop.up_shift (d := 0)
  intro k _ hk
  funext t
  simp only [Nat.zero_add, h k (by omega)]

/-- For every box, text and device: the second box is the first one with the text between two boxes of
blanks, call for call. -/
theorem text_box2_pads_text (page seg : ℕ) (hlen : textLen ≤ text.length) (invert : Bool)
    (delay : ℤ) (s : Screen) :
    ssd1306DisplayTextBox2 page seg text boxWidth textLen invert delay s =
      ssd1306DisplayTextBox1 page seg (padded text boxWidth textLen) boxWidth
        (boxWidth + textLen + boxWidth) invert delay s := by
  have hglyphs := displayGlyphs_congr (fun i hi => @fontRow_padded_before text boxWidth textLen i hi)
    page seg invert s
  have htext := boxScroll_shift
    (fun j _ hj => @fontRow_padded_text text boxWidth textLen hlen j (by omega)) page seg
    (8 * boxWidth) invert delay (i := 0) (n := textLen)
  have hafter := boxScroll_shift
    (fun j _ _ => @fontRow_padded_after text boxWidth textLen hlen j) page seg
    (8 * boxWidth) invert delay (i := 0) (n := boxWidth)
  have hcount : boxWidth + textLen + boxWidth - boxWidth = textLen + boxWidth := by omega
  have hparts : ∀ t, boxScroll page seg (8 * boxWidth) (padded text boxWidth textLen) boxWidth
      (textLen + boxWidth) invert delay t =
        boxScroll page seg (8 * boxWidth) text 0 textLen invert delay t >>= fun t =>
          boxScroll page seg (8 * boxWidth) (blanks boxWidth) 0 boxWidth invert delay t := by
    intro t
    simp only [htext, hafter]
    exact Loop.up_add boxWidth textLen boxWidth t
  unfold ssd1306DisplayTextBox2 ssd1306DisplayTextBox1
  rw [hglyphs, hcount]
  simp only [hparts]

/-- Two letters through a box of three. -/
theorem text_box2_pads_text_two :
    let s : Screen := ⟨.panel128x64, []⟩
    ssd1306DisplayTextBox2 3 8 [0x48, 0x69] 3 2 false 5 s =
      ssd1306DisplayTextBox1 3 8 (padded [0x48, 0x69] 3 2) 3 (3 + 2 + 3) false 5 s :=
  text_box2_pads_text 3 8 (by decide) false 5 _

end Box2

end Oled
end MainboardFirmware
