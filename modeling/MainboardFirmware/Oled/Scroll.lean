import Mathlib.Tactic.Ring
import MainboardFirmware.Oled.Text

/-!
# Scroll — `ssd1306_software_scroll`, `ssd1306_scroll_text` and `ssd1306_scroll_clear`

A window of pages that text runs through: every text pushes the lines of the window one page towards
its end and takes the first page itself. The loops count from one page before the end of the window
back to its start and look for the start only after the copy, so a window of a single page is walked
past, out of the buffer. On every other window the pages are a log of the last texts.
-/

namespace MainboardFirmware
namespace Oled

/-! ## The code -/

def ssd1306SoftwareScroll (start stop : ℤ) (s : Screen) : Screen :=
  if start < 0 ∨ stop < 0 then
    { s with dev := { s.dev with scEnable := false } }
  else if s.dev.pages ≤ start ∨ s.dev.pages ≤ stop then
    { s with dev := { s.dev with scEnable := false } }
  else
    { s with dev := { s.dev with
      scEnable := true
      scStart := start
      scEnd := stop
      scDirection := if stop < start then -1 else 1 } }

/-- An index of `_page`; the upper bound is checked by the access. -/
def pageIndex (i : ℤ) : Except OledFault ℕ :=
  if 0 ≤ i then .ok i.toNat else .error .pageArray

/-- One round of the loop of `ssd1306_scroll_text`: page `srcIndex` to the next one. -/
def scrollPage (srcIndex : ℤ) (s : Screen) : Except OledFault Screen := do
  let dst ← pageIndex (srcIndex + s.dev.scDirection)
  let src ← pageIndex srcIndex
  let f ← Loop.up (fill dst fun seg f => f.read src seg) 0 s.dev.width s.dev.page
  let segs ← f.readRow dst 0 128
  return (s.setPage f).displayImage dst 0 segs

/-- The loop, for at most `fuel` rounds. -/
def scrollPages : ℕ → ℤ → Screen → Except OledFault Screen
  | 0, _, _ => .error .rounds
  | fuel + 1, srcIndex, s => scrollPage srcIndex s >>= fun s =>
      if srcIndex = s.dev.scStart then .ok s
      else scrollPages fuel (srcIndex - s.dev.scDirection) s

/-- `ssd1306_scroll_text`; the loop is left with `srcIndex` at the start of the window. -/
def ssd1306ScrollText (fuel : ℕ) (text : List UInt8) (textLen : ℕ) (invert : Bool) (s : Screen) :
    Except OledFault Screen :=
  if s.dev.scEnable = false then .ok s
  else do
    let s ← scrollPages fuel (s.dev.scEnd - s.dev.scDirection) s
    ssd1306DisplayText (← pageIndex s.dev.scStart) text textLen invert s

/-- The loop of `ssd1306_scroll_clear` from `dstIndex` on. -/
def clearPages : ℕ → ℤ → Screen → Except OledFault Screen
  | 0, _, _ => .error .rounds
  | fuel + 1, dstIndex, s => pageIndex dstIndex >>= fun page =>
      ssd1306ClearLine page false s >>= fun s =>
        if dstIndex = s.dev.scStart then .ok s
        else clearPages fuel (dstIndex - s.dev.scDirection) s

def ssd1306ScrollClear (fuel : ℕ) (s : Screen) : Except OledFault Screen :=
  if s.dev.scEnable = false then .ok s
  else clearPages fuel s.dev.scEnd s

/-! ## Windows -/

/-- A window as `ssd1306_software_scroll` sets it: `last` pages after the first one. -/
structure ScrollWindow (dev : Ssd1306Dev) (last : ℕ) : Prop where
  enabled : dev.scEnable = true
  start_nonneg : 0 ≤ dev.scStart
  start_lt : dev.scStart < dev.pages
  end_nonneg : 0 ≤ dev.scEnd
  end_lt : dev.scEnd < dev.pages
  direction : dev.scDirection = if dev.scEnd < dev.scStart then -1 else 1
  end_eq : dev.scEnd = dev.scStart + dev.scDirection * last

/-- Page `j` of the window. -/
def Ssd1306Dev.windowPage (dev : Ssd1306Dev) (j : ℕ) : ℕ :=
  (dev.scStart + dev.scDirection * j).toNat

/-- Every window that is accepted is one, and the others switch scrolling off. -/
theorem softwareScroll_window (start stop : ℤ) (s : Screen) :
    (ssd1306SoftwareScroll start stop s).dev.scEnable = true →
      ScrollWindow (ssd1306SoftwareScroll start stop s).dev (stop - start).natAbs := by
  unfold ssd1306SoftwareScroll
  split
  next => simp
  next hneg =>
    split
    next => simp
    next hin =>
      intro _
      refine ⟨rfl, by dsimp only; omega, by dsimp only; omega, by dsimp only; omega,
        by dsimp only; omega, rfl, ?_⟩
      dsimp only
      split <;> omega

section Window

variable {dev : Ssd1306Dev} {last : ℕ}

theorem ScrollWindow.direction_cases (h : ScrollWindow dev last) :
    dev.scDirection = 1 ∨ dev.scDirection = -1 := by
  rw [h.direction]
  split <;> simp

/-- The pages of the window are pages of the panel. -/
theorem ScrollWindow.windowPage_eq (h : ScrollWindow dev last) {j : ℕ} (hj : j ≤ last) :
    (dev.windowPage j : ℤ) = dev.scStart + dev.scDirection * j ∧ dev.windowPage j < dev.pages := by
  have hstart := h.start_nonneg
  have hstart' := h.start_lt
  have hend := h.end_nonneg
  have hend' := h.end_lt
  have heq := h.end_eq
  unfold Ssd1306Dev.windowPage
  rcases h.direction_cases with hdir | hdir
  all_goals
    rw [hdir] at heq ⊢
    omega

theorem ScrollWindow.windowPage_zero (h : ScrollWindow dev last) :
    (dev.windowPage 0 : ℤ) = dev.scStart := by
  rw [(h.windowPage_eq (Nat.zero_le last)).1]
  simp

/-- A later page is not the first one, and one step back is the page before. -/
theorem ScrollWindow.windowPage_succ (h : ScrollWindow dev last) {k : ℕ} (hk : k + 1 ≤ last) :
    (dev.windowPage (k + 1) : ℤ) ≠ dev.scStart ∧
      (dev.windowPage (k + 1) : ℤ) - dev.scDirection = dev.windowPage k := by
  have hpage := (h.windowPage_eq hk).1
  have hprev := (h.windowPage_eq (Nat.le_of_succ_le hk)).1
  rw [hpage, hprev]
  rcases h.direction_cases with hdir | hdir
  all_goals
    rw [hdir]
    push_cast
    omega

theorem ScrollWindow.windowPage_inj (h : ScrollWindow dev last) {i j : ℕ} (hi : i ≤ last)
    (hj : j ≤ last) : dev.windowPage i = dev.windowPage j ↔ i = j := by
  have hi' := (h.windowPage_eq hi).1
  have hj' := (h.windowPage_eq hj).1
  rcases h.direction_cases with hdir | hdir
  all_goals
    rw [hdir] at hi' hj'
    omega

end Window

/-! ## One text -/

/-- A device whose buffer alone has changed. -/
def SameSetup (s s' : Screen) : Prop :=
  s'.dev = { s.dev with page := s'.dev.page }

section SameSetup

variable {s s' t : Screen} {last : ℕ}

theorem SameSetup.refl (s : Screen) : SameSetup s s :=
  rfl

theorem SameSetup.trans (h : SameSetup s t) (h' : SameSetup t s') : SameSetup s s' := by
  unfold SameSetup at *
  rw [h', h]

theorem SameSetup.window (h : SameSetup s s') (hwindow : ScrollWindow s.dev last) :
    ScrollWindow s'.dev last := by
  rw [h]
  exact ⟨hwindow.enabled, hwindow.start_nonneg, hwindow.start_lt, hwindow.end_nonneg,
    hwindow.end_lt, hwindow.direction, hwindow.end_eq⟩

theorem SameSetup.windowPage (h : SameSetup s s') (j : ℕ) :
    s'.dev.windowPage j = s.dev.windowPage j := by
  rw [h]
  rfl

end SameSetup

section ScrollText

variable {s : Screen} {last : ℕ}

theorem pageIndex_natCast (n : ℕ) : pageIndex n = .ok n := by
  simp [pageIndex]

/-- A round copies a page to the next one in its direction. -/
theorem scrollPage_copies (hwidth : s.dev.width = 128) {src dst : ℕ} (hsrc : src < 8) (hdst : dst < 8)
    (hne : src ≠ dst) (hnext : (src : ℤ) + s.dev.scDirection = dst) :
    Ends (scrollPage src s) fun s' => SameSetup s s' ∧
      ∀ p, ∀ c < 128, s'.dev.page.seg p c =
        if p = dst then s.dev.page.seg src c else s.dev.page.seg p c := by
  unfold scrollPage
  rw [hnext, pageIndex_natCast, Ends.ok_bind, pageIndex_natCast, Ends.ok_bind, hwidth]
  have hcopy := @fill_up_ends s.dev.page dst (fun seg f => f.read src seg) (s.dev.page.seg src) 0 128
    hdst (by omega) fun seg g _ hseg hg => by
      rw [Frame.read_ok hsrc (by omega), hg _ _ (Or.inl hne)]
  refine hcopy.bind fun f' hf' => ?_
  rw [Frame.readRow_ok hdst (by omega)]
  refine Ends.ok ⟨rfl, fun p c hc => ?_⟩
  simp [Screen.displayImage, Screen.setPage, hf', hc]

/-- A round moves one line of the window on. -/
theorem scrollPage_ends (hwindow : ScrollWindow s.dev last) (hpages : s.dev.pages ≤ 8)
    (hwidth : s.dev.width = 128) {k : ℕ} (hk : k < last) :
    Ends (scrollPage (s.dev.windowPage k) s) fun s' => SameSetup s s' ∧
      ∀ p, ∀ c < 128, s'.dev.page.seg p c =
        if p = s.dev.windowPage (k + 1) then s.dev.page.seg (s.dev.windowPage k) c
        else s.dev.page.seg p c := by
  have hsrc := hwindow.windowPage_eq hk.le
  have hdst := hwindow.windowPage_eq (j := k + 1) hk
  have hne : s.dev.windowPage k ≠ s.dev.windowPage (k + 1) := by
    rw [ne_eq, hwindow.windowPage_inj hk.le hk]
    omega
  have hnext : (s.dev.windowPage k : ℤ) + s.dev.scDirection = s.dev.windowPage (k + 1) := by
    rw [hsrc.1, hdst.1]
    push_cast
    ring
  exact scrollPage_copies hwidth (by omega) (by omega) hne hnext

/-- The rounds move every line of the window one page on. -/
theorem scrollPages_ends (hwindow : ScrollWindow s.dev last) (hpages : s.dev.pages ≤ 8)
    (hwidth : s.dev.width = 128) {k fuel : ℕ} (hk : k < last) (hfuel : k < fuel) :
    Ends (scrollPages fuel (s.dev.windowPage k) s) fun s' => SameSetup s s' ∧
      (∀ j ≤ k, ∀ c < 128, s'.dev.page.seg (s.dev.windowPage (j + 1)) c =
        s.dev.page.seg (s.dev.windowPage j) c) ∧
      ∀ p, (∀ j ≤ k, p ≠ s.dev.windowPage (j + 1)) → ∀ c < 128,
        s'.dev.page.seg p c = s.dev.page.seg p c := by
  induction k generalizing s fuel with
  | zero =>
      rcases fuel with _ | fuel
      · omega
      · refine (scrollPage_ends hwindow hpages hwidth hk).bind fun t ht => ?_
        have hstart : (s.dev.windowPage 0 : ℤ) = t.dev.scStart := by
          rw [hwindow.windowPage_zero, ht.1]
        rw [if_pos hstart]
        refine Ends.ok ⟨ht.1, fun j hj c hc => ?_, fun p hp c hc => ?_⟩
        · have hj0 : j = 0 := by omega
          rw [hj0, ht.2 _ c hc, if_pos rfl]
        · rw [ht.2 p c hc, if_neg (hp 0 (Nat.le_refl 0))]
  | succ k ih =>
      rcases fuel with _ | fuel
      · omega
      · refine (scrollPage_ends hwindow hpages hwidth hk).bind fun t ht => ?_
        rcases ht with ⟨hsame, hseg⟩
        have hstart : (s.dev.windowPage (k + 1) : ℤ) ≠ t.dev.scStart := by
          rw [hsame]
          exact (hwindow.windowPage_succ hk.le).1
        have hnext : (s.dev.windowPage (k + 1) : ℤ) - t.dev.scDirection = t.dev.windowPage k := by
          rw [hsame.windowPage, hsame]
          exact (hwindow.windowPage_succ hk.le).2
        have hpages' : t.dev.pages ≤ 8 := by rwa [hsame]
        have hwidth' : t.dev.width = 128 := by rwa [hsame]
        rw [if_neg hstart, hnext]
        refine (ih (hsame.window hwindow) hpages' hwidth' (by omega) (by omega)).mono ?_
        rintro s' ⟨hsame', hmoved, hrest⟩
        simp only [hsame.windowPage] at hmoved hrest
        refine ⟨hsame.trans hsame', fun j hj c hc => ?_, fun p hp c hc => ?_⟩
        · by_cases hlast : j = k + 1
          · -- the line moved first; the later rounds stay behind it
            have hbehind : ∀ i ≤ k, s.dev.windowPage (k + 1 + 1) ≠ s.dev.windowPage (i + 1) := by
              intro i hi
              rw [ne_eq, hwindow.windowPage_inj (by omega) (by omega)]
              omega
            rw [hlast, hrest _ hbehind c hc, hseg _ c hc, if_pos rfl]
          · have hbefore : s.dev.windowPage j ≠ s.dev.windowPage (k + 1 + 1) := by
              rw [ne_eq, hwindow.windowPage_inj (by omega) (by omega)]
              omega
            rw [hmoved j (by omega) c hc, hseg _ c hc, if_neg hbefore]
        · rw [hrest p (fun j hj => hp j (by omega)) c hc, hseg p c hc,
            if_neg (hp (k + 1) (Nat.le_refl _))]

/-- Pixel `y` of column `x` of line `j` of the window. -/
def Ssd1306Dev.line (dev : Ssd1306Dev) (j x y : ℕ) : Bool :=
  dev.pixel x (8 * dev.windowPage j + y)

/-- The lines of a window, without an end. -/
abbrev Lines :=
  ℕ → ℕ → ℕ → Bool

/-- What a text does to the lines: all move on, and it is written over the first one. -/
def Lines.push (text : List UInt8) (textLen : ℕ) (invert : Bool) (lines : Lines) : Lines
  | 0, x, y => if x < 8 * min textLen 16 then textPixel text 0 x y ^^ invert else lines 0 x y
  | j + 1, x, y => lines j x y

/-- The pages outside the window are as they were, and the lines in it are those given. -/
structure Logs (last : ℕ) (s : Screen) (lines : Lines) (s' : Screen) : Prop where
  same : SameSetup s s'
  lines_eq : ∀ j ≤ last, ∀ x < 128, ∀ y < 8, s'.dev.line j x y = lines j x y
  outside : ∀ p, (∀ j ≤ last, p ≠ s.dev.windowPage j) → ∀ x < 128, ∀ y < 8,
    s'.dev.pixel x (8 * p + y) = s.dev.pixel x (8 * p + y)

/-- A text changes the pixels of its page that it reaches. -/
theorem displayText_pixel (hpages : s.dev.pages ≤ 8) {page : ℕ} (hpage : page < s.dev.pages)
    {text : List UInt8} {textLen : ℕ} (htext : InFont text (min textLen 16)) (invert : Bool) :
    Ends (ssd1306DisplayText page text textLen invert s) fun s' => SameSetup s s' ∧
      ∀ p x, ∀ y < 8, s'.dev.pixel x (8 * p + y) =
        if p = page ∧ x < 8 * min textLen 16 then textPixel text 0 x y ^^ invert
        else s.dev.pixel x (8 * p + y) := by
  refine (displayText_paints hpages hpage htext invert).mono fun s' hs' => ⟨hs'.1, ?_⟩
  intro p x y hy
  have hflip : s'.dev.flip = s.dev.flip := by rw [hs'.1]
  have hrow : (8 * p + y) / 8 = p := by omega
  have hbit : (8 * p + y) % 8 = y := by omega
  rw [Ssd1306Dev.pixel, hflip]
  split
  next hin =>
    have hpixel := hs'.2.inside (x, 8 * p + y) ⟨hrow.trans hin.1, by omega, by omega⟩
    rw [hbit] at hpixel
    exact hpixel
  next hout =>
    refine hs'.2.outside (x, 8 * p + y) fun h => hout ⟨hrow.symm.trans h.1, ?_⟩
    have hlt : x < 0 + 8 * min textLen 16 := h.2.2
    omega

/-- The pixels of a page depend on its segments. -/
theorem SameSetup.pixel_eq {t : Screen} (h : SameSetup s t) {p p' x y : ℕ} (hy : y < 8)
    (hseg : t.dev.page.seg p x = s.dev.page.seg p' x) :
    t.dev.pixel x (8 * p + y) = s.dev.pixel x (8 * p' + y) := by
  have hflip : t.dev.flip = s.dev.flip := by rw [h]
  have hpage : (8 * p + y) / 8 = p := by omega
  have hpage' : (8 * p' + y) / 8 = p' := by omega
  have hbit : (8 * p + y) % 8 = (8 * p' + y) % 8 := by omega
  rw [Ssd1306Dev.pixel, Ssd1306Dev.pixel, Frame.pixel, Frame.pixel, hpage, hpage', hbit, hseg, hflip]

/-- A text goes into the first line and pushes the others on. -/
theorem scrollText_logs (hwindow : ScrollWindow s.dev last) (hlast : 0 < last)
    (hpages : s.dev.pages ≤ 8) (hwidth : s.dev.width = 128) {fuel : ℕ} (hfuel : last ≤ fuel)
    {text : List UInt8} {textLen : ℕ} (htext : InFont text (min textLen 16)) (invert : Bool) :
    Ends (ssd1306ScrollText fuel text textLen invert s)
      (Logs last s (Lines.push text textLen invert s.dev.line)) := by
  have hbegin : s.dev.scEnd - s.dev.scDirection = s.dev.windowPage (last - 1) := by
    have hlastCast : ((last - 1 : ℕ) : ℤ) = last - 1 := by omega
    rw [(hwindow.windowPage_eq (j := last - 1) (by omega)).1, hwindow.end_eq, hlastCast]
    ring
  unfold ssd1306ScrollText
  rw [if_neg (by simp [hwindow.enabled]), hbegin]
  refine (scrollPages_ends hwindow hpages hwidth (by omega) (by omega)).bind fun t ht => ?_
  rcases ht with ⟨hsame, hmoved, hrest⟩
  have hstart : t.dev.scStart = s.dev.windowPage 0 := by
    rw [hwindow.windowPage_zero, hsame]
  have hfirst : s.dev.windowPage 0 < t.dev.pages := by
    rw [hsame]
    exact (hwindow.windowPage_eq (Nat.zero_le last)).2
  rw [hstart, pageIndex_natCast, Ends.ok_bind]
  refine (displayText_pixel (by rwa [hsame]) hfirst htext invert).mono ?_
  rintro s' ⟨hsame', hpixel⟩
  have hall : SameSetup s s' := hsame.trans hsame'
  -- the first page of the window is not among the pages the lines moved to
  have hne : ∀ j ≤ last - 1, s.dev.windowPage 0 ≠ s.dev.windowPage (j + 1) := by
    intro j hj
    rw [ne_eq, hwindow.windowPage_inj (by omega) (by omega)]
    omega
  refine ⟨hall, fun j hj x hx y hy => ?_, fun p hp x hx y hy => ?_⟩
  · rw [Ssd1306Dev.line, hall.windowPage, hpixel _ x y hy]
    rcases j with _ | j
    · have hstay := hsame.pixel_eq hy (hrest _ hne x hx)
      simp only [true_and, Lines.push, Ssd1306Dev.line, hstay]
    · have hmove := hsame.pixel_eq hy (hmoved j (by omega) x hx)
      rw [if_neg fun h => hne j (by omega) h.1.symm, hmove]
      rfl
  · rw [hpixel p x y hy, if_neg fun h => hp 0 (Nat.zero_le last) h.1]
    exact hsame.pixel_eq hy (hrest p (fun j hj => hp (j + 1) (by omega)) x hx)

end ScrollText

/-! ## Clearing -/

section ScrollClear

variable {s : Screen} {last : ℕ}

theorem textPixel_space (x y : ℕ) : textPixel space 0 x y = false := by
  have hzero : ∀ n i, (List.replicate n (0 : UInt8)).getD i 0 = 0 := by
    intro n i
    rw [List.getD_eq_getElem?_getD, List.getElem?_getD_replicate_default_eq]
  have hrow : ∀ i, glyphRow space i = List.replicate 8 0 := by
    intro i
    rw [glyphRow, space, hzero]
    rfl
  rw [textPixel, glyphPixel, hrow, hzero]
  simp [bitAt]

/-- A page cleared is blank, and the others are as they were. -/
theorem clearLine_ends (hpages : s.dev.pages ≤ 8) {page : ℕ} (hpage : page < s.dev.pages) :
    Ends (ssd1306ClearLine page false s) fun s' => SameSetup s s' ∧
      ∀ p, ∀ x < 128, ∀ y < 8, s'.dev.pixel x (8 * p + y) =
        if p = page then false else s.dev.pixel x (8 * p + y) := by
  have hspace : InFont space (min 16 16) := inFont_of_all (by decide) (by decide)
  refine (displayText_pixel hpages hpage hspace false).mono fun s' hs' => ⟨hs'.1, ?_⟩
  intro p x hx y hy
  have hreached : x < 8 * min 16 16 := by omega
  simp only [hs'.2 p x y hy, hreached, and_true, textPixel_space, Bool.xor_false]

/-- The rounds clear every page of the window. -/
theorem clearPages_ends (hwindow : ScrollWindow s.dev last) (hpages : s.dev.pages ≤ 8) {k fuel : ℕ}
    (hk : k ≤ last) (hfuel : k < fuel) :
    Ends (clearPages fuel (s.dev.windowPage k) s) fun s' => SameSetup s s' ∧
      (∀ j ≤ k, ∀ x < 128, ∀ y < 8, s'.dev.pixel x (8 * s.dev.windowPage j + y) = false) ∧
      ∀ p, (∀ j ≤ k, p ≠ s.dev.windowPage j) → ∀ x < 128, ∀ y < 8,
        s'.dev.pixel x (8 * p + y) = s.dev.pixel x (8 * p + y) := by
  induction k generalizing s fuel with
  | zero =>
      rcases fuel with _ | fuel
      · omega
      · rw [clearPages, pageIndex_natCast, Ends.ok_bind]
        refine (clearLine_ends hpages (hwindow.windowPage_eq hk).2).bind fun t ht => ?_
        have hstart : (s.dev.windowPage 0 : ℤ) = t.dev.scStart := by
          rw [hwindow.windowPage_zero, ht.1]
        rw [if_pos hstart]
        refine Ends.ok ⟨ht.1, fun j hj x hx y hy => ?_, fun p hp x hx y hy => ?_⟩
        · have hj0 : j = 0 := by omega
          rw [hj0, ht.2 _ x hx y hy, if_pos rfl]
        · rw [ht.2 p x hx y hy, if_neg (hp 0 (Nat.le_refl 0))]
  | succ k ih =>
      rcases fuel with _ | fuel
      · omega
      · rw [clearPages, pageIndex_natCast, Ends.ok_bind]
        refine (clearLine_ends hpages (hwindow.windowPage_eq hk).2).bind fun t ht => ?_
        rcases ht with ⟨hsame, hline⟩
        have hstart : (s.dev.windowPage (k + 1) : ℤ) ≠ t.dev.scStart := by
          rw [hsame]
          exact (hwindow.windowPage_succ hk).1
        have hnext : (s.dev.windowPage (k + 1) : ℤ) - t.dev.scDirection = t.dev.windowPage k := by
          rw [hsame.windowPage, hsame]
          exact (hwindow.windowPage_succ hk).2
        have hpages' : t.dev.pages ≤ 8 := by rwa [hsame]
        rw [if_neg hstart, hnext]
        refine (ih (hsame.window hwindow) hpages' (by omega) (by omega)).mono ?_
        rintro s' ⟨hsame', hblank, hrest⟩
        simp only [hsame.windowPage] at hblank hrest
        refine ⟨hsame.trans hsame', fun j hj x hx y hy => ?_, fun p hp x hx y hy => ?_⟩
        · by_cases hlast : j = k + 1
          · have hbehind : ∀ i ≤ k, s.dev.windowPage (k + 1) ≠ s.dev.windowPage i := by
              intro i hi
              rw [ne_eq, hwindow.windowPage_inj (by omega) (by omega)]
              omega
            rw [hlast, hrest _ hbehind x hx y hy, hline _ x hx y hy, if_pos rfl]
          · exact hblank j (by omega) x hx y hy
        · rw [hrest p (fun j hj => hp j (by omega)) x hx y hy, hline p x hx y hy,
            if_neg (hp (k + 1) (Nat.le_refl _))]

/-- Every line of the window is blank afterwards. -/
theorem scrollClear_logs (hwindow : ScrollWindow s.dev last) (hpages : s.dev.pages ≤ 8) {fuel : ℕ}
    (hfuel : last < fuel) :
    Ends (ssd1306ScrollClear fuel s) (Logs last s fun _ _ _ => false) := by
  have hend : s.dev.scEnd = s.dev.windowPage last := by
    rw [(hwindow.windowPage_eq (Nat.le_refl last)).1, hwindow.end_eq]
  unfold ssd1306ScrollClear
  rw [if_neg (by simp [hwindow.enabled]), hend]
  refine (clearPages_ends hwindow hpages (Nat.le_refl last) hfuel).mono fun s' hs' =>
    ⟨hs'.1, fun j hj x hx y hy => ?_, hs'.2.2⟩
  rw [Ssd1306Dev.line, hs'.1.windowPage]
  exact hs'.2.1 j hj x hx y hy

end ScrollClear

/-! ## Runs -/

/-- The calls that scroll. -/
inductive ScrollCall
  | text (text : List UInt8) (textLen : ℕ) (invert : Bool)
  | clear
  deriving Repr

namespace ScrollCall

def exec (fuel : ℕ) (call : ScrollCall) (s : Screen) : Except OledFault Screen :=
  match call with
  | text t textLen invert => ssd1306ScrollText fuel t textLen invert s
  | clear => ssd1306ScrollClear fuel s

/-- What the call does to a log of lines. -/
def onLines (lines : Lines) (call : ScrollCall) : Lines :=
  match call with
  | text t textLen invert => Lines.push t textLen invert lines
  | clear => fun _ _ _ => false

/-- The characters that are shown have glyphs. -/
def Printable (call : ScrollCall) : Prop :=
  match call with
  | text t textLen _ => InFont t (min textLen 16)
  | clear => True

end ScrollCall

section Runs

variable {s : Screen} {last : ℕ}

/-- The log depends on the lines of the window only. -/
theorem onLines_congr {lines lines' : Lines}
    (h : ∀ j ≤ last, ∀ x < 128, ∀ y < 8, lines j x y = lines' j x y) (call : ScrollCall) :
    ∀ j ≤ last, ∀ x < 128, ∀ y < 8,
      ScrollCall.onLines lines call j x y = ScrollCall.onLines lines' call j x y := by
  intro j hj x hx y hy
  cases call with
  | text t textLen invert =>
      rcases j with _ | j
      · simp only [ScrollCall.onLines, Lines.push, h 0 hj x hx y hy]
      · exact h j (by omega) x hx y hy
  | clear => rfl

theorem foldl_onLines_congr (calls : List ScrollCall) {lines lines' : Lines}
    (h : ∀ j ≤ last, ∀ x < 128, ∀ y < 8, lines j x y = lines' j x y) :
    ∀ j ≤ last, ∀ x < 128, ∀ y < 8,
      calls.foldl ScrollCall.onLines lines j x y = calls.foldl ScrollCall.onLines lines' j x y := by
  induction calls generalizing lines lines' with
  | nil => exact h
  | cons call calls ih => exact ih (onLines_congr h call)

theorem Logs.trans {t s' : Screen} {lines lines' : Lines} (h : Logs last s lines t)
    (h' : Logs last t lines' s') : Logs last s lines' s' := by
  refine ⟨h.same.trans h'.same, h'.lines_eq, fun p hp x hx y hy => ?_⟩
  have hp' : ∀ j ≤ last, p ≠ t.dev.windowPage j := by
    intro j hj
    rw [h.same.windowPage]
    exact hp j hj
  rw [h'.outside p hp' x hx y hy, h.outside p hp x hx y hy]

theorem exec_logs (hwindow : ScrollWindow s.dev last) (hlast : 0 < last) (hpages : s.dev.pages ≤ 8)
    (hwidth : s.dev.width = 128) {fuel : ℕ} (hfuel : last < fuel) {call : ScrollCall}
    (hcall : call.Printable) :
    Ends (call.exec fuel s) (Logs last s (ScrollCall.onLines s.dev.line call)) := by
  cases call with
  | text t textLen invert =>
      exact scrollText_logs hwindow hlast hpages hwidth hfuel.le hcall invert
  | clear =>
      exact scrollClear_logs hwindow hpages hfuel

/-- For every window of at least two pages on a device of 128 columns and at most eight pages, and every
run of texts and clearings: no call leaves the arrays, the window shows the log of the run, and no page
outside it changes. -/
theorem scrolls_log (hwindow : ScrollWindow s.dev last) (hlast : 0 < last)
    (hpages : s.dev.pages ≤ 8) (hwidth : s.dev.width = 128) {fuel : ℕ} (hfuel : last < fuel)
    {calls : List ScrollCall} (hcalls : ∀ call ∈ calls, call.Printable) :
    Ends (Loop.each (ScrollCall.exec fuel) calls s)
      (Logs last s (calls.foldl ScrollCall.onLines s.dev.line)) := by
  induction calls generalizing s with
  | nil =>
      exact Ends.ok ⟨SameSetup.refl s, fun _ _ _ _ _ _ => rfl, fun _ _ _ _ _ _ => rfl⟩
  | cons call calls ih =>
      refine (exec_logs hwindow hlast hpages hwidth hfuel (hcalls call (by simp))).bind fun t ht => ?_
      have hpages' : t.dev.pages ≤ 8 := by rwa [ht.same]
      have hwidth' : t.dev.width = 128 := by rwa [ht.same]
      refine (ih (ht.same.window hwindow) hpages' hwidth' fun c hc =>
        hcalls c (by simp [hc])).mono fun s' hs' => ?_
      have hrun := ht.trans hs'
      refine ⟨hrun.same, fun j hj x hx y hy => ?_, hrun.outside⟩
      rw [hrun.lines_eq j hj x hx y hy]
      exact foldl_onLines_congr calls ht.lines_eq j hj x hx y hy

/-- A text, a clearing and a shorter text in the window of pages 1 to 3. -/
theorem scrolls_log_three :
    let s : Screen := ssd1306SoftwareScroll 1 3 ⟨.panel128x64, []⟩
    let calls : List ScrollCall := [.text [0x48, 0x69] 2 false, .clear, .text [0x48] 1 true]
    Ends (Loop.each (ScrollCall.exec 3) calls s)
      (Logs 2 s (calls.foldl ScrollCall.onLines s.dev.line)) := by
  intro s calls
  have hwindow : ScrollWindow s.dev 2 := softwareScroll_window 1 3 ⟨.panel128x64, []⟩ rfl
  refine scrolls_log hwindow (by decide) (by decide) rfl (by decide) ?_
  intro call hcall
  simp only [calls, List.mem_cons, List.not_mem_nil, or_false] at hcall
  rcases hcall with rfl | rfl | rfl
  · exact inFont_of_all (by decide) (by decide)
  · trivial
  · exact inFont_of_all (by decide) (by decide)

end Runs

/-! ## Windows of one page -/

section SinglePage

variable {s s' : Screen}

/-- From a page before the start the loop never comes to the start, but to the page before the first. -/
theorem scrollPages_past (hdir : s.dev.scDirection = 1) (hstart : s.dev.scStart < 8)
    (hwidth : s.dev.width = 128) {n fuel : ℕ} (hpast : (n : ℤ) ≤ s.dev.scStart) (hfuel : n < fuel) :
    scrollPages fuel ((n : ℤ) - 1) s = .error .pageArray := by
  induction n generalizing s fuel with
  | zero =>
      -- the round that would read page -1
      rcases fuel with _ | fuel
      · omega
      · have hdst : ((0 : ℕ) : ℤ) - 1 + s.dev.scDirection = ((0 : ℕ) : ℤ) := by
          rw [hdir]
          omega
        unfold scrollPages scrollPage
        rw [hdst, pageIndex_natCast]
        rfl
  | succ n ih =>
      rcases fuel with _ | fuel
      · omega
      · have hsrc : ((n + 1 : ℕ) : ℤ) - 1 = n := by omega
        have hnext : (n : ℤ) + s.dev.scDirection = (n + 1 : ℕ) := by
          rw [hdir]
          omega
        rcases @scrollPage_copies s hwidth n (n + 1) (by omega) (by omega) (by omega) hnext with
          ⟨t, ht, hsame, -⟩
        have hstart' : t.dev.scStart = s.dev.scStart := by rw [hsame]
        have hdir' : t.dev.scDirection = 1 := by rw [hsame]; exact hdir
        have hwidth' : t.dev.width = 128 := by rw [hsame]; exact hwidth
        have hnot : (n : ℤ) ≠ t.dev.scStart := by omega
        rw [hsrc, scrollPages, ht, Ends.ok_bind, if_neg hnot, hdir']
        exact ih hdir' (by omega) hwidth' (by omega) (by omega)

/-- On a single page a text runs out of the page array. -/
theorem scrollText_single (hwindow : ScrollWindow s.dev 0) (hpages : s.dev.pages ≤ 8)
    (hwidth : s.dev.width = 128) {fuel : ℕ} (hfuel : 8 ≤ fuel) (text : List UInt8) (textLen : ℕ)
    (invert : Bool) : ssd1306ScrollText fuel text textLen invert s = .error .pageArray := by
  have hend : s.dev.scEnd = s.dev.scStart := by
    rw [hwindow.end_eq]
    simp
  have hdir : s.dev.scDirection = 1 := by
    rw [hwindow.direction, if_neg (by omega)]
  have hlt : s.dev.scStart < 8 := by
    have hstart := hwindow.start_lt
    omega
  obtain ⟨n, hn⟩ := Int.eq_ofNat_of_zero_le hwindow.start_nonneg
  have hpast := @scrollPages_past s hdir hlt hwidth n fuel (by omega) (by omega)
  unfold ssd1306ScrollText
  rw [if_neg (by simp [hwindow.enabled]), hend, hdir, hn, hpast]
  rfl

/-- For every window that `ssd1306_software_scroll` accepts on a device of 128 columns and at most eight
pages and every text: `ssd1306_scroll_text` stays inside the buffer exactly if the window has more than
one page; on a single page its loop leaves the page array. -/
theorem scroll_text_stays_inside_iff {start stop : ℤ}
    (haccepted : (ssd1306SoftwareScroll start stop s).dev.scEnable = true)
    (hpages : s.dev.pages ≤ 8) (hwidth : s.dev.width = 128) {fuel : ℕ} (hfuel : 8 ≤ fuel)
    {text : List UInt8} {textLen : ℕ} (htext : InFont text (min textLen 16)) (invert : Bool) :
    ((∃ s', ssd1306ScrollText fuel text textLen invert (ssd1306SoftwareScroll start stop s) =
      .ok s') ↔ start ≠ stop) ∧
      (ssd1306ScrollText fuel text textLen invert (ssd1306SoftwareScroll start stop s) =
        .error .pageArray ↔ start = stop) := by
  have hwindow := softwareScroll_window start stop s haccepted
  have hsetup : (ssd1306SoftwareScroll start stop s).dev.pages = s.dev.pages ∧
      (ssd1306SoftwareScroll start stop s).dev.width = s.dev.width := by
    unfold ssd1306SoftwareScroll
    split
    next => exact ⟨rfl, rfl⟩
    next =>
      split <;> exact ⟨rfl, rfl⟩
  have hpages' : (ssd1306SoftwareScroll start stop s).dev.pages ≤ 8 := by rwa [hsetup.1]
  have hwidth' : (ssd1306SoftwareScroll start stop s).dev.width = 128 := by rwa [hsetup.2]
  have hlast := hwindow.windowPage_eq (Nat.le_refl _)
  have hfirst := hwindow.windowPage_eq (Nat.zero_le _)
  by_cases hne : start = stop
  · have hnone : (stop - start).natAbs = 0 := by omega
    rw [hnone] at hwindow
    rw [scrollText_single hwindow hpages' hwidth' hfuel]
    simp [hne]
  · have hshort : (stop - start).natAbs ≤ fuel := by
      rcases hwindow.direction_cases with hdir | hdir <;>
        rw [hdir] at hlast hfirst <;>
        omega
    obtain ⟨s', hs', -⟩ := scrollText_logs hwindow (by omega) hpages' hwidth' hshort htext invert
    rw [hs']
    simp [hne]

/-- A window of page 2 alone. -/
theorem scroll_text_stays_inside_iff_page_two :
    let s : Screen := ⟨.panel128x64, []⟩
    ssd1306ScrollText 8 [0x48, 0x69] 2 false (ssd1306SoftwareScroll 2 2 s) = .error .pageArray := by
  intro s
  have hiff := @scroll_text_stays_inside_iff s 2 2 rfl (by decide) rfl 8 (by decide) [0x48, 0x69] 2
    (inFont_of_all (by decide) (by decide)) false
  exact hiff.2.2 rfl

end SinglePage

end Oled
end MainboardFirmware
