import Mathlib.Tactic.Positivity
import MainboardFirmware.Oled.Line

/-!
# Circle — `_ssd1306_circle` and `_ssd1306_disc`

Both walk a quarter of a circle with the same error term and place it four times. The error term is
the distance of the next diagonal pixel from the circle, `(x+1)² + (y+1)² - r²`; from this follows
that the walk never strays by half a pixel, that it ends after at most `2 r` rounds in the other end
of the quarter, and that the disc is the circle filled without a hole.
-/

namespace MainboardFirmware
namespace Oled

/-! ## The code -/

/-- The variables of the walk. -/
structure Arc where
  x : ℤ
  y : ℤ
  err : ℤ

namespace Arc

def start (r : ℤ) : Arc :=
  ⟨0, -r, 2 - 2 * r⟩

/-- `if ((old_err = err) <= x) err += ++x * 2 + 1;` -/
def stepX (a : Arc) : Arc :=
  if a.err ≤ a.x then ⟨a.x + 1, a.y, a.err + (a.x + 1) * 2 + 1⟩ else a

/-- The end of a round: `stepX`, then `if (old_err > y || err > x) err += ++y * 2 + 1;` -/
def next (a : Arc) : Arc :=
  let b := a.stepX
  if a.err > b.y ∨ b.err > b.x then ⟨b.x, b.y + 1, b.err + (b.y + 1) * 2 + 1⟩ else b

end Arc

/-- The quarters that `opt` selects. -/
inductive Quarter
  | upperRight
  | upperLeft
  | lowerLeft
  | lowerRight
  deriving DecidableEq, Repr

/-- `OLED_DRAW_UPPER_RIGHT` and so on. -/
def Quarter.flag : Quarter → UInt32
  | upperRight => 0x01
  | upperLeft => 0x02
  | lowerLeft => 0x04
  | lowerRight => 0x08

/-- `(opt & flag) == flag` -/
def Quarter.Drawn (opt : UInt32) (q : Quarter) : Prop :=
  opt &&& q.flag = q.flag

instance (opt : UInt32) : DecidablePred (Quarter.Drawn opt) :=
  fun q => inferInstanceAs (Decidable (opt &&& q.flag = q.flag))

/-- The `if`s of a round, quarter by quarter. -/
def drawQuarters (opt : UInt32) (draw : Quarter → Frame → Except OledFault Frame)
    (order : List Quarter) (f : Frame) : Except OledFault Frame :=
  Loop.each (fun q f => if q.Drawn opt then draw q f else .ok f) order f

/-- The pixel that a position of the walk stands for in each quarter. -/
def Quarter.circlePixel (x0 y0 : ℤ) (a : Arc) : Quarter → ℤ × ℤ
  | upperLeft => (x0 - a.x, y0 + a.y)
  | upperRight => (x0 - a.y, y0 - a.x)
  | lowerRight => (x0 + a.x, y0 - a.y)
  | lowerLeft => (x0 + a.y, y0 + a.x)

/-- A walk and the buffer it is drawn into. -/
structure CircleWalk where
  arc : Arc
  frame : Frame

/-- `_ssd1306_circle`, for at most `fuel` rounds. -/
def ssd1306Circle (fuel : ℕ) (flip : Bool) (x0 y0 r : ℤ) (opt : UInt32) (invert : Bool) (f : Frame) :
    Except OledFault CircleWalk :=
  Loop.doWhile .rounds (fun (s : CircleWalk) => do
    let frame ← drawQuarters opt (fun q =>
      ssd1306Pixel flip invert (q.circlePixel x0 y0 s.arc).1 (q.circlePixel x0 y0 s.arc).2)
      [.upperLeft, .upperRight, .lowerRight, .lowerLeft] s.frame
    return ⟨s.arc.next, frame⟩) (fun s => s.arc.y < 0) fuel ⟨Arc.start r, f⟩

/-- The ends of the line that `_ssd1306_disc` draws in each quarter. -/
def Quarter.discLine (x0 y0 : ℤ) (a : Arc) : Quarter → (ℤ × ℤ) × ℤ × ℤ
  | lowerLeft => ((x0 - a.x, y0 - a.y), x0 - a.x, y0)
  | upperLeft => ((x0 - a.x, y0), x0 - a.x, y0 + a.y)
  | lowerRight => ((x0 + a.x, y0 - a.y), x0 + a.x, y0)
  | upperRight => ((x0 + a.x, y0), x0 + a.x, y0 + a.y)

/-- The walk of `_ssd1306_disc`, which draws when the column has changed. -/
structure DiscWalk where
  arc : Arc
  changeX : Bool
  frame : Frame

/-- The drawing of a round of `_ssd1306_disc`. -/
def discColumn (flip : Bool) (x0 y0 : ℤ) (opt : UInt32) (invert : Bool) (s : DiscWalk) :
    Except OledFault Frame :=
  if s.changeX = true then
    drawQuarters opt (fun q =>
      let line := q.discLine x0 y0 s.arc
      ssd1306Line flip invert line.1.1 line.1.2 line.2.1 line.2.2)
      [.lowerLeft, .upperLeft, .lowerRight, .upperRight] s.frame
  else .ok s.frame

/-- `_ssd1306_disc`, for at most `fuel` rounds. -/
def ssd1306Disc (fuel : ℕ) (flip : Bool) (x0 y0 r : ℤ) (opt : UInt32) (invert : Bool) (f : Frame) :
    Except OledFault DiscWalk :=
  Loop.doWhile .rounds (fun (s : DiscWalk) => do
    let frame ← discColumn flip x0 y0 opt invert s
    return ⟨s.arc.next, s.arc.err ≤ s.arc.x, frame⟩) (fun s => s.arc.y ≤ 0) fuel
    ⟨Arc.start r, true, f⟩

/-- A round paints what it paints in the quarters asked for. -/
theorem drawQuarters_paints {draw : Quarter → Frame → Except OledFault Frame}
    {order : List Quarter} {f : Frame} {v : Bool} (opt : UInt32) (area : Quarter → Set (ℕ × ℕ))
    (horder : ∀ q, q ∈ order) (hdraw : ∀ q f, Ends (draw q f) fun f' =>
      Paints (area q) (fun _ => v) (f.raster false) (f'.raster false)) :
    Ends (drawQuarters opt draw order f) fun f' =>
      Paints {p | ∃ q : Quarter, q.Drawn opt ∧ p ∈ area q} (fun _ => v) (f.raster false)
        (f'.raster false) := by
  have hregion : {p | ∃ q ∈ order, p ∈ if q.Drawn opt then area q else ∅} =
      {p | ∃ q : Quarter, q.Drawn opt ∧ p ∈ area q} := by
    ext p
    constructor
    · rintro ⟨q, -, hq⟩
      split at hq
      next hdrawn => exact ⟨q, hdrawn, hq⟩
      next => exact hq.elim
    · rintro ⟨q, hdrawn, hq⟩
      exact ⟨q, horder q, by rwa [if_pos hdrawn]⟩
  rw [← hregion]
  refine Loop.each_paints (Frame.raster false) (fun q : Quarter => if q.Drawn opt then area q else ∅)
    (fun _ => v) fun q _ g => ?_
  by_cases hdrawn : q.Drawn opt
  · simp only [if_pos hdrawn]
    exact hdraw q g
  · simp only [if_neg hdrawn]
    exact Ends.ok (Paints.nothing _ _)

/-! ## The walk -/

namespace Arc

/-- How far a position is from the circle. -/
def off (r : ℤ) (a : Arc) : ℤ :=
  a.x * a.x + a.y * a.y - r * r

/-- What the walk keeps: it is in the quarter, near the circle, and `err` belongs to the next diagonal
pixel. -/
structure Near (r : ℤ) (a : Arc) : Prop where
  x_nonneg : 0 ≤ a.x
  x_le : a.x ≤ r
  y_le : a.y ≤ 0
  le_y : -r ≤ a.y
  err_eq : a.err = (a.x + 1) * (a.x + 1) + (a.y + 1) * (a.y + 1) - r * r
  off_lt : |a.off r| < r

variable {r : ℤ} {a : Arc}

theorem start_near (hr : 0 < r) : (start r).Near r where
  x_nonneg := le_refl 0
  x_le := hr.le
  y_le := by simp [start, hr.le]
  le_y := le_refl (-r)
  err_eq := by
    simp only [start]
    ring
  off_lt := by
    have hoff : (start r).off r = 0 := by
      simp only [start, off]
      ring
    rw [hoff, abs_zero]
    exact hr

/-- A column further on only where there is one. -/
theorem Near.x_lt (ha : a.Near r) (hx : a.err ≤ a.x) : a.x < r := by
  have herr := ha.err_eq
  have h0 := ha.x_nonneg
  have hsquare := mul_self_nonneg (a.y + 1)
  rcases ha.x_le.eq_or_lt with heq | hlt
  · rw [heq] at herr hx h0
    linarith
  · exact hlt

/-- The two comparisons of a round. -/
theorem next_cases (ha : a.Near r) :
    (¬ a.err ≤ a.x ∧ a.next = ⟨a.x, a.y + 1, a.err + (a.y + 1) * 2 + 1⟩) ∨
    (a.err ≤ a.x ∧ (a.err > a.y ∨ a.err + (a.x + 1) * 2 + 1 > a.x + 1) ∧
      a.next = ⟨a.x + 1, a.y + 1, a.err + (a.x + 1) * 2 + 1 + (a.y + 1) * 2 + 1⟩) ∨
    (a.err ≤ a.x ∧ a.err ≤ a.y ∧ a.next = ⟨a.x + 1, a.y, a.err + (a.x + 1) * 2 + 1⟩) := by
  have h0 := ha.x_nonneg
  have hy := ha.y_le
  unfold next stepX
  by_cases hx : a.err ≤ a.x
  · simp only [if_pos hx]
    by_cases hboth : a.err > a.y ∨ a.err + (a.x + 1) * 2 + 1 > a.x + 1
    · right
      left
      exact ⟨hx, hboth, by rw [if_pos hboth]⟩
    · right
      right
      exact ⟨hx, by omega, by rw [if_neg hboth]⟩
  · left
    simp only [if_neg hx]
    exact ⟨hx, by rw [if_pos (by omega)]⟩

theorem near_mk {x y err : ℤ} (hx0 : 0 ≤ x) (hxr : x ≤ r) (hy : y ≤ 0) (hyr : -r ≤ y)
    (herr : err = (x + 1) * (x + 1) + (y + 1) * (y + 1) - r * r)
    (hlo : -r < x * x + y * y - r * r) (hhi : x * x + y * y - r * r < r) : Near r ⟨x, y, err⟩ :=
  ⟨hx0, hxr, hy, hyr, herr, abs_lt.2 ⟨hlo, hhi⟩⟩

/-- One round, as long as the walk is above the centre. -/
theorem Near.next (ha : a.Near r) (hy : a.y < 0) : a.next.Near r := by
  have hx0 := ha.x_nonneg
  have hxr := ha.x_le
  have hyr := ha.le_y
  have herr := ha.err_eq
  have hoff := abs_lt.1 ha.off_lt
  have hsquare := mul_self_nonneg (a.y + 1)
  unfold off at hoff
  rcases next_cases ha with ⟨hx, heq⟩ | ⟨hx, hboth, heq⟩ | ⟨hx, hy', heq⟩
  · -- a row down, because the diagonal pixel is too far out
    rw [heq]
    refine near_mk hx0 hxr (by omega) (by omega) (by rw [herr]; ring) ?_ (by linarith)
    rcases hxr.eq_or_lt with hlast | hlt
    · rw [hlast]
      linarith
    · linarith
  · -- to the diagonal pixel
    have hlt := ha.x_lt hx
    rw [heq]
    refine near_mk (by omega) hlt (by omega) (by omega) (by rw [herr]; ring) ?_ (by linarith)
    rcases hboth with hrow | hcol
    · linarith
    · rcases (Int.add_one_le_iff.2 hlt).eq_or_lt with hlast | hlt'
      · rw [hlast]
        linarith
      · linarith
  · -- a column on, because the diagonal pixel is too far in
    have hlt := ha.x_lt hx
    rw [heq]
    exact near_mk (by omega) hlt hy.le hyr (by rw [herr]; ring) (by linarith) (by linarith)

/-- The walk comes to the height of the centre in the last column. -/
theorem Near.x_eq (ha : a.Near r) (hy : a.y = 0) : a.x = r := by
  have hoff := abs_lt.1 ha.off_lt
  have hx0 := ha.x_nonneg
  rw [off, hy] at hoff
  rcases ha.x_le.eq_or_lt with heq | hlt
  · exact heq
  · nlinarith

/-- From there the walk goes below the centre. -/
theorem Near.next_below (ha : a.Near r) (hr : 0 < r) (hy : a.y = 0) : ¬ a.next.y ≤ 0 := by
  have herr := ha.err_eq
  rw [ha.x_eq hy, hy] at herr
  rcases next_cases ha with ⟨-, heq⟩ | ⟨-, -, heq⟩ | ⟨hx, -, -⟩
  · simp [heq, hy]
  · simp [heq, hy]
  · rw [ha.x_eq hy] at hx
    nlinarith

/-- Rounds that are left at most. -/
def left (r : ℤ) (a : Arc) : ℕ :=
  (r - a.x - a.y).toNat

theorem Near.left_next (ha : a.Near r) (hy : a.y < 0) : a.next.left r < a.left r := by
  have hx := ha.x_le
  unfold left
  rcases next_cases ha with ⟨-, heq⟩ | ⟨-, -, heq⟩ | ⟨-, -, heq⟩
  all_goals
    rw [heq]
    dsimp only
    omega

/-- A round goes to a neighbour. -/
def Adjacent (a b : Arc) : Prop :=
  |a.x - b.x| ≤ 1 ∧ |a.y - b.y| ≤ 1

theorem Near.next_adjacent (ha : a.Near r) : a.next.Adjacent a := by
  unfold Adjacent
  rcases next_cases ha with ⟨-, heq⟩ | ⟨-, -, heq⟩ | ⟨-, -, heq⟩ <;>
    simp [heq]

end Arc

/-! ## The circle -/

section Circle

variable {x0 y0 r : ℤ} {f : Frame}

/-- The circle lies on the screen. -/
structure OnScreenCircle (x0 y0 r : ℤ) : Prop where
  left : r ≤ x0
  right : x0 + r < 128
  top : r ≤ y0
  bottom : y0 + r < 64

/-- A walk, the last position first, that began at the top of the circle. -/
structure QuarterWalk (r : ℤ) (a : Arc) (walk : List Arc) : Prop where
  first : (a :: walk).getLast? = some (Arc.start r)
  chain : (a :: walk).IsChain Arc.Adjacent
  near : ∀ b ∈ a :: walk, b.Near r

theorem QuarterWalk.next {a : Arc} {walk : List Arc} (h : QuarterWalk r a walk) (hy : a.y < 0) :
    QuarterWalk r a.next (a :: walk) := by
  have ha : a.Near r := h.near a (by simp)
  refine ⟨?_, ?_, ?_⟩
  · rw [List.getLast?_cons_cons]
    exact h.first
  · exact List.isChain_cons_cons.2 ⟨ha.next_adjacent, h.chain⟩
  · intro b hb
    rcases List.mem_cons.1 hb with rfl | hb
    · exact ha.next hy
    · exact h.near b hb

end Circle

/-! ## The disc -/

section Disc

variable {x0 y0 r : ℤ} {f : Frame}

/-- The quarter of the plane around the centre. -/
def Quarter.Holds (x0 y0 : ℤ) (p : ℕ × ℕ) : Quarter → Prop
  | upperRight => x0 ≤ p.1 ∧ p.2 ≤ y0
  | upperLeft => p.1 ≤ x0 ∧ p.2 ≤ y0
  | lowerLeft => p.1 ≤ x0 ∧ y0 ≤ p.2
  | lowerRight => x0 ≤ p.1 ∧ y0 ≤ p.2

/-- The line that is drawn in a quarter at a position of the walk. -/
def discLineArea (x0 y0 : ℤ) (a : Arc) (q : Quarter) : Set (ℕ × ℕ) :=
  {p | q.Holds x0 y0 p ∧ (p.1 - x0 : ℤ).natAbs = a.x ∧ (p.2 - y0 : ℤ).natAbs ≤ -a.y}

theorem discLine_ends {a : Arc} (hscreen : OnScreenCircle x0 y0 r) (ha : a.Near r) (invert : Bool)
    (q : Quarter) :
    Ends (ssd1306Line false invert (q.discLine x0 y0 a).1.1 (q.discLine x0 y0 a).1.2
      (q.discLine x0 y0 a).2.1 (q.discLine x0 y0 a).2.2 f) fun f' =>
        Paints (discLineArea x0 y0 a q) (fun _ => !invert) (f.raster false) (f'.raster false) := by
  rcases hscreen with ⟨hl, hr, ht, hb⟩
  have hx0 := ha.x_nonneg
  have hxr := ha.x_le
  have hy := ha.y_le
  have hyr := ha.le_y
  have hleft : ∀ y, 0 ≤ y → y < 64 → OnScreen (x0 - a.x, y) := fun y h h' =>
    ⟨⟨by dsimp only; omega, by dsimp only; omega⟩, h, h'⟩
  have hright : ∀ y, 0 ≤ y → y < 64 → OnScreen (x0 + a.x, y) := fun y h h' =>
    ⟨⟨by dsimp only; omega, by dsimp only; omega⟩, h, h'⟩
  have hcentre : 0 ≤ y0 ∧ y0 < 64 := by omega
  have habove : 0 ≤ y0 + a.y ∧ y0 + a.y < 64 := by omega
  have hbelow : 0 ≤ y0 - a.y ∧ y0 - a.y < 64 := by omega
  have hregion : discLineArea x0 y0 a q = lineArea (q.discLine x0 y0 a).1.1
      (q.discLine x0 y0 a).1.2 (q.discLine x0 y0 a).2.1 (q.discLine x0 y0 a).2.2 := by
    cases q
    all_goals
      dsimp only [Quarter.discLine]
      rw [lineArea_upright (by grind) (by grind)]
      ext p
      simp only [discLineArea, Quarter.Holds, Between, Set.mem_ofPred_eq]
      omega
  rw [hregion]
  apply line_ends invert
  all_goals
    cases q <;>
    simp only [Quarter.discLine] <;>
    grind

/-- A walk through the columns of a disc up to column `x`, with the first position in each. -/
structure DiscColumns (r : ℤ) (x : ℤ) (columns : List Arc) : Prop where
  near : ∀ a ∈ columns, a.Near r
  every : ∀ j, 0 ≤ j → j < x → ∃ a ∈ columns, a.x = j

/-- The lines drawn in some columns. -/
def discArea (x0 y0 : ℤ) (opt : UInt32) (columns : List Arc) : Set (ℕ × ℕ) :=
  {p | ∃ a ∈ columns, p ∈ {p | ∃ q : Quarter, q.Drawn opt ∧ p ∈ discLineArea x0 y0 a q}}

/-- The columns that are drawn at the beginning of a round. -/
def DiscWalk.drawn (s : DiscWalk) : ℤ :=
  if s.changeX = true then s.arc.x else s.arc.x + 1

/-- The walk of a disc with what it has drawn. -/
structure DiscInv (x0 y0 r : ℤ) (opt : UInt32) (v : Bool) (f : Frame) (x : ℤ) (frame : Frame)
    (columns : List Arc) : Prop where
  holds : DiscColumns r x columns
  paints : Paints (discArea x0 y0 opt columns) (fun _ => v) (f.raster false) (frame.raster false)

/-- A round draws the column it is in, if it has not done so before. -/
theorem discRound_ends {s : DiscWalk} {opt : UInt32} {columns : List Arc} (invert : Bool)
    (hscreen : OnScreenCircle x0 y0 r) (ha : s.arc.Near r)
    (hs : DiscInv x0 y0 r opt (!invert) f s.drawn s.frame columns) :
    Ends (discColumn false x0 y0 opt invert s) fun g =>
      ∃ columns, DiscInv x0 y0 r opt (!invert) f (s.arc.x + 1) g columns := by
  unfold discColumn
  unfold DiscWalk.drawn at hs
  by_cases hchange : s.changeX = true
  · rw [if_pos hchange] at hs ⊢
    refine (drawQuarters_paints opt (discLineArea x0 y0 s.arc) (fun q => by cases q <;> simp)
      fun q g => discLine_ends hscreen ha invert q).mono fun g hg => ⟨s.arc :: columns, ⟨?_, ?_⟩, ?_⟩
    · intro a hin
      rcases List.mem_cons.1 hin with rfl | hin
      · exact ha
      · exact hs.holds.near a hin
    · intro j h0 hj
      rcases (Int.lt_add_one_iff.1 hj).eq_or_lt with rfl | hlt
      · exact ⟨s.arc, by simp, rfl⟩
      · obtain ⟨a, hin, hax⟩ := hs.holds.every j h0 hlt
        exact ⟨a, by simp [hin], hax⟩
    · have hregion : discArea x0 y0 opt (s.arc :: columns) = discArea x0 y0 opt columns ∪
          {p | ∃ q : Quarter, q.Drawn opt ∧ p ∈ discLineArea x0 y0 s.arc q} := by
        ext p
        simp [discArea, or_comm]
      rw [hregion]
      exact hs.paints.union hg
  · rw [if_neg hchange] at hs ⊢
    exact Ends.ok ⟨columns, hs⟩

/-- The next round draws only if the walk is in a new column. -/
theorem drawn_next {a : Arc} (ha : a.Near r) (frame : Frame) :
    (⟨a.next, a.err ≤ a.x, frame⟩ : DiscWalk).drawn = a.x + 1 := by
  unfold DiscWalk.drawn
  rcases Arc.next_cases ha with ⟨hx, heq⟩ | ⟨hx, -, heq⟩ | ⟨hx, -, heq⟩ <;>
    simp [hx, heq]

/-- The distance of a pixel from the centre, squared, against the radius. -/
def outside (x0 y0 r : ℤ) (p : ℕ × ℕ) : ℤ :=
  (p.1 - x0) * (p.1 - x0) + (p.2 - y0) * (p.2 - y0) - r * r

theorem discArea_outside {opt : UInt32} {columns : List Arc} {x : ℤ}
    (hcolumns : DiscColumns r x columns) {p : ℕ × ℕ} (hp : p ∈ discArea x0 y0 opt columns) :
    (∃ q : Quarter, q.Drawn opt ∧ q.Holds x0 y0 p) ∧ outside x0 y0 r p < r := by
  rcases hp with ⟨a, ha, q, hq, hholds, hx, hy⟩
  refine ⟨⟨q, hq, hholds⟩, ?_⟩
  have hoff := (abs_lt.1 (hcolumns.near a ha).off_lt).2
  have hdx : (p.1 - x0 : ℤ) * (p.1 - x0) = a.x * a.x := by
    rw [← Int.natAbs_mul_self' (p.1 - x0 : ℤ), hx]
  have hdy : (p.2 - y0 : ℤ) * (p.2 - y0) ≤ a.y * a.y := by
    rw [← Int.natAbs_mul_self' (p.2 - y0 : ℤ)]
    nlinarith
  rw [outside, hdx]
  unfold Arc.off at hoff
  linarith

theorem mem_discArea {opt : UInt32} {columns : List Arc} (hcolumns : DiscColumns r (r + 1) columns)
    {p : ℕ × ℕ} {q : Quarter} (hr : 0 < r) (hq : q.Drawn opt) (hholds : q.Holds x0 y0 p)
    (hin : outside x0 y0 r p ≤ -r) : p ∈ discArea x0 y0 opt columns := by
  unfold outside at hin
  rw [← Int.natAbs_mul_self' (p.1 - x0 : ℤ), ← Int.natAbs_mul_self' (p.2 - y0 : ℤ)] at hin
  have hcol : ((p.1 - x0 : ℤ).natAbs : ℤ) < r + 1 := by
    nlinarith
  obtain ⟨a, ha, hx⟩ := hcolumns.every _ (by omega) hcol
  refine ⟨a, ha, q, hq, hholds, hx.symm, ?_⟩
  have hoff := (abs_lt.1 (hcolumns.near a ha).off_lt).1
  have hy := (hcolumns.near a ha).y_le
  unfold Arc.off at hoff
  rw [← hx] at hin
  nlinarith

/-- For every disc on the screen with a positive radius, on a device that is not flipped: the call stays
inside the arrays and ends, and in the quarters asked for it paints every pixel nearer to the centre
than half a pixel less than the radius, and none that is half a pixel further off. -/
theorem disc_paints (hr : 0 < r) (hscreen : OnScreenCircle x0 y0 r) (opt : UInt32)
    (invert : Bool) {fuel : ℕ} (hfuel : 2 * r < fuel) :
    Ends (ssd1306Disc fuel false x0 y0 r opt invert f) fun s => ∃ area,
      Paints area (fun _ => !invert) (f.raster false) (s.frame.raster false) ∧
      (∀ p ∈ area, (∃ q : Quarter, q.Drawn opt ∧ q.Holds x0 y0 p) ∧ outside x0 y0 r p < r) ∧
      ∀ p, (∃ q : Quarter, q.Drawn opt ∧ q.Holds x0 y0 p) → outside x0 y0 r p ≤ -r → p ∈ area := by
  have hloop : Ends (ssd1306Disc fuel false x0 y0 r opt invert f) fun s =>
      ∃ columns, DiscInv x0 y0 r opt (!invert) f (r + 1) s.frame columns := by
    apply Loop.doWhile_ends (fun s : DiscWalk => s.arc.Near r ∧
        ∃ columns, DiscInv x0 y0 r opt (!invert) f s.drawn s.frame columns) (fun s => s.arc.left r)
    · have hnone : discArea x0 y0 opt [] = ∅ := by
        simp [discArea]
      refine ⟨Arc.start_near hr, [], ⟨by simp, ?_⟩, ?_⟩
      · intro j h0 hj
        exact absurd h0 (not_le.2 hj)
      · rw [hnone]
        exact Paints.nothing _ _
    · simp only [Arc.left, Arc.start]
      omega
    · rintro s ⟨ha, columns, hs⟩
      refine (discRound_ends invert hscreen ha hs).bind fun g hg => Ends.ok ?_
      by_cases hy : s.arc.y < 0
      · have hagain : s.arc.next.y ≤ 0 := (ha.next hy).y_le
        rw [if_pos (decide_eq_true hagain), drawn_next ha]
        exact ⟨⟨ha.next hy, hg⟩, ha.left_next hy⟩
      · have hzero : s.arc.y = 0 := le_antisymm ha.y_le (not_lt.1 hy)
        have hlast : ¬ s.arc.next.y ≤ 0 := ha.next_below hr hzero
        rw [if_neg fun h => hlast (of_decide_eq_true h)]
        rwa [ha.x_eq hzero] at hg
  refine hloop.mono ?_
  rintro s ⟨columns, hs⟩
  refine ⟨_, hs.paints, fun p hp => discArea_outside hs.holds hp, ?_⟩
  rintro p ⟨q, hq, hholds⟩ hin
  exact mem_discArea hs.holds hr hq hholds hin

/-- The upper half of a disc in the middle of the screen. -/
theorem disc_paints_half :
    Ends (ssd1306Disc 11 false 64 32 5 0x03 false Frame.blank) fun s => ∃ area,
      Paints area (fun _ => !false) (Frame.blank.raster false) (s.frame.raster false) ∧
      (∀ p ∈ area, (∃ q : Quarter, q.Drawn 0x03 ∧ q.Holds 64 32 p) ∧ outside 64 32 5 p < 5) ∧
      ∀ p, (∃ q : Quarter, q.Drawn 0x03 ∧ q.Holds 64 32 p) → outside 64 32 5 p ≤ -5 → p ∈ area :=
  disc_paints (by decide) ⟨by decide, by decide, by decide, by decide⟩ 0x03 false (by decide)

end Disc

end Oled
end MainboardFirmware
