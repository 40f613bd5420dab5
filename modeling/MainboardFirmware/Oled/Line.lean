import Mathlib.Algebra.Order.Ring.Abs
import Mathlib.Tactic.Linarith
import Mathlib.Tactic.LinearCombination
import Mathlib.Tactic.Ring
import MainboardFirmware.Oled.Device

/-!
# Line — `_ssd1306_pixel`, `_ssd1306_line` and `_ssd1306_cursor`

The functions that draw into the buffer without showing it. A line is walked one pixel at a time along
its longer side, with an error term that says when to move along the shorter one; the result is that
the walk takes the nearest row (or column) everywhere and ends in the other endpoint. Coordinates are
`int`, taken here as integers.
-/

namespace MainboardFirmware
namespace Oled

/-! ## The code -/

/-- `_ssd1306_pixel`, on the buffer of a device mounted as `flip` says. -/
def ssd1306Pixel (flip invert : Bool) (xpos ypos : ℤ) (f : Frame) : Except OledFault Frame := do
  let page := UInt8.ofInt (ypos.tdiv 8)
  let bits := UInt8.ofInt (ypos.tmod 8)
  let seg := UInt8.ofInt xpos
  let wk0 ← f.read page.toNat seg.toNat
  -- a negative remainder is a shift by more than 248
  if 7 < bits then .error .shift
  else
    let wk0 := if invert = true then Bits.clearBit wk0 bits else Bits.setBit wk0 bits
    f.write page.toNat seg.toNat (upright flip wk0)

/-- The position and the error term of the walk along a line. -/
structure LineWalk where
  pos : ℤ × ℤ
  e : ℤ
  frame : Frame

/-- The end of a round: a step along, and one aside when the error term is due. -/
def LineWalk.next (along aside : ℤ × ℤ) (long short : ℤ) (s : LineWalk) (frame : Frame) : LineWalk :=
  if 0 ≤ s.e + 2 * short then ⟨s.pos + along + aside, s.e + 2 * short - 2 * long, frame⟩
  else ⟨s.pos + along, s.e + 2 * short, frame⟩

/-- The two loops of `_ssd1306_line`: `long` and `short` are the sides, `along` and `aside` the steps
that belong to them. -/
def lineLoop (flip invert : Bool) (along aside : ℤ × ℤ) (long short : ℤ) (start : ℤ × ℤ) (f : Frame) :
    Except OledFault Frame := do
  let s ← Loop.up (fun _ (s : LineWalk) => do
    return s.next along aside long short (← ssd1306Pixel flip invert s.pos.1 s.pos.2 s.frame))
    0 (long.toNat + 1) (⟨start, -long, f⟩ : LineWalk)
  return s.frame

/-- `(b > a) ? b - a : a - b` -/
def distance (a b : ℤ) : ℤ :=
  if a < b then b - a else a - b

/-- `(b > a) ? 1 : -1` -/
def toward (a b : ℤ) : ℤ :=
  if a < b then 1 else -1

/-- `_ssd1306_line` -/
def ssd1306Line (flip invert : Bool) (x1 y1 x2 y2 : ℤ) (f : Frame) : Except OledFault Frame :=
  let dx := distance x1 x2
  let dy := distance y1 y2
  let sx := toward x1 x2
  let sy := toward y1 y2
  if dy < dx then lineLoop flip invert (sx, 0) (0, sy) dx dy (x1, y1) f
  else lineLoop flip invert (0, sy) (sx, 0) dy dx (x1, y1) f

/-- `_ssd1306_cursor` -/
def ssd1306Cursor (flip invert : Bool) (x0 y0 r : ℤ) (f : Frame) : Except OledFault Frame := do
  let f ← ssd1306Line flip invert (x0 - r) y0 (x0 + r) y0 f
  ssd1306Line flip invert x0 (y0 - r) x0 (y0 + r) f

/-! ## One pixel -/

/-- On the screen of 128 by 64 pixels. -/
def OnScreen (p : ℤ × ℤ) : Prop :=
  (0 ≤ p.1 ∧ p.1 < 128) ∧ 0 ≤ p.2 ∧ p.2 < 64

/-- The point as it is counted in the buffer. -/
def cell (p : ℤ × ℤ) : ℕ × ℕ :=
  (p.1.toNat, p.2.toNat)

section Pixel

variable {f : Frame} {p : ℤ × ℤ}

/-- What one byte becomes: the bit is written, and on a flipped device the byte is turned round. -/
theorem pixel_ends (flip invert : Bool) (hp : OnScreen p) :
    Ends (ssd1306Pixel flip invert p.1 p.2 f) fun f' => ∀ page col, f'.seg page col =
      if page = p.2.toNat / 8 ∧ col = p.1.toNat then
        upright flip (Bits.writeBit (f.seg page col) (UInt8.ofNat (p.2.toNat % 8)) !invert)
      else f.seg page col := by
  rcases hp with ⟨⟨hx0, hx⟩, hy0, hy⟩
  obtain ⟨x, hxp⟩ := Int.eq_ofNat_of_zero_le hx0
  obtain ⟨y, hyp⟩ := Int.eq_ofNat_of_zero_le hy0
  have hbyte : ∀ n : ℕ, UInt8.ofInt (n : ℤ) = UInt8.ofNat n := fun n => by
    rw [UInt8.ofInt, ← UInt8.toNat_inj, UInt8.toNat_ofNat', UInt8.toNat_ofNat']
    omega
  have hpage : (UInt8.ofNat (y / 8)).toNat = y / 8 := by
    rw [UInt8.toNat_ofNat']
    omega
  have hseg : (UInt8.ofNat x).toNat = x := by
    rw [UInt8.toNat_ofNat']
    omega
  have hbits : ¬ 7 < UInt8.ofNat (y % 8) := by
    rw [UInt8.lt_iff_toNat_lt, UInt8.toNat_ofNat']
    simp only [UInt8.reduceToNat]
    omega
  have hdiv : (y : ℤ).tdiv 8 = (y / 8 : ℕ) := rfl
  have hmod : (y : ℤ).tmod 8 = (y % 8 : ℕ) := rfl
  rw [hxp, hyp, ssd1306Pixel, hdiv, hmod, hbyte, hbyte, hbyte, hpage, hseg,
    Frame.read_ok (by omega) (by omega)]
  change Ends (if 7 < UInt8.ofNat (y % 8) then _ else _) _
  rw [if_neg hbits]
  refine (Frame.write_ends (by omega) (by omega) _).mono fun f' hf' page col => ?_
  rw [hf', Int.toNat_natCast, Int.toNat_natCast]
  split
  next hin =>
    rw [hin.1, hin.2]
    cases invert <;> rfl
  next => rfl

/-- On a device that is not flipped one pixel is painted. -/
theorem pixel_paints (invert : Bool) (hp : OnScreen p) :
    Ends (ssd1306Pixel false invert p.1 p.2 f) fun f' =>
      Paints {cell p} (fun _ => !invert) (f.raster false) (f'.raster false) := by
  rcases hp with ⟨⟨hx0, hx⟩, hy0, hy⟩
  refine (pixel_ends false invert ⟨⟨hx0, hx⟩, hy0, hy⟩).mono fun f' hf' => ⟨?_, ?_⟩
  · rintro q rfl
    simp [Frame.raster, Frame.pixel, cell, hf', upright, bitAt_writeBit, Nat.mod_lt]
  · rintro ⟨x, y⟩ hq
    simp only [Frame.raster, Frame.pixel, upright, hf', Bool.false_eq_true, if_false]
    split
    next hin =>
      have hne : y % 8 ≠ p.2.toNat % 8 := by
        intro heq
        apply hq
        rw [Set.mem_singleton_iff, cell, Prod.mk.injEq]
        exact ⟨hin.2, by omega⟩
      rw [bitAt_writeBit _ (Nat.mod_lt _ (by omega)) (Nat.mod_lt _ (by omega)), if_neg hne]
    next => rfl

end Pixel

/-! ## The walk along a line -/

/-- The slope `short / long` times `i`, rounded to the nearest integer, halves upwards. -/
def rounded (long short i : ℤ) : ℤ :=
  (2 * short * i + long) / (2 * long)

/-- The point `i` steps along the longer side. -/
def linePoint (along aside : ℤ × ℤ) (long short : ℤ) (start : ℤ × ℤ) (i : ℤ) : ℤ × ℤ :=
  (start.1 + i * along.1 + rounded long short i * aside.1,
    start.2 + i * along.2 + rounded long short i * aside.2)

section Walk

variable {long short : ℤ}

/-- What is left of the error term is what the rounding leaves. -/
theorem rounded_unique (hlong : 0 < long) {i k : ℤ}
    (hlo : 0 ≤ 2 * short * i + long - 2 * long * k)
    (hhi : 2 * short * i + long - 2 * long * k < 2 * long) : rounded long short i = k := by
  have hdiv := (Int.ediv_emod_unique (a := 2 * short * i + long) (b := 2 * long)
    (r := 2 * short * i + long - 2 * long * k) (q := k) (by omega)).2 ⟨by omega, hlo, hhi⟩
  exact hdiv.1

theorem rounded_zero (hlong : 0 ≤ long) : rounded long short 0 = 0 := by
  rw [rounded, mul_zero, zero_add]
  rcases hlong.eq_or_lt with hzero | hpos
  · rw [← hzero]
    rfl
  · exact Int.ediv_eq_zero_of_lt hlong (by omega)

theorem rounded_long (hlong : 0 ≤ long) (hshort : short ≤ long) (h0 : 0 ≤ short) :
    rounded long short long = short := by
  rcases hlong.eq_or_lt with hzero | hpos
  · have hshort0 : short = 0 := by omega
    rw [← hzero, hshort0]
    rfl
  · exact rounded_unique hpos (by nlinarith) (by nlinarith)

theorem rounded_nonneg (hlong : 0 ≤ long) (h0 : 0 ≤ short) {i : ℤ} (hi : 0 ≤ i) :
    0 ≤ rounded long short i := by
  apply Int.ediv_nonneg
  · positivity
  · omega

/-- Inside the line the walk keeps inside the shorter side, and within half a step of the slope. -/
theorem rounded_inside (h0 : 0 ≤ short) (hshort : short ≤ long) {i : ℤ} (hi0 : 0 ≤ i)
    (hi : i ≤ long) :
    rounded long short i ≤ short ∧ |2 * (short * i - long * rounded long short i)| ≤ long := by
  rcases (h0.trans hshort).eq_or_lt with hzero | hpos
  · have hi' : i = 0 := by omega
    have hnone : rounded long short 0 = 0 := rounded_zero (h0.trans hshort)
    rw [hi', hnone]
    simp [h0, h0.trans hshort]
  · have hlo : 0 ≤ (2 * short * i + long) % (2 * long) := Int.emod_nonneg _ (by omega)
    have hhi : (2 * short * i + long) % (2 * long) < 2 * long := Int.emod_lt_of_pos _ (by omega)
    rw [Int.emod_def] at hlo hhi
    refine ⟨?_, ?_⟩
    · apply Int.lt_add_one_iff.1
      apply Int.ediv_lt_of_lt_mul (by omega)
      nlinarith
    · rw [abs_le, rounded]
      constructor <;> linarith

/-- The next step aside is due exactly when the error term is no longer negative. -/
theorem rounded_succ (hlong : 0 < long) (h0 : 0 ≤ short) (hshort : short ≤ long) (i : ℤ) :
    rounded long short (i + 1) =
      if 0 ≤ 2 * short * i - 2 * long * rounded long short i - long + 2 * short then
        rounded long short i + 1
      else rounded long short i := by
  have hlo : 0 ≤ (2 * short * i + long) % (2 * long) := Int.emod_nonneg _ (by omega)
  have hhi : (2 * short * i + long) % (2 * long) < 2 * long := Int.emod_lt_of_pos _ (by omega)
  have hrest : (2 * short * i + long) % (2 * long) =
      2 * short * i + long - 2 * long * rounded long short i := by
    rw [Int.emod_def, rounded]
  split
  next hdue => exact rounded_unique hlong (by linarith) (by linarith)
  next hnot => exact rounded_unique hlong (by linarith) (by linarith)

variable {f : Frame} {along aside start : ℤ × ℤ}

/-- The walk after `i` rounds. -/
def LineWalk.At (along aside : ℤ × ℤ) (long short : ℤ) (start : ℤ × ℤ) (s : LineWalk) (i : ℤ) :
    Prop :=
  s.pos = linePoint along aside long short start i ∧
    s.e = 2 * short * i - 2 * long * rounded long short i - long

theorem LineWalk.next_at {s : LineWalk} {i : ℤ} (frame : Frame) (hlong : 0 < long) (h0 : 0 ≤ short)
    (hshort : short ≤ long) (hs : s.At along aside long short start i) :
    (s.next along aside long short frame).At along aside long short start (i + 1) := by
  rcases hs with ⟨hpos, he⟩
  have hstep := rounded_succ hlong h0 hshort i
  unfold next
  rw [← he] at hstep
  split
  next hdue =>
    rw [if_pos hdue] at hstep
    refine ⟨?_, ?_⟩
    · simp only [hpos, linePoint, hstep, Prod.ext_iff, Prod.fst_add, Prod.snd_add]
      constructor <;> ring
    · rw [hstep, he]
      ring
  next hnot =>
    rw [if_neg hnot] at hstep
    refine ⟨?_, ?_⟩
    · simp only [hpos, linePoint, hstep, Prod.ext_iff, Prod.fst_add, Prod.snd_add]
      constructor <;> ring
    · rw [hstep, he]
      ring

theorem LineWalk.next_frame (s : LineWalk) (frame : Frame) :
    (s.next along aside long short frame).frame = frame := by
  unfold next
  split <;> rfl

/-- The points of a walk, from one endpoint to the other. -/
def walkPoints (along aside : ℤ × ℤ) (long short : ℤ) (start : ℤ × ℤ) : Set (ℕ × ℕ) :=
  {q | ∃ i : ℕ, (i : ℤ) ≤ long ∧ q = cell (linePoint along aside long short start i)}

/-- The loop of a line paints the points of the walk. -/
theorem lineLoop_paints (invert : Bool) (h0 : 0 ≤ short) (hshort : short ≤ long)
    (hscreen : ∀ i : ℕ, (i : ℤ) ≤ long → OnScreen (linePoint along aside long short start i)) :
    Ends (lineLoop false invert along aside long short start f) fun f' =>
      Paints (walkPoints along aside long short start) (fun _ => !invert) (f.raster false)
        (f'.raster false) := by
  have hlong : 0 ≤ long := h0.trans hshort
  have hregion : {q | ∃ i < long.toNat + 1,
      q ∈ ({cell (linePoint along aside long short start (i : ℤ))} : Set (ℕ × ℕ))} =
        walkPoints along aside long short start := by
    have hcount : ∀ i : ℕ, i < long.toNat + 1 ↔ (i : ℤ) ≤ long := fun i => by omega
    simp only [walkPoints, Set.mem_singleton_iff, hcount]
  unfold lineLoop
  rw [← hregion]
  -- behind the last point the walk is no longer followed
  refine (Loop.up_paints
    (fun i (s : LineWalk) => (i : ℤ) ≤ long → s.At along aside long short start i)
    (fun s => s.frame.raster false) (fun i => {cell (linePoint along aside long short start i)})
    (fun _ => !invert) ?_ ?_).bind fun s hs => Ends.ok hs.2
  · intro _
    simp [LineWalk.At, linePoint, rounded_zero hlong]
  · intro i s hi hs
    have hat := hs (by omega)
    rw [hat.1]
    refine (pixel_paints invert (hscreen i (by omega))).bind fun frame hframe => Ends.ok ⟨?_, ?_⟩
    · intro hnext
      push_cast at hnext ⊢
      exact LineWalk.next_at frame (by omega) h0 hshort hat
    · rw [LineWalk.next_frame]
      exact hframe

end Walk

/-! ## Lines -/

theorem toward_reaches (a b : ℤ) : a + distance a b * toward a b = b := by
  unfold distance toward
  split <;> ring

theorem distance_nonneg (a b : ℤ) : 0 ≤ distance a b := by
  unfold distance
  split <;> omega

theorem abs_toward (a b : ℤ) : |toward a b| = 1 := by
  unfold toward
  split <;> rfl

/-- On the way from `a` to `b`. -/
def Between (a b c : ℤ) : Prop :=
  min a b ≤ c ∧ c ≤ max a b

theorem between_toward (a b : ℤ) {i : ℤ} (h0 : 0 ≤ i) (hi : i ≤ distance a b) :
    Between a b (a + i * toward a b) := by
  unfold distance at hi
  unfold Between toward
  split at hi
  next hlt =>
    rw [if_pos hlt]
    omega
  next hge =>
    rw [if_neg hge]
    omega

/-- The pixels of the line between two points. -/
def lineArea (x1 y1 x2 y2 : ℤ) : Set (ℕ × ℕ) :=
  let dx := distance x1 x2
  let dy := distance y1 y2
  let sx := toward x1 x2
  let sy := toward y1 y2
  if dy < dx then walkPoints (sx, 0) (0, sy) dx dy (x1, y1)
  else walkPoints (0, sy) (sx, 0) dy dx (x1, y1)

section Line

variable {x1 y1 x2 y2 : ℤ} {f : Frame}

/-- A point of the rectangle between the two points that is at most half a pixel off the line. -/
structure NearLine (x1 y1 x2 y2 : ℤ) (p : ℤ × ℤ) : Prop where
  column : Between x1 x2 p.1
  row : Between y1 y2 p.2
  near : |2 * ((x2 - x1) * (p.2 - y1) - (y2 - y1) * (p.1 - x1))| ≤ max (distance x1 x2) (distance y1 y2)

theorem linePoint_flat_near (h : distance y1 y2 ≤ distance x1 x2) {i : ℤ} (h0 : 0 ≤ i)
    (hi : i ≤ distance x1 x2) :
    NearLine x1 y1 x2 y2 (linePoint (toward x1 x2, 0) (0, toward y1 y2) (distance x1 x2)
      (distance y1 y2) (x1, y1) i) := by
  have hy := distance_nonneg y1 y2
  have hrounded := rounded_inside hy h h0 hi
  have hk := rounded_nonneg (distance_nonneg x1 x2) hy h0
  generalize hrow : rounded (distance x1 x2) (distance y1 y2) i = k at hrounded hk
  have hx2 := toward_reaches x1 x2
  have hy2 := toward_reaches y1 y2
  simp only [linePoint, hrow, mul_zero, add_zero]
  refine ⟨between_toward x1 x2 h0 hi, between_toward y1 y2 hk hrounded.1, ?_⟩
  have hcross : 2 * ((x2 - x1) * (y1 + k * toward y1 y2 - y1) -
      (y2 - y1) * (x1 + i * toward x1 x2 - x1)) =
        -(2 * (distance y1 y2 * i - distance x1 x2 * k)) * (toward x1 x2 * toward y1 y2) := by
    linear_combination 2 * i * toward x1 x2 * hy2 - 2 * k * toward y1 y2 * hx2
  rw [hcross, abs_mul, abs_mul, abs_toward, abs_toward, mul_one, mul_one, abs_neg]
  exact le_max_of_le_left hrounded.2

theorem NearLine.swap {p : ℤ × ℤ} (h : NearLine y1 x1 y2 x2 p) : NearLine x1 y1 x2 y2 p.swap := by
  refine ⟨h.row, h.column, ?_⟩
  have hturn : 2 * ((x2 - x1) * (p.1 - y1) - (y2 - y1) * (p.2 - x1)) =
      -(2 * ((y2 - y1) * (p.2 - x1) - (x2 - x1) * (p.1 - y1))) := by
    ring
  rw [Prod.fst_swap, Prod.snd_swap, hturn, abs_neg, max_comm]
  exact h.near

/-- The other walk is the same with the coordinates exchanged. -/
theorem linePoint_steep_near (h : distance x1 x2 ≤ distance y1 y2) {i : ℤ} (h0 : 0 ≤ i)
    (hi : i ≤ distance y1 y2) :
    NearLine x1 y1 x2 y2 (linePoint (0, toward y1 y2) (toward x1 x2, 0) (distance y1 y2)
      (distance x1 x2) (x1, y1) i) :=
  (linePoint_flat_near h h0 hi).swap

theorem NearLine.onScreen {p : ℤ × ℤ} (h : NearLine x1 y1 x2 y2 p) (h1 : OnScreen (x1, y1))
    (h2 : OnScreen (x2, y2)) : OnScreen p := by
  rcases h1 with ⟨⟨hx1, hx1'⟩, hy1, hy1'⟩
  rcases h2 with ⟨⟨hx2, hx2'⟩, hy2, hy2'⟩
  exact ⟨⟨(le_min hx1 hx2).trans h.column.1, h.column.2.trans_lt (max_lt hx1' hx2')⟩,
    (le_min hy1 hy2).trans h.row.1, h.row.2.trans_lt (max_lt hy1' hy2')⟩

/-- The pixels of a walk whose points are all near the line. -/
theorem walkPoints_near {along aside : ℤ × ℤ} {long short : ℤ}
    (hwalk : ∀ i : ℕ, (i : ℤ) ≤ long →
      NearLine x1 y1 x2 y2 (linePoint along aside long short (x1, y1) i))
    (h1 : OnScreen (x1, y1)) (h2 : OnScreen (x2, y2)) {q : ℕ × ℕ}
    (hq : q ∈ walkPoints along aside long short (x1, y1)) : NearLine x1 y1 x2 y2 (q.1, q.2) := by
  rcases hq with ⟨i, hi, rfl⟩
  have hnear := hwalk i hi
  rcases hnear.onScreen h1 h2 with ⟨⟨hx, -⟩, hy, -⟩
  simpa [cell, hx, hy] using hnear

/-- For every line between two points of the screen, on a device that is not flipped: the call stays
inside the arrays, paints the pixels of `lineArea` and no others. -/
theorem line_ends (invert : Bool) (h1 : OnScreen (x1, y1)) (h2 : OnScreen (x2, y2)) :
    Ends (ssd1306Line false invert x1 y1 x2 y2 f) fun f' =>
      Paints (lineArea x1 y1 x2 y2) (fun _ => !invert) (f.raster false) (f'.raster false) := by
  unfold ssd1306Line lineArea
  by_cases hflat : distance y1 y2 < distance x1 x2
  · simp only [if_pos hflat]
    exact lineLoop_paints invert (distance_nonneg y1 y2) hflat.le fun i hi =>
      (linePoint_flat_near hflat.le (by omega) hi).onScreen h1 h2
  · simp only [if_neg hflat]
    exact lineLoop_paints invert (distance_nonneg x1 x2) (not_lt.1 hflat) fun i hi =>
      (linePoint_steep_near (not_lt.1 hflat) (by omega) hi).onScreen h1 h2

theorem lineArea_near (h1 : OnScreen (x1, y1)) (h2 : OnScreen (x2, y2)) :
    ∀ q ∈ lineArea x1 y1 x2 y2, NearLine x1 y1 x2 y2 (q.1, q.2) := by
  unfold lineArea
  by_cases hflat : distance y1 y2 < distance x1 x2
  · simp only [if_pos hflat]
    exact fun q => walkPoints_near (fun i hi => linePoint_flat_near hflat.le (by omega) hi) h1 h2
  · simp only [if_neg hflat]
    exact fun q => walkPoints_near
      (fun i hi => linePoint_steep_near (not_lt.1 hflat) (by omega) hi) h1 h2

/-- Both endpoints are on the line. -/
theorem endpoints_mem_lineArea (x1 y1 x2 y2 : ℤ) : cell (x1, y1) ∈ lineArea x1 y1 x2 y2 ∧
    cell (x2, y2) ∈ lineArea x1 y1 x2 y2 := by
  have hdx := distance_nonneg x1 x2
  have hdy := distance_nonneg y1 y2
  have hx2 := toward_reaches x1 x2
  have hy2 := toward_reaches y1 y2
  unfold lineArea
  by_cases hflat : distance y1 y2 < distance x1 x2
  · have hlast := rounded_long hdx hflat.le hdy
    simp only [if_pos hflat]
    refine ⟨⟨0, hdx, ?_⟩, ⟨(distance x1 x2).toNat, by omega, ?_⟩⟩
    · simp [linePoint, rounded_zero hdx]
    · rw [Int.toNat_of_nonneg hdx]
      simp [linePoint, hlast, hx2, hy2]
  · have hlast := rounded_long hdy (not_lt.1 hflat) hdx
    simp only [if_neg hflat]
    refine ⟨⟨0, hdy, ?_⟩, ⟨(distance y1 y2).toNat, by omega, ?_⟩⟩
    · simp [linePoint, rounded_zero hdy]
    · rw [Int.toNat_of_nonneg hdy]
      simp [linePoint, hlast, hx2, hy2]

/-- An upright line is the pixels between its ends. -/
theorem lineArea_upright {a : ℤ} (h1 : OnScreen (a, y1)) (h2 : OnScreen (a, y2)) :
    lineArea a y1 a y2 = {q | (q.1 : ℤ) = a ∧ Between y1 y2 q.2} := by
  ext q
  constructor
  · intro hq
    have hnear := lineArea_near h1 h2 q hq
    have hcol := hnear.column
    unfold Between at hcol
    rw [min_self, max_self] at hcol
    exact ⟨le_antisymm hcol.2 hcol.1, hnear.row⟩
  · rintro ⟨hcol, hrow⟩
    have hdx : distance a a = 0 := by
      simp [distance]
    have hdy := distance_nonneg y1 y2
    unfold lineArea
    simp only [hdx, if_neg (not_lt.2 hdy)]
    refine ⟨(distance y1 q.2).toNat, ?_, ?_⟩
    · unfold Between distance at *
      split <;> split <;> omega
    · have hnone : rounded (distance y1 y2) 0 (distance y1 q.2).toNat = 0 := by
        rw [rounded, mul_zero, zero_mul, zero_add]
        rcases hdy.eq_or_lt with hzero | hpos
        · rw [← hzero]
          rfl
        · exact Int.ediv_eq_zero_of_lt hdy (by omega)
      have hreach : y1 + (distance y1 q.2).toNat * toward y1 y2 = q.2 := by
        rw [Int.toNat_of_nonneg (distance_nonneg y1 q.2)]
        unfold Between at hrow
        unfold distance toward
        split <;> split <;> omega
      simp only [linePoint, hnone, hreach, mul_zero, zero_mul, add_zero, cell, ← hcol]
      simp

/-- For every line between two points of the screen, on a device that is not flipped: the call stays
inside the arrays and paints a set of pixels that holds both endpoints and keeps within half a pixel
of the line. -/
theorem line_paints (invert : Bool) (h1 : OnScreen (x1, y1)) (h2 : OnScreen (x2, y2)) :
    Ends (ssd1306Line false invert x1 y1 x2 y2 f) fun f' =>
      Paints (lineArea x1 y1 x2 y2) (fun _ => !invert) (f.raster false) (f'.raster false) ∧
      cell (x1, y1) ∈ lineArea x1 y1 x2 y2 ∧ cell (x2, y2) ∈ lineArea x1 y1 x2 y2 ∧
      ∀ q ∈ lineArea x1 y1 x2 y2, NearLine x1 y1 x2 y2 (q.1, q.2) :=
  (line_ends invert h1 h2).mono fun _ hf' =>
    ⟨hf', (endpoints_mem_lineArea x1 y1 x2 y2).1, (endpoints_mem_lineArea x1 y1 x2 y2).2,
      lineArea_near h1 h2⟩

/-- A line from the lower left to the upper right, steeper than it is wide. -/
theorem line_paints_rising :
    Ends (ssd1306Line false false 3 60 40 2 Frame.blank) fun f' =>
      Paints (lineArea 3 60 40 2) (fun _ => !false) (Frame.blank.raster false) (f'.raster false) ∧
      cell (3, 60) ∈ lineArea 3 60 40 2 ∧ cell (40, 2) ∈ lineArea 3 60 40 2 ∧
      ∀ q ∈ lineArea 3 60 40 2, NearLine 3 60 40 2 (q.1, q.2) :=
  line_paints false (by unfold OnScreen; decide) (by unfold OnScreen; decide)

end Line

end Oled
end MainboardFirmware
