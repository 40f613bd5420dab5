import Mathlib.Algebra.Ring.Int.Defs
import MainboardFirmware.Oled.Wrap

/-!
# Translate — runs of `ssd1306_wrap_arround`

Calls over the whole panel turn its picture as a torus. Continued periodically over the plane the
picture is moved by one vector a call, so after any run it is the first picture moved by the sum, and
runs with the same sum cannot be told apart.
-/

namespace MainboardFirmware
namespace Oled

/-- The picture of the device, continued over the plane. -/
def Ssd1306Dev.picture (dev : Ssd1306Dev) (x y : ℤ) : Bool :=
  dev.pixel (x % 128).toNat (y % (8 * dev.pages : ℕ)).toNat

/-- The arguments of a call of `ssd1306_wrap_arround`. -/
structure WrapCall where
  scroll : ScrollType
  start : ℤ
  stop : ℤ
  delay : ℤ
  deriving DecidableEq, Repr

namespace WrapCall

def exec (call : WrapCall) (s : Screen) : Except OledFault Screen :=
  ssd1306WrapArround call.scroll call.start call.stop call.delay s

/-- The range of the call takes in the whole panel; the directions by pages have none. -/
def Full (dev : Ssd1306Dev) (call : WrapCall) : Prop :=
  match call.scroll with
  | .right | .left => call.start = 0 ∧ dev.pages - 1 ≤ call.stop
  | .up | .down => call.start = 0 ∧ 127 ≤ call.stop
  | .pageUp | .pageDown | .stop => 0 ≤ call.start

/-- How far the call moves the picture, to the right and down. -/
def move (call : WrapCall) : ℤ × ℤ :=
  match call.scroll with
  | .right => (1, 0)
  | .left => (-1, 0)
  | .down => (0, 1)
  | .up => (0, -1)
  | .pageDown => (0, 8)
  | .pageUp => (0, -8)
  | .stop => (0, 0)

end WrapCall

/-- A row counted on by `n` comes round like the integer does. -/
theorem toNat_emod_add {rows : ℕ} (hrows : 0 < rows) (y : ℤ) (n : ℕ) :
    ((y % rows).toNat + n) % rows = ((y + n) % rows).toNat := by
  have hne : (rows : ℤ) ≠ 0 := by omega
  have hcast : (((y % rows).toNat : ℕ) : ℤ) = y % rows := Int.toNat_of_nonneg (Int.emod_nonneg y hne)
  apply Int.natCast_inj.1
  rw [Int.toNat_of_nonneg (Int.emod_nonneg _ hne)]
  push_cast
  rw [hcast, Int.emod_add_emod]

theorem toNat_emod_lt {rows : ℕ} (hrows : 0 < rows) (y : ℤ) : (y % rows).toNat < rows := by
  have hlt : y % rows < rows := Int.emod_lt_of_pos y (by omega)
  omega

section Step

variable {dev : Ssd1306Dev}

/-- A call over the whole panel takes every pixel of the continued picture from the place it moves to
there. -/
theorem wrapSource_full (hdev : dev.Fits) (hwidth : dev.width = 128) {call : WrapCall}
    (hfull : call.Full dev) (x y : ℤ) :
    let source := wrapSource dev call.scroll call.start call.stop (x % 128).toNat
      (y % (8 * dev.pages : ℕ)).toNat
    source.1 = ((x - call.move.1) % 128).toNat ∧
      source.2 = ((y - call.move.2) % (8 * dev.pages : ℕ)).toNat := by
  have hpos := hdev.pages_pos
  have hrows : 0 < 8 * dev.pages := by omega
  have hx := @toNat_emod_lt 128 (by omega) x
  have hy := toNat_emod_lt hrows y
  have hback : ∀ n : ℕ, n ≤ 8 * dev.pages →
      ((y % (8 * dev.pages : ℕ)).toNat + (8 * dev.pages - n)) % (8 * dev.pages) =
        ((y - n) % (8 * dev.pages : ℕ)).toNat := by
    intro n hn
    have hsum : y + ((8 * dev.pages - n : ℕ) : ℤ) = y - n + (8 * dev.pages : ℕ) := by
      omega
    rw [toNat_emod_add hrows, hsum, Int.add_emod_right]
  rcases call with ⟨scroll, start, stop, delay⟩
  cases scroll with
  | right =>
      rcases hfull with ⟨rfl, hstop⟩
      dsimp only at hstop
      simp only [wrapSource, WrapCall.move]
      rw [if_pos ⟨by omega, by omega, hy⟩]
      exact ⟨by omega, by simp⟩
  | left =>
      rcases hfull with ⟨rfl, hstop⟩
      dsimp only at hstop
      simp only [wrapSource, WrapCall.move]
      rw [if_pos ⟨by omega, by omega, hy⟩]
      exact ⟨by omega, by simp⟩
  | up =>
      rcases hfull with ⟨rfl, hstop⟩
      dsimp only at hstop
      simp only [wrapSource, WrapCall.move]
      rw [if_pos ⟨by omega, by omega, by omega, hy⟩]
      exact ⟨by simp, toNat_emod_add hrows y 1⟩
  | down =>
      rcases hfull with ⟨rfl, hstop⟩
      dsimp only at hstop
      simp only [wrapSource, WrapCall.move]
      rw [if_pos ⟨by omega, by omega, by omega, hy⟩]
      exact ⟨by simp, hback 1 (by omega)⟩
  | pageUp =>
      rw [wrapSource, if_pos hy]
      exact ⟨by simp [WrapCall.move], toNat_emod_add hrows y 8⟩
  | pageDown =>
      rw [wrapSource, if_pos hy]
      exact ⟨by simp [WrapCall.move], hback 8 (by omega)⟩
  | stop =>
      rw [wrapSource]
      exact ⟨by simp [WrapCall.move], by simp [WrapCall.move]⟩

/-- A full range starts at 0. -/
theorem WrapCall.Full.start_nonneg {call : WrapCall} (hfull : call.Full dev) : 0 ≤ call.start := by
  rcases call with ⟨scroll, start, stop, delay⟩
  cases scroll with
  | right | left | up | down =>
      exact hfull.1.ge
  | pageUp | pageDown | stop =>
      exact hfull

/-- One call moves the picture by its vector. -/
theorem exec_translates {s : Screen} (hdev : s.dev.Fits) (hwidth : s.dev.width = 128)
    {call : WrapCall} (hfull : call.Full s.dev) :
    Ends (call.exec s) fun s' => s'.dev = { s.dev with page := s'.dev.page } ∧
      ∀ x y, s'.dev.picture x y = s.dev.picture (x - call.move.1) (y - call.move.2) := by
  have hframe : Ends (wrapFrame s.dev call.scroll call.start call.stop) _ :=
    wrapFrame_ends hdev call.scroll hfull.start_nonneg
  refine (wrapArround_ends hdev.pages_le hframe call.delay).mono ?_
  rintro s' ⟨f', hf', rfl⟩
  refine ⟨rfl, fun x y => ?_⟩
  have hpos := hdev.pages_pos
  have hpages := hdev.pages_le
  have hx := @toNat_emod_lt 128 (by omega) x
  have hy := @toNat_emod_lt (8 * s.dev.pages) (by omega) y
  rcases wrapSource_full hdev hwidth hfull x y with ⟨hsource, hsource'⟩
  calc f'.pixel s.dev.flip (x % 128).toNat (y % (8 * s.dev.pages : ℕ)).toNat
      = s.dev.pixel (wrapSource s.dev call.scroll call.start call.stop (x % 128).toNat
          (y % (8 * s.dev.pages : ℕ)).toNat).1 (wrapSource s.dev call.scroll call.start call.stop
          (x % 128).toNat (y % (8 * s.dev.pages : ℕ)).toNat).2 := hf' _ hx _ (by omega)
    _ = s.dev.picture (x - call.move.1) (y - call.move.2) := by rw [hsource, hsource']; rfl

end Step

/-- For every run of calls over the whole panel, with every delay: no call leaves the arrays, and the
picture is the first one moved by the sum of the vectors. -/
theorem wraps_translate {s : Screen} (hdev : s.dev.Fits) (hwidth : s.dev.width = 128)
    {calls : List WrapCall} (hfull : ∀ call ∈ calls, call.Full s.dev) :
    Ends (Loop.each WrapCall.exec calls s) fun s' => ∀ x y, s'.dev.picture x y =
      s.dev.picture (x - (calls.map fun call => call.move.1).sum)
        (y - (calls.map fun call => call.move.2).sum) := by
  induction calls generalizing s with
  | nil =>
      exact Ends.ok fun x y => by simp
  | cons call calls ih =>
      refine (exec_translates hdev hwidth (hfull call (by simp))).bind fun t ht => ?_
      rcases ht with ⟨hdev', hpicture⟩
      -- the setup is the same, so the rest of the calls is still over the whole panel
      have hfits : t.dev.Fits := by
        rw [hdev']
        exact ⟨hdev.pages_pos, hdev.pages_le, hdev.width_le⟩
      have hfull' : ∀ c ∈ calls, c.Full t.dev := by
        rw [hdev']
        exact fun c hc => hfull c (by simp [hc])
      refine (ih hfits (by rw [hdev']; exact hwidth) hfull').mono fun s' hs' x y => ?_
      rw [hs', hpicture, List.map_cons, List.map_cons, List.sum_cons, List.sum_cons,
        Int.sub_sub, Int.sub_sub, Int.add_comm _ call.move.1, Int.add_comm _ call.move.2]

/-- Two rows up and a page down, on the default panel. -/
theorem wraps_translate_six_down :
    let s : Screen := ⟨.panel128x64, []⟩
    let calls : List WrapCall := [⟨.up, 0, 127, -1⟩, ⟨.up, 0, 127, -1⟩, ⟨.pageDown, 0, 0, 0⟩]
    Ends (Loop.each WrapCall.exec calls s) fun s' => ∀ x y, s'.dev.picture x y =
      s.dev.picture (x - (calls.map fun call => call.move.1).sum)
        (y - (calls.map fun call => call.move.2).sum) :=
  wraps_translate panel128x64_fits rfl (by simp [WrapCall.Full])

end Oled
end MainboardFirmware
