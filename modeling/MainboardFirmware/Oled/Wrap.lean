import Mathlib.Algebra.BigOperators.Group.List.Basic
import Mathlib.Data.Int.Basic
import MainboardFirmware.Oled.Device

/-!
# Wrap — `ssd1306_wrap_arround`

Six ways to move the picture by one column, one row or one page, with what leaves it on one side coming
back on the other. The loops work on bytes in place, segment by segment, and for a flipped device on
bytes that are turned round first; the result is a rotation of the pixels that does not depend on the
flip. `wrapSource` says where a pixel comes from, and a run of calls over the whole panel moves the
picture, continued periodically over the plane, by the sum of the single moves.
-/

namespace MainboardFirmware
namespace Oled

/-! ## The code -/

/-- `ssd1306_scroll_type_t` -/
inductive ScrollType
  | right
  | left
  | down
  | up
  | pageDown
  | pageUp
  | stop
  deriving DecidableEq, Repr

/-- `for (int i = start; i <= stop; i++)`, where `i` is an index of an array. -/
def overIndices (start stop : ℤ) (body : ℕ → Frame → Except OledFault Frame) (f : Frame) :
    Except OledFault Frame :=
  if stop < start then .ok f
  else if start < 0 then .error .pageArray
  else Loop.up body start.toNat (stop + 1 - start).toNat f

/-- `_page[page]._segs[seg] = value` -/
def fill (page : ℕ) (value : ℕ → Frame → Except OledFault UInt8) (seg : ℕ) (f : Frame) :
    Except OledFault Frame := do
  f.write page seg (← value seg f)

def scrollPageRight (page : ℕ) (f : Frame) : Except OledFault Frame := do
  let wk ← f.read page 127
  let f ← Loop.down (fill page fun seg f => f.read page (seg - 1)) 127 f
  f.write page 0 wk

def scrollPageLeft (page : ℕ) (f : Frame) : Except OledFault Frame := do
  let wk ← f.read page 0
  let f ← Loop.up (fill page fun seg f => f.read page (seg + 1)) 0 127 f
  f.write page 127 wk

/-- `wk2` of `SCROLL_UP` -/
def scrollUpByte (flip : Bool) (wk0 wk1 : UInt8) : UInt8 :=
  upright flip ((upright flip wk0 >>> 1) ||| ((upright flip wk1 &&& 0x01) <<< 7))

/-- `wk2` of `SCROLL_DOWN` -/
def scrollDownByte (flip : Bool) (wk0 wk1 : UInt8) : UInt8 :=
  upright flip ((upright flip wk0 <<< 1) ||| ((upright flip wk1 &&& 0x80) >>> 7))

/-- The loop over the segments of one page in `SCROLL_UP` and `SCROLL_DOWN`; `next` is what moves in. -/
def scrollSegments (byte : UInt8 → UInt8 → UInt8) (page : ℕ)
    (next : ℕ → Frame → Except OledFault UInt8) (start stop : ℤ) (f : Frame) :
    Except OledFault Frame :=
  overIndices start stop (fill page fun seg f => do
    let wk0 ← f.read page seg
    return byte wk0 (← next seg f)) f

def scrollUp (flip : Bool) (pages : ℕ) (start stop : ℤ) (f : Frame) : Except OledFault Frame := do
  let save ← f.readRow 0 0 128
  let f ← Loop.up (fun page => scrollSegments (scrollUpByte flip) page
    (fun seg f => f.read (page + 1) seg) start stop) 0 (pages - 1) f
  -- without pages the last one has the index -1
  if pages = 0 ∧ start ≤ stop then .error .pageArray
  else scrollSegments (scrollUpByte flip) (pages - 1) (fun seg _ => .ok (save.getD seg 0)) start stop f

def scrollDown (flip : Bool) (pages : ℕ) (start stop : ℤ) (f : Frame) : Except OledFault Frame := do
  if pages = 0 then .error .pageArray
  let save ← f.readRow (pages - 1) 0 128
  let f ← Loop.down (fun page => scrollSegments (scrollDownByte flip) page
    (fun seg f => f.read (page - 1) seg) start stop) (pages - 1) f
  scrollSegments (scrollDownByte flip) 0 (fun seg _ => .ok (save.getD seg 0)) start stop f

def pageScrollDown (pages : ℕ) (f : Frame) : Except OledFault Frame := do
  if pages = 0 then .error .pageArray
  let save ← f.readRow (pages - 1) 0 128
  let f ← Loop.down (fun page => Loop.up (fill page fun seg f => f.read (page - 1) seg) 0 128)
    (pages - 1) f
  Loop.up (fill 0 fun seg _ => .ok (save.getD seg 0)) 0 128 f

def pageScrollUp (pages : ℕ) (f : Frame) : Except OledFault Frame := do
  let save ← f.readRow 0 0 128
  let f ← Loop.up (fun page => Loop.up (fill page fun seg f => f.read (page + 1) seg) 0 128) 0
    (pages - 1) f
  if pages = 0 then .error .pageArray
  else Loop.up (fill (pages - 1) fun seg _ => .ok (save.getD seg 0)) 0 128 f

/-- `if (_end >= count) _end = count - 1;` -/
def clipEnd (count : ℕ) (stop : ℤ) : ℤ :=
  if count ≤ stop then count - 1 else stop

/-- The buffer after `ssd1306_wrap_arround`. -/
def wrapFrame (dev : Ssd1306Dev) (scroll : ScrollType) (start stop : ℤ) : Except OledFault Frame :=
  match scroll with
  | .right => overIndices start (clipEnd dev.pages stop) scrollPageRight dev.page
  | .left => overIndices start (clipEnd dev.pages stop) scrollPageLeft dev.page
  | .up => scrollUp dev.flip dev.pages start (clipEnd dev.width stop) dev.page
  | .down => scrollDown dev.flip dev.pages start (clipEnd dev.width stop) dev.page
  | .pageDown => pageScrollDown dev.pages dev.page
  | .pageUp => pageScrollUp dev.pages dev.page
  | .stop => .ok dev.page

/-- `ssd1306_wrap_arround`; a negative delay shows nothing. -/
def ssd1306WrapArround (scroll : ScrollType) (start stop delay : ℤ) (s : Screen) :
    Except OledFault Screen := do
  let s := s.setPage (← wrapFrame s.dev scroll start stop)
  if 0 ≤ delay then
    Loop.up (fun page s => do
      let segs ← s.dev.page.readRow page 0 128
      let s := s.displayImage page 0 segs
      return if delay ≠ 0 then s.vTaskDelay delay else s) 0 s.dev.pages s
  else
    return s

/-! ## The loops over segments -/

section Segments

variable {f : Frame} {page : ℕ} {value : ℕ → Frame → Except OledFault UInt8} (v : ℕ → UInt8)

/-- A loop that writes the segments of a page from the left: what it writes may depend on the segments
it has not come to yet and on the other pages. -/
theorem fill_up_ends {start n : ℕ} (hp : page < 8) (hn : start + n ≤ 128)
    (hvalue : ∀ seg g, start ≤ seg → seg < start + n →
      (∀ p c, p ≠ page ∨ seg ≤ c → g.seg p c = f.seg p c) → value seg g = .ok (v seg)) :
    Ends (Loop.up (fill page value) start n f) fun f' => ∀ p c, f'.seg p c =
      if p = page ∧ start ≤ c ∧ c < start + n then v c else f.seg p c := by
  apply Loop.up_ends fun i (g : Frame) => ∀ p c, g.seg p c =
    if p = page ∧ start ≤ c ∧ c < i then v c else f.seg p c
  · intro p c
    rw [if_neg fun h => by omega]
  · intro i g hlo hi hg
    have hi' : value i g = .ok (v i) := hvalue i g hlo hi fun p c hpc => by
      rw [hg, if_neg fun h => by omega]
    rw [fill, hi']
    refine (Frame.write_ends hp (by omega) (v i)).mono fun g' hg' p c => ?_
    rw [hg', hg]
    by_cases heq : p = page ∧ c = i
    · rw [if_pos heq, if_pos ⟨heq.1, by omega, by omega⟩, heq.2]
    · rw [if_neg heq]
      by_cases hin : p = page ∧ start ≤ c ∧ c < i
      · rw [if_pos hin, if_pos ⟨hin.1, hin.2.1, by omega⟩]
      · rw [if_neg hin, if_neg fun h => by omega]

/-- The same over a range given by its ends. -/
theorem fill_over_ends {start stop : ℤ} (hp : page < 8) (h0 : 0 ≤ start) (hstop : stop < 128)
    (hvalue : ∀ (seg : ℕ) g, start ≤ seg → seg ≤ stop →
      (∀ p c, p ≠ page ∨ seg ≤ c → g.seg p c = f.seg p c) → value seg g = .ok (v seg)) :
    Ends (overIndices start stop (fill page value) f) fun f' => ∀ p c, f'.seg p c =
      if p = page ∧ start ≤ c ∧ c ≤ stop then v c else f.seg p c := by
  unfold overIndices
  by_cases hempty : stop < start
  · rw [if_pos hempty]
    refine Ends.ok fun p c => ?_
    rw [if_neg fun h => by omega]
  · rw [if_neg hempty, if_neg (by omega)]
    have hloop := @fill_up_ends f page value v start.toNat (stop + 1 - start).toNat hp (by omega)
      fun seg g hlo hhi hg => hvalue seg g (by omega) (by omega) hg
    refine hloop.mono fun f' hf' p c => ?_
    rw [hf']
    by_cases hin : p = page ∧ start ≤ c ∧ c ≤ stop
    · rw [if_pos hin, if_pos ⟨hin.1, by omega, by omega⟩]
    · rw [if_neg hin, if_neg fun h => by omega]

/-- A loop that writes the segments of a page from the right down to the second one. -/
theorem fill_down_ends {n : ℕ} (hp : page < 8) (hn : n < 128)
    (hvalue : ∀ seg g, seg < n →
      (∀ p c, p ≠ page ∨ c ≤ seg + 1 → g.seg p c = f.seg p c) →
        value (seg + 1) g = .ok (v (seg + 1))) :
    Ends (Loop.down (fill page value) n f) fun f' => ∀ p c, f'.seg p c =
      if p = page ∧ 0 < c ∧ c ≤ n then v c else f.seg p c := by
  apply Loop.down_ends fun i (g : Frame) => ∀ p c, g.seg p c =
    if p = page ∧ i < c ∧ c ≤ n then v c else f.seg p c
  · intro p c
    rw [if_neg fun h => by omega]
  · intro i g hi hg
    have hi' : value (i + 1) g = .ok (v (i + 1)) := hvalue i g hi fun p c hpc => by
      rw [hg, if_neg fun h => by omega]
    rw [fill, hi']
    refine (Frame.write_ends hp (by omega) (v (i + 1))).mono fun g' hg' p c => ?_
    rw [hg', hg]
    by_cases heq : p = page ∧ c = i + 1
    · rw [if_pos heq, if_pos ⟨heq.1, by omega, by omega⟩, heq.2]
    · rw [if_neg heq]
      by_cases hin : p = page ∧ i + 1 < c ∧ c ≤ n
      · rw [if_pos hin, if_pos ⟨hin.1, by omega, hin.2.2⟩]
      · rw [if_neg hin, if_neg fun h => by omega]

end Segments

/-! ## Columns -/

section Columns

variable {f : Frame} {page : ℕ}

theorem scrollPageRight_ends (hp : page < 8) :
    Ends (scrollPageRight page f) fun f' => ∀ p, ∀ c < 128, f'.seg p c =
      if p = page then f.seg p ((c + 127) % 128) else f.seg p c := by
  unfold scrollPageRight
  rw [Frame.read_ok hp (by omega)]
  have hloop := @fill_down_ends f page (fun seg f => f.read page (seg - 1))
    (fun c => f.seg page (c - 1)) 127 hp (by omega) fun seg g hseg hg => by
      rw [Nat.add_sub_cancel, Frame.read_ok hp (by omega), hg page seg (Or.inr (by omega))]
  refine hloop.bind fun g hg => ?_
  refine (Frame.write_ends hp (by omega) _).mono fun f' hf' p c hc => ?_
  rw [hf', hg]
  by_cases hpage : p = page
  · by_cases hfirst : c = 0
    · simp [hpage, hfirst]
    · have hprev : (c + 127) % 128 = c - 1 := by omega
      simp [hpage, hfirst, hprev, Nat.pos_of_ne_zero hfirst, Nat.lt_succ_iff.1 hc]
  · simp [hpage]

theorem scrollPageLeft_ends (hp : page < 8) :
    Ends (scrollPageLeft page f) fun f' => ∀ p, ∀ c < 128, f'.seg p c =
      if p = page then f.seg p ((c + 1) % 128) else f.seg p c := by
  unfold scrollPageLeft
  rw [Frame.read_ok hp (by omega)]
  have hloop := @fill_up_ends f page (fun seg f => f.read page (seg + 1))
    (fun c => f.seg page (c + 1)) 0 127 hp (by omega) fun seg g _ hseg hg => by
      rw [Frame.read_ok hp (by omega), hg page (seg + 1) (Or.inr (by omega))]
  refine hloop.bind fun g hg => ?_
  refine (Frame.write_ends hp (by omega) _).mono fun f' hf' p c hc => ?_
  rw [hf', hg]
  by_cases hpage : p = page
  · by_cases hlast : c = 127
    · simp [hpage, hlast]
    · have hnext : (c + 1) % 128 = c + 1 := by omega
      have hin : c < 0 + 127 := by omega
      simp [hpage, hlast, hnext, hin]
  · simp [hpage]

end Columns

/-! ## Rows and pages -/

/-- `row` rewrites the segments `within` of one page: a segment and what moves into it give the new
one. What moves in must not depend on the page itself. -/
def RowStep (row : ℕ → (ℕ → Frame → Except OledFault UInt8) → Frame → Except OledFault Frame)
    (within : ℕ → Prop) [DecidablePred within] (byte : UInt8 → UInt8 → UInt8) : Prop :=
  ∀ page next (f : Frame) (w : ℕ → UInt8), page < 8 →
    (∀ seg < 128, ∀ g : Frame, (∀ p c, p ≠ page → g.seg p c = f.seg p c) →
      next seg g = .ok (w seg)) →
    Ends (row page next f) fun f' => ∀ p c, f'.seg p c =
      if p = page ∧ within c then byte (f.seg page c) (w c) else f.seg p c

theorem scrollSegments_rowStep (byte : UInt8 → UInt8 → UInt8) {start stop : ℤ} (h0 : 0 ≤ start)
    (hstop : stop < 128) :
    RowStep (fun page next => scrollSegments byte page next start stop)
      (fun c => start ≤ c ∧ c ≤ stop) byte := by
  intro page next f w hp hnext
  refine fill_over_ends (fun c => byte (f.seg page c) (w c)) hp h0 hstop fun seg g hlo hhi hg => ?_
  have hother : next seg g = .ok (w seg) :=
    hnext seg (by omega) g fun p c hpc => hg p c (Or.inl hpc)
  rw [Frame.read_ok hp (by omega), hother, hg page seg (Or.inr (Nat.le_refl seg))]
  rfl

theorem fillPage_rowStep :
    RowStep (fun page next => Loop.up (fill page next) 0 128) (fun c => c < 128)
      fun _ wk1 => wk1 := by
  intro page next f w hp hnext
  refine (fill_up_ends w hp (by omega) fun seg g _ hseg hg => ?_).mono fun f' hf' p c => ?_
  · exact hnext seg (by omega) g fun p c hpc => hg p c (Or.inl hpc)
  · rw [hf']
    simp

section Pages

variable {row : ℕ → (ℕ → Frame → Except OledFault UInt8) → Frame → Except OledFault Frame}
  {within : ℕ → Prop} [DecidablePred within] {byte : UInt8 → UInt8 → UInt8} {f : Frame} {pages : ℕ}

/-- The saved page, read back. -/
theorem getD_readRow {page seg : ℕ} (hseg : seg < 128) :
    ((List.range' 0 128).map (f.seg page)).getD seg 0 = f.seg page seg := by
  simp [List.getD_eq_getElem?_getD, hseg]

/-- The pages above `n`, each from the next one. -/
theorem next_pages_ends (hrow : RowStep row within byte) {n : ℕ} (hn : n < 8) :
    Ends (Loop.up (fun page => row page fun seg f => f.read (page + 1) seg) 0 n f) fun g =>
      ∀ p, ∀ c < 128, g.seg p c =
        if p < n ∧ within c then byte (f.seg p c) (f.seg (p + 1) c) else f.seg p c := by
  apply Loop.up_zero_ends fun i (g : Frame) => ∀ p, ∀ c < 128, g.seg p c =
    if p < i ∧ within c then byte (f.seg p c) (f.seg (p + 1) c) else f.seg p c
  · intro p c _
    simp
  · intro i g hi hg
    -- the pages below are as they were
    have hstep := hrow i (fun seg f => f.read (i + 1) seg) g (f.seg (i + 1)) (by omega)
      fun seg hseg g' hg' => by
        rw [Frame.read_ok (by omega) hseg, hg' (i + 1) seg (by omega), hg (i + 1) seg hseg]
        simp
    refine hstep.mono fun g' hg' p c hc => ?_
    rw [hg', hg p c hc, hg i c hc]
    by_cases hp : p = i
    · simp [hp]
    · have hiff : p < i + 1 ↔ p < i := by omega
      simp [hp, hiff]

/-- The pages from `n` down to the second one, each from the one above. -/
theorem previous_pages_ends (hrow : RowStep row within byte) {n : ℕ} (hn : n < 8) :
    Ends (Loop.down (fun page => row page fun seg f => f.read (page - 1) seg) n f) fun g =>
      ∀ p, ∀ c < 128, g.seg p c =
        if 0 < p ∧ p ≤ n ∧ within c then byte (f.seg p c) (f.seg (p - 1) c) else f.seg p c := by
  apply Loop.down_ends fun i (g : Frame) => ∀ p, ∀ c < 128, g.seg p c =
    if i < p ∧ p ≤ n ∧ within c then byte (f.seg p c) (f.seg (p - 1) c) else f.seg p c
  · intro p c _
    rw [if_neg fun h => by omega]
  · intro i g hi hg
    -- the pages above are as they were
    have hstep := hrow (i + 1) (fun seg f => f.read (i + 1 - 1) seg) g (f.seg i) (by omega)
      fun seg hseg g' hg' => by
        rw [Nat.add_sub_cancel, Frame.read_ok (by omega) hseg, hg' i seg (by omega), hg i seg hseg,
          if_neg fun h => by omega]
    refine hstep.mono fun g' hg' p c hc => ?_
    rw [hg', hg p c hc, hg (i + 1) c hc]
    by_cases hp : p = i + 1
    · have hin : i + 1 ≤ n := hi
      simp [hp, hin]
    · have hiff : i < p ↔ i + 1 < p ∨ p = i + 1 := by omega
      simp [hp, hiff]

/-- Every page takes from the next one, and the last one from what the first one was. -/
theorem pages_up_ends (hrow : RowStep row within byte) (hpos : 0 < pages) (hle : pages ≤ 8) :
    Ends (do
      let save ← f.readRow 0 0 128
      let f ← Loop.up (fun page => row page fun seg f => f.read (page + 1) seg) 0 (pages - 1) f
      row (pages - 1) (fun seg _ => .ok (save.getD seg 0)) f) fun f' => ∀ p, ∀ c < 128,
        f'.seg p c =
          if p < pages ∧ within c then byte (f.seg p c) (f.seg ((p + 1) % pages) c)
          else f.seg p c := by
  rw [Frame.readRow_ok (by omega) (by omega)]
  have hfirst : Ends (Loop.up (fun page => row page fun seg f => f.read (page + 1) seg) 0
      (pages - 1) f) _ := next_pages_ends hrow (by omega)
  refine hfirst.bind fun g hg => ?_
  have hlast := hrow (pages - 1)
    (fun seg _ => .ok (((List.range' 0 128).map (f.seg 0)).getD seg 0)) g (f.seg 0) (by omega)
    fun seg hseg g' _ => by rw [getD_readRow hseg]
  refine hlast.mono fun f' hf' p c hc => ?_
  rw [hf', hg p c hc, hg (pages - 1) c hc]
  by_cases hp : p = pages - 1
  · subst hp
    have hlt : pages - 1 < pages := by omega
    have hwrap : (pages - 1 + 1) % pages = 0 := by
      rw [Nat.sub_add_cancel hpos, Nat.mod_self]
    simp [hlt, hwrap]
  · have hiff : p < pages - 1 ↔ p < pages := by omega
    by_cases hlt : p < pages
    · have hnext : (p + 1) % pages = p + 1 := Nat.mod_eq_of_lt (by omega)
      simp [hp, hiff, hlt, hnext]
    · simp [hp, hiff, hlt]

/-- Every page takes from the one above, and the first one from what the last one was. -/
theorem pages_down_ends (hrow : RowStep row within byte) (hpos : 0 < pages) (hle : pages ≤ 8) :
    Ends (do
      let save ← f.readRow (pages - 1) 0 128
      let f ← Loop.down (fun page => row page fun seg f => f.read (page - 1) seg) (pages - 1) f
      row 0 (fun seg _ => .ok (save.getD seg 0)) f) fun f' => ∀ p, ∀ c < 128,
        f'.seg p c =
          if p < pages ∧ within c then byte (f.seg p c) (f.seg ((p + (pages - 1)) % pages) c)
          else f.seg p c := by
  rw [Frame.readRow_ok (by omega) (by omega)]
  have hfirst : Ends (Loop.down (fun page => row page fun seg f => f.read (page - 1) seg)
      (pages - 1) f) _ := previous_pages_ends hrow (by omega)
  refine hfirst.bind fun g hg => ?_
  have hlast := hrow 0
    (fun seg _ => .ok (((List.range' 0 128).map (f.seg (pages - 1))).getD seg 0)) g
    (f.seg (pages - 1)) (by omega) fun seg hseg g' _ => by rw [getD_readRow hseg]
  refine hlast.mono fun f' hf' p c hc => ?_
  rw [hf', hg p c hc, hg 0 c hc]
  by_cases hp : p = 0
  · simp [hp, hpos]
  · have hiff : 0 < p ∧ p ≤ pages - 1 ↔ p < pages := by omega
    by_cases hlt : p < pages
    · have hprev : (p + (pages - 1)) % pages = p - 1 := by
        have hsum : p + (pages - 1) = p - 1 + pages := by omega
        rw [hsum, Nat.add_mod_right, Nat.mod_eq_of_lt (by omega)]
      simp [hp, ← and_assoc, hiff, hlt, hprev]
    · simp [hp, ← and_assoc, hiff, hlt]

end Pages

/-- The same column rotation on a range of pages. -/
theorem over_pages_ends {body : ℕ → Frame → Except OledFault Frame} {source : ℕ → ℕ} {f : Frame}
    {start stop : ℤ} (hsource : ∀ c < 128, source c < 128)
    (hbody : ∀ page < 8, ∀ f : Frame, Ends (body page f) fun f' => ∀ p, ∀ c < 128,
      f'.seg p c = if p = page then f.seg p (source c) else f.seg p c)
    (h0 : 0 ≤ start) (hstop : stop < 8) :
    Ends (overIndices start stop body f) fun f' => ∀ p, ∀ c < 128, f'.seg p c =
      if start ≤ p ∧ p ≤ stop then f.seg p (source c) else f.seg p c := by
  unfold overIndices
  by_cases hempty : stop < start
  · rw [if_pos hempty]
    refine Ends.ok fun p c _ => ?_
    rw [if_neg fun h => by omega]
  · rw [if_neg hempty, if_neg (by omega)]
    have hloop : Ends (Loop.up body start.toNat (stop + 1 - start).toNat f) fun f' =>
        ∀ p, ∀ c < 128, f'.seg p c =
          if start ≤ p ∧ p < start.toNat + (stop + 1 - start).toNat then f.seg p (source c)
          else f.seg p c := by
      apply Loop.up_ends fun i (g : Frame) => ∀ p, ∀ c < 128, g.seg p c =
        if start ≤ p ∧ p < i then f.seg p (source c) else f.seg p c
      · intro p c _
        rw [if_neg fun h => by omega]
      · intro i g hlo hi hg
        refine (hbody i (by omega) g).mono fun g' hg' p c hc => ?_
        rw [hg' p c hc, hg p c hc, hg p (source c) (hsource c hc)]
        by_cases hp : p = i
        · have hin : start ≤ (i : ℤ) := by omega
          simp [hp, hin]
        · have hiff : p < i + 1 ↔ p < i := by omega
          simp [hp, hiff]
    refine hloop.mono fun f' hf' p c hc => ?_
    have hiff : p < start.toNat + (stop + 1 - start).toNat ↔ (p : ℤ) ≤ stop := by omega
    simp [hf' p c hc, hiff]

/-! ## Bits -/

section Bytes

variable (flip : Bool) (a b : UInt8) {k : ℕ}

/-- One pixel further up, the lowest one from the segment below. -/
theorem bitAt_scrollUpByte (hk : k < 8) :
    bitAt (upright flip (scrollUpByte flip a b)) k =
      if k < 7 then bitAt (upright flip a) (k + 1) else bitAt (upright flip b) 0 := by
  have hor : ∀ x y : UInt8, bitAt ((x >>> 1) ||| ((y &&& 0x01) <<< 7)) k =
      if k < 7 then bitAt x (k + 1) else bitAt y 0 := by
    intro x y
    by_cases hlt : k < 7
    · simp [bitAt, hlt, Nat.add_comm]
    · have hlast : k = 7 := by omega
      subst hlast
      simp [bitAt]
  simpa [scrollUpByte] using hor (upright flip a) (upright flip b)

/-- One pixel further down, the uppermost one from the segment above. -/
theorem bitAt_scrollDownByte (hk : k < 8) :
    bitAt (upright flip (scrollDownByte flip a b)) k =
      if k = 0 then bitAt (upright flip b) 7 else bitAt (upright flip a) (k - 1) := by
  have hor : ∀ x y : UInt8, bitAt ((x <<< 1) ||| ((y &&& 0x80) >>> 7)) k =
      if k = 0 then bitAt y 7 else bitAt x (k - 1) := by
    intro x y
    by_cases hzero : k = 0
    · subst hzero
      simp [bitAt]
    · have hlt : k - 1 < 8 := by omega
      have hnone : y.toBitVec.getLsbD (7 + k) = false := BitVec.getLsbD_of_ge _ _ (by omega)
      simp [bitAt, hk, hzero, hnone, BitVec.getLsbD_eq_getElem hlt]
  simpa [scrollDownByte] using hor (upright flip a) (upright flip b)

end Bytes

/-! ## Pixels -/

/-- Where the pixel in column `x` and row `y` comes from. -/
def wrapSource (dev : Ssd1306Dev) (scroll : ScrollType) (start stop : ℤ) (x y : ℕ) : ℕ × ℕ :=
  let rows := 8 * dev.pages
  let page := y / 8
  match scroll with
  | .right => if start ≤ page ∧ page ≤ stop ∧ y < rows then ((x + 127) % 128, y) else (x, y)
  | .left => if start ≤ page ∧ page ≤ stop ∧ y < rows then ((x + 1) % 128, y) else (x, y)
  | .up =>
      if start ≤ x ∧ x ≤ stop ∧ x < dev.width ∧ y < rows then (x, (y + 1) % rows) else (x, y)
  | .down =>
      if start ≤ x ∧ x ≤ stop ∧ x < dev.width ∧ y < rows then (x, (y + (rows - 1)) % rows)
      else (x, y)
  | .pageUp => if y < rows then (x, (y + 8) % rows) else (x, y)
  | .pageDown => if y < rows then (x, (y + (rows - 8)) % rows) else (x, y)
  | .stop => (x, y)

/-- The buffer of a device as its display shows it. -/
def Ssd1306Dev.pixel (dev : Ssd1306Dev) (x y : ℕ) : Bool :=
  dev.page.pixel dev.flip x y

/-- A device whose panel fits the buffer. -/
structure Ssd1306Dev.Fits (dev : Ssd1306Dev) : Prop where
  pages_pos : 0 < dev.pages
  pages_le : dev.pages ≤ 8
  width_le : dev.width ≤ 128

section Pixels

variable {dev : Ssd1306Dev} {start stop : ℤ}

/-- A pixel in a row that was counted on and came round. -/
theorem pixel_mod_rows (x m : ℕ) : dev.pixel x (m % (8 * dev.pages)) =
    bitAt (upright dev.flip (dev.page.seg (m / 8 % dev.pages) x)) (m % 8) := by
  have hpage : m % (8 * dev.pages) / 8 = m / 8 % dev.pages := by
    rw [Nat.mod_mul]
    omega
  rw [Ssd1306Dev.pixel, Frame.pixel, hpage, Nat.mod_mul_right_mod]

theorem clipEnd_lt {count bound : ℕ} (h : count ≤ bound) : clipEnd count stop < bound := by
  unfold clipEnd
  split <;> omega

theorem le_clipEnd_iff {count n : ℕ} : (n : ℤ) ≤ clipEnd count stop ↔ n ≤ stop ∧ n < count := by
  unfold clipEnd
  split <;> omega

/-- A column rotation of a range of pages. -/
theorem columns_ends {body : ℕ → Frame → Except OledFault Frame} (source : ℕ → ℕ) (hdev : dev.Fits)
    (h0 : 0 ≤ start) (hsource : ∀ c < 128, source c < 128)
    (hbody : ∀ page < 8, ∀ f : Frame, Ends (body page f) fun f' => ∀ p, ∀ c < 128,
      f'.seg p c = if p = page then f.seg p (source c) else f.seg p c) :
    Ends (overIndices start (clipEnd dev.pages stop) body dev.page) fun f' =>
      ∀ x < 128, ∀ y < 64, f'.pixel dev.flip x y =
        if start ≤ (y / 8 : ℕ) ∧ (y / 8 : ℕ) ≤ stop ∧ y < 8 * dev.pages then dev.pixel (source x) y
        else dev.pixel x y := by
  have hstop : clipEnd dev.pages stop < 8 := clipEnd_lt hdev.pages_le
  refine (over_pages_ends hsource hbody h0 hstop).mono fun f' hf' x hx y _ => ?_
  have hrow : y / 8 < dev.pages ↔ y < 8 * dev.pages := by omega
  simp only [Frame.pixel, hf' (y / 8) x hx, le_clipEnd_iff, hrow]
  split <;> rfl

/-- A rotation of the rows by one in a range of columns, upwards. -/
theorem rows_up_ends (hdev : dev.Fits) (h0 : 0 ≤ start) :
    Ends (scrollUp dev.flip dev.pages start (clipEnd dev.width stop) dev.page) fun f' =>
      ∀ x < 128, ∀ y < 64, f'.pixel dev.flip x y =
        if start ≤ x ∧ x ≤ stop ∧ x < dev.width ∧ y < 8 * dev.pages then
          dev.pixel x ((y + 1) % (8 * dev.pages))
        else dev.pixel x y := by
  have hpos := hdev.pages_pos
  have hstop : clipEnd dev.width stop < 128 := clipEnd_lt hdev.width_le
  have hrow := scrollSegments_rowStep (scrollUpByte dev.flip) h0 hstop
  unfold scrollUp
  simp only [hpos.ne', false_and, if_false]
  refine (pages_up_ends hrow hpos hdev.pages_le).mono fun f' hf' x hx y _ => ?_
  have hpage : y / 8 < dev.pages ↔ y < 8 * dev.pages := by omega
  have hcond : (y / 8 < dev.pages ∧ start ≤ x ∧ x ≤ clipEnd dev.width stop) ↔
      start ≤ x ∧ x ≤ stop ∧ x < dev.width ∧ y < 8 * dev.pages := by
    rw [le_clipEnd_iff, hpage]
    tauto
  rw [Frame.pixel, hf' (y / 8) x hx]
  by_cases hin : start ≤ x ∧ x ≤ stop ∧ x < dev.width ∧ y < 8 * dev.pages
  · rw [if_pos (hcond.2 hin), if_pos hin, bitAt_scrollUpByte _ _ _ (by omega)]
    rw [pixel_mod_rows]
    have hmod : y / 8 % dev.pages = y / 8 := Nat.mod_eq_of_lt (hpage.2 hin.2.2.2)
    by_cases hlt : y % 8 < 7
    · -- inside the page
      have hsame : (y + 1) / 8 = y / 8 := by omega
      have hbit : (y + 1) % 8 = y % 8 + 1 := by omega
      rw [if_pos hlt, hsame, hbit, hmod]
    · -- from the uppermost pixel of the next page
      have hnext : (y + 1) / 8 = y / 8 + 1 := by omega
      have hbit : (y + 1) % 8 = 0 := by omega
      rw [if_neg hlt, hnext, hbit]
  · rw [if_neg fun h => hin (hcond.1 h), if_neg hin]
    rfl

/-- A rotation of the rows by one in a range of columns, downwards. -/
theorem rows_down_ends (hdev : dev.Fits) (h0 : 0 ≤ start) :
    Ends (scrollDown dev.flip dev.pages start (clipEnd dev.width stop) dev.page) fun f' =>
      ∀ x < 128, ∀ y < 64, f'.pixel dev.flip x y =
        if start ≤ x ∧ x ≤ stop ∧ x < dev.width ∧ y < 8 * dev.pages then
          dev.pixel x ((y + (8 * dev.pages - 1)) % (8 * dev.pages))
        else dev.pixel x y := by
  have hpos := hdev.pages_pos
  have hstop : clipEnd dev.width stop < 128 := clipEnd_lt hdev.width_le
  have hrow := scrollSegments_rowStep (scrollDownByte dev.flip) h0 hstop
  unfold scrollDown
  simp only [hpos.ne', if_false]
  refine (pages_down_ends hrow hpos hdev.pages_le).mono fun f' hf' x hx y _ => ?_
  have hpage : y / 8 < dev.pages ↔ y < 8 * dev.pages := by omega
  have hcond : (y / 8 < dev.pages ∧ start ≤ x ∧ x ≤ clipEnd dev.width stop) ↔
      start ≤ x ∧ x ≤ stop ∧ x < dev.width ∧ y < 8 * dev.pages := by
    rw [le_clipEnd_iff, hpage]
    tauto
  rw [Frame.pixel, hf' (y / 8) x hx]
  by_cases hin : start ≤ x ∧ x ≤ stop ∧ x < dev.width ∧ y < 8 * dev.pages
  · rw [if_pos (hcond.2 hin), if_pos hin, bitAt_scrollDownByte _ _ _ (by omega)]
    rw [pixel_mod_rows]
    have hmod : (y / 8 + dev.pages) % dev.pages = y / 8 := by
      rw [Nat.add_mod_right, Nat.mod_eq_of_lt (hpage.2 hin.2.2.2)]
    by_cases hzero : y % 8 = 0
    · -- from the lowest pixel of the page above
      have hprev : (y + (8 * dev.pages - 1)) / 8 = y / 8 + (dev.pages - 1) := by omega
      have hbit : (y + (8 * dev.pages - 1)) % 8 = 7 := by omega
      rw [if_pos hzero, hprev, hbit]
    · -- inside the page
      have hsame : (y + (8 * dev.pages - 1)) / 8 = y / 8 + dev.pages := by omega
      have hbit : (y + (8 * dev.pages - 1)) % 8 = y % 8 - 1 := by omega
      rw [if_neg hzero, hsame, hbit, hmod]
  · rw [if_neg fun h => hin (hcond.1 h), if_neg hin]
    rfl

/-- A rotation of the pages by one. -/
theorem pages_ends {frame : Except OledFault Frame} {n : ℕ}
    (hframe : Ends frame fun f' => ∀ p, ∀ c < 128, f'.seg p c =
      if p < dev.pages ∧ c < 128 then dev.page.seg ((p + n) % dev.pages) c else dev.page.seg p c) :
    Ends frame fun f' => ∀ x < 128, ∀ y < 64, f'.pixel dev.flip x y =
      if y < 8 * dev.pages then dev.pixel x ((y + 8 * n) % (8 * dev.pages)) else dev.pixel x y := by
  refine hframe.mono fun f' hf' x hx y _ => ?_
  have hpage : y / 8 < dev.pages ↔ y < 8 * dev.pages := by omega
  have hrow : (y + 8 * n) / 8 = y / 8 + n := by omega
  have hbit : (y + 8 * n) % 8 = y % 8 := by omega
  rw [Frame.pixel, hf' (y / 8) x hx, pixel_mod_rows, hrow, hbit]
  by_cases hin : y < 8 * dev.pages
  · rw [if_pos ⟨hpage.2 hin, hx⟩, if_pos hin]
  · rw [if_neg fun h => hin (hpage.1 h.1), if_neg hin]
    rfl

theorem pageScrollUp_ends (hdev : dev.Fits) :
    Ends (pageScrollUp dev.pages dev.page) fun f' => ∀ p, ∀ c < 128, f'.seg p c =
      if p < dev.pages ∧ c < 128 then dev.page.seg ((p + 1) % dev.pages) c
      else dev.page.seg p c := by
  have hpages : ¬ dev.pages = 0 := hdev.pages_pos.ne'
  unfold pageScrollUp
  simp only [hpages, if_false]
  exact pages_up_ends fillPage_rowStep hdev.pages_pos hdev.pages_le

theorem pageScrollDown_ends (hdev : dev.Fits) :
    Ends (pageScrollDown dev.pages dev.page) fun f' => ∀ p, ∀ c < 128, f'.seg p c =
      if p < dev.pages ∧ c < 128 then dev.page.seg ((p + (dev.pages - 1)) % dev.pages) c
      else dev.page.seg p c := by
  have hpages : ¬ dev.pages = 0 := hdev.pages_pos.ne'
  unfold pageScrollDown
  simp only [hpages, if_false]
  exact pages_down_ends fillPage_rowStep hdev.pages_pos hdev.pages_le

/-- Every way to scroll ends inside the arrays and moves pixels only. -/
theorem wrapFrame_ends (hdev : dev.Fits) (scroll : ScrollType) (h0 : 0 ≤ start) :
    Ends (wrapFrame dev scroll start stop) fun f' => ∀ x < 128, ∀ y < 64,
      f'.pixel dev.flip x y = dev.pixel (wrapSource dev scroll start stop x y).1
        (wrapSource dev scroll start stop x y).2 := by
  cases scroll with
  | right =>
      refine (columns_ends (fun c => (c + 127) % 128) hdev h0
        (fun c _ => Nat.mod_lt _ (by omega)) fun page hp f => scrollPageRight_ends hp).mono ?_
      intro f' hf' x hx y hy
      rw [hf' x hx y hy, wrapSource]
      split <;> rfl
  | left =>
      refine (columns_ends (fun c => (c + 1) % 128) hdev h0
        (fun c _ => Nat.mod_lt _ (by omega)) fun page hp f => scrollPageLeft_ends hp).mono ?_
      intro f' hf' x hx y hy
      rw [hf' x hx y hy, wrapSource]
      split <;> rfl
  | up =>
      refine (rows_up_ends hdev h0).mono fun f' hf' x hx y hy => ?_
      rw [hf' x hx y hy, wrapSource]
      split <;> rfl
  | down =>
      refine (rows_down_ends hdev h0).mono fun f' hf' x hx y hy => ?_
      rw [hf' x hx y hy, wrapSource]
      split <;> rfl
  | pageUp =>
      refine (pages_ends (pageScrollUp_ends hdev)).mono fun f' hf' x hx y hy => ?_
      rw [hf' x hx y hy, wrapSource]
      split <;> rfl
  | pageDown =>
      refine (pages_ends (pageScrollDown_ends hdev)).mono fun f' hf' x hx y hy => ?_
      have hrows : 8 * (dev.pages - 1) = 8 * dev.pages - 8 := by omega
      rw [hf' x hx y hy, wrapSource, hrows]
      split <;> rfl
  | stop =>
      exact Ends.ok fun x _ y _ => rfl

end Pixels

/-! ## The whole call -/

/-- What a call that shows the buffer asks for, page by page. -/
def shownPages (f : Frame) (pages : ℕ) (delay : ℤ) : List DisplayCall :=
  (List.range pages).flatMap fun page =>
    .image page 0 ((List.range' 0 128).map (f.seg page)) :: if delay ≠ 0 then [.delay delay] else []

theorem shownPages_succ (f : Frame) (n : ℕ) (delay : ℤ) :
    shownPages f (n + 1) delay = shownPages f n delay ++
      .image n 0 ((List.range' 0 128).map (f.seg n)) ::
        if delay ≠ 0 then [.delay delay] else [] := by
  simp only [shownPages, List.range_succ, List.flatMap_append, List.flatMap_singleton]

theorem showPages_ends (s : Screen) (delay : ℤ) (hpages : s.dev.pages ≤ 8) :
    Ends (Loop.up (fun page (s : Screen) => do
      let segs ← s.dev.page.readRow page 0 128
      let s := s.displayImage page 0 segs
      return if delay ≠ 0 then s.vTaskDelay delay else s) 0 s.dev.pages s) fun s' =>
        s' = ⟨s.dev, s.calls ++ shownPages s.dev.page s.dev.pages delay⟩ := by
  apply Loop.up_zero_ends fun i (t : Screen) =>
    t = ⟨s.dev, s.calls ++ shownPages s.dev.page i delay⟩
  · simp [shownPages]
  · intro i t hi ht
    subst ht
    rw [Frame.readRow_ok (by omega) (by omega)]
    refine Ends.ok ?_
    rw [shownPages_succ, ← List.append_assoc]
    by_cases hdelay : delay = 0
    · simp only [Screen.displayImage, hdelay, ne_eq, not_true, if_false, List.append_assoc]
    · simp only [Screen.displayImage, Screen.vTaskDelay, hdelay, ne_eq, not_false_eq_true, if_true,
        List.append_assoc, List.cons_append, List.nil_append]

/-- What is known of the new buffer is known of the call. -/
theorem wrapArround_ends {s : Screen} {scroll : ScrollType} {start stop : ℤ} {P : Frame → Prop}
    (hpages : s.dev.pages ≤ 8) (hframe : Ends (wrapFrame s.dev scroll start stop) P) (delay : ℤ) :
    Ends (ssd1306WrapArround scroll start stop delay s) fun s' => ∃ f', P f' ∧
      s' = ⟨{ s.dev with page := f' },
        s.calls ++ if 0 ≤ delay then shownPages f' s.dev.pages delay else []⟩ := by
  refine hframe.bind fun f' hf' => ?_
  by_cases hdelay : 0 ≤ delay
  · rw [if_pos hdelay]
    have hshow := showPages_ends (s.setPage f') delay hpages
    refine hshow.mono fun s' hs' => ⟨f', hf', ?_⟩
    rw [hs', if_pos hdelay]
    rfl
  · rw [if_neg hdelay]
    exact Ends.ok ⟨f', hf', by simp [hdelay, Screen.setPage]⟩

/-- For every device, direction, range and delay: the call stays inside the arrays, takes every pixel
from where `wrapSource` says, and shows the new buffer page by page unless the delay is negative. -/
theorem wrap_arround_moves_pixels {s : Screen} (hdev : s.dev.Fits) (scroll : ScrollType)
    {start : ℤ} (h0 : 0 ≤ start) (stop delay : ℤ) :
    Ends (ssd1306WrapArround scroll start stop delay s) fun s' =>
      s'.dev = { s.dev with page := s'.dev.page } ∧
      (∀ x < 128, ∀ y < 64, s'.dev.pixel x y =
        s.dev.pixel (wrapSource s.dev scroll start stop x y).1
          (wrapSource s.dev scroll start stop x y).2) ∧
      s'.calls = s.calls ++
        if 0 ≤ delay then shownPages s'.dev.page s.dev.pages delay else [] := by
  refine (wrapArround_ends hdev.pages_le (wrapFrame_ends hdev scroll h0) delay).mono ?_
  rintro s' ⟨f', hf', rfl⟩
  exact ⟨rfl, hf', rfl⟩

theorem panel128x64_fits : Ssd1306Dev.panel128x64.Fits := by
  constructor <;> decide

/-- Columns 16 to 23 of the default panel scroll up. -/
theorem wrap_arround_moves_pixels_up :
    let s : Screen := ⟨.panel128x64, []⟩
    Ends (ssd1306WrapArround .up 16 23 0 s) fun s' =>
      s'.dev = { s.dev with page := s'.dev.page } ∧
      (∀ x < 128, ∀ y < 64, s'.dev.pixel x y =
        s.dev.pixel (wrapSource s.dev .up 16 23 x y).1 (wrapSource s.dev .up 16 23 x y).2) ∧
      s'.calls = s.calls ++ if (0 : ℤ) ≤ 0 then shownPages s'.dev.page s.dev.pages 0 else [] :=
  wrap_arround_moves_pixels panel128x64_fits .up (by decide) 23 0

end Oled
end MainboardFirmware
