import MainboardFirmware.Oled.Wrap

/-!
# Bitmap — `_ssd1306_bitmaps` and `ssd1306_bitmaps`

A bitmap is given row by row with eight pixels a byte, the buffer holds eight rows a byte, so a bitmap
goes over bit by bit. The page, the segment and the bit are bytes that the loops step on their own; the
result is that a bitmap that fits the buffer lies at its place, cut off at the lower edge of the
panel, and that no other pixel changes.
-/

namespace MainboardFirmware
namespace Oled

/-! ## The code -/

/-- The loop over the bits of one byte of the bitmap with `n` bits left: the segment it ends at and
the buffer. Leaving the panel ends the loop, but the buffer is read there before. -/
def blitByte (dev : Ssd1306Dev) (wk1 page dstBits : UInt8) :
    ℕ → UInt8 → Frame → Except OledFault (UInt8 × Frame)
  | 0, seg, f => .ok (seg, f)
  | n + 1, seg, f =>
      f.read page.toNat seg.toNat >>= fun wk0 =>
        let wk2 := upright dev.flip
          (ssd1306CopyBit wk1 (UInt8.ofNat n) (upright dev.flip wk0) dstBits)
        if 128 ≤ seg then .ok (seg, f)
        else if dev.pages ≤ page.toNat then .ok (seg, f)
        else f.write page.toNat seg.toNat wk2 >>= blitByte dev wk1 page dstBits n (seg + 1)

/-- `bitmap[i]`, inverted if asked. -/
def bitmapByte (bitmap : List UInt8) (invert : Bool) (i : ℕ) : Except OledFault UInt8 :=
  match bitmap[i]? with
  | none => .error .source
  | some wk1 => .ok (if invert = true then ~~~wk1 else wk1)

/-- The loop over the `_width` bytes of one row. -/
def blitRow (dev : Ssd1306Dev) (bitmap : List UInt8) (invert : Bool) (offset width : ℕ)
    (page dstBits seg : UInt8) (f : Frame) : Except OledFault (UInt8 × Frame) :=
  Loop.up (fun index (seg, f) => do
    let wk1 ← bitmapByte bitmap invert (index + offset)
    blitByte dev wk1 page dstBits 8 seg f) 0 width (seg, f)

/-- The variables of the loop over the rows. -/
structure BlitRows where
  page : UInt8
  dstBits : UInt8
  frame : Frame

/-- The end of a round: after eight rows the next page begins. -/
def BlitRows.nextRow (s : BlitRows) (frame : Frame) : BlitRows :=
  if s.dstBits + 1 = 8 then ⟨s.page + 1, 0, frame⟩ else ⟨s.page, s.dstBits + 1, frame⟩

/-- The buffer after `_ssd1306_bitmaps`. -/
def bitmapsFrame (dev : Ssd1306Dev) (xpos ypos : ℕ) (bitmap : List UInt8) (width height : ℕ)
    (invert : Bool) : Except OledFault Frame :=
  if width % 8 ≠ 0 then .ok dev.page
  else do
    let rows : BlitRows := ⟨UInt8.ofNat (ypos / 8), UInt8.ofNat (ypos % 8), dev.page⟩
    let rows ← Loop.up (fun row (s : BlitRows) => do
      let (_, frame) ← blitRow dev bitmap invert (row * (width / 8)) (width / 8) s.page s.dstBits
        (UInt8.ofNat xpos) s.frame
      return s.nextRow frame) 0 height rows
    return rows.frame

/-- One round of the loop of `ssd1306_bitmaps` that shows the pages from `startPage` to `endPage`:
the segments from `segStart` up to `segStop`, which is one behind the last. -/
def showBitmapPage (startPage endPage xpos width page : ℕ) (s : Screen) : Except OledFault Screen :=
  let segStart := if page = startPage then xpos else 0
  let segStop := if page = endPage then xpos + width else 128
  -- a negative width becomes a huge one
  if segStop < segStart then .error .pageArray
  else do
    let images ← s.dev.page.readRow page segStart (segStop - segStart)
    ssd1306DisplayImage page segStart images s

/-- `ssd1306_bitmaps`: the bitmap into the buffer, and the pages it touches to the panel. -/
def ssd1306Bitmaps (xpos ypos : ℕ) (bitmap : List UInt8) (width height : ℕ) (invert : Bool)
    (s : Screen) : Except OledFault Screen := do
  let s := s.setPage (← bitmapsFrame s.dev xpos ypos bitmap width height invert)
  let startPage := ypos / 8
  let endPage := (ypos + height - 1) / 8
  Loop.up (showBitmapPage startPage endPage xpos width) startPage (endPage + 1 - startPage) s

/-! ## One bit -/

/-- One bit of the result is the bit of the source, the others are as they were. -/
theorem bitAt_copyBit (src dst : UInt8) {n d k : ℕ} (hn : n < 8) (hd : d < 8) (hk : k < 8) :
    bitAt (ssd1306CopyBit src (UInt8.ofNat n) dst (UInt8.ofNat d)) k =
      if k = d then bitAt src n else bitAt dst k := by
  have hcopy : ssd1306CopyBit src (UInt8.ofNat n) dst (UInt8.ofNat d) =
      Bits.writeBit dst (UInt8.ofNat d) (Bits.testBit src (UInt8.ofNat n)) := by
    simp [ssd1306CopyBit, Bits.writeBit, Bits.testBit, Bits.setBit, Bits.clearBit]
  rw [hcopy, bitAt_writeBit _ hd hk, testBit_eq_bitAt _ hn]

/-! ## One byte -/

section Blit

variable {dev : Ssd1306Dev} {f : Frame}

/-- The part of row `row` of the panel in the `n` columns from `col` on. -/
def rowPart (dev : Ssd1306Dev) (row col n : ℕ) : Set (ℕ × ℕ) :=
  {q | q.2 = row ∧ row < 8 * dev.pages ∧ col ≤ q.1 ∧ q.1 < col + n}

theorem rowPart_zero (row col : ℕ) : rowPart dev row col 0 = ∅ := by
  ext q
  simp only [rowPart, Set.mem_ofPred_eq, Set.mem_empty_iff_false, iff_false]
  omega

/-- Below the panel there is none. -/
theorem rowPart_off {page col d n : ℕ} (hoff : dev.pages ≤ page) :
    rowPart dev (8 * page + d) col n = ∅ := by
  ext q
  simp only [rowPart, Set.mem_ofPred_eq, Set.mem_empty_iff_false, iff_false]
  omega

/-- On the panel the first bit has its column, the others those behind it. -/
theorem rowPart_succ {page col d n : ℕ} (hd : d < 8) (hpage : page < dev.pages) :
    rowPart dev (8 * page + d) col (n + 1) =
      {(col, 8 * page + d)} ∪ rowPart dev (8 * page + d) (col + 1) n := by
  ext ⟨x, y⟩
  simp only [rowPart, Set.mem_ofPred_eq, Set.mem_union, Set.mem_singleton_iff, Prod.mk.injEq]
  omega

/-- The bits go to consecutive segments, the highest first. Below the panel the loop stays where it
is. -/
theorem blitByte_ends (wk1 : UInt8) {page seg : UInt8} {d n : ℕ} (hd : d < 8) (hn : n ≤ 8)
    (hpage : page.toNat < 8) (hseg : seg.toNat + n ≤ 128) :
    Ends (blitByte dev wk1 page (UInt8.ofNat d) n seg f) fun r =>
      r.1.toNat = seg.toNat + (if page.toNat < dev.pages then n else 0) ∧
      Paints (rowPart dev (8 * page.toNat + d) seg.toNat n)
        (fun q => bitAt wk1 (seg.toNat + n - 1 - q.1)) (f.raster dev.flip) (r.2.raster dev.flip) := by
  induction n generalizing seg f with
  | zero =>
      rw [rowPart_zero, ite_self]
      exact Ends.ok ⟨rfl, Paints.nothing _ _⟩
  | succ n ih =>
      have hcol : ¬ 128 ≤ seg := by
        rw [UInt8.le_iff_toNat_le]
        simp only [UInt8.reduceToNat]
        omega
      rw [blitByte, Frame.read_ok hpage (by omega)]
      change Ends (if 128 ≤ seg then _ else _) _
      rw [if_neg hcol]
      by_cases hoff : dev.pages ≤ page.toNat
      · have hbelow : ¬ page.toNat < dev.pages := by omega
        rw [if_pos hoff, rowPart_off hoff, if_neg hbelow]
        exact Ends.ok ⟨rfl, Paints.nothing _ _⟩
      · have hin : page.toNat < dev.pages := by omega
        have hnext : (seg + 1).toNat = seg.toNat + 1 := by
          rw [UInt8.toNat_add, UInt8.toNat_one]
          omega
        have hbits : ∀ k < 8, bitAt (upright dev.flip (upright dev.flip (ssd1306CopyBit wk1
            (UInt8.ofNat n) (upright dev.flip (f.seg page.toNat seg.toNat)) (UInt8.ofNat d)))) k =
              if k = d then bitAt wk1 n
              else bitAt (upright dev.flip (f.seg page.toNat seg.toNat)) k := by
          intro k hk
          rw [upright_upright, bitAt_copyBit wk1 _ (by omega) hd hk]
        rw [if_neg hoff]
        refine (Frame.write_paints hpage (by omega) hd hbits).bind fun g hg => ?_
        refine (ih (by omega) (by omega)).mono fun r hr => ?_
        rw [hnext] at hr
        rw [if_pos hin] at hr ⊢
        refine ⟨by omega, ?_⟩
        rw [rowPart_succ hd hin]
        refine Paints.union (hg.congr_value ?_) (hr.2.congr_value ?_)
        · rintro q rfl
          have hbit : seg.toNat + (n + 1) - 1 - seg.toNat = n := by omega
          simp only [hbit]
        · intro q _
          have hbit : seg.toNat + 1 + n - 1 - q.1 = seg.toNat + (n + 1) - 1 - q.1 := by omega
          rw [hbit]

/-! ## One row -/

/-- The pixel in column `x` and row `y` of a bitmap with `width` bytes a row. -/
def bitmapPixel (bitmap : List UInt8) (invert : Bool) (width x y : ℕ) : Bool :=
  bitAt (bitmap.getD (y * width + x / 8) 0) (7 - x % 8) ^^ invert

theorem bitmapByte_ends {bitmap : List UInt8} (invert : Bool) {i : ℕ} (hi : i < bitmap.length) :
    Ends (bitmapByte bitmap invert i) fun wk1 =>
      ∀ k < 8, bitAt wk1 k = (bitAt (bitmap.getD i 0) k ^^ invert) := by
  have hget : bitmap.getD i 0 = bitmap[i] := by
    simp [List.getD_eq_getElem?_getD, hi]
  rw [bitmapByte, List.getElem?_eq_getElem hi, hget]
  refine Ends.ok fun k hk => ?_
  cases invert with
  | false => simp
  | true => simp [hk]

/-- The bytes of a row lie side by side. -/
theorem rowPart_bytes (row col width : ℕ) :
    {q | ∃ index < width, q ∈ rowPart dev row (col + 8 * index) 8} =
      rowPart dev row col (8 * width) := by
  ext q
  simp only [rowPart, Set.mem_ofPred_eq]
  constructor
  · rintro ⟨index, hindex, hrow, hpanel, hlo, hhi⟩
    exact ⟨hrow, hpanel, by omega, by omega⟩
  · rintro ⟨hrow, hpanel, hlo, hhi⟩
    exact ⟨(q.1 - col) / 8, by omega, hrow, hpanel, by omega, by omega⟩

theorem blitRow_ends {bitmap : List UInt8} {invert : Bool} {y width d : ℕ} {page seg : UInt8}
    (hd : d < 8) (hpage : page.toNat < 8) (hseg : seg.toNat + 8 * width ≤ 128)
    (hlen : y * width + width ≤ bitmap.length) :
    Ends (blitRow dev bitmap invert (y * width) width page (UInt8.ofNat d) seg f) fun r =>
      Paints (rowPart dev (8 * page.toNat + d) seg.toNat (8 * width))
        (fun q => bitmapPixel bitmap invert width (q.1 - seg.toNat) y)
        (f.raster dev.flip) (r.2.raster dev.flip) := by
  unfold blitRow
  rw [← rowPart_bytes]
  -- below the panel the segment stays, on it byte `index` starts `8 * index` columns on
  refine (Loop.up_paints
    (fun index (r : UInt8 × Frame) =>
      r.1.toNat = seg.toNat + if page.toNat < dev.pages then 8 * index else 0)
    (fun r => r.2.raster dev.flip)
    (fun index => rowPart dev (8 * page.toNat + d) (seg.toNat + 8 * index) 8)
    (fun q => bitmapPixel bitmap invert width (q.1 - seg.toNat) y) (by simp) ?_).mono
    fun r hr => hr.2
  rintro index ⟨seg', f'⟩ hindex (hseg' : seg'.toNat = _)
  refine (bitmapByte_ends invert (by omega)).bind fun wk1 hwk1 => ?_
  have hinside : seg'.toNat + 8 ≤ 128 := by
    rw [hseg']
    split <;> omega
  refine (blitByte_ends wk1 hd (Nat.le_refl 8) hpage hinside).mono fun r hr => ?_
  by_cases hin : page.toNat < dev.pages
  · rw [if_pos hin] at hr hseg' ⊢
    refine ⟨by omega, ?_⟩
    rw [hseg'] at hr
    refine hr.2.congr_value fun q hq => ?_
    rcases hq with ⟨-, -, hlo, hhi⟩
    have hbyte : (q.1 - seg.toNat) / 8 = index := by omega
    have hbit : seg.toNat + 8 * index + 8 - 1 - q.1 = 7 - (q.1 - seg.toNat) % 8 := by omega
    rw [hbit, hwk1 _ (by omega), bitmapPixel, hbyte, Nat.add_comm index]
  · rw [if_neg hin] at hr hseg' ⊢
    have hoff : dev.pages ≤ page.toNat := by omega
    refine ⟨by omega, ?_⟩
    rw [rowPart_off hoff] at hr ⊢
    exact hr.2.congr_value fun q hq => hq.elim

/-! ## The bitmap -/

/-- The pixels of the panel that a bitmap lies on. -/
def bitmapArea (dev : Ssd1306Dev) (xpos ypos width height : ℕ) : Set (ℕ × ℕ) :=
  {q | xpos ≤ q.1 ∧ q.1 < xpos + width ∧ ypos ≤ q.2 ∧ q.2 < ypos + height ∧ q.2 < 8 * dev.pages}

theorem bitmapArea_rows (xpos ypos width height : ℕ) :
    {q | ∃ row < height, q ∈ rowPart dev (ypos + row) xpos width} =
      bitmapArea dev xpos ypos width height := by
  ext q
  simp only [rowPart, bitmapArea, Set.mem_ofPred_eq]
  constructor
  · rintro ⟨row, hrow, heq, hpanel, hlo, hhi⟩
    omega
  · rintro ⟨hlo, hhi, htop, hbottom, hpanel⟩
    exact ⟨q.2 - ypos, by omega, by omega, by omega, hlo, hhi⟩

/-- The page and the bit are those of the row. -/
def BlitRows.At (s : BlitRows) (row : ℕ) : Prop :=
  s.page.toNat = row / 8 ∧ s.dstBits = UInt8.ofNat (row % 8)

theorem BlitRows.nextRow_at {s : BlitRows} {row : ℕ} (frame : Frame) (hrow : row < 64)
    (hs : s.At row) : (s.nextRow frame).At (row + 1) := by
  rcases hs with ⟨hpage, hbits⟩
  have hstep : UInt8.ofNat (row % 8) + 1 = UInt8.ofNat (row % 8 + 1) := by
    rw [UInt8.ofNat_add]
    rfl
  have hwrap : UInt8.ofNat (row % 8 + 1) = 8 ↔ row % 8 = 7 := by
    rw [← UInt8.toNat_inj, UInt8.toNat_ofNat']
    simp only [UInt8.reduceToNat]
    omega
  unfold nextRow
  rw [hbits, hstep]
  by_cases hlast : row % 8 = 7
  · have hbit : (row + 1) % 8 = 0 := by omega
    rw [if_pos (hwrap.2 hlast), At, hbit, UInt8.toNat_add, UInt8.toNat_one]
    exact ⟨by omega, rfl⟩
  · have hbit : (row + 1) % 8 = row % 8 + 1 := by omega
    have hsame : s.page.toNat = (row + 1) / 8 := by omega
    rw [if_neg (mt hwrap.1 hlast), At, hbit]
    exact ⟨hsame, rfl⟩

theorem BlitRows.nextRow_frame (s : BlitRows) (frame : Frame) : (s.nextRow frame).frame = frame := by
  unfold nextRow
  split <;> rfl

/-- A bitmap that fits the buffer is painted where it belongs. -/
theorem bitmapsFrame_ends {bitmap : List UInt8} {width height : ℕ} (xpos ypos : ℕ) (invert : Bool)
    (hright : xpos + 8 * width ≤ 128) (hbottom : ypos + height ≤ 64)
    (hlen : height * width ≤ bitmap.length) :
    Ends (bitmapsFrame dev xpos ypos bitmap (8 * width) height invert) fun f' =>
      Paints (bitmapArea dev xpos ypos (8 * width) height)
        (fun q => bitmapPixel bitmap invert width (q.1 - xpos) (q.2 - ypos))
        (dev.page.raster dev.flip) (f'.raster dev.flip) := by
  have hmultiple : ¬ 8 * width % 8 ≠ 0 := by omega
  have hbytes : 8 * width / 8 = width := by omega
  unfold bitmapsFrame
  rw [if_neg hmultiple, ← bitmapArea_rows, hbytes]
  refine (Loop.up_paints (fun row (s : BlitRows) => s.At (ypos + row))
    (fun s => s.frame.raster dev.flip) (fun row => rowPart dev (ypos + row) xpos (8 * width))
    (fun q => bitmapPixel bitmap invert width (q.1 - xpos) (q.2 - ypos)) ?_ ?_).bind
    fun s hs => Ends.ok hs.2
  · refine ⟨?_, rfl⟩
    rw [UInt8.toNat_ofNat']
    omega
  · intro row s hrow hs
    rcases hs with ⟨hpage, hbits⟩
    have hseg : (UInt8.ofNat xpos).toNat = xpos := by
      rw [UInt8.toNat_ofNat']
      omega
    have hlast : row * width + width ≤ bitmap.length := by
      calc row * width + width = (row + 1) * width := (Nat.succ_mul row width).symm
        _ ≤ height * width := Nat.mul_le_mul_right width hrow
        _ ≤ bitmap.length := hlen
    have hpanel : 8 * s.page.toNat + (ypos + row) % 8 = ypos + row := by omega
    rw [hbits]
    refine (blitRow_ends (Nat.mod_lt _ (by omega)) (by omega) (by omega) hlast).bind fun r hr => ?_
    rw [hpanel, hseg] at hr
    have hcopied : Paints (rowPart dev (ypos + row) xpos (8 * width))
        (fun q => bitmapPixel bitmap invert width (q.1 - xpos) (q.2 - ypos))
        (s.frame.raster dev.flip) (r.2.raster dev.flip) := by
      refine hr.congr_value fun q hq => ?_
      rw [hq.1, Nat.add_sub_cancel_left]
    have hat : (s.nextRow r.2).At (ypos + row + 1) :=
      BlitRows.nextRow_at r.2 (by omega) ⟨hpage, hbits⟩
    refine Ends.ok ⟨hat, ?_⟩
    rw [BlitRows.nextRow_frame]
    exact hcopied

end Blit

/-! ## Showing it -/

/-- What the loop over the pages asks for, round by round. -/
def bitmapImages (f : Frame) (startPage endPage xpos width page : ℕ) : List DisplayCall :=
  let segStart := if page = startPage then xpos else 0
  let segStop := if page = endPage then xpos + width else 128
  [.image page segStart ((List.range' segStart (segStop - segStart)).map (f.seg page))]

theorem showBitmap_ends {s : Screen} {startPage endPage xpos width : ℕ} (hpage : endPage < 8)
    (hright : xpos + width ≤ 128) :
    Ends (Loop.up (showBitmapPage startPage endPage xpos width) startPage (endPage + 1 - startPage) s)
      fun s' => s' = ⟨s.dev, s.calls ++ (List.range' startPage (endPage + 1 - startPage)).flatMap
        (bitmapImages s.dev.page startPage endPage xpos width)⟩ := by
  apply Screen.up_calls
  intro page hlo hhi calls
  have hordered : ¬ (if page = endPage then xpos + width else 128) <
      if page = startPage then xpos else 0 := by
    split <;> split <;> omega
  have hinside : (if page = startPage then xpos else 0) +
      ((if page = endPage then xpos + width else 128) - if page = startPage then xpos else 0) ≤
        128 := by
    split <;> split <;> omega
  unfold showBitmapPage
  simp only [if_neg hordered]
  rw [Frame.readRow_ok (by omega) hinside]
  exact displayImage_own (by omega) hinside

/-- For every bitmap whose width is a multiple of 8 and every place in the buffer: the call stays inside
the arrays, the panel's part of the bitmap is painted where it belongs and no other pixel changes. -/
theorem bitmaps_paints {s : Screen} {bitmap : List UInt8} {width height : ℕ} (xpos ypos : ℕ)
    (invert : Bool) (hright : xpos + 8 * width ≤ 128) (hbottom : ypos + height ≤ 64)
    (hlen : height * width ≤ bitmap.length) :
    Ends (ssd1306Bitmaps xpos ypos bitmap (8 * width) height invert s) fun s' =>
      s'.dev = { s.dev with page := s'.dev.page } ∧
      Paints (bitmapArea s.dev xpos ypos (8 * width) height)
        (fun q => bitmapPixel bitmap invert width (q.1 - xpos) (q.2 - ypos))
        (s.dev.page.raster s.dev.flip) (s'.dev.page.raster s.dev.flip) := by
  refine (bitmapsFrame_ends xpos ypos invert hright hbottom hlen).bind fun f' hf' => ?_
  refine (showBitmap_ends (by omega) hright).mono ?_
  rintro s' rfl
  exact ⟨rfl, hf'⟩

/-- A bitmap of another width is refused; its pages are only shown as they are. -/
theorem bitmaps_refused {s : Screen} {width height : ℕ} (xpos ypos : ℕ) (bitmap : List UInt8)
    (invert : Bool) (hwidth : width % 8 ≠ 0) (hright : xpos + width ≤ 128)
    (hbottom : ypos + height ≤ 64) :
    Ends (ssd1306Bitmaps xpos ypos bitmap width height invert s) fun s' => s'.dev = s.dev := by
  have hframe : bitmapsFrame s.dev xpos ypos bitmap width height invert = .ok s.dev.page :=
    if_pos hwidth
  unfold ssd1306Bitmaps
  rw [hframe, Ends.ok_bind]
  refine (showBitmap_ends (by omega) hright).mono ?_
  rintro s' rfl
  rfl

/-- Two rows on either side of a page boundary. -/
theorem bitmaps_paints_across_pages :
    let s : Screen := ⟨.panel128x64, []⟩
    Ends (ssd1306Bitmaps 4 7 [0xF0, 0x0F] (8 * 1) 2 false s) fun s' =>
      s'.dev = { s.dev with page := s'.dev.page } ∧
      Paints (bitmapArea s.dev 4 7 (8 * 1) 2)
        (fun q => bitmapPixel [0xF0, 0x0F] false 1 (q.1 - 4) (q.2 - 7))
        (s.dev.page.raster s.dev.flip) (s'.dev.page.raster s.dev.flip) :=
  bitmaps_paints 4 7 false (by decide) (by decide) (by decide)

end Oled
end MainboardFirmware
