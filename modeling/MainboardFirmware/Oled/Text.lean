import Mathlib.Data.List.GetD
import MainboardFirmware.Oled.Wrap

/-!
# Text — `ssd1306_display_text`, `ssd1306_display_text_x3` and `ssd1306_display_rotate_text`

The functions that set glyphs side by side: as they are, three times as large, and turned by a quarter
from the lower edge up. All go through `ssd1306_display_image`, which paints a strip of a page.
-/

namespace MainboardFirmware
namespace Oled

/-! ## The code -/

/-- The loop over the eight pixels of a column in `ssd1306_display_text_x3`, with `n` left. -/
def tripleLoop (column : UInt32) : ℕ → UInt32 → UInt32 → UInt32 → UInt32
  | 0, _, _, out => out
  | n + 1, inBitmask, outBitmask, out =>
      tripleLoop column n (inBitmask <<< 1) (outBitmask <<< 3)
        (if column &&& inBitmask ≠ 0 then out ||| outBitmask else out)

/-- `out_columns[xx].u32` for the column `in_columns[xx]`. -/
def tripleColumn (column : UInt8) : UInt32 :=
  tripleLoop column.toUInt32 8 0b1 0b111 0

/-- `out_columns[xx].u8[yy]`, on a little-endian processor. -/
def columnByte (out : UInt32) (yy : ℕ) : UInt8 :=
  (out >>> (8 * yy).toUInt32).toUInt8

/-- `image` of `ssd1306_display_text_x3` for the pixels from `8 * yy` on. -/
def tripleImage (row : List UInt8) (yy : ℕ) : List UInt8 :=
  row.flatMap fun column => List.replicate 3 (columnByte (tripleColumn column) yy)

def ssd1306DisplayTextX3 (page : ℕ) (text : List UInt8) (textLen : ℕ) (invert : Bool) (s : Screen) :
    Except OledFault Screen :=
  if s.dev.pages ≤ page then .ok s
  else
    Loop.up (fun nn s => do
      let row ← fontRow text nn
      Loop.up (fun yy s => ssd1306DisplayImage (page + yy) (24 * nn)
        (glyphImage s.dev.flip invert (tripleImage row yy)) s) 0 3 s) 0 (min textLen 5) s

/-- The loop over the columns in `ssd1306_rotate_image`: what `_image[i]` becomes, with the columns that
are left. -/
def rotateLoop (smask : UInt8) : List UInt8 → UInt8 → UInt8 → UInt8
  | [], _, out => out
  | column :: image, dmask, out =>
      rotateLoop smask image (dmask >>> 1) (if column &&& smask ≠ 0 then out + dmask else out)

/-- `ssd1306_rotate_image` -/
def ssd1306RotateImage (image : List UInt8) (flip : Bool) : List UInt8 :=
  let turned := (List.range 8).map fun i => rotateLoop (Bits.mask (UInt8.ofNat i)) image 0x80 0
  if flip = true then ssd1306Flip turned else turned

def ssd1306DisplayRotateText (seg : ℕ) (text : List UInt8) (textLen : ℕ) (invert : Bool)
    (s : Screen) : Except OledFault Screen :=
  -- the character that runs off the upper edge is the last one
  Loop.up (fun i s => do
    if s.dev.pages ≤ i then
      -- without pages the first one has the index -1
      if s.dev.pages = 0 then .error .pageArray else return s
    else
      let image := ssd1306RotateImage (← fontRow text i) s.dev.flip
      ssd1306DisplayImage (s.dev.pages - 1 - i) seg
        (if invert = true then ssd1306Invert image else image) s) 0 (min textLen 8) s

/-! ## Glyphs -/

/-- The first `n` characters are there and have a glyph. -/
def InFont (text : List UInt8) (n : ℕ) : Prop :=
  ∀ i < n, ∃ ch, text[i]? = some ch ∧ ch < 128

theorem inFont_of_all {text : List UInt8} {n : ℕ} (hn : n ≤ text.length)
    (hall : (text.all fun ch => ch < 128) = true) : InFont text n := by
  intro i hi
  have hlt : i < text.length := by omega
  have hmem : text[i] ∈ text := List.getElem_mem hlt
  exact ⟨text[i], List.getElem?_eq_getElem hlt, of_decide_eq_true (List.all_eq_true.1 hall _ hmem)⟩

/-- The columns of a character of the text. -/
def glyphRow (text : List UInt8) (i : ℕ) : List UInt8 :=
  font8x8BasicTr.getD (text.getD i 0).toNat []

theorem InFont.fontRow {text : List UInt8} {n i : ℕ} (h : InFont text n) (hi : i < n) :
    fontRow text i = .ok (glyphRow text i) ∧ (glyphRow text i).length = 8 := by
  rcases h i hi with ⟨ch, hget, hch⟩
  have hlt : ch.toNat < font8x8BasicTr.length := by
    rw [font8x8BasicTr_length]
    exact UInt8.lt_iff_toNat_lt.1 hch
  have hrow : glyphRow text i = font8x8BasicTr[ch.toNat] := by
    simp [glyphRow, List.getD_eq_getElem?_getD, hget, hlt]
  refine ⟨?_, ?_⟩
  · rw [hrow]
    simp [Oled.fontRow, hget, List.getElem?_eq_getElem hlt]
  · rw [hrow]
    exact font8x8BasicTr_row_length _ (List.getElem_mem hlt)

/-- Pixel `y` of column `x` of a glyph. -/
def glyphPixel (row : List UInt8) (x y : ℕ) : Bool :=
  bitAt (row.getD x 0) y

/-- What a column of an image is on the screen, however the device is mounted. -/
theorem bitAt_glyphImage (flip invert : Bool) {row : List UInt8} {x y : ℕ} (hx : x < row.length)
    (hy : y < 8) :
    bitAt (upright flip ((glyphImage flip invert row).getD x 0)) y = (glyphPixel row x y ^^ invert) := by
  rw [List.getD_eq_getElem _ _ (by simpa using hx), glyphPixel, List.getD_eq_getElem _ _ hx]
  cases flip <;> cases invert <;> simp [glyphImage, ssd1306Invert, ssd1306Flip, upright, hy]

/-! ## One image -/

section Image

variable {s : Screen} {page seg : ℕ} {images : List UInt8}

/-- The strip of a page that an image covers. -/
def imageArea (page seg width : ℕ) : Set (ℕ × ℕ) :=
  {q | q.2 / 8 = page ∧ seg ≤ q.1 ∧ q.1 < seg + width}

/-- An image goes to the panel and into the buffer. -/
theorem displayImage_ends (hpage : page < 8) (hseg : seg + images.length ≤ 128) :
    Ends (ssd1306DisplayImage page seg images s) fun s' =>
      s'.dev = { s.dev with page := s'.dev.page } ∧
      s'.calls = s.calls ++ [.image page seg images] ∧
      ∀ p c, s'.dev.page.seg p c =
        if p = page ∧ seg ≤ c ∧ c < seg + images.length then images.getD (c - seg) 0
        else s.dev.page.seg p c := by
  have hwrite : Ends (s.dev.page.writeRow page seg images) _ := Frame.writeRow_ends hpage hseg
  exact hwrite.bind fun f' hf' => Ends.ok ⟨rfl, rfl, hf'⟩

theorem displayImage_paints (flip : Bool) (hpage : page < 8) (hseg : seg + images.length ≤ 128) :
    Ends (ssd1306DisplayImage page seg images s) fun s' =>
      s'.dev = { s.dev with page := s'.dev.page } ∧
      Paints (imageArea page seg images.length)
        (fun q => bitAt (upright flip (images.getD (q.1 - seg) 0)) (q.2 % 8))
        (s.dev.page.raster flip) (s'.dev.page.raster flip) := by
  refine (displayImage_ends hpage hseg).mono fun s' hs' => ⟨hs'.1, ?_, ?_⟩
  · rintro q ⟨hrow, hlo, hhi⟩
    simp [Frame.raster, Frame.pixel, hs'.2.2, hrow, hlo, hhi]
  · intro q hq
    have hout : ¬ (q.2 / 8 = page ∧ seg ≤ q.1 ∧ q.1 < seg + images.length) := hq
    simp only [Frame.raster, Frame.pixel, hs'.2.2, if_neg hout]

end Image

/-! ## Text -/

section DisplayText

variable {s : Screen} {page seg : ℕ} {text : List UInt8}

/-- Strips side by side. -/
theorem imageArea_row (page seg width n : ℕ) :
    {q | ∃ k < n, q ∈ imageArea page (seg + width * k) width} =
      imageArea page seg (width * n) := by
  ext q
  simp only [imageArea, Set.mem_ofPred_eq]
  constructor
  · rintro ⟨k, hk, hrow, hlo, hhi⟩
    have hlast : width * (k + 1) ≤ width * n := Nat.mul_le_mul_left width hk
    rw [Nat.mul_succ] at hlast
    exact ⟨hrow, by omega, by omega⟩
  · rintro ⟨hrow, hlo, hhi⟩
    have hpos : 0 < width := Nat.pos_of_ne_zero fun h => by simp [h] at hhi; omega
    have hdiv : (q.1 - seg) / width < n := Nat.div_lt_of_lt_mul (by omega)
    have hsplit := Nat.div_add_mod (q.1 - seg) width
    have hrest : (q.1 - seg) % width < width := Nat.mod_lt _ hpos
    exact ⟨(q.1 - seg) / width, hdiv, hrow, by omega, by omega⟩

/-- Pixel `y` of column `x` of a text that starts with character `i`. -/
def textPixel (text : List UInt8) (i x y : ℕ) : Bool :=
  glyphPixel (glyphRow text (i + x / 8)) (x % 8) y

/-- The loop over the characters sets their glyphs side by side. -/
theorem displayGlyphs_paints {i n : ℕ} (hpage : page < 8) (hseg : seg + 8 * n ≤ 128)
    (htext : InFont text (i + n)) (invert : Bool) :
    Ends (displayGlyphs page seg text i n invert s) fun s' =>
      s'.dev = { s.dev with page := s'.dev.page } ∧
      Paints (imageArea page seg (8 * n)) (fun q => textPixel text i (q.1 - seg) (q.2 % 8) ^^ invert)
        (s.dev.page.raster s.dev.flip) (s'.dev.page.raster s.dev.flip) := by
  unfold displayGlyphs
  rw [← imageArea_row]
  apply Loop.up_paints (fun _ (t : Screen) => t.dev = { s.dev with page := t.dev.page })
    (fun t => t.dev.page.raster s.dev.flip) (fun k => imageArea page (seg + 8 * k) 8)
    (fun q => textPixel text i (q.1 - seg) (q.2 % 8) ^^ invert) rfl
  intro k t hk ht
  have hflip : t.dev.flip = s.dev.flip := by rw [ht]
  have hk' : i + k < i + n := by omega
  rcases htext.fontRow hk' with ⟨hrow, hlength⟩
  rw [hrow, hflip, Ends.ok_bind]
  have himage : (glyphImage s.dev.flip invert (glyphRow text (i + k))).length = 8 := by
    rw [glyphImage_length, hlength]
  refine (displayImage_paints s.dev.flip hpage (by omega)).mono fun t' ht' => ⟨?_, ?_⟩
  · rw [ht'.1, ht]
  · rw [himage] at ht'
    refine ht'.2.congr_value fun q hq => ?_
    rcases hq with ⟨-, hlo, hhi⟩
    have hchar : (q.1 - seg) / 8 = k := by omega
    have hcol : (q.1 - seg) % 8 = q.1 - (seg + 8 * k) := by omega
    rw [bitAt_glyphImage _ _ (by omega) (Nat.mod_lt _ (by omega)), textPixel, hchar, hcol]

theorem displayText_paints {textLen : ℕ} (hpages : s.dev.pages ≤ 8) (hpage : page < s.dev.pages)
    (htext : InFont text (min textLen 16)) (invert : Bool) :
    Ends (ssd1306DisplayText page text textLen invert s) fun s' =>
      s'.dev = { s.dev with page := s'.dev.page } ∧
      Paints (imageArea page 0 (8 * min textLen 16))
        (fun q => textPixel text 0 q.1 (q.2 % 8) ^^ invert)
        (s.dev.page.raster s.dev.flip) (s'.dev.page.raster s.dev.flip) := by
  unfold ssd1306DisplayText
  rw [if_neg (by omega)]
  exact displayGlyphs_paints (by omega) (by omega) (by rwa [Nat.zero_add]) invert

end DisplayText

/-! ## Three times as large -/

/-- Bit `k` of a 32-bit word. -/
def wordBit (w : UInt32) (k : ℕ) : Bool :=
  w.toBitVec.getLsbD k

theorem wordBit_shiftLeft_one (w : UInt32) {k : ℕ} (hk : k < 32) :
    wordBit (w <<< 1) k = (decide (0 < k) && wordBit w (k - 1)) := by
  have hprev : k - 1 < 32 := by omega
  simp [wordBit, hk, Nat.pos_iff_ne_zero, BitVec.getLsbD_eq_getElem hprev]

theorem wordBit_shiftLeft_three (w : UInt32) {k : ℕ} (hk : k < 32) :
    wordBit (w <<< 3) k = (decide (3 ≤ k) && wordBit w (k - 3)) := by
  have hprev : k - 3 < 32 := by omega
  by_cases h3 : 3 ≤ k
  · have hnot : ¬ k < 3 := by omega
    simp [wordBit, hk, h3, hnot, BitVec.getLsbD_eq_getElem hprev]
  · have hlt : k < 3 := by omega
    simp [wordBit, hk, h3, hlt]

/-- A mask of one bit picks that bit out. -/
theorem and_ne_zero_iff {column mask : UInt32} {j : ℕ} (hj : j < 32)
    (hmask : ∀ k < 32, wordBit mask k = decide (k = j)) :
    column &&& mask ≠ 0 ↔ wordBit column j = true := by
  have hzero : column &&& mask = 0 ↔ ∀ k < 32, (wordBit column k && wordBit mask k) = false := by
    rw [← UInt32.toBitVec_inj]
    constructor
    · intro h k hk
      simpa [wordBit] using congrArg (BitVec.getLsbD · k) h
    · intro h
      apply BitVec.eq_of_getLsbD_eq
      intro k hk
      simpa [wordBit] using h k hk
  rw [ne_eq, hzero, not_forall]
  constructor
  · rintro ⟨k, hk⟩
    rw [Classical.not_imp] at hk
    rcases hk with ⟨hlt, hbit⟩
    rw [hmask k hlt] at hbit
    simp only [Bool.not_eq_false, Bool.and_eq_true, decide_eq_true_eq] at hbit
    rw [← hbit.2]
    exact hbit.1
  · intro hbit
    refine ⟨j, fun h => ?_⟩
    have hfalse := h hj
    rw [hbit, hmask j hj] at hfalse
    simp at hfalse

theorem bitAt_columnByte (out : UInt32) {yy k : ℕ} (hyy : yy < 3) (hk : k < 8) :
    bitAt (columnByte out yy) k = wordBit out (8 * yy + k) := by
  unfold columnByte
  rcases yy with _ | _ | _ | yy
  · simp [bitAt, wordBit, hk]
  · simp [bitAt, wordBit, hk, Nat.add_comm]
  · simp [bitAt, wordBit, hk, Nat.add_comm]
  · omega

/-- With `n` pixels left, every pixel of the column from the `j`-th on is still to be tripled. -/
theorem wordBit_tripleLoop {column : UInt32} {n j : ℕ} (hn : j + n = 8) {inMask outMask : UInt32}
    (hin : ∀ k < 32, wordBit inMask k = decide (k = j))
    (hout : ∀ k < 32, wordBit outMask k = decide (3 * j ≤ k ∧ k < 3 * j + 3)) (out : UInt32) {k : ℕ}
    (hk : k < 24) :
    wordBit (tripleLoop column n inMask outMask out) k =
      (wordBit out k || (decide (3 * j ≤ k) && wordBit column (k / 3))) := by
  induction n generalizing j inMask outMask out with
  | zero =>
      have hpast : ¬ 3 * j ≤ k := by omega
      simp [tripleLoop, hpast]
  | succ n ih =>
      have hin' : ∀ k < 32, wordBit (inMask <<< 1) k = decide (k = j + 1) := by
        intro k hk
        rw [wordBit_shiftLeft_one _ hk, hin _ (by omega), ← Bool.decide_and, decide_eq_decide]
        omega
      have hout' : ∀ k < 32, wordBit (outMask <<< 3) k =
          decide (3 * (j + 1) ≤ k ∧ k < 3 * (j + 1) + 3) := by
        intro k hk
        rw [wordBit_shiftLeft_three _ hk, hout _ (by omega), ← Bool.decide_and, decide_eq_decide]
        omega
      rw [tripleLoop, ih (by omega) hin' hout']
      have hset : wordBit (if column &&& inMask ≠ 0 then out ||| outMask else out) k =
          (wordBit out k || (decide (k / 3 = j) && wordBit column j)) := by
        have hhere : decide (3 * j ≤ k ∧ k < 3 * j + 3) = decide (k / 3 = j) := by
          rw [decide_eq_decide]
          omega
        by_cases hbit : wordBit column j = true
        · have hor : wordBit (out ||| outMask) k = (wordBit out k || wordBit outMask k) := by
            simp [wordBit]
          rw [if_pos ((and_ne_zero_iff (by omega) hin).2 hbit), hor, hout k (by omega), hbit, hhere,
            Bool.and_true]
        · rw [if_neg fun h => hbit ((and_ne_zero_iff (by omega) hin).1 h)]
          simp [hbit]
      rw [hset]
      by_cases hthis : k / 3 = j
      · have hfrom : 3 * j ≤ k := by omega
        have hnot : ¬ 3 * (j + 1) ≤ k := by omega
        simp [hthis, hfrom, hnot]
      · have hiff : 3 * (j + 1) ≤ k ↔ 3 * j ≤ k := by omega
        simp [hthis, hiff]

theorem wordBit_tripleColumn (column : UInt8) {k : ℕ} (hk : k < 24) :
    wordBit (tripleColumn column) k = bitAt column (k / 3) := by
  unfold tripleColumn
  have hin : ∀ k < 32, wordBit 0b1 k = decide (k = 0) := by
    decide
  have hout : ∀ k < 32, wordBit 0b111 k = decide (3 * 0 ≤ k ∧ k < 3 * 0 + 3) := by
    decide
  have hbit : k / 3 < 32 := by omega
  rw [wordBit_tripleLoop (by omega) hin hout _ hk]
  simp [wordBit, bitAt, hbit]
theorem tripleImage_length (row : List UInt8) (yy : ℕ) :
    (tripleImage row yy).length = 3 * row.length := by
  simp [tripleImage, List.length_flatMap, Nat.mul_comm]

theorem tripleImage_getD {row : List UInt8} {x : ℕ} (hx : x < 3 * row.length) (yy : ℕ) :
    (tripleImage row yy).getD x 0 = columnByte (tripleColumn (row.getD (x / 3) 0)) yy := by
  induction row generalizing x with
  | nil =>
      simp at hx
  | cons column row ih =>
      have hsplit : tripleImage (column :: row) yy =
          List.replicate 3 (columnByte (tripleColumn column) yy) ++ tripleImage row yy := rfl
      rw [hsplit]
      by_cases hfirst : x < 3
      · have hzero : x / 3 = 0 := by omega
        have hin : x < (List.replicate 3 (columnByte (tripleColumn column) yy)).length := by
          simpa using hfirst
        rw [List.getD_append _ _ _ _ hin, hzero, List.getD_eq_getElem _ _ hin,
          List.getElem_replicate]
        rfl
      · have hnext : x / 3 = (x - 3) / 3 + 1 := by omega
        rw [List.length_cons] at hx
        rw [List.getD_append_right _ _ _ _ (by simpa using hfirst), List.length_replicate,
          ih (by omega), hnext, List.getD_cons_succ]

/-- Pixel `8 * yy + y` of column `x` of the enlarged glyph. -/
theorem bitAt_tripleImage (flip invert : Bool) {row : List UInt8} {x yy y : ℕ}
    (hx : x < 3 * row.length) (hyy : yy < 3) (hy : y < 8) :
    bitAt (upright flip ((glyphImage flip invert (tripleImage row yy)).getD x 0)) y =
      (glyphPixel row (x / 3) ((8 * yy + y) / 3) ^^ invert) := by
  rw [bitAt_glyphImage flip invert (by rwa [tripleImage_length]) hy, glyphPixel,
    tripleImage_getD hx, bitAt_columnByte _ hyy hy, wordBit_tripleColumn _ (by omega), glyphPixel]

section TextX3

variable {s : Screen} {page : ℕ} {text : List UInt8}

/-- The part of three pages in `width` columns from `seg` on. -/
def bandArea (page seg width : ℕ) : Set (ℕ × ℕ) :=
  {q | 8 * page ≤ q.2 ∧ q.2 < 8 * page + 24 ∧ seg ≤ q.1 ∧ q.1 < seg + width}

/-- One enlarged character. -/
theorem tripleGlyph_paints {nn : ℕ} {row : List UInt8} (hpage : page + 2 < 8) (hnn : nn < 5)
    (hrow : row.length = 8) (invert : Bool) :
    Ends (Loop.up (fun yy s => ssd1306DisplayImage (page + yy) (24 * nn)
      (glyphImage s.dev.flip invert (tripleImage row yy)) s) 0 3 s) fun s' =>
        s'.dev = { s.dev with page := s'.dev.page } ∧
        Paints (bandArea page (24 * nn) 24)
          (fun q => glyphPixel row ((q.1 - 24 * nn) / 3) ((q.2 - 8 * page) / 3) ^^ invert)
          (s.dev.page.raster s.dev.flip) (s'.dev.page.raster s.dev.flip) := by
  have hregion : {q | ∃ yy < 3, q ∈ imageArea (page + yy) (24 * nn) 24} =
      bandArea page (24 * nn) 24 := by
    ext q
    simp only [imageArea, bandArea, Set.mem_ofPred_eq]
    constructor
    · rintro ⟨yy, hyy, hrow, hlo, hhi⟩
      omega
    · rintro ⟨htop, hbottom, hlo, hhi⟩
      exact ⟨q.2 / 8 - page, by omega, by omega, hlo, hhi⟩
  rw [← hregion]
  apply Loop.up_paints (fun _ (t : Screen) => t.dev = { s.dev with page := t.dev.page })
    (fun t => t.dev.page.raster s.dev.flip) (fun yy => imageArea (page + yy) (24 * nn) 24) _ rfl
  intro yy t hyy ht
  have hflip : t.dev.flip = s.dev.flip := by rw [ht]
  have hlength : (glyphImage s.dev.flip invert (tripleImage row yy)).length = 24 := by
    rw [glyphImage_length, tripleImage_length, hrow]
  rw [hflip]
  refine (displayImage_paints s.dev.flip (by omega) (by omega)).mono fun t' ht' => ⟨?_, ?_⟩
  · rw [ht'.1, ht]
  · rw [hlength] at ht'
    refine ht'.2.congr_value fun q hq => ?_
    rcases hq with ⟨hpage', hlo, hhi⟩
    have hline : 8 * yy + q.2 % 8 = q.2 - 8 * page := by omega
    rw [bitAt_tripleImage _ _ (by omega) hyy (Nat.mod_lt _ (by omega)), hline]

theorem displayTextX3_paints {textLen : ℕ} (hpage : page + 2 < 8) (hpages : page < s.dev.pages)
    (htext : InFont text (min textLen 5)) (invert : Bool) :
    Ends (ssd1306DisplayTextX3 page text textLen invert s) fun s' =>
      s'.dev = { s.dev with page := s'.dev.page } ∧
      Paints (bandArea page 0 (24 * min textLen 5))
        (fun q => textPixel text 0 (q.1 / 3) ((q.2 - 8 * page) / 3) ^^ invert)
        (s.dev.page.raster s.dev.flip) (s'.dev.page.raster s.dev.flip) := by
  have hregion : {q | ∃ nn < min textLen 5, q ∈ bandArea page (24 * nn) 24} =
      bandArea page 0 (24 * min textLen 5) := by
    ext q
    simp only [bandArea, Set.mem_ofPred_eq]
    constructor
    · rintro ⟨nn, hnn, htop, hbottom, hlo, hhi⟩
      omega
    · rintro ⟨htop, hbottom, hlo, hhi⟩
      exact ⟨q.1 / 24, by omega, htop, hbottom, by omega, by omega⟩
  unfold ssd1306DisplayTextX3
  rw [if_neg (by omega), ← hregion]
  apply Loop.up_paints (fun _ (t : Screen) => t.dev = { s.dev with page := t.dev.page })
    (fun t => t.dev.page.raster s.dev.flip) (fun nn => bandArea page (24 * nn) 24) _ rfl
  intro nn t hnn ht
  have hflip : t.dev.flip = s.dev.flip := by rw [ht]
  rcases htext.fontRow hnn with ⟨hrow, hlength⟩
  rw [hrow, Ends.ok_bind]
  refine (tripleGlyph_paints hpage (by omega) hlength invert).mono fun t' ht' => ⟨?_, ?_⟩
  · rw [ht'.1, ht]
  · rw [hflip] at ht'
    refine ht'.2.congr_value fun q hq => ?_
    rcases hq with ⟨-, -, hlo, hhi⟩
    have hchar : 0 + q.1 / 3 / 8 = nn := by omega
    have hcol : q.1 / 3 % 8 = (q.1 - 24 * nn) / 3 := by omega
    rw [textPixel, hchar, hcol]

theorem displayImage_overflows {seg : ℕ} {images : List UInt8} (hpage : 8 ≤ page) :
    ssd1306DisplayImage page seg images s = .error .pageArray := by
  have hout : ¬ (page < 8 ∧ seg + images.length ≤ 128) := by omega
  simp only [ssd1306DisplayImage, Frame.writeRow, if_neg hout]
  rfl

/-- An enlarged character in one of the last two pages is written behind them. -/
theorem tripleGlyph_overflows {row : List UInt8} (hpage : page < 8) (hover : 8 ≤ page + 2)
    (hrow : row.length = 8) (invert : Bool) :
    Loop.up (fun yy s => ssd1306DisplayImage (page + yy) (24 * 0)
      (glyphImage s.dev.flip invert (tripleImage row yy)) s) 0 3 s = .error .pageArray := by
  have hlength : ∀ flip yy, (glyphImage flip invert (tripleImage row yy)).length = 24 := by
    intro flip yy
    rw [glyphImage_length, tripleImage_length, hrow]
  have hfirst : Ends (ssd1306DisplayImage (page + 0) (24 * 0)
      (glyphImage s.dev.flip invert (tripleImage row 0)) s) _ :=
    displayImage_ends (by omega) (by rw [hlength]; omega)
  rcases hfirst with ⟨t, ht, -⟩
  rw [Loop.up, ht, Ends.ok_bind, Loop.up]
  by_cases hlast : 8 ≤ page + 1
  · rw [displayImage_overflows hlast]
    rfl
  · have hsecond : Ends (ssd1306DisplayImage (page + (0 + 1)) (24 * 0)
        (glyphImage t.dev.flip invert (tripleImage row (0 + 1))) t) _ :=
      displayImage_ends (by omega) (by rw [hlength]; omega)
    rcases hsecond with ⟨u, hu, -⟩
    rw [hu, Ends.ok_bind, Loop.up, displayImage_overflows (by omega)]
    rfl

theorem displayTextX3_overflows {textLen : ℕ} (hpage : page < 8) (hover : 8 ≤ page + 2)
    (hpages : page < s.dev.pages) (hlen : 0 < textLen) (htext : InFont text 1) (invert : Bool) :
    ssd1306DisplayTextX3 page text textLen invert s = .error .pageArray := by
  rcases htext.fontRow Nat.one_pos with ⟨hrow, hlength⟩
  have hcount : min textLen 5 = min textLen 5 - 1 + 1 := by omega
  unfold ssd1306DisplayTextX3
  rw [if_neg (by omega), hcount, Loop.up, hrow, Ends.ok_bind,
    tripleGlyph_overflows hpage hover hlength]
  rfl

/-- On a panel of eight pages, for every page of it and every text: enlarged text stays inside the
buffer exactly if its three pages do or there is no text, and then every pixel is that of the plain
text at a third of the coordinates. -/
theorem display_text_x3_enlarges {textLen : ℕ} (hpages : s.dev.pages = 8) (hpage : page < 8)
    (htext : InFont text (min textLen 5)) (invert : Bool) :
    ((∃ s', ssd1306DisplayTextX3 page text textLen invert s = .ok s') ↔
      page + 2 < 8 ∨ textLen = 0) ∧
    ∀ s', ssd1306DisplayTextX3 page text textLen invert s = .ok s' →
      s'.dev = { s.dev with page := s'.dev.page } ∧
      Paints (bandArea page 0 (24 * min textLen 5))
        (fun q => textPixel text 0 (q.1 / 3) ((q.2 - 8 * page) / 3) ^^ invert)
        (s.dev.page.raster s.dev.flip) (s'.dev.page.raster s.dev.flip) := by
  by_cases hfits : page + 2 < 8
  · have hends := displayTextX3_paints hfits (by omega) htext invert (s := s)
    refine ⟨⟨fun _ => Or.inl hfits, fun _ => ?_⟩, fun s' hs' => hends.elim hs'⟩
    rcases hends with ⟨s', hs', -⟩
    exact ⟨s', hs'⟩
  · rcases Nat.eq_zero_or_pos textLen with rfl | hlen
    · have hstay : ssd1306DisplayTextX3 page text 0 invert s = .ok s := by
        unfold ssd1306DisplayTextX3
        rw [if_neg (by omega)]
        rfl
      have hnone : bandArea page 0 (24 * min 0 5) = ∅ := by
        ext q
        simp [bandArea]
      refine ⟨⟨fun _ => Or.inr rfl, fun _ => ⟨s, hstay⟩⟩, fun s' hs' => ?_⟩
      rw [hstay] at hs'
      cases hs'
      rw [hnone]
      exact ⟨rfl, Paints.nothing _ _⟩
    · have hover := displayTextX3_overflows (s := s) hpage (by omega) (by omega) hlen
        (fun i hi => htext i (by omega)) invert
      rw [hover]
      refine ⟨⟨fun ⟨s', hs'⟩ => by simp at hs', fun h => by omega⟩, fun s' hs' => by simp at hs'⟩

/-- Two enlarged letters on pages 2 to 4. -/
theorem display_text_x3_enlarges_two :
    let s : Screen := ⟨.panel128x64, []⟩
    ((∃ s', ssd1306DisplayTextX3 2 [0x48, 0x69] 2 false s = .ok s') ↔ 2 + 2 < 8 ∨ 2 = 0) ∧
    ∀ s', ssd1306DisplayTextX3 2 [0x48, 0x69] 2 false s = .ok s' →
      s'.dev = { s.dev with page := s'.dev.page } ∧
      Paints (bandArea 2 0 (24 * min 2 5))
        (fun q => textPixel [0x48, 0x69] 0 (q.1 / 3) ((q.2 - 8 * 2) / 3) ^^ false)
        (s.dev.page.raster s.dev.flip) (s'.dev.page.raster s.dev.flip) :=
  display_text_x3_enlarges rfl (by decide) (inFont_of_all (by decide) (by decide)) false

end TextX3

/-! ## Turned by a quarter -/

theorem bitAt_add_disjoint {a b : UInt8} (hab : ∀ k < 8, (bitAt a k && bitAt b k) = false) {k : ℕ}
    (hk : k < 8) : bitAt (a + b) k = (bitAt a k || bitAt b k) := by
  have hdisjoint : a.toBitVec &&& b.toBitVec = 0#8 := by
    apply BitVec.eq_of_getLsbD_eq
    intro i hi
    simpa [bitAt] using hab i hi
  have hor : (a + b).toBitVec = a.toBitVec ||| b.toBitVec := by
    rw [← BitVec.add_eq_or_of_and_eq_zero _ _ hdisjoint]
    simp
  rw [bitAt, hor]
  simp [bitAt, hk]

/-- The columns that are left give the bits below the ones already set, the last column the lowest. -/
theorem bitAt_rotateLoop {i : ℕ} (hi : i < 8) {image : List UInt8} {dmask out : UInt8}
    (hlength : image.length ≤ 8) (hmask : ∀ k < 8, bitAt dmask k = decide (k + 1 = image.length))
    (hout : ∀ k < image.length, bitAt out k = false) {k : ℕ} (hk : k < 8) :
    bitAt (rotateLoop (Bits.mask (UInt8.ofNat i)) image dmask out) k =
      if k < image.length then bitAt (image.getD (image.length - 1 - k) 0) i else bitAt out k := by
  induction image generalizing dmask out with
  | nil =>
      simp [rotateLoop]
  | cons column image ih =>
      rw [List.length_cons] at hlength hmask hout
      have htest : column &&& Bits.mask (UInt8.ofNat i) ≠ 0 ↔ bitAt column i = true := by
        rw [← testBit_eq_bitAt column hi, Bits.testBit, bne_iff_ne]
      have hset : ∀ k < 8, bitAt (if column &&& Bits.mask (UInt8.ofNat i) ≠ 0 then out + dmask
          else out) k = (bitAt out k || (decide (k = image.length) && bitAt column i)) := by
        intro k hk
        by_cases hbit : bitAt column i = true
        · have hdisjoint : ∀ k < 8, (bitAt out k && bitAt dmask k) = false := by
            intro k hk
            rw [hmask k hk]
            by_cases hlast : k = image.length
            · rw [hout k (by omega), Bool.false_and]
            · simp [hlast]
          rw [if_pos (htest.2 hbit), bitAt_add_disjoint hdisjoint hk, hmask k hk, hbit]
          simp
        · rw [if_neg fun h => hbit (htest.1 h)]
          simp [hbit]
      have hmask' : ∀ k < 8, bitAt (dmask >>> 1) k = decide (k + 1 = image.length) := by
        intro k hk
        rw [bitAt_shiftRight_one]
        by_cases hlast : k + 1 < 8
        · rw [hmask _ hlast, decide_eq_decide]
          omega
        · rw [bitAt_of_le (by omega)]
          exact (decide_eq_false (by omega)).symm
      have hout' : ∀ k < image.length, bitAt (if column &&& Bits.mask (UInt8.ofNat i) ≠ 0 then
          out + dmask else out) k = false := by
        intro k hk
        have hne : k ≠ image.length := by omega
        rw [hset k (by omega), hout k (by omega)]
        simp [hne]
      rw [rotateLoop, ih (by omega) hmask' hout', List.length_cons]
      by_cases hlt : k < image.length
      · have hindex : image.length + 1 - 1 - k = image.length - 1 - k + 1 := by omega
        rw [if_pos hlt, if_pos (by omega), hindex, List.getD_cons_succ]
      · rw [if_neg hlt, hset k hk]
        by_cases heq : k = image.length
        · simp [heq, hout]
        · rw [if_neg (by omega)]
          simp [heq]

theorem rotateImage_length (image : List UInt8) (flip : Bool) :
    (ssd1306RotateImage image flip).length = 8 := by
  cases flip <;> simp [ssd1306RotateImage, ssd1306Flip]

/-- Column `x` of the turned glyph is row `x` of the glyph, read from below. -/
theorem bitAt_rotateImage (flip invert : Bool) {row : List UInt8} {x y : ℕ} (hrow : row.length = 8)
    (hx : x < 8) (hy : y < 8) :
    bitAt (upright flip ((if invert = true then ssd1306Invert (ssd1306RotateImage row flip)
      else ssd1306RotateImage row flip).getD x 0)) y = (glyphPixel row (7 - y) x ^^ invert) := by
  have hstart : ∀ k < 8, bitAt 0x80 k = decide (k + 1 = 8) := by
    decide
  have hturn := @bitAt_rotateLoop x hx row 0x80 0 hrow.le (by rwa [hrow])
    (fun k _ => by simp [bitAt]) y hy
  rw [hrow, if_pos hy] at hturn
  cases flip <;> cases invert <;>
    simp [ssd1306RotateImage, ssd1306Flip, ssd1306Invert, upright, glyphPixel, rotateByte_not, hx, hy,
      hturn]

section RotateText

variable {s : Screen} {seg : ℕ} {text : List UInt8}

/-- The part of eight columns that `n` characters take up from the lower edge on. -/
def risingArea (pages seg n : ℕ) : Set (ℕ × ℕ) :=
  {q | seg ≤ q.1 ∧ q.1 < seg + 8 ∧ q.2 < 8 * pages ∧ 8 * pages ≤ q.2 + 8 * n}

theorem risingArea_pages (pages seg n : ℕ) :
    {q | ∃ i < n, q ∈ if i < pages then imageArea (pages - 1 - i) seg 8 else ∅} =
      risingArea pages seg n := by
  ext q
  simp only [risingArea, Set.mem_ofPred_eq]
  constructor
  · rintro ⟨i, hi, hq⟩
    split at hq
    next hin =>
      rcases hq with ⟨hrow, hlo, hhi⟩
      omega
    next => exact hq.elim
  · rintro ⟨hlo, hhi, hpanel, hcount⟩
    have hin : pages - 1 - q.2 / 8 < pages := by omega
    refine ⟨pages - 1 - q.2 / 8, by omega, ?_⟩
    rw [if_pos hin]
    exact ⟨by omega, hlo, hhi⟩

/-- For every panel, column with room for a character and text: turned text stays inside the buffer, and
its pixels are those of the plain text with the columns counted from the lower edge up and the rows from
left to right. -/
theorem display_rotate_text_turns {textLen : ℕ} (hdev : s.dev.Fits) (hseg : seg + 8 ≤ 128)
    (htext : InFont text (min textLen 8)) (invert : Bool) :
    Ends (ssd1306DisplayRotateText seg text textLen invert s) fun s' =>
      s'.dev = { s.dev with page := s'.dev.page } ∧
      Paints (risingArea s.dev.pages seg (min textLen 8))
        (fun q => textPixel text 0 (8 * s.dev.pages - 1 - q.2) (q.1 - seg) ^^ invert)
        (s.dev.page.raster s.dev.flip) (s'.dev.page.raster s.dev.flip) := by
  have hpos := hdev.pages_pos
  have hpages := hdev.pages_le
  unfold ssd1306DisplayRotateText
  rw [← risingArea_pages]
  apply Loop.up_paints (fun _ (t : Screen) => t.dev = { s.dev with page := t.dev.page })
    (fun t => t.dev.page.raster s.dev.flip)
    (fun i => if i < s.dev.pages then imageArea (s.dev.pages - 1 - i) seg 8 else ∅) _ rfl
  intro i t hi ht
  have hflip : t.dev.flip = s.dev.flip := by rw [ht]
  have hsame : t.dev.pages = s.dev.pages := by rw [ht]
  rw [hflip, hsame]
  by_cases hin : i < s.dev.pages
  · rcases htext.fontRow hi with ⟨hrow, hlength⟩
    rw [if_pos hin, if_neg (by omega), hrow, Ends.ok_bind]
    have himage : (if invert = true then
        ssd1306Invert (ssd1306RotateImage (glyphRow text i) s.dev.flip)
          else ssd1306RotateImage (glyphRow text i) s.dev.flip).length = 8 := by
      cases invert <;> simp [ssd1306Invert, rotateImage_length]
    refine (displayImage_paints s.dev.flip (by omega) (by omega)).mono fun t' ht' => ⟨?_, ?_⟩
    · rw [ht'.1, ht]
    · rw [himage] at ht'
      refine ht'.2.congr_value fun q hq => ?_
      rcases hq with ⟨hpage, hlo, hhi⟩
      have hchar : 0 + (8 * s.dev.pages - 1 - q.2) / 8 = i := by omega
      have hcol : (8 * s.dev.pages - 1 - q.2) % 8 = 7 - q.2 % 8 := by omega
      rw [bitAt_rotateImage _ _ hlength (by omega) (Nat.mod_lt _ (by omega)), textPixel, hchar, hcol]
  · rw [if_neg hin, if_pos (by omega), if_neg (by omega)]
    exact Ends.ok ⟨ht, Paints.nothing _ _⟩

/-- Two turned letters in the first columns. -/
theorem display_rotate_text_turns_two :
    let s : Screen := ⟨.panel128x64, []⟩
    Ends (ssd1306DisplayRotateText 0 [0x48, 0x69] 2 false s) fun s' =>
      s'.dev = { s.dev with page := s'.dev.page } ∧
      Paints (risingArea s.dev.pages 0 (min 2 8))
        (fun q => textPixel [0x48, 0x69] 0 (8 * s.dev.pages - 1 - q.2) (q.1 - 0) ^^ false)
        (s.dev.page.raster s.dev.flip) (s'.dev.page.raster s.dev.flip) :=
  display_rotate_text_turns panel128x64_fits (by decide) (inFont_of_all (by decide) (by decide))
    false

end RotateText

end Oled
end MainboardFirmware
