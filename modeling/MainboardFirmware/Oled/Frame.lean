import Mathlib.Logic.Basic
import MainboardFirmware.Library.Bits
import MainboardFirmware.Library.Paint

/-!
# Frame — the page buffer of `firmware/components/ssd1306`

The component keeps a copy of the panel in `_page[8]._segs[128]`: a page is eight rows of pixels, a
segment is one column of it with the upper pixel in the lowest bit. A device that is mounted upside
down holds every segment with its bits reversed. `seg` is the byte view of the buffer and `pixel` the
picture it stands for; C reads and writes outside the arrays are undefined and end with an
`OledFault`.
-/

namespace MainboardFirmware
namespace Oled

/-! ## Bytes -/

/-- The loop of `ssd1306_rotate_byte` with `n` rounds left. -/
def rotateByteLoop : ℕ → UInt8 → UInt8 → UInt8
  | 0, _, ch2 => ch2
  | n + 1, ch1, ch2 => rotateByteLoop n (ch1 >>> 1) ((ch2 <<< 1) + (ch1 &&& 0x01))

/-- `ssd1306_rotate_byte` -/
def ssd1306RotateByte (ch1 : UInt8) : UInt8 :=
  rotateByteLoop 8 ch1 0

/-- `ssd1306_copy_bit`, for bit numbers below eight. -/
def ssd1306CopyBit (src srcBits dst dstBits : UInt8) : UInt8 :=
  if src &&& Bits.mask srcBits ≠ 0 then
    dst ||| Bits.mask dstBits
  else
    dst &&& ~~~Bits.mask dstBits

/-- `ssd1306_invert` -/
def ssd1306Invert (buf : List UInt8) : List UInt8 :=
  buf.map fun wk => ~~~wk

/-- `ssd1306_flip` -/
def ssd1306Flip (buf : List UInt8) : List UInt8 :=
  buf.map ssd1306RotateByte

/-- Bit `k` of a byte; there are none from the eighth on. -/
def bitAt (b : UInt8) (k : ℕ) : Bool :=
  b.toBitVec.getLsbD k

theorem bitAt_of_le {k : ℕ} (hk : 8 ≤ k) (b : UInt8) : bitAt b k = false :=
  BitVec.getLsbD_of_ge b.toBitVec k hk

theorem bit_eq_bitAt (b : UInt8) (i : Fin 8) : Bits.bit b i = bitAt b i := rfl

theorem eq_of_bitAt_eq {a b : UInt8} (h : ∀ k < 8, bitAt a k = bitAt b k) : a = b :=
  Bits.eq_of_bit_eq fun i => h i i.isLt

@[simp] theorem bitAt_not {k : ℕ} (hk : k < 8) (b : UInt8) : bitAt (~~~b) k = !bitAt b k := by
  simp [bitAt, hk]

theorem bitAt_writeBit (b : UInt8) {d k : ℕ} (hd : d < 8) (hk : k < 8) (v : Bool) :
    bitAt (Bits.writeBit b (UInt8.ofNat d) v) k = if k = d then v else bitAt b k := by
  have hsmall : ∀ m < 8, UInt8.ofNat m ≤ 7 ∧ (UInt8.ofNat m).toNat = m := by
    decide
  have hbit := congrFun (Bits.bit_writeBit b (UInt8.ofNat d) (hsmall d hd).1 v) ⟨k, hk⟩
  rw [← bit_eq_bitAt _ ⟨k, hk⟩, hbit]
  by_cases hkd : k = d
  · have hindex : (⟨k, hk⟩ : Fin 8) = Bits.index (UInt8.ofNat d) (hsmall d hd).1 := by
      apply Fin.ext
      exact hkd.trans (hsmall d hd).2.symm
    rw [hindex, Function.update_self, if_pos hkd]
  · have hindex : (⟨k, hk⟩ : Fin 8) ≠ Bits.index (UInt8.ofNat d) (hsmall d hd).1 := by
      intro h
      exact hkd ((congrArg Fin.val h).trans (hsmall d hd).2)
    rw [Function.update_of_ne hindex, if_neg hkd, bit_eq_bitAt]

theorem testBit_eq_bitAt (b : UInt8) {d : ℕ} (hd : d < 8) :
    Bits.testBit b (UInt8.ofNat d) = bitAt b d := by
  have hsmall : ∀ m < 8, UInt8.ofNat m ≤ 7 ∧ (UInt8.ofNat m).toNat = m := by
    decide
  rw [Bits.testBit_eq _ _ (hsmall d hd).1, bit_eq_bitAt]
  simp [Bits.index, (hsmall d hd).2]

theorem bitAt_shiftRight_one (b : UInt8) (k : ℕ) : bitAt (b >>> 1) k = bitAt b (k + 1) := by
  simp [bitAt, Nat.add_comm]

/-- A byte moved up by one bit, with the lowest bit of another one moved in. -/
theorem bitAt_shiftIn (b c : UInt8) {k : ℕ} (hk : k < 8) :
    bitAt ((b <<< 1) + (c &&& 0x01)) k = if k = 0 then bitAt c 0 else bitAt b (k - 1) := by
  have hdisjoint : b.toBitVec <<< 1 &&& (c.toBitVec &&& 1#8) = 0#8 := by
    apply BitVec.eq_of_getLsbD_eq
    intro i hi
    by_cases h0 : i = 0
    · simp [h0]
    · simp [BitVec.getLsbD_one, h0]
  have hor : ((b <<< 1) + (c &&& 0x01)).toBitVec = b.toBitVec <<< 1 ||| c.toBitVec &&& 1#8 := by
    rw [← BitVec.add_eq_or_of_and_eq_zero _ _ hdisjoint]
    simp
  rw [bitAt, hor]
  by_cases h0 : k = 0
  · simp [h0, bitAt]
  · have hlt : k - 1 < 8 := by omega
    simp [h0, hk, bitAt, BitVec.getLsbD_eq_getElem hlt]

/-- With `n` rounds left the low `n` bits are still to come from `ch1`, in reverse order. -/
theorem bitAt_rotateByteLoop {n : ℕ} (hn : n ≤ 8) (ch1 ch2 : UInt8) {k : ℕ} (hk : k < 8) :
    bitAt (rotateByteLoop n ch1 ch2) k =
      if k < n then bitAt ch1 (n - 1 - k) else bitAt ch2 (k - n) := by
  induction n generalizing ch1 ch2 with
  | zero =>
      simp [rotateByteLoop]
  | succ n ih =>
      rw [rotateByteLoop, ih (by omega), bitAt_shiftRight_one, bitAt_shiftIn _ _ (by omega)]
      by_cases hlt : k < n
      · have hindex : n - 1 - k + 1 = n + 1 - 1 - k := by omega
        simp [hlt, Nat.lt_succ_of_lt hlt, hindex]
      · by_cases heq : k = n
        · simp [heq]
        · have hnot : ¬ k < n + 1 := by omega
          have hne : k - n ≠ 0 := by omega
          have hindex : k - n - 1 = k - (n + 1) := by omega
          simp [hlt, hnot, hne, hindex]

/-- The result is the byte read the other way round. -/
theorem bitAt_rotateByte (b : UInt8) {k : ℕ} (hk : k < 8) :
    bitAt (ssd1306RotateByte b) k = bitAt b (7 - k) := by
  simp [ssd1306RotateByte, bitAt_rotateByteLoop (Nat.le_refl 8) b 0 hk, hk]

@[simp] theorem rotateByte_rotateByte (b : UInt8) :
    ssd1306RotateByte (ssd1306RotateByte b) = b := by
  apply eq_of_bitAt_eq
  intro k hk
  have hback : 7 - (7 - k) = k := by omega
  rw [bitAt_rotateByte _ hk, bitAt_rotateByte b (by omega), hback]

theorem rotateByte_not (b : UInt8) : ssd1306RotateByte (~~~b) = ~~~ssd1306RotateByte b := by
  apply eq_of_bitAt_eq
  intro k hk
  rw [bitAt_rotateByte _ hk, bitAt_not (by omega), bitAt_not hk, bitAt_rotateByte b hk]

/-- A segment as the picture has it: a flipped device stores it the other way round. -/
def upright (flip : Bool) (b : UInt8) : UInt8 :=
  if flip = true then ssd1306RotateByte b else b

@[simp] theorem upright_upright (flip : Bool) (b : UInt8) : upright flip (upright flip b) = b := by
  cases flip <;> simp [upright]

/-! ## The buffer -/

/-- What is undefined in C, and loops that are not followed to their end. -/
inductive OledFault
  /-- an index outside `_page[8]` or `_segs[128]` -/
  | pageArray
  /-- a character behind the font table -/
  | font
  /-- a read behind the end of an image, a bitmap or a text -/
  | source
  /-- a shift by more bits than an `int` has -/
  | shift
  /-- a loop that goes on for more rounds than it is followed -/
  | rounds
  deriving DecidableEq, Repr

/-- The `_segs` of the eight pages. -/
abbrev Frame := Fin 8 → Fin 128 → UInt8

namespace Frame

def blank : Frame :=
  fun _ _ => 0

/-- `_page[page]._segs[seg]`, and 0 outside the arrays. -/
def seg (f : Frame) (page col : ℕ) : UInt8 :=
  if h : page < 8 ∧ col < 128 then f ⟨page, h.1⟩ ⟨col, h.2⟩ else 0

/-- A buffer given segment by segment. -/
def ofSeg (g : ℕ → ℕ → UInt8) : Frame :=
  fun page col => g page col

/-- A read of `_page[page]._segs[col]`. -/
def read (f : Frame) (page col : ℕ) : Except OledFault UInt8 :=
  if page < 8 ∧ col < 128 then .ok (f.seg page col) else .error .pageArray

/-- `_page[page]._segs[col] = b` -/
def write (f : Frame) (page col : ℕ) (b : UInt8) : Except OledFault Frame :=
  if page < 8 ∧ col < 128 then
    .ok (ofSeg fun p c => if p = page ∧ c = col then b else f.seg p c)
  else
    .error .pageArray

/-- The `width` segments from `col` on, as a `memcpy` out of the page reads them. -/
def readRow (f : Frame) (page col width : ℕ) : Except OledFault (List UInt8) :=
  if page < 8 ∧ col + width ≤ 128 then
    .ok ((List.range' col width).map (f.seg page))
  else
    .error .pageArray

/-- A `memcpy` of the bytes into the page, from `col` on. -/
def writeRow (f : Frame) (page col : ℕ) (bytes : List UInt8) : Except OledFault Frame :=
  if page < 8 ∧ col + bytes.length ≤ 128 then
    .ok (ofSeg fun p c =>
      if p = page ∧ col ≤ c ∧ c < col + bytes.length then bytes.getD (c - col) 0 else f.seg p c)
  else
    .error .pageArray

variable {f g : Frame} {page col p c : ℕ}

theorem seg_ofSeg (g : ℕ → ℕ → UInt8) (hp : p < 8) (hc : c < 128) : (ofSeg g).seg p c = g p c := by
  simp [seg, ofSeg, hp, hc]

theorem seg_eq_zero (h : ¬ (p < 8 ∧ c < 128)) : f.seg p c = 0 :=
  dif_neg h

/-- Two buffers with the same segments are the same. -/
theorem ext_seg (h : ∀ p < 8, ∀ c < 128, f.seg p c = g.seg p c) : f = g := by
  funext p c
  simpa [seg] using h p p.isLt c c.isLt

/-! ### Access inside the arrays -/

theorem read_ok (hp : page < 8) (hc : col < 128) : f.read page col = .ok (f.seg page col) :=
  if_pos ⟨hp, hc⟩

theorem write_ends (hp : page < 8) (hc : col < 128) (b : UInt8) :
    Ends (f.write page col b) fun f' =>
      ∀ p c, f'.seg p c = if p = page ∧ c = col then b else f.seg p c := by
  refine ⟨_, if_pos ⟨hp, hc⟩, fun p c => ?_⟩
  by_cases hin : p < 8 ∧ c < 128
  · exact seg_ofSeg _ hin.1 hin.2
  · have hother : ¬ (p = page ∧ c = col) := fun h => hin ⟨h.1 ▸ hp, h.2 ▸ hc⟩
    simp [seg_eq_zero hin, hother]

theorem readRow_ok {width : ℕ} (hp : page < 8) (hc : col + width ≤ 128) :
    f.readRow page col width = .ok ((List.range' col width).map (f.seg page)) :=
  if_pos ⟨hp, hc⟩

theorem writeRow_ends {bytes : List UInt8} (hp : page < 8) (hc : col + bytes.length ≤ 128) :
    Ends (f.writeRow page col bytes) fun f' => ∀ p c, f'.seg p c =
      if p = page ∧ col ≤ c ∧ c < col + bytes.length then bytes.getD (c - col) 0
      else f.seg p c := by
  refine ⟨_, if_pos ⟨hp, hc⟩, fun p c => ?_⟩
  by_cases hin : p < 8 ∧ c < 128
  · exact seg_ofSeg _ hin.1 hin.2
  · have hother : ¬ (p = page ∧ col ≤ c ∧ c < col + bytes.length) := fun h =>
      hin ⟨h.1 ▸ hp, by omega⟩
    simp [seg_eq_zero hin, hother]

/-! ### The picture -/

/-- The pixel in column `x` and row `y`, counted from the upper left corner. -/
def pixel (flip : Bool) (f : Frame) (x y : ℕ) : Bool :=
  bitAt (upright flip (f.seg (y / 8) x)) (y % 8)

/-- The picture as a function of the point. -/
def raster (flip : Bool) (f : Frame) : ℕ × ℕ → Bool :=
  fun q => f.pixel flip q.1 q.2

/-- A write that changes bit `d` of a segment only paints one pixel. -/
theorem write_paints {flip v : Bool} {b : UInt8} {d : ℕ} (hp : page < 8) (hc : col < 128)
    (hd : d < 8) (hb : ∀ k < 8, bitAt (upright flip b) k =
      if k = d then v else bitAt (upright flip (f.seg page col)) k) :
    Ends (f.write page col b) fun f' =>
      Paints {(col, 8 * page + d)} (fun _ => v) (f.raster flip) (f'.raster flip) := by
  refine (write_ends hp hc b).mono fun f' hf' => ⟨?_, ?_⟩
  · rintro q rfl
    have hpage : (8 * page + d) / 8 = page := by omega
    have hbit : (8 * page + d) % 8 = d := by omega
    simp [raster, pixel, hpage, hbit, hf', hb d hd]
  · rintro ⟨x, y⟩ hq
    simp only [raster, pixel, hf']
    by_cases hin : y / 8 = page ∧ x = col
    · have hne : y % 8 ≠ d := by
        intro heq
        apply hq
        rw [Set.mem_singleton_iff, Prod.mk.injEq]
        exact ⟨hin.2, by omega⟩
      rw [if_pos hin, hb _ (Nat.mod_lt y (by omega)), if_neg hne, hin.1, hin.2]
    · rw [if_neg hin]

end Frame

end Oled
end MainboardFirmware
