import Mathlib.Data.Fin.Basic
import Mathlib.Logic.Function.Basic

/-!
# Bits — a byte as eight independent bits

Read-modify-write on a byte (`b |= 1 << p`, `b &= ~(1 << p)`, `b ^= 1 << p`) seen bit by bit. The
bit view `bit b : Fin 8 → Bool` determines the byte (`eq_of_bit_eq`), and each of the three
operations is a `Function.update` of that view.
-/

namespace MainboardFirmware
namespace Bits

/-- Bit `i` of a byte, least significant first. -/
def bit (b : UInt8) (i : Fin 8) : Bool :=
  b.toBitVec.getLsbD i

/-- The C expression `(uint8_t)(1u << p)`: the shift is done in 32 bits and then truncated. -/
def mask (p : UInt8) : UInt8 :=
  ((1 : UInt32) <<< p.toUInt32).toUInt8

/-- `b |= (uint8_t)(1u << p)` -/
def setBit (b p : UInt8) : UInt8 :=
  b ||| mask p

/-- `b &= (uint8_t)~(1u << p)` -/
def clearBit (b p : UInt8) : UInt8 :=
  b &&& ~~~mask p

/-- `b ^= (uint8_t)(1u << p)` -/
def flipBit (b p : UInt8) : UInt8 :=
  b ^^^ mask p

/-- `if (value) b |= (uint8_t)(1u << p); else b &= (uint8_t)~(1u << p);` -/
def writeBit (b p : UInt8) (value : Bool) : UInt8 :=
  if value = true then setBit b p else clearBit b p

/-- `(b & (uint8_t)(1u << p)) != 0` -/
def testBit (b p : UInt8) : Bool :=
  b &&& mask p != 0

/-- The bit position a shift count of at most seven names. -/
def index (p : UInt8) (hp : p ≤ 7) : Fin 8 :=
  ⟨p.toNat, Nat.lt_succ_of_le (UInt8.le_iff_toNat_le.1 hp)⟩

theorem eq_of_bit_eq {a b : UInt8} (h : ∀ i, bit a i = bit b i) : a = b := by
  apply UInt8.toBitVec_inj.1
  apply BitVec.eq_of_getLsbD_eq
  intro i hi
  exact h ⟨i, hi⟩

theorem bit_injective : Function.Injective bit := by
  intro a b h
  exact eq_of_bit_eq fun i => congrFun h i

theorem bit_mask_ofNat : ∀ k i : Fin 8, bit (mask (UInt8.ofNat k)) i = decide (i = k) := by
  decide

theorem bit_mask (p : UInt8) (hp : p ≤ 7) (i : Fin 8) :
    bit (mask p) i = decide (i = index p hp) := by
  have hk : UInt8.ofNat (index p hp) = p := by
    simp [index]
  simpa [hk] using bit_mask_ofNat (index p hp) i

@[simp] theorem bit_zero (i : Fin 8) : bit 0 i = false := by
  simp [bit]

@[simp] theorem bit_or (a b : UInt8) (i : Fin 8) : bit (a ||| b) i = (bit a i || bit b i) := by
  simp [bit]

@[simp] theorem bit_and (a b : UInt8) (i : Fin 8) : bit (a &&& b) i = (bit a i && bit b i) := by
  simp [bit]

@[simp] theorem bit_xor (a b : UInt8) (i : Fin 8) : bit (a ^^^ b) i = (bit a i ^^ bit b i) := by
  simp [bit]

@[simp] theorem bit_not (a : UInt8) (i : Fin 8) : bit (~~~a) i = !bit a i := by
  simp [bit]

/-- Two bytes share no set bit exactly if their conjunction is zero. -/
theorem and_eq_zero_iff (a b : UInt8) : a &&& b = 0 ↔ ∀ i, bit a i = true → bit b i = false := by
  constructor
  · intro h i ha
    have hi : bit (a &&& b) i = false := by
      simp [h]
    simpa [ha] using hi
  · intro h
    apply eq_of_bit_eq
    intro i
    cases ha : bit a i with
    | false =>
        simp [ha]
    | true =>
        simp [ha, h i ha]

/-! ## Read-modify-write as an update of one bit -/

section Update

variable (b p : UInt8) (hp : p ≤ 7)

theorem bit_setBit : bit (setBit b p) = Function.update (bit b) (index p hp) true := by
  funext i
  by_cases hi : i = index p hp
  · subst hi
    simp [setBit, bit_mask p hp]
  · simp [setBit, bit_mask p hp, hi]

theorem bit_clearBit : bit (clearBit b p) = Function.update (bit b) (index p hp) false := by
  funext i
  by_cases hi : i = index p hp
  · subst hi
    simp [clearBit, bit_mask p hp]
  · simp [clearBit, bit_mask p hp, hi]

theorem bit_flipBit :
    bit (flipBit b p) = Function.update (bit b) (index p hp) (!bit b (index p hp)) := by
  funext i
  by_cases hi : i = index p hp
  · subst hi
    simp [flipBit, bit_mask p hp]
  · simp [flipBit, bit_mask p hp, hi]

theorem bit_writeBit (value : Bool) :
    bit (writeBit b p value) = Function.update (bit b) (index p hp) value := by
  cases value with
  | true =>
      exact bit_setBit b p hp
  | false =>
      exact bit_clearBit b p hp

theorem testBit_eq : testBit b p = bit b (index p hp) := by
  cases hb : bit b (index p hp) with
  | false =>
      have hzero : b &&& mask p = 0 := by
        apply (and_eq_zero_iff b (mask p)).2
        intro i hi
        have hne : i ≠ index p hp := fun h => by simp [h, hb] at hi
        simpa [bit_mask p hp] using hne
      simp [testBit, hzero]
  | true =>
      have hset : b &&& mask p ≠ 0 := by
        intro hzero
        have hclear := (and_eq_zero_iff b (mask p)).1 hzero (index p hp) hb
        simp [bit_mask p hp] at hclear
      simpa [testBit] using hset

/-- Writing a bit leaves the byte as it was exactly if the bit has that value already. -/
theorem writeBit_eq_self_iff (hp : p ≤ 7) (value : Bool) :
    writeBit b p value = b ↔ testBit b p = value := by
  rw [testBit_eq b p hp, ← bit_injective.eq_iff, bit_writeBit b p hp]
  simp [eq_comm]

/-- Inverting a bit never leaves the byte as it was. -/
theorem flipBit_ne (hp : p ≤ 7) : flipBit b p ≠ b := by
  intro h
  have hbit : bit (flipBit b p) (index p hp) = bit b (index p hp) := by
    rw [h]
  rw [bit_flipBit b p hp] at hbit
  simp at hbit

end Update

end Bits
end MainboardFirmware
