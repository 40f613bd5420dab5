import Mathlib.Data.List.Basic

/-!
# CString — NUL-terminated strings

A C string is the list of its bytes before the terminator. A byte buffer without one is a list as
well; reading at or behind its end gives 0, as reading the terminator would.
-/

namespace MainboardFirmware

abbrev CString := List UInt8

/-- The bytes of an ASCII literal. -/
def ascii (s : String) : CString :=
  s.toList.map fun c => c.toNat.toUInt8

/-- `strlcpy` into a buffer of `size` bytes. -/
def strlcpy (src : CString) (size : Nat) : CString :=
  src.take (size - 1)

/-- `strncmp`: the difference of the first bytes that differ among the first `n`, up to a NUL. -/
def strncmp (s t : CString) : Nat → Int
  | 0 => 0
  | n + 1 =>
      if s.headD 0 ≠ t.headD 0 then ((s.headD 0).toNat : Int) - (t.headD 0).toNat
      else if s.headD 0 = 0 then 0
      else strncmp s.tail t.tail n

/-- Against a string without NUL of the same length, `strncmp` over that length is equality. -/
theorem strncmp_eq_zero_iff {s t : CString} (hlength : s.length = t.length) (ht : 0 ∉ t) :
    strncmp s t t.length = 0 ↔ s = t := by
  induction t generalizing s with
  | nil =>
      have hs : s = [] := List.length_eq_zero_iff.1 hlength
      simp [strncmp, hs]
  | cons b t ih =>
      cases s with
      | nil =>
          simp at hlength
      | cons a s =>
          have htail : strncmp s t t.length = 0 ↔ s = t :=
            ih (by simpa using hlength) fun h => ht (List.mem_cons_of_mem b h)
          have hb : b ≠ 0 := fun h => ht (by simp [h])
          by_cases hab : a = b
          · simp [strncmp, hab, hb, htail]
          · -- bytes that differ have a nonzero difference
            have hne : (a.toNat : Int) - b.toNat ≠ 0 := by
              intro hzero
              have hnat : a.toNat = b.toNat := by omega
              exact hab (UInt8.toNat_inj.1 hnat)
            simp [strncmp, hab, hne]

end MainboardFirmware
