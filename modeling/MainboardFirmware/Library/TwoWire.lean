import Mathlib.Data.List.Basic
import Mathlib.Data.List.Induction

/-!
# TwoWire — conditions on a clock line and a data line

The levels of two wires, one after the other. While the clock is high the data line is not to change:
a fall is a START condition, a rise a STOP condition.
-/

namespace MainboardFirmware
namespace TwoWire

/-- The levels of both wires. -/
@[ext]
structure Levels where
  scl : Bool
  sda : Bool
  deriving DecidableEq, Repr

/-- The data line falls while the clock is high. -/
def IsStart (a b : Levels) : Prop :=
  a.scl = true ∧ b.scl = true ∧ a.sda = true ∧ b.sda = false

/-- The data line rises while the clock is high. -/
def IsStop (a b : Levels) : Prop :=
  a.scl = true ∧ b.scl = true ∧ a.sda = false ∧ b.sda = true

instance (a b : Levels) : Decidable (IsStart a b) :=
  inferInstanceAs (Decidable (_ ∧ _))

instance (a b : Levels) : Decidable (IsStop a b) :=
  inferInstanceAs (Decidable (_ ∧ _))

/-- The last change of the levels is a STOP condition. -/
def EndsWithStop (levels : List Levels) : Prop :=
  ∃ before a b after, levels = before ++ a :: b :: after ∧ IsStop a b ∧ ∀ l ∈ after, l = b

namespace EndsWithStop

variable {levels : List Levels}

theorem append_left (earlier : List Levels) (h : EndsWithStop levels) :
    EndsWithStop (earlier ++ levels) := by
  rcases h with ⟨before, a, b, after, heq, hstop, hafter⟩
  exact ⟨earlier ++ before, a, b, after, by rw [heq, List.append_assoc], hstop, hafter⟩

/-- Both lines are left high. -/
theorem last_high (h : EndsWithStop levels) {last : Levels} (hlast : levels.getLast? = some last) :
    last.scl = true ∧ last.sda = true := by
  rcases h with ⟨before, a, b, after, heq, hstop, hafter⟩
  have hmem : last ∈ b :: after := by
    have htail : levels.getLast? = (b :: after).getLast? := by
      calc
        levels.getLast? = ((before ++ [a]) ++ b :: after).getLast? := by rw [heq]; simp
        _ = (b :: after).getLast? := List.getLast?_append_of_ne_nil _ (by simp)
    exact List.mem_of_getLast? (htail.symm.trans hlast)
  have hsame : last = b := by
    rcases List.mem_cons.1 hmem with hb | hmem
    · exact hb
    · exact hafter last hmem
  rw [hsame]
  exact ⟨hstop.2.1, hstop.2.2.2⟩

/-- Levels that stay as they are change nothing. -/
theorem concat (h : EndsWithStop levels) {last : Levels} (hlast : last.scl = true ∧ last.sda = true) :
    EndsWithStop (levels ++ [last]) := by
  rcases h with ⟨before, a, b, after, heq, hstop, hafter⟩
  refine ⟨before, a, b, after ++ [last], by rw [heq]; simp, hstop, ?_⟩
  intro l hl
  rcases List.mem_append.1 hl with hl | hl
  · exact hafter l hl
  · rw [List.mem_singleton.1 hl]
    exact Levels.ext (hlast.1.trans hstop.2.1.symm) (hlast.2.trans hstop.2.2.2.symm)

end EndsWithStop

/-- With the clock high throughout, a data line that is low at first and high in the end has come up
last. -/
theorem endsWithStop_of_rise {first : Levels} {rest : List Levels} (hlow : first.sda = false)
    (hscl : ∀ l ∈ first :: rest, l.scl = true)
    (hhigh : ∀ last, (first :: rest).getLast? = some last → last.sda = true) :
    EndsWithStop (first :: rest) := by
  -- the induction is from the end, where the last rise is looked for
  induction rest using List.reverseRecOn with
  | nil =>
      have hfirst := hhigh first rfl
      rw [hlow] at hfirst
      exact absurd hfirst (by simp)
  | append_singleton xs last ih =>
      have hlast : last.scl = true ∧ last.sda = true := by
        refine ⟨hscl last (by simp), hhigh last ?_⟩
        rw [← List.cons_append, List.getLast?_append]
        rfl
      rcases List.eq_nil_or_concat (first :: xs) with hnil | ⟨ys, prev, hprev⟩
      · exact absurd hnil (by simp)
      have hprevScl : prev.scl = true := by
        have hmem : prev ∈ first :: xs := by
          rw [hprev]
          simp
        exact hscl prev (by
          rw [← List.cons_append]
          exact List.mem_append_left _ hmem)
      rw [← List.cons_append]
      cases hsda : prev.sda with
      | true =>
          have hearlier : EndsWithStop (first :: xs) := by
            apply ih
            · intro l hl
              apply hscl
              rw [← List.cons_append]
              exact List.mem_append_left _ hl
            · intro l hl
              rw [hprev] at hl
              have heq : prev = l := by
                simpa using hl
              rw [← heq]
              exact hsda
          exact hearlier.concat hlast
      | false =>
          -- the rise is the very last change
          refine ⟨ys, prev, last, [], ?_, ⟨hprevScl, hlast.1, hsda, hlast.2⟩, by simp⟩
          rw [hprev]
          simp

end TwoWire
end MainboardFirmware
