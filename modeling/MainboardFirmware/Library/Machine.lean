import Mathlib.Data.List.Basic

/-!
# Machine — runs of a deterministic labelled machine

A machine is a step function `σ → α → σ`: one state, one label, the next state. Everything the
outside world decides (an argument, an answer, a fault) is part of the label, so a run is a list of
labels and a quantifier over runs is a quantifier over lists.

We provide:

* `run`, `states` and `moves`: the last state of a run, all states it visits, and the
  `(state, label)` pairs it goes through;
* the invariant rules (`inv_run`, `inv_run_of_labels`, `inv_states_of_moves`);
* the exactness rules (`forall_moves_iff`, `forall_states_iff`): when a property of one move is
  equivalent to a condition on the state before it, the property of a whole run is equivalent to
  the condition on every move;
* the latest value of a part of the state (`run_field_eq_latest`);
* the simulation rule (`sim_run`) and, for machines with outputs, the refinement rule
  (`outputs_eq_of_abs`).
-/

namespace MainboardFirmware
namespace Machine

variable {σ τ α : Type*} {step : σ → α → σ}

/-! ## Runs -/

/-- The state after the labels `as`. -/
def run (step : σ → α → σ) (s : σ) (as : List α) : σ :=
  as.foldl step s

/-- Every state a run visits, the first and the last included. -/
def states (step : σ → α → σ) : σ → List α → List σ
  | s, [] => [s]
  | s, a :: as => s :: states step (step s a) as

/-- The moves of a run: each label with the state it was taken in. -/
def moves (step : σ → α → σ) : σ → List α → List (σ × α)
  | _, [] => []
  | s, a :: as => (s, a) :: moves step (step s a) as

@[simp] theorem run_nil (s : σ) : run step s [] = s := rfl

@[simp] theorem run_cons (s : σ) (a : α) (as : List α) :
    run step s (a :: as) = run step (step s a) as := rfl

@[simp] theorem states_nil (s : σ) : states step s [] = [s] := rfl

@[simp] theorem states_cons (s : σ) (a : α) (as : List α) :
    states step s (a :: as) = s :: states step (step s a) as := rfl

@[simp] theorem moves_nil (s : σ) : moves step s [] = [] := rfl

@[simp] theorem moves_cons (s : σ) (a : α) (as : List α) :
    moves step s (a :: as) = (s, a) :: moves step (step s a) as := rfl

theorem run_append (s : σ) (as bs : List α) :
    run step s (as ++ bs) = run step (run step s as) bs :=
  List.foldl_append

theorem moves_append (s : σ) (as bs : List α) :
    moves step s (as ++ bs) = moves step s as ++ moves step (run step s as) bs := by
  induction as generalizing s with
  | nil =>
      rfl
  | cons a as ih =>
      simp only [List.cons_append, moves_cons, run_cons, ih]

/-- A run in two parts visits the states of both. -/
theorem states_append_cons (s : σ) (as : List α) (b : α) (bs : List α) :
    states step s (as ++ b :: bs) = states step s as ++ states step (step (run step s as) b) bs := by
  induction as generalizing s with
  | nil =>
      rfl
  | cons a as ih =>
      simp only [List.cons_append, states_cons, run_cons, ih]

/-- The first state visited is the one the run starts in. -/
theorem states_eq_cons (s : σ) (as : List α) :
    states step s as = s :: (states step s as).tail := by
  cases as with
  | nil =>
      rfl
  | cons a as =>
      rfl

/-- The last state visited is the one after the run. -/
theorem getLast?_states (s : σ) (as : List α) :
    (states step s as).getLast? = some (run step s as) := by
  induction as generalizing s with
  | nil =>
      rfl
  | cons a as ih =>
      rw [states_cons, run_cons, ← ih]
      cases as with
      | nil =>
          rfl
      | cons b bs =>
          rfl

/-- A condition on the labels alone holds of every move exactly if it holds of every label. -/
theorem forall_moves_label_iff {ok : α → Prop} (s : σ) (as : List α) :
    (∀ m ∈ moves step s as, ok m.2) ↔ ∀ a ∈ as, ok a := by
  induction as generalizing s with
  | nil =>
      simp
  | cons a as ih =>
      have htail := ih (step s a)
      simp only [moves_cons, List.forall_mem_cons, htail]

/-- A visited state is the first one or the result of a move. -/
theorem forall_states_iff_moves {P : σ → Prop} (s : σ) (as : List α) :
    (∀ t ∈ states step s as, P t) ↔
      P s ∧ ∀ m ∈ moves step s as, P (step m.1 m.2) := by
  induction as generalizing s with
  | nil =>
      simp
  | cons a as ih =>
      have htail := ih (step s a)
      simp only [states_cons, moves_cons, List.forall_mem_cons, htail]

/-! ## Invariants -/

section Invariant

variable {inv : σ → Prop}

/-- An invariant that every move keeps holds after every run. -/
theorem inv_run (hstep : ∀ s a, inv s → inv (step s a)) {s : σ} (hs : inv s) (as : List α) :
    inv (run step s as) := by
  induction as generalizing s with
  | nil =>
      exact hs
  | cons a as ih =>
      exact ih (hstep s a hs)

/-- An invariant kept by the labels that meet `ok` holds after every run of such labels. -/
theorem inv_run_of_labels {ok : α → Prop} (hstep : ∀ s a, inv s → ok a → inv (step s a)) {s : σ}
    (hs : inv s) {as : List α} (hok : ∀ a ∈ as, ok a) : inv (run step s as) := by
  induction as generalizing s with
  | nil =>
      exact hs
  | cons a as ih =>
      have hhead : ok a := hok a (by simp)
      exact ih (hstep s a hs hhead) fun b hb => hok b (by simp [hb])

/-- An invariant kept by every move of one run holds in all its states. -/
theorem inv_states_of_moves {s : σ} {as : List α} (hs : inv s)
    (hmoves : ∀ m ∈ moves step s as, inv m.1 → inv (step m.1 m.2)) :
    ∀ t ∈ states step s as, inv t := by
  induction as generalizing s with
  | nil =>
      simpa using hs
  | cons a as ih =>
      simp only [moves_cons, states_cons, List.forall_mem_cons] at hmoves ⊢
      exact ⟨hs, ih (hmoves.1 hs) hmoves.2⟩

end Invariant

/-! ## Exactness -/

section Exactness

variable {inv : σ → Prop} {cond prop : σ → α → Prop}

/-- When, under the invariant, a move has the property exactly if it meets the condition, and the
invariant survives such moves, a run has the property throughout exactly if all its moves meet the
condition. -/
theorem forall_moves_iff (hprop : ∀ s a, inv s → (prop s a ↔ cond s a))
    (hstep : ∀ s a, inv s → cond s a → inv (step s a)) {s : σ} (hs : inv s) (as : List α) :
    (∀ m ∈ moves step s as, prop m.1 m.2) ↔ ∀ m ∈ moves step s as, cond m.1 m.2 := by
  induction as generalizing s with
  | nil =>
      simp
  | cons a as ih =>
      simp only [moves_cons, List.forall_mem_cons]
      constructor
      · rintro ⟨hhead, htail⟩
        have hc : cond s a := (hprop s a hs).1 hhead
        exact ⟨hc, (ih (hstep s a hs hc)).1 htail⟩
      · rintro ⟨hc, htail⟩
        exact ⟨(hprop s a hs).2 hc, (ih (hstep s a hs hc)).2 htail⟩

/-- The same for a property of the states visited. -/
theorem forall_states_iff {good : σ → Prop}
    (hgood : ∀ s a, inv s → (good (step s a) ↔ cond s a))
    (hstep : ∀ s a, inv s → cond s a → inv (step s a)) {s : σ} (hs : inv s) (h0 : good s)
    (as : List α) :
    (∀ t ∈ states step s as, good t) ↔ ∀ m ∈ moves step s as, cond m.1 m.2 := by
  rw [forall_states_iff_moves]
  have hmoves := @forall_moves_iff σ α step inv cond (fun s a => good (step s a)) hgood hstep s hs as
  exact ⟨fun h => hmoves.1 h.2, fun h => ⟨h0, hmoves.2 h⟩⟩

end Exactness

/-! ## Simulation -/

/-- A relation that matching moves keep relates the two states after every run. -/
theorem sim_run {step' : τ → α → τ} {R : σ → τ → Prop} {ok : α → Prop}
    (hstep : ∀ s t a, ok a → R s t → R (step s a) (step' t a)) {s : σ} {t : τ} (hst : R s t)
    {as : List α} (hok : ∀ a ∈ as, ok a) : R (run step s as) (run step' t as) := by
  induction as generalizing s t with
  | nil =>
      exact hst
  | cons a as ih =>
      have hhead : ok a := hok a (by simp)
      exact ih (hstep s t a hhead hst) fun b hb => hok b (by simp [hb])

/-! ## Latest values -/

section Latest

variable {β : Type*} {field : σ → β} {given : α → Option β}

/-- The value that the last of the labels gives which gives one, or else `start`. -/
def latest (given : α → Option β) (start : β) (as : List α) : β :=
  (as.filterMap given).getLast?.getD start

theorem latest_cons (start : β) (a : α) (as : List α) :
    latest given start (a :: as) = latest given ((given a).getD start) as := by
  cases hgiven : given a with
  | none =>
      simp [latest, hgiven]
  | some b =>
      simp [latest, hgiven, List.getLast?_cons]

/-- A part of the state that a move either sets or leaves alone holds the latest value it was set to. -/
theorem run_field_eq_latest (hstep : ∀ s a, field (step s a) = (given a).getD (field s)) (s : σ)
    (as : List α) : field (run step s as) = latest given (field s) as := by
  induction as generalizing s with
  | nil =>
      rfl
  | cons a as ih =>
      rw [run_cons, ih, hstep, latest_cons]

/-- The same under an invariant. -/
theorem run_field_eq_latest_of_inv {inv : σ → Prop} (hinv : ∀ s a, inv s → inv (step s a))
    (hstep : ∀ s a, inv s → field (step s a) = (given a).getD (field s)) {s : σ} (hs : inv s)
    (as : List α) : field (run step s as) = latest given (field s) as := by
  induction as generalizing s with
  | nil =>
      rfl
  | cons a as ih =>
      rw [run_cons, ih (hinv s a hs), hstep s a hs, latest_cons]

end Latest

/-! ## Refinement -/

section Refinement

variable {β : Type*} {out : σ → α → β} {step' : τ → α → τ} {out' : τ → α → β} {abs : σ → τ}
  {inv : σ → Prop}

/-- What a machine with outputs answers to the labels of a run, in order. -/
def outputs (step : σ → α → σ) (out : σ → α → β) (s : σ) (as : List α) : List β :=
  (moves step s as).map fun m => out m.1 m.2

/-- A machine whose moves an abstraction maps to moves with the same output answers every run as the
abstract machine does. -/
theorem outputs_eq_of_abs (hinv : ∀ s a, inv s → inv (step s a))
    (habs : ∀ s a, inv s → abs (step s a) = step' (abs s) a)
    (hout : ∀ s a, inv s → out s a = out' (abs s) a) {s : σ} (hs : inv s) (as : List α) :
    outputs step out s as = outputs step' out' (abs s) as := by
  induction as generalizing s with
  | nil =>
      rfl
  | cons a as ih =>
      have hrest := ih (hinv s a hs)
      rw [habs s a hs] at hrest
      calc outputs step out s (a :: as)
          = out s a :: outputs step out (step s a) as := rfl
        _ = out' (abs s) a :: outputs step' out' (step' (abs s) a) as := by rw [hout s a hs, hrest]
        _ = outputs step' out' (abs s) (a :: as) := rfl

end Refinement

end Machine
end MainboardFirmware
