import Mathlib.Data.List.Basic
import Mathlib.Logic.Function.Iterate

/-!
# BoundedQueue — a FIFO queue of fixed capacity with non-blocking sends

* `BoundedQueue α cap`: at most `cap` items, the oldest first; the bound is a field, so no operation
  can overfill the queue.
* `Channel α cap`: the queue together with what its consumer took out of it, in order. Its
  `history` is every item ever stored; a receive moves an item inside it, and a send extends it
  exactly if the queue has room.
-/

namespace MainboardFirmware

/-! ## The queue -/

structure BoundedQueue (α : Type*) (cap : Nat) where
  items : List α
  bounded : items.length ≤ cap
  deriving DecidableEq, Repr

namespace BoundedQueue

variable {α : Type*} {cap : Nat}

def empty : BoundedQueue α cap :=
  ⟨[], Nat.zero_le cap⟩

def HasRoom (q : BoundedQueue α cap) : Prop :=
  q.items.length < cap

instance (q : BoundedQueue α cap) : Decidable q.HasRoom :=
  inferInstanceAs (Decidable (q.items.length < cap))

/-- Store `x` behind the other items, or drop it when the queue is full. -/
def send (x : α) (q : BoundedQueue α cap) : BoundedQueue α cap :=
  if h : q.items.length < cap then
    ⟨q.items ++ [x], by simpa [Nat.succ_le_iff] using h⟩
  else
    q

/-- The oldest item and the queue without it, if there is one. -/
def receive (q : BoundedQueue α cap) : Option (α × BoundedQueue α cap) :=
  match h : q.items with
  | [] => none
  | x :: rest => some (x, ⟨rest, Nat.le_of_succ_le (by simpa [h] using q.bounded)⟩)

theorem send_items (x : α) (q : BoundedQueue α cap) :
    (q.send x).items = q.items ++ (if q.HasRoom then [x] else []) := by
  by_cases h : q.items.length < cap
  · simp [send, HasRoom, h]
  · simp [send, HasRoom, h]

/-- A receive takes the head of the items and leaves the tail. -/
theorem receive_items {q q' : BoundedQueue α cap} {x : α} (h : q.receive = some (x, q')) :
    q.items = x :: q'.items := by
  unfold receive at h
  split at h
  · cases h
  · next y rest hitems =>
      cases h
      exact hitems

theorem receive_eq_none {q : BoundedQueue α cap} (h : q.receive = none) : q.items = [] := by
  unfold receive at h
  split at h
  · next hitems =>
      exact hitems
  · cases h

end BoundedQueue

/-! ## The queue and its consumer -/

structure Channel (α : Type*) (cap : Nat) where
  queue : BoundedQueue α cap
  delivered : List α
  deriving DecidableEq, Repr

namespace Channel

variable {α : Type*} {cap : Nat}

def empty : Channel α cap :=
  ⟨.empty, []⟩

def HasRoom (c : Channel α cap) : Prop :=
  c.queue.HasRoom

instance (c : Channel α cap) : Decidable c.HasRoom :=
  inferInstanceAs (Decidable c.queue.HasRoom)

def send (x : α) (c : Channel α cap) : Channel α cap :=
  { c with queue := c.queue.send x }

/-- The consumer takes the oldest item; on an empty queue it stays blocked. -/
def receive (c : Channel α cap) : Channel α cap :=
  match c.queue.receive with
  | none => c
  | some (x, queue) => ⟨queue, c.delivered ++ [x]⟩

theorem receive_of_some {c : Channel α cap} {x : α} {rest : BoundedQueue α cap}
    (h : c.queue.receive = some (x, rest)) : c.receive = ⟨rest, c.delivered ++ [x]⟩ := by
  simp [receive, h]

/-- Everything ever stored, in order: what was delivered, then what waits. -/
def history (c : Channel α cap) : List α :=
  c.delivered ++ c.queue.items

theorem history_send (x : α) (c : Channel α cap) :
    (c.send x).history = c.history ++ (if c.HasRoom then [x] else []) := by
  have hitems := c.queue.send_items x
  simp only [history, send, hitems, List.append_assoc]
  rfl

/-- A receive changes where an item is, not what was stored. -/
@[simp] theorem history_receive (c : Channel α cap) : c.receive.history = c.history := by
  unfold receive
  cases hreceive : c.queue.receive with
  | none =>
      rfl
  | some taken =>
      have hitems : c.queue.items = taken.1 :: taken.2.items :=
        BoundedQueue.receive_items hreceive
      simp [history, hitems]

/-- The consumer takes out everything that waits. -/
def drain (c : Channel α cap) : Channel α cap :=
  receive^[c.queue.items.length] c

theorem receive_cons {c : Channel α cap} {x : α} {rest : List α} (h : c.queue.items = x :: rest) :
    c.receive.queue.items = rest := by
  unfold receive
  cases hreceive : c.queue.receive with
  | none =>
      have hempty : c.queue.items = [] := BoundedQueue.receive_eq_none hreceive
      simp [hempty] at h
  | some taken =>
      have hitems : c.queue.items = taken.1 :: taken.2.items :=
        BoundedQueue.receive_items hreceive
      have hcons : taken.1 :: taken.2.items = x :: rest := hitems.symm.trans h
      exact (List.cons.inj hcons).2

/-- After enough receives everything ever stored has been delivered, in order. -/
theorem drain_delivered (c : Channel α cap) : c.drain.delivered = c.history := by
  -- induction on how much waits; each receive shortens the queue and keeps the history
  have hdrain : ∀ (n : Nat) (c : Channel α cap), c.queue.items.length = n →
      (receive^[n] c).delivered = c.history := by
    intro n
    induction n with
    | zero =>
        intro c hlength
        have hempty : c.queue.items = [] := List.length_eq_zero_iff.1 hlength
        simp [history, hempty]
    | succ n ih =>
        intro c hlength
        rcases List.exists_of_length_succ c.queue.items hlength with ⟨x, rest, hitems⟩
        have hrest : c.receive.queue.items = rest := receive_cons hitems
        have hshorter : c.receive.queue.items.length = n := by
          simpa [hrest, hitems] using hlength
        calc
          (receive^[n + 1] c).delivered = (receive^[n] c.receive).delivered := by
            rw [Function.iterate_succ_apply]
          _ = c.receive.history := ih c.receive hshorter
          _ = c.history := history_receive c
  exact hdrain c.queue.items.length c rfl

end Channel
end MainboardFirmware
