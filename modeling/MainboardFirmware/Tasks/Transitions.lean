import MainboardFirmware.Tasks.Sensor

/-!
# Transitions — which threshold crossings reach the output and the display

`task_sensor` records a new state before it sends it and never looks at the result of the send. A
crossing whose command or whose text meets a full queue is therefore dropped for good: the next
sample has the recorded state already. Over every interleaving with the other users of the queues all
crossings are delivered exactly if every such send finds room.
-/

namespace MainboardFirmware

open Machine

/-! ## Changes of a signal -/

section Changes

variable {α : Type*} [DecidableEq α]

/-- The samples that differ from the one before, the first from `prev`. -/
def changes (prev : α) : List α → List α
  | [] => []
  | b :: bs => if b ≠ prev then b :: changes b bs else changes b bs

/-- One more sample adds one more change exactly if it differs from the last one. -/
theorem changes_concat (prev : α) (bs : List α) (b : α) :
    changes prev (bs ++ [b]) = changes prev bs ++ (if b ≠ bs.getLastD prev then [b] else []) := by
  induction bs generalizing prev with
  | nil =>
      simp [changes]
  | cons c bs ih =>
      -- the head becomes the previous sample of the tail
      simp only [List.cons_append, changes, List.getLastD_cons, ih c]
      split
      · exact List.cons_append
      · rfl

end Changes

/-! ## What the queues carry for `task_sensor` -/

section Share

variable {α : Type*} {cap : Nat}

/-- The items `task_sensor` sent. -/
def fromSensor (log : List (Sender × α)) : List α :=
  log.filterMap fun item => if item.1 = .sensor then some item.2 else none

theorem fromSensor_append (log more : List (Sender × α)) :
    fromSensor (log ++ more) = fromSensor log ++ fromSensor more :=
  List.filterMap_append

/-- A send of `task_sensor` extends its share if there is room. -/
theorem fromSensor_send (x : α) (c : Channel (Sender × α) cap) :
    fromSensor (c.send (.sensor, x)).history =
      fromSensor c.history ++ (if c.HasRoom then [x] else []) := by
  rw [Channel.history_send, fromSensor_append]
  split <;> simp [fromSensor]

theorem fromSensor_send_other {sender : Sender} (hsender : sender ≠ .sensor) (x : α)
    (c : Channel (Sender × α) cap) :
    fromSensor (c.send (sender, x)).history = fromSensor c.history := by
  rw [Channel.history_send, fromSensor_append]
  split <;> simp [fromSensor, hsender]

end Share

/-- The texts of the messages for the status row. -/
def statusTexts (messages : List DisplayMsg) : List CString :=
  (messages.filter fun msg => msg.row = 2).map DisplayMsg.text

theorem statusTexts_append (messages more : List DisplayMsg) :
    statusTexts (messages ++ more) = statusTexts messages ++ statusTexts more := by
  simp [statusTexts]

/-- The status texts fit the message. -/
theorem statusTexts_status (ledState : Bool) :
    statusTexts [displayMsg 2 (statusText ledState)] = [statusText ledState] := by
  cases ledState <;> rfl

/-! ## The crossings and where they are -/

variable {V : Type*} {values : SensorValues V}

namespace TaskBoard

/-- Which of the samples read so far are over the threshold. -/
def levels (values : SensorValues V) (s : TaskBoard V) : List Bool :=
  s.samples.map fun reading => values.overThreshold reading.value

/-- Every crossing between consecutive successful readings, from `false` on. -/
def transitions (values : SensorValues V) (s : TaskBoard V) : List Bool :=
  changes false (s.levels values)

/-- The crossing whose command `task_sensor` is about to send. -/
def pendingCommand (values : SensorValues V) (s : TaskBoard V) : List Bool :=
  match s.pc with
  | .sendVolt reading =>
      let current := values.overThreshold reading.value
      if current ≠ s.lastLedState then [current] else []
  | .sendCommand current => [current]
  | _ => []

/-- The crossing whose text `task_sensor` is about to send. -/
def pendingText (values : SensorValues V) (s : TaskBoard V) : List Bool :=
  match s.pc with
  | .sendStatus current => [current]
  | _ => s.pendingCommand values

end TaskBoard

/-- The consumers receive every crossing and its text exactly once and in order: what they have once
they took out all that waits, and the one on its way, are all crossings there were. -/
def TransitionsDelivered (values : SensorValues V) (s : TaskBoard V) : Prop :=
  fromSensor s.actuator.drain.delivered ++ s.pendingCommand values = s.transitions values ∧
    statusTexts (fromSensor s.display.drain.delivered) ++ (s.pendingText values).map statusText =
      (s.transitions values).map statusText

instance (values : SensorValues V) (s : TaskBoard V) : Decidable (TransitionsDelivered values s) :=
  inferInstanceAs (Decidable (_ ∧ _))

/-- The last sample is the one in hand, or the recorded state. -/
def InStep (values : SensorValues V) (s : TaskBoard V) : Prop :=
  (s.levels values).getLastD false =
    match s.pc with
    | .sendVolt reading => values.overThreshold reading.value
    | _ => s.lastLedState

/-- A crossing that is sent finds room. -/
def TransitionsFindRoom (s : TaskBoard V) : TaskMove V → Prop
  | .sensor _ =>
      match s.pc with
      | .sendCommand _ => s.actuator.HasRoom
      | .sendStatus _ => s.display.HasRoom
      | _ => True
  | _ => True

/-! ## One step of `task_sensor` -/

/-- What waits and what was delivered together are what was ever stored. -/
theorem transitionsDelivered_iff (s : TaskBoard V) :
    TransitionsDelivered values s ↔
      fromSensor s.actuator.history ++ s.pendingCommand values = s.transitions values ∧
        statusTexts (fromSensor s.display.history) ++ (s.pendingText values).map statusText =
          (s.transitions values).map statusText := by
  simp only [TransitionsDelivered, Channel.drain_delivered]

theorem taskSensor_inStep {s : TaskBoard V} (hs : InStep values s)
    (answer : EspErr × SensorReading V) : InStep values (taskSensor values answer s) := by
  cases hpc : s.pc with
  | read =>
      by_cases hread : answer.1 = espOk
      · simp [taskSensor, hpc, hread, InStep, TaskBoard.levels]
      · simpa [taskSensor, hpc, hread] using hs
  | sendVolt reading =>
      have hlast : (s.levels values).getLastD false = values.overThreshold reading.value := by
        simpa [InStep, hpc] using hs
      by_cases hcross : values.overThreshold reading.value = s.lastLedState
      · simpa [taskSensor, hpc, hcross, InStep, TaskBoard.levels] using hlast
      · simpa [taskSensor, hpc, hcross, InStep, TaskBoard.levels] using hlast
  | sendCommand current =>
      simpa [taskSensor, hpc, InStep, TaskBoard.levels] using hs
  | sendStatus current =>
      simpa [taskSensor, hpc, InStep, TaskBoard.levels] using hs

/-- A read loses nothing: the sample it adds is a crossing exactly if the task is about to see one. -/
theorem delivered_read {s : TaskBoard V} (hpc : s.pc = .read) (hstep : InStep values s)
    (hs : TransitionsDelivered values s) (answer : EspErr × SensorReading V) :
    TransitionsDelivered values (taskSensor values answer s) := by
  by_cases hread : answer.1 = espOk
  · rcases (transitionsDelivered_iff s).1 hs with ⟨hcommands, htexts⟩
    have hcommands' : fromSensor s.actuator.history = s.transitions values := by
      simpa [TaskBoard.pendingCommand, hpc] using hcommands
    have htexts' : statusTexts (fromSensor s.display.history) =
        (s.transitions values).map statusText := by
      simpa [TaskBoard.pendingText, TaskBoard.pendingCommand, hpc] using htexts
    have hlast : (s.levels values).getLastD false = s.lastLedState := by
      simpa only [InStep, hpc] using hstep
    have hchanges := changes_concat false (s.levels values) (values.overThreshold answer.2.value)
    have htransitions : (taskSensor values answer s).transitions values =
        s.transitions values ++ (taskSensor values answer s).pendingCommand values := by
      rw [hlast] at hchanges
      simpa [taskSensor, hpc, hread, TaskBoard.transitions, TaskBoard.levels,
        TaskBoard.pendingCommand] using hchanges
    rw [transitionsDelivered_iff, htransitions]
    simp [taskSensor, hpc, hread, TaskBoard.pendingText, hcommands', htexts']
  · -- a failed read changes nothing and the task tries again after its delay
    simpa [taskSensor, hpc, hread] using hs

/-- Sending the voltage loses nothing, whether it finds room or not: it is no status text, and a
crossing stays on its way. -/
theorem delivered_sendVolt {s : TaskBoard V} {reading : SensorReading V}
    (hpc : s.pc = .sendVolt reading) (hs : TransitionsDelivered values s)
    (answer : EspErr × SensorReading V) :
    TransitionsDelivered values (taskSensor values answer s) := by
  have hdisplay : ∀ text : CString,
      statusTexts (fromSensor (s.display.send (.sensor, displayMsg 0 text)).history) =
        statusTexts (fromSensor s.display.history) := by
    intro text
    rw [fromSensor_send, statusTexts_append]
    split <;> simp [statusTexts, displayMsg]
  rcases (transitionsDelivered_iff s).1 hs with ⟨hcommands, htexts⟩
  simp only [TaskBoard.pendingText, TaskBoard.pendingCommand, hpc] at hcommands htexts
  rw [transitionsDelivered_iff]
  by_cases hcross : values.overThreshold reading.value = s.lastLedState
  · simp only [hcross, ne_eq, not_true_eq_false, if_false] at hcommands htexts
    simp only [taskSensor, hpc, hcross, hdisplay, TaskBoard.pendingText, TaskBoard.pendingCommand,
      ne_eq, not_true_eq_false, if_false]
    exact ⟨hcommands, htexts⟩
  · simp only [hcross, ne_eq, not_false_eq_true, if_true] at hcommands htexts
    simp only [taskSensor, hpc, hcross, hdisplay, TaskBoard.pendingText, TaskBoard.pendingCommand,
      ne_eq, not_false_eq_true, if_true]
    exact ⟨hcommands, htexts⟩

/-- Sending the command of a crossing loses it exactly if the actuator queue is full. -/
theorem delivered_sendCommand_iff {s : TaskBoard V} {current : Bool}
    (hpc : s.pc = .sendCommand current) (hs : TransitionsDelivered values s)
    (answer : EspErr × SensorReading V) :
    TransitionsDelivered values (taskSensor values answer s) ↔ s.actuator.HasRoom := by
  have hsent := fromSensor_send current s.actuator
  have htransitions : (taskSensor values answer s).transitions values = s.transitions values := by
    simp [taskSensor, hpc, TaskBoard.transitions, TaskBoard.levels]
  rcases (transitionsDelivered_iff s).1 hs with ⟨hcommands, htexts⟩
  simp only [TaskBoard.pendingText, TaskBoard.pendingCommand, hpc] at hcommands htexts
  rw [transitionsDelivered_iff, htransitions]
  simp only [taskSensor, hpc, TaskBoard.pendingText, TaskBoard.pendingCommand, hsent, htexts,
    and_true, List.append_nil, ← hcommands, List.append_cancel_left_eq]
  -- with room the crossing moves from on its way into the queue, without it is gone
  by_cases hroom : s.actuator.HasRoom
  · simp [hroom]
  · simp [hroom]

/-- Sending the text of a crossing loses it exactly if the display queue is full. -/
theorem delivered_sendStatus_iff {s : TaskBoard V} {current : Bool}
    (hpc : s.pc = .sendStatus current) (hs : TransitionsDelivered values s)
    (answer : EspErr × SensorReading V) :
    TransitionsDelivered values (taskSensor values answer s) ↔ s.display.HasRoom := by
  have hsent := fromSensor_send (displayMsg 2 (statusText current)) s.display
  have hstatus := statusTexts_status current
  have htransitions : (taskSensor values answer s).transitions values = s.transitions values := by
    simp [taskSensor, hpc, TaskBoard.transitions, TaskBoard.levels]
  rcases (transitionsDelivered_iff s).1 hs with ⟨hcommands, htexts⟩
  simp only [TaskBoard.pendingText, TaskBoard.pendingCommand, hpc] at hcommands htexts
  rw [transitionsDelivered_iff, htransitions]
  simp only [taskSensor, hpc, TaskBoard.pendingText, TaskBoard.pendingCommand, hsent, hcommands,
    true_and, List.map_nil, List.append_nil, ← htexts, statusTexts_append,
    List.append_cancel_left_eq]
  by_cases hroom : s.display.HasRoom
  · simp [hroom, hstatus]
  · simp [hroom, statusTexts]

/-- From a state in which nothing is lost, a step of `task_sensor` loses nothing exactly if the
crossing it sends finds room. -/
theorem taskSensor_delivered_iff {s : TaskBoard V} (hstep : InStep values s)
    (hs : TransitionsDelivered values s) (answer : EspErr × SensorReading V) :
    TransitionsDelivered values (taskSensor values answer s) ↔
      TransitionsFindRoom s (.sensor answer) := by
  cases hpc : s.pc with
  | read =>
      have hkept := delivered_read hpc hstep hs answer
      simp [TransitionsFindRoom, hpc, hkept]
  | sendVolt reading =>
      have hkept := delivered_sendVolt hpc hs answer
      simp [TransitionsFindRoom, hpc, hkept]
  | sendCommand current =>
      simpa [TransitionsFindRoom, hpc] using delivered_sendCommand_iff hpc hs answer
  | sendStatus current =>
      simpa [TransitionsFindRoom, hpc] using delivered_sendStatus_iff hpc hs answer

/-! ## One step of the others -/

/-- A step that changes neither what `task_sensor` sent nor `task_sensor` itself. -/
structure LeavesSensorAlone (s t : TaskBoard V) : Prop where
  pc : t.pc = s.pc
  lastLedState : t.lastLedState = s.lastLedState
  samples : t.samples = s.samples
  actuator : fromSensor t.actuator.history = fromSensor s.actuator.history
  display : fromSensor t.display.history = fromSensor s.display.history

theorem LeavesSensorAlone.inStep {s t : TaskBoard V} (h : LeavesSensorAlone s t)
    (hs : InStep values s) : InStep values t := by
  simpa only [InStep, TaskBoard.levels, h.pc, h.lastLedState, h.samples] using hs

theorem LeavesSensorAlone.delivered {s t : TaskBoard V} (h : LeavesSensorAlone s t)
    (hs : TransitionsDelivered values s) : TransitionsDelivered values t := by
  rw [transitionsDelivered_iff] at hs ⊢
  simpa only [TaskBoard.pendingText, TaskBoard.pendingCommand, TaskBoard.transitions,
    TaskBoard.levels, h.pc, h.lastLedState, h.samples, h.actuator, h.display] using hs

/-- A step is one of `task_sensor`, or it leaves `task_sensor` alone. -/
theorem taskStep_cases (values : SensorValues V) (s : TaskBoard V) (move : TaskMove V) :
    (∃ answer, move = .sensor answer) ∨
      (TransitionsFindRoom s move ∧ LeavesSensorAlone s (taskStep values s move)) := by
  cases move with
  | sensor answer =>
      exact .inl ⟨answer, rfl⟩
  | remote topic data =>
      have hsent : fromSensor (remoteCommand topic data s).actuator.history =
          fromSensor s.actuator.history := by
        rw [remoteCommand, appTransportCommand_eq]
        cases commandOf data with
        | none =>
            rfl
        | some state =>
            exact fromSensor_send_other (by decide) state s.actuator
      exact .inr ⟨trivial, rfl, rfl, rfl, hsent, rfl⟩
  | ota text row =>
      have hsent : fromSensor (updateDisplayStatus text row s).display.history =
          fromSensor s.display.history :=
        fromSensor_send_other (by decide) (displayMsg row text) s.display
      exact .inr ⟨trivial, rfl, rfl, rfl, rfl, hsent⟩
  | actuator =>
      exact .inr ⟨trivial, rfl, rfl, rfl, congrArg fromSensor (Channel.history_receive s.actuator), rfl⟩
  | display =>
      exact .inr ⟨trivial, rfl, rfl, rfl, rfl, congrArg fromSensor (Channel.history_receive s.display)⟩

/-! ## All interleavings -/

/-- What the steps keep as long as nothing is lost. -/
def NothingLost (values : SensorValues V) (s : TaskBoard V) : Prop :=
  InStep values s ∧ TransitionsDelivered values s

theorem taskStep_inStep {s : TaskBoard V} (hs : InStep values s) (move : TaskMove V) :
    InStep values (taskStep values s move) := by
  rcases taskStep_cases values s move with ⟨answer, rfl⟩ | ⟨_, halone⟩
  · exact taskSensor_inStep hs answer
  · exact halone.inStep hs

theorem taskStep_delivered_iff {s : TaskBoard V} (hs : NothingLost values s) (move : TaskMove V) :
    TransitionsDelivered values (taskStep values s move) ↔ TransitionsFindRoom s move := by
  rcases taskStep_cases values s move with ⟨answer, rfl⟩ | ⟨hroom, halone⟩
  · exact taskSensor_delivered_iff hs.1 hs.2 answer
  · exact iff_of_true (halone.delivered hs.2) hroom

/-- For every interleaving of `task_sensor` with the remote commands, the OTA lines and the consumers,
and all readings: every threshold crossing and its text are delivered exactly once and in order, if
and only if each send of one finds room in its queue. -/
theorem transitions_delivered_iff (values : SensorValues V) (as : List (TaskMove V)) :
    (∀ s ∈ states (taskStep values) (TaskBoard.initial V) as, TransitionsDelivered values s) ↔
      ∀ m ∈ moves (taskStep values) (TaskBoard.initial V) as, TransitionsFindRoom m.1 m.2 := by
  have hstep : ∀ s move, NothingLost values s → TransitionsFindRoom s move →
      NothingLost values (taskStep values s move) := fun s move hs hroom =>
    ⟨taskStep_inStep hs.1 move, (taskStep_delivered_iff hs move).2 hroom⟩
  -- no sample yet, so no crossing
  have hstart : NothingLost values (TaskBoard.initial V) := ⟨rfl, rfl, rfl⟩
  exact forall_states_iff (fun s move hs => taskStep_delivered_iff hs move) hstep hstart hstart.2 as

/-- Readings in millivolts, printed as 3.3 V. -/
def millivolts : SensorValues Nat where
  overThreshold value := 2500 < value
  fixed2 _ := ascii "3.30"

/-- Five remote commands wait when the voltage rises: the crossing is recorded, and neither now nor
after `task_actuator` took everything out did it receive it. The same happens to its text when ten
lines wait for the display. -/
theorem crossing_dropped_by_full_queue :
    let sample := TaskMove.sensor (espOk, (⟨0, 3300, 0⟩ : SensorReading Nat))
    let start := TaskBoard.initial Nat
    let busyActuator := List.replicate 5 (.remote none (ascii "OFF")) ++ List.replicate 4 sample
    let busyDisplay := List.replicate 10 (.ota (ascii "OTA: 10%") 2) ++ List.replicate 4 sample
    let stuck := run (taskStep millivolts) start busyActuator
    stuck.pc = .read ∧ stuck.lastLedState = true ∧ stuck.transitions millivolts = [true] ∧
      fromSensor stuck.actuator.drain.delivered = [] ∧
      (¬ ∀ s ∈ states (taskStep millivolts) start busyActuator, TransitionsDelivered millivolts s) ∧
      ¬ ∀ s ∈ states (taskStep millivolts) start busyDisplay, TransitionsDelivered millivolts s := by
  decide

end MainboardFirmware
