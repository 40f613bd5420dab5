import MainboardFirmware.Library.BoundedQueue
import MainboardFirmware.Library.Machine
import MainboardFirmware.Network.Manager

/-!
# Command — from an inbound MQTT message to the actuator queue

`app_transport_command` of `firmware/main/main.c` behind `mqtt_event_handler`. The MQTT client hands
a message over in one or more `MQTT_EVENT_DATA` events; the handler passes the bytes of each event
on, and the callback looks at nothing else: neither the topic nor whether the event carries the whole
message. So the bytes `ON` or `OFF` of any event switch the output, whatever message they end.
-/

namespace MainboardFirmware

open Machine

/-! ## The callback -/

/-- The depth `app_main` gives `g_queue_actuator`. -/
def actuatorDepth : Nat := 5

/-- `app_transport_command`; the non-blocking send to the queue is an argument. -/
def appTransportCommand {Q : Type*} (xQueueSend : Bool → Q → Q) (_topic : Option CString)
    (data : List UInt8) (gQueueActuator : Q) : Q :=
  if data.length = 2 ∧ strncmp data (ascii "ON") 2 = 0 then
    xQueueSend true gQueueActuator
  else if data.length = 3 ∧ strncmp data (ascii "OFF") 3 = 0 then
    xQueueSend false gQueueActuator
  else
    gQueueActuator

/-- What a payload commands. -/
def commandOf (payload : List UInt8) : Option Bool :=
  if payload = ascii "ON" then some true
  else if payload = ascii "OFF" then some false
  else none

/-- The callback stores what the bytes of the event command. -/
theorem appTransportCommand_eq {Q : Type*} (xQueueSend : Bool → Q → Q) (topic : Option CString)
    (data : List UInt8) (q : Q) :
    appTransportCommand xQueueSend topic data q =
      (commandOf data).elim q fun state => xQueueSend state q := by
  -- both branches compare the length first, so `strncmp` never reads past the bytes
  have hcompare : ∀ text : CString, 0 ∉ text →
      ((data.length = text.length ∧ strncmp data text text.length = 0) ↔ data = text) := by
    intro text htext
    constructor
    · rintro ⟨hlength, hzero⟩
      exact (strncmp_eq_zero_iff hlength htext).1 hzero
    · intro heq
      exact ⟨congrArg List.length heq, (strncmp_eq_zero_iff (congrArg List.length heq) htext).2 heq⟩
  have hon : (data.length = 2 ∧ strncmp data (ascii "ON") 2 = 0) ↔ data = ascii "ON" :=
    hcompare (ascii "ON") (by decide)
  have hoff : (data.length = 3 ∧ strncmp data (ascii "OFF") 3 = 0) ↔ data = ascii "OFF" :=
    hcompare (ascii "OFF") (by decide)
  simp only [appTransportCommand, commandOf, hon, hoff]
  split
  · rfl
  · split <;> rfl

/-! ## The MQTT client -/

/-- A message the client is handing over, and how much of it went out in events. -/
structure Inbound where
  topic : CString
  payload : List UInt8
  offset : Nat
  deriving DecidableEq, Repr

/-- The event with the next `len` bytes. -/
def Inbound.event (m : Inbound) (len : Nat) : MqttData where
  topic := if m.offset = 0 then some m.topic else none
  data := (m.payload.drop m.offset).take len
  currentDataOffset := m.offset
  totalDataLen := m.payload.length

/-- What is left to hand over after that event. -/
def Inbound.advance (m : Inbound) (len : Nat) : Option Inbound :=
  if m.offset + len < m.payload.length then some { m with offset := m.offset + len } else none

/-- The event with the next `len` bytes carries the whole message. -/
def Inbound.IsWhole (m : Inbound) (len : Nat) : Prop :=
  m.offset = 0 ∧ m.payload.length ≤ len

instance (m : Inbound) (len : Nat) : Decidable (m.IsWhole len) :=
  inferInstanceAs (Decidable (_ ∧ _))

theorem Inbound.event_data_of_isWhole {m : Inbound} {len : Nat} (h : m.IsWhole len) :
    (m.event len).data = m.payload := by
  simp [Inbound.event, h.1, List.take_of_length_le h.2]

/-! ## The command path -/

structure CommandPath where
  manager : NetworkManager
  /-- the topic filters the client is subscribed with -/
  filters : List CString
  incoming : Option Inbound
  actuator : Channel Bool actuatorDepth
  deriving DecidableEq, Repr

/-- After `app_main`, before the first event. -/
def CommandPath.initial (topicCommand : CString) : CommandPath :=
  ⟨NetworkManager.initialized topicCommand, [], none, .empty⟩

/-- What one call of a handler does. -/
def CommandPath.perform (s : CommandPath) : NetworkCall → CommandPath
  | .mqttClientSubscribe topic _ => { s with filters := s.filters ++ [topic] }
  | .cmdCb topic data =>
      { s with actuator := appTransportCommand Channel.send topic data s.actuator }
  | .wifiConnect => s
  | .mqttClientStart => s

/-- `mqtt_event_handler` on one event. -/
def CommandPath.handle (event : MqttEvent) (s : CommandPath) : CommandPath :=
  let handled := mqttEventHandler event s.manager
  handled.2.foldl CommandPath.perform { s with manager := handled.1 }

inductive CommandMove
  /-- the session comes up -/
  | connected
  /-- the session ends; it was a clean one, and an unfinished message is given up -/
  | disconnected
  /-- a caller of `network_manager_subscribe` -/
  | subscribe (topic : CString) (msgId : Int)
  /-- the client starts to receive a message -/
  | message (topic : CString) (payload : List UInt8)
  /-- the client posts an event with the next `len` bytes of it -/
  | data (len : Nat)
  /-- `task_sensor` sends to the same queue -/
  | sensor (state : Bool)
  /-- `task_actuator` takes a command out -/
  | receive
  deriving DecidableEq, Repr

/-- One move. `topicMatches` is how the broker matches a topic with a subscribed filter. -/
def commandStep (topicMatches : CString → CString → Bool) (s : CommandPath) :
    CommandMove → CommandPath
  | .connected => s.handle .connected
  -- the client asks for clean sessions, so the broker forgets the subscriptions
  | .disconnected => { s.handle .disconnected with filters := [], incoming := none }
  | .subscribe topic msgId =>
      (networkManagerSubscribe topic msgId s.manager).2.foldl CommandPath.perform s
  | .message topic payload =>
      -- messages arrive one after the other, on topics the client subscribed to
      if s.incoming = none ∧ s.filters.any (fun filter => topicMatches filter topic) = true then
        { s with incoming := some ⟨topic, payload, 0⟩ }
      else
        s
  | .data len =>
      match s.incoming with
      | none => s
      | some m => { s.handle (.data (m.event len)) with incoming := m.advance len }
  | .sensor state => { s with actuator := s.actuator.send state }
  | .receive => { s with actuator := s.actuator.receive }

/-! ## Which moves may store a command -/

/-- What a move has to put on the actuator queue: a message received whole on the command topic its
command, the sensor task its state, and no other move anything. -/
def commandDue (s : CommandPath) : CommandMove → Option Bool
  | .data len => s.incoming.bind fun m =>
      if m.IsWhole len ∧ m.topic = s.manager.topicCommand then commandOf m.payload else none
  | .sensor state => some state
  | _ => none

/-- The move stores exactly what is due, unless the queue is full. -/
def StoresWhatIsDue (topicMatches : CString → CString → Bool) (s : CommandPath) (move : CommandMove) :
    Prop :=
  (commandStep topicMatches s move).actuator.history =
    s.actuator.history ++ (if s.actuator.HasRoom then (commandDue s move).toList else [])

instance (topicMatches : CString → CString → Bool) (s : CommandPath) (move : CommandMove) :
    Decidable (StoresWhatIsDue topicMatches s move) :=
  inferInstanceAs (Decidable (_ = _))

/-- An event whose bytes are a command and that finds room is a whole message of the command topic. -/
def CommandsArriveWhole (s : CommandPath) : CommandMove → Prop
  | .data len => ∀ m ∈ s.incoming, commandOf (m.event len).data ≠ none → s.actuator.HasRoom →
      m.IsWhole len ∧ m.topic = s.manager.topicCommand
  | _ => True

/-! ## One move -/

variable {topicMatches : CString → CString → Bool}

theorem handle_data {s : CommandPath} (hcb : s.manager.cmdCb = true) (event : MqttData) :
    s.handle (.data event) =
      { s with actuator :=
          appTransportCommand Channel.send event.topic event.data s.actuator } := by
  simp [CommandPath.handle, mqttEventHandler, hcb, CommandPath.perform]

/-- An event extends what was stored by the command its bytes are, if there is room. -/
theorem handle_data_history {s : CommandPath} (hcb : s.manager.cmdCb = true) (event : MqttData) :
    (s.handle (.data event)).actuator.history =
      s.actuator.history ++
        (if s.actuator.HasRoom then (commandOf event.data).toList else []) := by
  rw [handle_data hcb, appTransportCommand_eq]
  cases hcommand : commandOf event.data with
  | none =>
      simp
  | some state =>
      exact Channel.history_send state s.actuator

theorem perform_subscribe_actuator (s : CommandPath) (topic : CString) (msgId : Int) :
    ((networkManagerSubscribe topic msgId s.manager).2.foldl CommandPath.perform s).actuator =
      s.actuator := by
  unfold networkManagerSubscribe
  split <;> rfl

/-- Whether the MQTT client is connected is all a move changes in the manager. -/
theorem commandStep_cmdCb (s : CommandPath) (move : CommandMove) :
    (commandStep topicMatches s move).manager.cmdCb = s.manager.cmdCb := by
  cases move with
  | subscribe topic msgId =>
      simp only [commandStep, networkManagerSubscribe]
      split <;> rfl
  | message topic payload =>
      simp only [commandStep]
      split <;> rfl
  | data len =>
      cases hincoming : s.incoming with
      | none =>
          simp [commandStep, hincoming]
      | some m =>
          -- what the handler calls does not write to the manager
          have hperform : ∀ (t : CommandPath) (call : NetworkCall),
              (t.perform call).manager = t.manager := by
            intro t call
            cases call <;> rfl
          simp only [commandStep, hincoming, CommandPath.handle, mqttEventHandler]
          split <;> simp [hperform]
  | _ => rfl

/-- An event stores what is due exactly if its bytes are no command, or find no room, or are a whole
message of the command topic. -/
theorem stored_eq_due_iff (m : Inbound) (len : Nat) (room : Prop) [Decidable room]
    (topicCommand : CString) :
    (if room then (commandOf (m.event len).data).toList else []) =
        (if room then (if m.IsWhole len ∧ m.topic = topicCommand then commandOf m.payload
          else none).toList else []) ↔
      (commandOf (m.event len).data ≠ none → room → m.IsWhole len ∧ m.topic = topicCommand) := by
  by_cases hroom : room
  · -- the events that matter are those whose bytes are a command
    simp only [hroom, if_true, true_implies]
    by_cases hwhole : m.IsWhole len ∧ m.topic = topicCommand
    · have hdata : (m.event len).data = m.payload := Inbound.event_data_of_isWhole hwhole.1
      simp [hwhole, hdata]
    · -- nothing is due, so the bytes must not be a command
      simp only [hwhole, if_false, imp_false, not_not, Option.toList_none]
      exact Option.toList_eq_nil_iff
  · simp [hroom]

/-- While the callback is registered, a move stores what is due exactly if it meets the condition. -/
theorem commandStep_storesWhatIsDue_iff {s : CommandPath} (hcb : s.manager.cmdCb = true)
    (move : CommandMove) :
    StoresWhatIsDue topicMatches s move ↔ CommandsArriveWhole s move := by
  cases move with
  | data len =>
      cases hincoming : s.incoming with
      | none =>
          simp [StoresWhatIsDue, commandStep, commandDue, CommandsArriveWhole, hincoming]
      | some m =>
          -- the only move that can store a command
          have hstored := handle_data_history hcb (m.event len)
          simp only [StoresWhatIsDue, commandStep, commandDue, CommandsArriveWhole, hincoming,
            hstored, Option.bind_some, Option.mem_some_iff, forall_eq', List.append_cancel_left_eq]
          exact stored_eq_due_iff m len s.actuator.HasRoom s.manager.topicCommand
  | subscribe topic msgId =>
      have hsame := perform_subscribe_actuator s topic msgId
      simp [StoresWhatIsDue, commandStep, commandDue, CommandsArriveWhole, hsame]
  | message topic payload =>
      have hsame : (commandStep topicMatches s (.message topic payload)).actuator = s.actuator := by
        simp only [commandStep]
        split <;> rfl
      simp [StoresWhatIsDue, commandDue, CommandsArriveWhole, hsame]
  | connected =>
      simp [StoresWhatIsDue, commandStep, CommandPath.handle, mqttEventHandler, CommandPath.perform,
        commandDue, CommandsArriveWhole]
  | disconnected =>
      simp [StoresWhatIsDue, commandStep, CommandPath.handle, mqttEventHandler, commandDue,
        CommandsArriveWhole]
  | sensor state =>
      have hsent := Channel.history_send state s.actuator
      simp [StoresWhatIsDue, commandStep, commandDue, CommandsArriveWhole, hsent]
  | receive =>
      simp [StoresWhatIsDue, commandStep, commandDue, CommandsArriveWhole]

/-! ## All runs -/

/-- For every sequence of messages, every way the client splits them, and every interleaving with the
sensor task and the actuator task: exactly the messages received whole on the command topic are
stored, if and only if no other event that finds room has the bytes of a command. -/
theorem commands_stored_iff (topicMatches : CString → CString → Bool) (topicCommand : CString)
    (as : List CommandMove) :
    (∀ m ∈ moves (commandStep topicMatches) (CommandPath.initial topicCommand) as,
        StoresWhatIsDue topicMatches m.1 m.2) ↔
      ∀ m ∈ moves (commandStep topicMatches) (CommandPath.initial topicCommand) as,
        CommandsArriveWhole m.1 m.2 := by
  have hprop : ∀ s move, s.manager.cmdCb = true →
      (StoresWhatIsDue topicMatches s move ↔ CommandsArriveWhole s move) := fun s move hcb =>
    commandStep_storesWhatIsDue_iff hcb move
  have hstep : ∀ s move, s.manager.cmdCb = true → CommandsArriveWhole s move →
      (commandStep topicMatches s move).manager.cmdCb = true := fun s move hcb _ =>
    (commandStep_cmdCb s move).trans hcb
  exact forall_moves_iff hprop hstep rfl as

/-- The end of a long message switches the output on, and so does a message on another topic the
client is subscribed to. -/
theorem fragment_and_other_topic_stored :
    let equal := fun filter topic : CString => decide (filter = topic)
    let start := CommandPath.initial (ascii "command")
    let fragment := [.connected, .message (ascii "command") (ascii "SET MODE=ON"), .data 9, .data 9]
    let otherTopic :=
      [.connected, .subscribe (ascii "lamp") 2, .message (ascii "lamp") (ascii "ON"), .data 2]
    (run (commandStep equal) start fragment).actuator.history = [true] ∧
      (¬ ∀ m ∈ moves (commandStep equal) start fragment, StoresWhatIsDue equal m.1 m.2) ∧
      (run (commandStep equal) start otherTopic).actuator.history = [true] ∧
      ¬ ∀ m ∈ moves (commandStep equal) start otherTopic, StoresWhatIsDue equal m.1 m.2 := by
  decide

end MainboardFirmware
