import MainboardFirmware.Output.Driver
import MainboardFirmware.Tasks.Sensor

/-!
# Actuator — from the command queue to the pin

`task_actuator` takes a command out of its queue and then drives channel 0 of the actuator driver; it
does not look at what the driver answers. Any other task may run in between, and `task_status` drives
the status LED meanwhile. The pin of the actuator carries the last command whose write was carried out,
whoever sent it and whatever the other tasks do; when nothing is refused, the queue has run empty and
the task has no command in hand, this is the last command the queue accepted.
-/

namespace MainboardFirmware

open Machine

/-! ## The tasks and the drivers -/

structure ActuatorSystem (V : Type*) where
  board : TaskBoard V
  outputs : OutputBoard
  /-- the command `task_actuator` has taken and not yet passed to the driver -/
  inHand : Option Bool
  /-- the commands whose write was carried out, in order -/
  applied : List Bool

/-- Step [7] of `app_main` as far as the outputs go. -/
def appMainOutputs (validOutput : ℤ → Bool) (pins : GpioPins) : OutputBoard :=
  let ok : GpioAnswers := ⟨espOk, espOk⟩
  run (outputStep validOutput) (OutputBoard.initial pins)
    [.dummy (.init none) ok, .led (.init (some statusLedDefault)) ok]

/-- The tasks have been spawned, none has run. -/
def ActuatorSystem.initial (V : Type*) (validOutput : ℤ → Bool) (pins : GpioPins) :
    ActuatorSystem V :=
  ⟨.initial V, appMainOutputs validOutput pins, none, []⟩

/-- Which task runs next, and what it meets. -/
inductive ActuatorMove (V : Type*)
  | sensor (answer : EspErr × SensorReading V)
  | remote (topic : Option CString) (data : List UInt8)
  | ota (text : CString) (row : UInt8)
  | display
  | actuator (setLevel : EspErr)
  | status (state : Bool) (setLevel : EspErr)

variable {V : Type*}

/-- The next step of `task_actuator`: it takes a command, or passes the one it has to the driver. On an
empty queue it stays blocked. -/
def taskActuator (setLevel : EspErr) (s : ActuatorSystem V) : ActuatorSystem V :=
  match s.inHand with
  | none =>
      match s.board.actuator.queue.receive with
      | none => s
      | some (command, _) =>
          { s with
            board := { s.board with actuator := s.board.actuator.receive }
            inHand := some command.2 }
  | some state =>
      let r := dummyOutputSet 0 state setLevel s.outputs.dummy s.outputs.pins
      { s with
        outputs := { s.outputs with dummy := r.2.1, pins := r.2.2 }
        inHand := none
        applied := if r.1 = espOk then s.applied ++ [state] else s.applied }

/-- A `drv->set` of `task_status`. -/
def taskStatusSet (state : Bool) (setLevel : EspErr) (s : ActuatorSystem V) : ActuatorSystem V :=
  let r := statusLedSet 0 state setLevel s.outputs.led s.outputs.pins
  { s with outputs := { s.outputs with led := r.2.1, pins := r.2.2 } }

def actuatorStep (values : SensorValues V) (s : ActuatorSystem V) : ActuatorMove V → ActuatorSystem V
  | .sensor answer => { s with board := taskStep values s.board (.sensor answer) }
  | .remote topic data => { s with board := taskStep values s.board (.remote topic data) }
  | .ota text row => { s with board := taskStep values s.board (.ota text row) }
  | .display => { s with board := taskStep values s.board .display }
  | .actuator setLevel => taskActuator setLevel s
  | .status state setLevel => taskStatusSet state setLevel s

/-! ## What holds in every state -/

/-- The commands `task_actuator` has taken out of its queue. -/
def ActuatorSystem.received (s : ActuatorSystem V) : List Bool :=
  s.board.actuator.delivered.map Prod.snd

structure ActuatorInv (s : ActuatorSystem V) : Prop where
  dummy_on : s.outputs.dummy.isInitialized = true
  led_on : s.outputs.led.channel.isInitialized = true
  led_cfg : s.outputs.led.cfg = statusLedDefault
  shows : s.outputs.PinsShow
  state_eq : s.outputs.dummy.channelState = s.applied.getLastD false
  applied_sublist : (s.applied ++ s.inHand.toList).Sublist s.received

theorem appMainOutputs_eq {validOutput : ℤ → Bool} (hvalid : validOutput 4 = true)
    (pins : GpioPins) : ∃ pins', appMainOutputs validOutput pins =
      ⟨⟨true, false⟩, ⟨⟨true, false⟩, statusLedDefault⟩, pins'⟩ := by
  simp [appMainOutputs, OutputBoard.initial, outputStep, dummyStep, dummyOutputInit, ledStep,
    statusLedInit, statusLedDefault, hvalid]

theorem appMainOutputs_pinsShow (validOutput : ℤ → Bool) (pins : GpioPins) :
    (appMainOutputs validOutput pins).PinsShow := by
  have hstep : ∀ t (move : OutputMove), t.PinsShow → move.Apart →
      (outputStep validOutput t move).PinsShow := fun _ _ ht hmove => outputStep_pinsShow ht hmove
  refine inv_run_of_labels hstep (outputBoard_initial_pinsShow pins) ?_
  simp [OutputMove.Apart, statusLedDefault, dummyLedGpio]

theorem actuatorInv_initial {validOutput : ℤ → Bool} (hvalid : validOutput 4 = true)
    (pins : GpioPins) : ActuatorInv (ActuatorSystem.initial V validOutput pins) := by
  have hshow := appMainOutputs_pinsShow validOutput pins
  rcases appMainOutputs_eq hvalid pins with ⟨pins', heq⟩
  rw [heq] at hshow
  rw [ActuatorSystem.initial, heq]
  exact ⟨rfl, rfl, rfl, hshow, rfl, List.Sublist.refl _⟩

/-! ## Steps -/

section Steps

variable {values : SensorValues V} {s : ActuatorSystem V}

/-- Only `task_actuator` takes commands out. -/
theorem taskStep_received {move : TaskMove V} (hmove : move ≠ .actuator) (b : TaskBoard V) :
    (taskStep values b move).actuator.delivered = b.actuator.delivered := by
  cases move with
  | sensor answer =>
      simp only [taskStep, taskSensor]
      split
      next =>
        split <;> rfl
      next =>
        split <;> rfl
      next =>
        rfl
      next =>
        rfl
  | remote topic data =>
      rw [taskStep, remoteCommand, appTransportCommand_eq]
      cases commandOf data <;> rfl
  | ota text row =>
      rfl
  | actuator =>
      exact absurd rfl hmove
  | display =>
      rfl

/-- A step of `task_actuator` does nothing, takes a command or writes the one it has. -/
theorem taskActuator_cases (setLevel : EspErr) (hon : s.outputs.dummy.isInitialized = true) :
    taskActuator setLevel s = s ∨
      (∃ state, s.inHand = none ∧
        (taskActuator setLevel s).received = s.received ++ [state] ∧ taskActuator setLevel s =
          { s with
            board := { s.board with actuator := s.board.actuator.receive }
            inHand := some state }) ∨
      ∃ state, s.inHand = some state ∧ taskActuator setLevel s =
        { s with
          outputs := { s.outputs with
            dummy := if setLevel = espOk then { s.outputs.dummy with channelState := state }
              else s.outputs.dummy
            pins := gpioSetLevel setLevel dummyLedGpio state s.outputs.pins }
          inHand := none
          applied := if setLevel = espOk then s.applied ++ [state] else s.applied } := by
  cases hhand : s.inHand with
  | none =>
      cases hreceive : s.board.actuator.queue.receive with
      | none =>
          exact .inl (by simp only [taskActuator, hhand, hreceive])
      | some taken =>
          rcases taken with ⟨command, rest⟩
          refine .inr (.inl ⟨command.2, rfl, ?_, by simp only [taskActuator, hhand, hreceive]⟩)
          simp only [taskActuator, hhand, hreceive, ActuatorSystem.received]
          rw [Channel.receive_of_some hreceive, List.map_append]
          rfl
  | some state =>
      have hset : dummyOutputSet 0 state setLevel s.outputs.dummy s.outputs.pins = _ :=
        channelSet_ready hon state setLevel
      refine .inr (.inr ⟨state, rfl, ?_⟩)
      simp only [taskActuator, hhand, hset]
      rfl

theorem taskActuator_inv (setLevel : EspErr) (hs : ActuatorInv s) :
    ActuatorInv (taskActuator setLevel s) := by
  have hsublist := hs.applied_sublist
  rcases taskActuator_cases setLevel hs.dummy_on with
    hidle | ⟨state, hhand, hreceived, heq⟩ | ⟨state, hhand, heq⟩
  · rw [hidle]
    exact hs
  · -- a command is taken: it goes from the queue to the hand
    rw [heq] at hreceived ⊢
    rw [hhand, Option.toList_none, List.append_nil] at hsublist
    refine ⟨hs.dummy_on, hs.led_on, hs.led_cfg, hs.shows, hs.state_eq, ?_⟩
    rw [hreceived]
    exact hsublist.append (List.Sublist.refl _)
  · -- the one in hand is written, or lost
    have hshow := pinsShow_dummyWrite (channelSet_write 0 state setLevel) hs.shows
    rw [channelSet_ready hs.dummy_on] at hshow
    rw [hhand, Option.toList_some] at hsublist
    rw [heq]
    by_cases hok : setLevel = espOk
    · simp only [hok, if_true] at hshow ⊢
      refine ⟨hs.dummy_on, hs.led_on, hs.led_cfg, hshow, by simp, ?_⟩
      rw [Option.toList_none, List.append_nil]
      exact hsublist
    · simp only [hok, if_false] at hshow ⊢
      refine ⟨hs.dummy_on, hs.led_on, hs.led_cfg, hshow, hs.state_eq, ?_⟩
      rw [Option.toList_none, List.append_nil]
      exact (List.sublist_append_left _ _).trans hsublist

theorem taskStatusSet_inv (state : Bool) (setLevel : EspErr) (hs : ActuatorInv s) :
    ActuatorInv (taskStatusSet state setLevel s) := by
  have hwrite : ChannelWrite s.outputs.led.cfg.gpio s.outputs.led.cfg.level s.outputs.led.channel
      s.outputs.pins _ := channelSet_write 0 state setLevel
  exact ⟨hs.dummy_on, hwrite.initialized.trans hs.led_on, hs.led_cfg,
    pinsShow_ledWrite hwrite hs.shows, hs.state_eq, hs.applied_sublist⟩

/-- A step of a task that touches neither the outputs nor what was received. -/
theorem actuatorInv_board {b : TaskBoard V} (hb : b.actuator.delivered = s.board.actuator.delivered)
    (hs : ActuatorInv s) : ActuatorInv { s with board := b } := by
  refine ⟨hs.dummy_on, hs.led_on, hs.led_cfg, hs.shows, hs.state_eq, ?_⟩
  rw [ActuatorSystem.received, hb]
  exact hs.applied_sublist

theorem actuatorStep_inv (move : ActuatorMove V) (hs : ActuatorInv s) :
    ActuatorInv (actuatorStep values s move) := by
  cases move with
  | sensor answer =>
      exact actuatorInv_board (taskStep_received (by simp) s.board) hs
  | remote topic data =>
      exact actuatorInv_board (taskStep_received (by simp) s.board) hs
  | ota text row =>
      exact actuatorInv_board (taskStep_received (by simp) s.board) hs
  | display =>
      exact actuatorInv_board (taskStep_received (by simp) s.board) hs
  | actuator setLevel =>
      exact taskActuator_inv setLevel hs
  | status state setLevel =>
      exact taskStatusSet_inv state setLevel hs

/-! ## Nothing refused -/

/-- A write to the actuator's pin is carried out. -/
def ActuatorMove.Carried : ActuatorMove V → Prop
  | .actuator setLevel => setLevel = espOk
  | _ => True

/-- Every command that was taken out was carried out, unless it is in hand. -/
def AllApplied (s : ActuatorSystem V) : Prop :=
  ActuatorInv s ∧ s.applied ++ s.inHand.toList = s.received

theorem actuatorStep_allApplied {move : ActuatorMove V} (hmove : move.Carried) (hs : AllApplied s) :
    AllApplied (actuatorStep values s move) := by
  refine ⟨actuatorStep_inv move hs.1, ?_⟩
  have hboard : ∀ move : TaskMove V, move ≠ .actuator →
      s.applied ++ s.inHand.toList =
        ((taskStep values s.board move).actuator.delivered).map Prod.snd := by
    intro move hne
    rw [taskStep_received hne]
    exact hs.2
  cases move with
  | sensor answer =>
      exact hboard _ (by simp)
  | remote topic data =>
      exact hboard _ (by simp)
  | ota text row =>
      exact hboard _ (by simp)
  | display =>
      exact hboard _ (by simp)
  | status state setLevel =>
      exact hs.2
  | actuator setLevel =>
      have hok : setLevel = espOk := hmove
      have hall := hs.2
      rw [actuatorStep]
      rcases taskActuator_cases setLevel hs.1.dummy_on with
        hidle | ⟨state, hhand, hreceived, heq⟩ | ⟨state, hhand, heq⟩
      · rw [hidle]
        exact hall
      · rw [hhand, Option.toList_none, List.append_nil] at hall
        rw [hreceived, heq, ← hall]
        rfl
      · rw [hhand, Option.toList_some] at hall
        rw [heq, if_pos hok, if_pos hok, Option.toList_none, List.append_nil]
        exact hall

/-! ## The status LED -/

/-- What a move writes to the status LED, if the write is carried out. -/
def ActuatorMove.statusWrite : ActuatorMove V → Option Bool
  | .status state setLevel => if setLevel = espOk then some state else none
  | _ => none

/-- What the driver of the status LED remembers. -/
def ActuatorSystem.ledState (s : ActuatorSystem V) : Bool :=
  s.outputs.led.channel.channelState

theorem actuatorStep_ledState (move : ActuatorMove V) (hs : ActuatorInv s) :
    (actuatorStep values s move).ledState = move.statusWrite.getD s.ledState := by
  cases move with
  | actuator setLevel =>
      simp only [actuatorStep, taskActuator, ActuatorSystem.ledState]
      split
      · split <;> rfl
      · rfl
  | status state setLevel =>
      simp only [actuatorStep, taskStatusSet, statusLedSet, channelSet_ready hs.led_on,
        ActuatorMove.statusWrite, ActuatorSystem.ledState]
      split <;> rfl
  | _ =>
      rfl

end Steps

/-- For every interleaving of the tasks and whatever writes are refused: the actuator's pin carries
the last command whose write was carried out, these commands are some of those taken out of the queue,
in order, and the pin of the status LED carries what `task_status` wrote last. If no write to the
actuator is refused, its queue is empty and no command is in hand, its pin carries the last command the
queue accepted. -/
theorem outputs_follow_tasks (values : SensorValues V) {validOutput : ℤ → Bool}
    (hvalid : validOutput 4 = true) (pins : GpioPins) (as : List (ActuatorMove V)) :
    let s := run (actuatorStep values) (ActuatorSystem.initial V validOutput pins) as
    s.outputs.pins 2 = ⟨true, s.applied.getLastD false⟩ ∧
      s.applied.Sublist s.received ∧
      s.outputs.pins 4 = ⟨true, latest ActuatorMove.statusWrite false as⟩ ∧
      ((∀ a ∈ as, a.Carried) → s.board.actuator.queue.items = [] → s.inHand = none →
        s.outputs.pins 2 = ⟨true, (s.board.actuator.history.map Prod.snd).getLastD false⟩) := by
  intro s
  have hstart : ActuatorInv (ActuatorSystem.initial V validOutput pins) :=
    actuatorInv_initial hvalid pins
  have hstep : ∀ (t : ActuatorSystem V) move, ActuatorInv t → ActuatorInv (actuatorStep values t move) :=
    fun _ move ht => actuatorStep_inv move ht
  have hs : ActuatorInv s := inv_run hstep hstart as
  have hdummy : s.outputs.pins 2 = ⟨true, s.applied.getLastD false⟩ := by
    rw [← hs.state_eq]
    exact hs.shows.dummy hs.dummy_on
  have hled : s.outputs.pins 4 = ⟨true, latest ActuatorMove.statusWrite false as⟩ := by
    have hfield : ∀ (t : ActuatorSystem V) move, ActuatorInv t →
        (actuatorStep values t move).ledState = move.statusWrite.getD t.ledState :=
      fun _ move ht => actuatorStep_ledState move ht
    have hstate : s.ledState = latest ActuatorMove.statusWrite false as := by
      have hstart' : (ActuatorSystem.initial V validOutput pins).ledState = false := by
        rcases appMainOutputs_eq hvalid pins with ⟨pins', heq⟩
        rw [ActuatorSystem.ledState, ActuatorSystem.initial, heq]
      rw [← hstart']
      exact run_field_eq_latest_of_inv hstep hfield hstart as
    have hshows := hs.shows.led hs.led_on
    rw [hs.led_cfg, ← ActuatorSystem.ledState, hstate] at hshows
    simpa [statusLedDefault, StatusLedConfig.level] using hshows
  have happlied : s.applied.Sublist s.received :=
    (List.sublist_append_left _ _).trans hs.applied_sublist
  refine ⟨hdummy, happlied, hled, fun hcarried hempty hnone => ?_⟩
  have hstep' : ∀ (t : ActuatorSystem V) (move : ActuatorMove V), AllApplied t → move.Carried →
      AllApplied (actuatorStep values t move) := fun _ _ ht hmove => actuatorStep_allApplied hmove ht
  have hall : AllApplied s := inv_run_of_labels hstep' ⟨hstart, rfl⟩ hcarried
  have hreceived := hall.2
  rw [hnone, Option.toList_none, List.append_nil] at hreceived
  rw [hdummy, hreceived, ActuatorSystem.received, Channel.history, hempty, List.append_nil]

/-- The remote switches on and off again while the status LED is lit; the second write to the actuator
is refused, so it stays on. The LED is lit while the task has the first command in hand. -/
theorem outputs_follow_tasks_refused :
    let values : SensorValues Nat := ⟨fun value => 2500 < value, fun _ => ascii "3.30"⟩
    let valid : ℤ → Bool := fun _ => true
    let as : List (ActuatorMove Nat) := [.remote none (ascii "ON"), .remote none (ascii "OFF"),
      .actuator espOk, .status true espOk, .actuator espOk, .actuator espOk, .actuator espFail]
    let s := run (actuatorStep values) (ActuatorSystem.initial Nat valid fun _ => ⟨false, false⟩) as
    s.received = [true, false] ∧ s.outputs.pins 2 = ⟨true, true⟩ ∧
      s.outputs.pins 4 = ⟨true, true⟩ := by
  intro values valid as s
  have hvalid : valid 4 = true := rfl
  rcases outputs_follow_tasks values hvalid (fun _ => ⟨false, false⟩) as with
    ⟨hactuator, -, hstatus, -⟩
  exact ⟨by decide, hactuator.trans (by decide), hstatus.trans (by decide)⟩

end MainboardFirmware
