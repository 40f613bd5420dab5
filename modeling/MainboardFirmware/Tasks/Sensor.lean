import MainboardFirmware.App.Command

/-!
# Sensor — `firmware/main/tasks/` and the queues between the tasks

`task_sensor` step by step, next to the other users of its two queues: the remote commands that
`app_transport_command` puts on the actuator queue, the status lines an OTA update puts on the
display queue, and the two consuming tasks. Each queue operation is atomic and every send is
non-blocking, so between any two of them another task may run.

The value of a reading is a `float`: its type, its comparison with `VOLTAGE_THRESHOLD` and its `%.2f`
text are parameters. Items carry the task that sent them, which no modelled code looks at.
-/

namespace MainboardFirmware

/-! ## What the tasks exchange -/

/-- `sensor_reading_t` -/
structure SensorReading (V : Type*) where
  channel : UInt8
  value : V
  timestampMs : UInt32
  deriving DecidableEq, Repr

/-- `display_msg_t` -/
structure DisplayMsg where
  row : UInt8
  text : CString
  deriving DecidableEq, Repr

/-- The capacity of `display_msg_t.text`, terminator included. -/
def displayTextSize : Nat := 33

/-- The depth `app_main` gives `g_queue_display`. -/
def displayDepth : Nat := 10

inductive Sender
  | sensor
  | remote
  | ota
  deriving DecidableEq, Repr

/-! ## State -/

/-- Where `task_sensor` is in its loop, with the locals it still uses. -/
inductive SensorPc (V : Type*)
  | read
  | sendVolt (reading : SensorReading V)
  | sendCommand (currentLedState : Bool)
  | sendStatus (currentLedState : Bool)
  deriving DecidableEq, Repr

structure TaskBoard (V : Type*) where
  pc : SensorPc V
  lastLedState : Bool
  /-- `g_queue_comm`, the mailbox with the newest sample -/
  comm : Option (SensorReading V)
  actuator : Channel (Sender × Bool) actuatorDepth
  display : Channel (Sender × DisplayMsg) displayDepth
  /-- every sample `read` returned successfully, in order -/
  samples : List (SensorReading V)
  deriving DecidableEq, Repr

def TaskBoard.initial (V : Type*) : TaskBoard V :=
  ⟨.read, false, none, .empty, .empty, []⟩

/-! ## `task_sensor` -/

/-- How the values of a sensor are compared and printed. -/
structure SensorValues (V : Type*) where
  /-- `value > VOLTAGE_THRESHOLD` -/
  overThreshold : V → Bool
  /-- `%.2f` -/
  fixed2 : V → CString

variable {V : Type*}

def statusText (ledState : Bool) : CString :=
  if ledState = true then ascii "OVER THRESHOLD!" else ascii "SYSTEM OK"

/-- `snprintf` into `display_msg_t.text`. -/
def displayMsg (row : UInt8) (text : CString) : DisplayMsg :=
  ⟨row, text.take (displayTextSize - 1)⟩

/-- The next step of `task_sensor`, up to and including its next queue operation. `answer` is what
`drv->read` returns and stores, if that is the step. -/
def taskSensor (values : SensorValues V) (answer : EspErr × SensorReading V) (s : TaskBoard V) :
    TaskBoard V :=
  match s.pc with
  | .read =>
      if answer.1 = espOk then
        { s with pc := .sendVolt answer.2, comm := some answer.2, samples := s.samples ++ [answer.2] }
      else
        -- the sample is skipped and the task waits for the next period
        s
  | .sendVolt reading =>
      let currentLedState := values.overThreshold reading.value
      let msgVolt := displayMsg 0 (ascii "VOLT: " ++ values.fixed2 reading.value ++ ascii " V")
      let s := { s with display := s.display.send (.sensor, msgVolt) }
      -- the state is recorded here, before it is sent
      if currentLedState ≠ s.lastLedState then
        { s with lastLedState := currentLedState, pc := .sendCommand currentLedState }
      else
        { s with pc := .read }
  | .sendCommand currentLedState =>
      -- the result of the send is not looked at
      { s with
        actuator := s.actuator.send (.sensor, currentLedState)
        pc := .sendStatus currentLedState }
  | .sendStatus currentLedState =>
      { s with
        display := s.display.send (.sensor, displayMsg 2 (statusText currentLedState))
        pc := .read }

/-! ## The other tasks -/

/-- `update_display_status` of `system_ota.c`. -/
def updateDisplayStatus (text : CString) (row : UInt8) (s : TaskBoard V) : TaskBoard V :=
  { s with display := s.display.send (.ota, displayMsg row text) }

/-- `app_transport_command` on the queue the tasks share. -/
def remoteCommand (topic : Option CString) (data : List UInt8) (s : TaskBoard V) : TaskBoard V :=
  { s with
    actuator := appTransportCommand (fun state => Channel.send (Sender.remote, state)) topic data
      s.actuator }

/-- Which task runs next, and what it meets. -/
inductive TaskMove (V : Type*)
  | sensor (answer : EspErr × SensorReading V)
  | remote (topic : Option CString) (data : List UInt8)
  | ota (text : CString) (row : UInt8)
  | actuator
  | display
  deriving DecidableEq, Repr

def taskStep (values : SensorValues V) (s : TaskBoard V) : TaskMove V → TaskBoard V
  | .sensor answer => taskSensor values answer s
  | .remote topic data => remoteCommand topic data s
  | .ota text row => updateDisplayStatus text row s
  | .actuator => { s with actuator := s.actuator.receive }
  | .display => { s with display := s.display.receive }

end MainboardFirmware
