import MainboardFirmware.Esp.CString
import MainboardFirmware.Esp.Err
import MainboardFirmware.Library.BoundedQueue
import MainboardFirmware.Library.Machine

/-!
# Log — `firmware/main/system/system_log.c`

The logging facade: the `vprintf` hook that every log call goes through, the queue, the forwarder task
and the sink. A log call is three steps (the serial write, the check of sink and guard, the formatting
with the send), and a round of the forwarder is six, so that the steps of any number of tasks and of
the forwarder interleave freely.
-/

namespace MainboardFirmware

/-! ## Lines -/

def systemLogLineMax : Nat := 160
def systemLogQueueDepth : Nat := 16

/-- Who logs: a task, or a sink from inside the call that delivers a line to it. -/
inductive LogCaller
  | task (id : Nat)
  | sink
  deriving DecidableEq, Repr

/-- A log call; the text is what its format and arguments come to, `none` if formatting fails. -/
structure LogCall where
  caller : LogCaller
  text : Option CString
  deriving DecidableEq, Repr

/-- `log_line_t`, the buffer up to its terminator. -/
structure LogLine where
  buf : CString
  len : Nat
  deriving DecidableEq, Repr

/-- What `log_vprintf` makes of a text. -/
def LogCall.line (call : LogCall) : Option LogLine :=
  match call.text with
  | none => none
  | some text =>
      let written := text.length
      if 0 < written then
        some ⟨text.take (systemLogLineMax - 1),
          if written < systemLogLineMax then written else systemLogLineMax - 1⟩
      else
        none

/-- An item of the queue. The call it comes from is not stored in the real one. -/
structure QueuedLine where
  line : LogLine
  call : LogCall
  deriving DecidableEq, Repr

def LogCall.queued (call : LogCall) : Option QueuedLine :=
  call.line.map fun line => ⟨line, call⟩

/-! ## State -/

/-- Where a caller is in its log call. -/
inductive LogPhase
  | idle
  | checking (text : Option CString)
  | queueing (text : Option CString)
  deriving DecidableEq, Repr

/-- Where `task_log_forwarder` is in its loop; a sink is known by a number. -/
inductive ForwarderPc
  | receiving
  | received (item : QueuedLine)
  | loaded (sink : Nat) (item : QueuedLine)
  | flagged (sink : Nat) (item : QueuedLine)
  | inSink
  | returned
  deriving DecidableEq, Repr

/-- The static variables, the program counters, what came out at the serial port, and two records:
`logged` has every log call that is over, in the order in which they ended, and `delivered` every call
of a sink with the line it was handed. -/
structure LogState where
  queueCreated : Bool
  queue : BoundedQueue QueuedLine systemLogQueueDepth
  sink : Option Nat
  forwarding : Bool
  initialized : Bool
  forwarder : ForwarderPc
  phase : LogCaller → LogPhase
  serial : List LogCall
  logged : List LogCall
  delivered : List (Nat × QueuedLine)

/-- The initial values. -/
def LogState.static : LogState :=
  ⟨false, .empty, none, false, false, .receiving, fun _ => .idle, [], [], []⟩

/-! ## Lifecycle and sink management -/

/-- `system_log_init`; the hook is installed, and the forwarder runs, if it returns `ESP_OK`. -/
def systemLogInit (queueCreated taskCreated : Bool) (s : LogState) : EspErr × LogState :=
  if queueCreated = false then
    (espErrNoMem, { s with queueCreated := false })
  else if taskCreated = false then
    -- the queue is deleted again
    (espErrNoMem, { s with queueCreated := false })
  else
    (espOk, { s with queueCreated := true, queue := .empty, initialized := true })

/-- Logging is up and nothing has been logged. -/
def LogState.ready : LogState :=
  (systemLogInit true true .static).2

/-- `system_log_register_sink`; the line it logs itself is a log call of the task that calls it. -/
def systemLogRegisterSink (sink : Option Nat) (s : LogState) : EspErr × LogState :=
  if s.initialized = false then (espErrInvalidState, s) else (espOk, { s with sink := sink })

def systemLogUnregisterSink (s : LogState) : LogState :=
  { s with sink := none }

/-! ## Log calls -/

namespace LogState

/-- The call of a caller that is idle begins with its serial write. A sink logs only while it is
called. -/
def beginCall (call : LogCall) (s : LogState) : LogState :=
  match s.phase call.caller with
  | .idle =>
      if call.caller = .sink ∧ s.forwarder ≠ .inSink then s
      else
        { s with
          phase := Function.update s.phase call.caller (.checking call.text)
          serial := s.serial ++ [call] }
  | _ => s

/-- What `log_vprintf` asks before it formats a second copy. -/
def Forwards (s : LogState) : Prop :=
  s.sink ≠ none ∧ s.queueCreated = true ∧ s.forwarding = false

instance (s : LogState) : Decidable s.Forwards :=
  inferInstanceAs (Decidable (_ ∧ _ ∧ _))

/-- The call of `caller` is over. -/
def endCall (caller : LogCaller) (text : Option CString) (s : LogState) : LogState :=
  { s with
    phase := Function.update s.phase caller .idle
    logged := s.logged ++ [⟨caller, text⟩] }

def checkCall (caller : LogCaller) (s : LogState) : LogState :=
  match s.phase caller with
  | .checking text =>
      if s.Forwards then { s with phase := Function.update s.phase caller (.queueing text) }
      else s.endCall caller text
  | _ => s

/-- `xQueueSend` with a timeout of 0. -/
def sendLine (call : LogCall) (s : LogState) : LogState :=
  match call.queued with
  | none => s
  | some item => { s with queue := s.queue.send item }

def queueCall (caller : LogCaller) (s : LogState) : LogState :=
  match s.phase caller with
  | .queueing text => (s.sendLine ⟨caller, text⟩).endCall caller text
  | _ => s

/-! ## The forwarder -/

/-- The next step of `task_log_forwarder`. A sink that is in a log call of its own does not return. -/
def forward (s : LogState) : LogState :=
  match s.forwarder with
  | .receiving =>
      match s.queue.receive with
      -- `portMAX_DELAY`: the forwarder goes on waiting
      | none => s
      | some (item, queue) => { s with queue := queue, forwarder := .received item }
  | .received item =>
      match s.sink with
      -- the line is dropped
      | none => { s with forwarder := .receiving }
      | some sink => { s with forwarder := .loaded sink item }
  | .loaded sink item => { s with forwarding := true, forwarder := .flagged sink item }
  | .flagged sink item =>
      { s with delivered := s.delivered ++ [(sink, item)], forwarder := .inSink }
  | .inSink => if s.phase .sink = .idle then { s with forwarder := .returned } else s
  | .returned => { s with forwarding := false, forwarder := .receiving }

end LogState

/-! ## Steps -/

/-- One step of a log call or of the forwarder. -/
inductive LogAct
  | call (call : LogCall)
  | check (caller : LogCaller)
  | enqueue (caller : LogCaller)
  | forward
  deriving DecidableEq, Repr

def logAct (s : LogState) : LogAct → LogState
  | .call call => s.beginCall call
  | .check caller => s.checkCall caller
  | .enqueue caller => s.queueCall caller
  | .forward => s.forward

/-- Any step, the calls that change the sink included. -/
inductive LogStep
  | act (act : LogAct)
  | registerSink (sink : Option Nat)
  | unregisterSink
  deriving DecidableEq, Repr

def logStep (s : LogState) : LogStep → LogState
  | .act act => logAct s act
  | .registerSink sink => (systemLogRegisterSink sink s).2
  | .unregisterSink => systemLogUnregisterSink s

/-! ## What a line is -/

/-- A line that is queued is the beginning of a text that is not empty, and says how long it is. -/
theorem LogCall.line_eq_some {call : LogCall} {line : LogLine} (h : call.line = some line) :
    ∃ text, call.text = some text ∧ 0 < text.length ∧
      line.buf = text.take (min text.length (systemLogLineMax - 1)) ∧
      line.len = min text.length (systemLogLineMax - 1) := by
  cases htext : call.text with
  | none =>
      simp [LogCall.line, htext] at h
  | some text =>
      by_cases hpositive : 0 < text.length
      · simp only [LogCall.line, htext, hpositive, if_true, Option.some_inj] at h
        subst h
        refine ⟨text, rfl, hpositive, ?_, ?_⟩
        · rcases Nat.le_total text.length (systemLogLineMax - 1) with hshort | hlong
          · rw [Nat.min_eq_left hshort, List.take_of_length_le hshort, List.take_length]
          · rw [Nat.min_eq_right hlong]
        · by_cases hshort : text.length < systemLogLineMax
          · rw [if_pos hshort, Nat.min_eq_left (Nat.le_sub_one_of_lt hshort)]
          · have hlong : systemLogLineMax ≤ text.length := Nat.le_of_not_lt hshort
            rw [if_neg hshort, Nat.min_eq_right (Nat.le_trans (Nat.sub_le _ _) hlong)]
      · simp [LogCall.line, htext, hpositive] at h

theorem LogCall.queued_eq_some {call : LogCall} {item : QueuedLine} (h : call.queued = some item) :
    item.call = call ∧ call.line = some item.line := by
  unfold LogCall.queued at h
  rcases Option.map_eq_some_iff.1 h with ⟨line, hline, rfl⟩
  exact ⟨rfl, hline⟩

/-! ## What the steps do to the lines under way -/

/-- The line the forwarder has taken out of the queue and not handed to a sink yet. -/
def ForwarderPc.inHand : ForwarderPc → List QueuedLine
  | .received item => [item]
  | .loaded _ item => [item]
  | .flagged _ item => [item]
  | _ => []

/-- The forwarder is between setting its flag and clearing it. -/
def ForwarderPc.Delivering : ForwarderPc → Prop
  | .flagged _ _ => True
  | .inSink => True
  | .returned => True
  | _ => False

namespace LogState

variable {s : LogState}

/-- Every line that was delivered or still may be: delivered, in the forwarder's hand, queued. -/
def forwarded (s : LogState) : List QueuedLine :=
  s.delivered.map Prod.snd ++ s.forwarder.inHand ++ s.queue.items

/-- What a send adds to the queue. -/
def sent (call : LogCall) (s : LogState) : List QueuedLine :=
  if s.queue.HasRoom then call.queued.toList else []

theorem sendLine_eq (call : LogCall) (s : LogState) :
    ∃ queue, s.sendLine call = { s with queue := queue } ∧
      queue.items = s.queue.items ++ s.sent call := by
  unfold sendLine sent
  cases call.queued with
  | none =>
      exact ⟨s.queue, rfl, by simp⟩
  | some item =>
      refine ⟨s.queue.send item, rfl, ?_⟩
      simpa using s.queue.send_items item

theorem beginCall_cases (call : LogCall) (s : LogState) :
    s.beginCall call = s ∨
      s.phase call.caller = .idle ∧ (call.caller = .sink → s.forwarder = .inSink) ∧
        s.beginCall call =
          { s with
            phase := Function.update s.phase call.caller (.checking call.text)
            serial := s.serial ++ [call] } := by
  unfold beginCall
  cases hphase : s.phase call.caller with
  | idle =>
      by_cases hblocked : call.caller = .sink ∧ s.forwarder ≠ .inSink
      · exact .inl (if_pos hblocked)
      · refine .inr ⟨rfl, fun hsink => ?_, if_neg hblocked⟩
        by_contra hpc
        exact hblocked ⟨hsink, hpc⟩
  | checking text => exact .inl rfl
  | queueing text => exact .inl rfl

theorem checkCall_cases (caller : LogCaller) (s : LogState) :
    s.checkCall caller = s ∨ ∃ text, s.phase caller = .checking text ∧
      (s.Forwards ∧ s.checkCall caller =
          { s with phase := Function.update s.phase caller (.queueing text) } ∨
        ¬s.Forwards ∧ s.checkCall caller = s.endCall caller text) := by
  unfold checkCall
  cases hphase : s.phase caller with
  | idle => exact .inl rfl
  | checking text =>
      refine .inr ⟨text, rfl, ?_⟩
      by_cases hforwards : s.Forwards
      · exact .inl ⟨hforwards, if_pos hforwards⟩
      · exact .inr ⟨hforwards, if_neg hforwards⟩
  | queueing text => exact .inl rfl

theorem queueCall_cases (caller : LogCaller) (s : LogState) :
    s.queueCall caller = s ∨ ∃ text queue, s.phase caller = .queueing text ∧
      queue.items = s.queue.items ++ s.sent ⟨caller, text⟩ ∧
      s.queueCall caller = { s.endCall caller text with queue := queue } := by
  unfold queueCall
  cases hphase : s.phase caller with
  | idle => exact .inl rfl
  | checking text => exact .inl rfl
  | queueing text =>
      rcases sendLine_eq ⟨caller, text⟩ s with ⟨queue, hsend, hitems⟩
      refine .inr ⟨text, queue, rfl, hitems, ?_⟩
      simp only [hsend]
      rfl

end LogState

end MainboardFirmware
