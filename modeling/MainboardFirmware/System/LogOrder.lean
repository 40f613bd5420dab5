import MainboardFirmware.System.Log

/-!
# LogOrder — what reaches a sink, and in which order

Whatever the interleaving: the lines that sinks are handed are lines that were logged, in the order in
which they were logged, none of them twice and none of them from inside a sink. The guard of the
forwarder is up whenever a sink runs, which is what keeps a sink's own lines out of the queue.
-/

namespace MainboardFirmware

open Machine

/-! ## The invariant -/

/-- The call a caller is in. -/
def LogPhase.pending (caller : LogCaller) : LogPhase → List LogCall
  | .idle => []
  | .checking text => [⟨caller, text⟩]
  | .queueing text => [⟨caller, text⟩]

/-- Those of one caller. -/
def callsOf (caller : LogCaller) (calls : List LogCall) : List LogCall :=
  calls.filter fun call => call.caller = caller

/-- What holds of a caller that is in `phase`. -/
structure CallerInv (s : LogState) (caller : LogCaller) (phase : LogPhase) : Prop where
  /-- its calls end in the order in which they began -/
  serial : callsOf caller s.logged ++ phase.pending caller = callsOf caller s.serial
  sinkCalled : caller = .sink → phase ≠ .idle → s.forwarder = .inSink
  sinkTurnedAway : caller = .sink → ∀ text, phase ≠ .queueing text

/-- What holds in every state that logging reaches. -/
structure LogInv (s : LogState) : Prop where
  /-- what is under way was logged, in this order -/
  path : (s.forwarded.map QueuedLine.call).Sublist s.logged
  fromTasks : ∀ item ∈ s.forwarded, item.call.caller ≠ .sink
  lines : ∀ item ∈ s.forwarded, item.call.line = some item.line
  flag : s.forwarding = true ↔ s.forwarder.Delivering
  callers : ∀ caller, CallerInv s caller (s.phase caller)

theorem callsOf_append (caller : LogCaller) (calls : List LogCall) (call : LogCall) :
    callsOf caller (calls ++ [call]) =
      callsOf caller calls ++ if call.caller = caller then [call] else [] := by
  unfold callsOf
  by_cases hcaller : call.caller = caller
  · simp [hcaller]
  · simp [hcaller]

namespace LogInv

variable {s : LogState}

theorem ready : LogInv .ready where
  path := List.Sublist.refl []
  fromTasks _ h := absurd h List.not_mem_nil
  lines _ h := absurd h List.not_mem_nil
  flag := ⟨fun h => Bool.noConfusion h, fun h => h.elim⟩
  callers _ := ⟨rfl, fun _ h => absurd rfl h, fun _ _ h => by cases h⟩

/-! ## Log calls -/

theorem beginCall (h : LogInv s) (call : LogCall) : LogInv (s.beginCall call) := by
  rcases LogState.beginCall_cases call s with hsame | ⟨hidle, hsink, hbegun⟩
  · rw [hsame]
    exact h
  have hcaller := h.callers call.caller
  rw [hidle] at hcaller
  rw [hbegun]
  refine ⟨h.path, h.fromTasks, h.lines, h.flag, ?_⟩
  refine (Function.forall_update_iff _ _).2 ⟨⟨?_, fun hs _ => hsink hs, fun _ _ h => by cases h⟩,
    fun other hother => ?_⟩
  · rw [callsOf_append, if_pos rfl, ← hcaller.serial]
    simp [LogPhase.pending]
  · have hbefore := h.callers other
    refine ⟨?_, hbefore.sinkCalled, hbefore.sinkTurnedAway⟩
    rw [callsOf_append, if_neg (Ne.symm hother), List.append_nil]
    exact hbefore.serial

/-- A sink is turned away by the guard. -/
theorem not_forwards_of_sink (h : LogInv s) (hphase : s.phase .sink ≠ .idle) : ¬s.Forwards := by
  intro hforwards
  have hdelivering : s.forwarder.Delivering := by
    rw [(h.callers .sink).sinkCalled rfl hphase]
    exact trivial
  have hflag := h.flag.2 hdelivering
  rw [hforwards.2.2] at hflag
  cases hflag

theorem endCall (h : LogInv s) {caller : LogCaller} {text : Option CString}
    (hphase : (s.phase caller).pending caller = [⟨caller, text⟩]) :
    LogInv (s.endCall caller text) := by
  have hcaller := h.callers caller
  refine ⟨h.path.trans (List.sublist_append_left _ _), h.fromTasks, h.lines, h.flag, ?_⟩
  refine (Function.forall_update_iff _ _).2 ⟨⟨?_, fun _ hne => absurd rfl hne,
    fun _ _ h => by cases h⟩, fun other hother => ?_⟩
  · have hserial := hcaller.serial
    rw [hphase] at hserial
    simp only [LogState.endCall, callsOf_append, if_true, ← hserial]
    simp [LogPhase.pending]
  · have hbefore := h.callers other
    refine ⟨?_, hbefore.sinkCalled, hbefore.sinkTurnedAway⟩
    simp only [LogState.endCall, callsOf_append]
    rw [if_neg (Ne.symm hother), List.append_nil]
    exact hbefore.serial

theorem checkCall (h : LogInv s) (caller : LogCaller) : LogInv (s.checkCall caller) := by
  rcases LogState.checkCall_cases caller s with hsame | ⟨text, hphase, ⟨hforwards, hnext⟩ | ⟨_, hnext⟩⟩
  · rw [hsame]
    exact h
  · have htask : caller ≠ .sink := by
      rintro rfl
      exact h.not_forwards_of_sink (by simp [hphase]) hforwards
    have hcaller := h.callers caller
    rw [hphase] at hcaller
    rw [hnext]
    refine ⟨h.path, h.fromTasks, h.lines, h.flag, ?_⟩
    refine (Function.forall_update_iff _ _).2 ⟨⟨hcaller.serial, fun hs => absurd hs htask,
      fun hs => absurd hs htask⟩, fun other _ => ?_⟩
    have hbefore := h.callers other
    exact ⟨hbefore.serial, hbefore.sinkCalled, hbefore.sinkTurnedAway⟩
  · rw [hnext]
    exact h.endCall (congrArg (LogPhase.pending caller) hphase)

theorem sent_spec {call : LogCall} {item : QueuedLine} (h : item ∈ s.sent call) :
    item.call = call ∧ call.line = some item.line := by
  unfold LogState.sent at h
  split at h
  · exact LogCall.queued_eq_some (Option.mem_toList.1 h)
  · cases h

/-- A send adds at most the line of its call. -/
theorem sent_sublist (call : LogCall) (s : LogState) :
    ((s.sent call).map QueuedLine.call).Sublist [call] := by
  unfold LogState.sent
  split
  · cases hqueued : call.queued with
    | none =>
        exact List.nil_sublist _
    | some item =>
        rw [← (LogCall.queued_eq_some hqueued).1]
        exact List.Sublist.refl _
  · exact List.nil_sublist _

theorem queueCall (h : LogInv s) (caller : LogCaller) : LogInv (s.queueCall caller) := by
  rcases LogState.queueCall_cases caller s with hsame | ⟨text, queue, hphase, hitems, hnext⟩
  · rw [hsame]
    exact h
  have htask : caller ≠ .sink := by
    intro hs
    exact (h.callers caller).sinkTurnedAway hs text hphase
  have hended := h.endCall (congrArg (LogPhase.pending caller) hphase)
  have hforwarded : ({ s.endCall caller text with queue := queue } : LogState).forwarded =
      s.forwarded ++ s.sent ⟨caller, text⟩ := by
    simp only [LogState.forwarded, LogState.endCall, hitems, List.append_assoc]
  -- a line is new only if it is the one of this call
  have hitem_cases : ∀ item ∈ ({ s.endCall caller text with queue := queue } : LogState).forwarded,
      item ∈ s.forwarded ∨ item.call = ⟨caller, text⟩ ∧ item.call.line = some item.line := by
    intro item hitem
    rw [hforwarded] at hitem
    rcases List.mem_append.1 hitem with hold | hnew
    · exact .inl hold
    · rcases sent_spec hnew with ⟨hcall, hline⟩
      exact .inr ⟨hcall, hcall ▸ hline⟩
  rw [hnext]
  refine ⟨?_, fun item hitem => ?_, fun item hitem => ?_, hended.flag, fun other => ?_⟩
  · rw [hforwarded, List.map_append]
    exact h.path.append (sent_sublist _ s)
  · rcases hitem_cases item hitem with hold | ⟨hcall, _⟩
    · exact h.fromTasks item hold
    · rw [hcall]
      exact htask
  · rcases hitem_cases item hitem with hold | ⟨_, hline⟩
    · exact h.lines item hold
    · exact hline
  · have hother := hended.callers other
    exact ⟨hother.serial, hother.sinkCalled, hother.sinkTurnedAway⟩

/-! ## The forwarder -/

/-- A step of the forwarder that moves lines along, or gives one up. -/
theorem of_forwarded {s' : LogState} (h : LogInv s) (hlines : s'.forwarded.Sublist s.forwarded)
    (hlogged : s'.logged = s.logged) (hserial : s'.serial = s.serial) (hphase : s'.phase = s.phase)
    (hflag : s'.forwarding = true ↔ s'.forwarder.Delivering)
    (hsink : s.phase .sink ≠ .idle → s'.forwarder = .inSink) : LogInv s' := by
  refine ⟨?_, fun item hitem => h.fromTasks item (hlines.subset hitem),
    fun item hitem => h.lines item (hlines.subset hitem), hflag, fun caller => ?_⟩
  · rw [hlogged]
    exact (hlines.map QueuedLine.call).trans h.path
  · have hcaller := h.callers caller
    rw [hphase]
    refine ⟨?_, fun hs hne => ?_, hcaller.sinkTurnedAway⟩
    · rw [hlogged, hserial]
      exact hcaller.serial
    · subst hs
      exact hsink hne

/-- Outside the call of a sink, the sink is in no log call. -/
theorem sink_idle (h : LogInv s) {goal : Prop} (hpc : s.forwarder ≠ .inSink)
    (hphase : s.phase .sink ≠ .idle) : goal :=
  absurd ((h.callers .sink).sinkCalled rfl hphase) hpc

theorem forward (h : LogInv s) : LogInv s.forward := by
  have hflag := h.flag
  unfold LogState.forward
  cases hpc : s.forwarder with
  | receiving =>
      rw [hpc] at hflag
      cases hreceive : s.queue.receive with
      | none =>
          exact h
      | some taken =>
          rcases taken with ⟨item, queue⟩
          have hitems := BoundedQueue.receive_items hreceive
          refine h.of_forwarded ?_ rfl rfl rfl hflag (h.sink_idle (by simp [hpc]))
          simp [LogState.forwarded, hpc, ForwarderPc.inHand, hitems]
  | received item =>
      rw [hpc] at hflag
      cases hsink : s.sink with
      | none =>
          -- the sink was unregistered since the line was queued
          refine h.of_forwarded ?_ rfl rfl rfl hflag (h.sink_idle (by simp [hpc]))
          simp only [LogState.forwarded, hpc, ForwarderPc.inHand, List.append_nil, List.append_assoc]
          exact (List.sublist_append_right [item] _).append_left _
      | some sink =>
          refine h.of_forwarded ?_ rfl rfl rfl hflag (h.sink_idle (by simp [hpc]))
          simp [LogState.forwarded, hpc, ForwarderPc.inHand]
  | loaded sink item =>
      refine h.of_forwarded ?_ rfl rfl rfl ⟨fun _ => trivial, fun _ => rfl⟩
        (h.sink_idle (by simp [hpc]))
      simp [LogState.forwarded, hpc, ForwarderPc.inHand]
  | flagged sink item =>
      rw [hpc] at hflag
      refine h.of_forwarded ?_ rfl rfl rfl hflag fun _ => rfl
      simp [LogState.forwarded, hpc, ForwarderPc.inHand]
  | inSink =>
      rw [hpc] at hflag
      by_cases hidle : s.phase .sink = .idle
      · simp only [hidle, if_true]
        refine h.of_forwarded ?_ rfl rfl rfl hflag fun hne => absurd hidle hne
        simp [LogState.forwarded, hpc, ForwarderPc.inHand]
      · simp only [hidle, if_false]
        exact h
  | returned =>
      refine h.of_forwarded ?_ rfl rfl rfl ⟨fun h => Bool.noConfusion h, fun h => h.elim⟩
        (h.sink_idle (by simp [hpc]))
      simp [LogState.forwarded, hpc, ForwarderPc.inHand]

/-! ## Any step -/

theorem act (h : LogInv s) (a : LogAct) : LogInv (logAct s a) := by
  cases a with
  | call call => exact h.beginCall call
  | check caller => exact h.checkCall caller
  | enqueue caller => exact h.queueCall caller
  | forward => exact h.forward

/-- Which sink is registered does not matter to the invariant. -/
theorem withSink (h : LogInv s) (sink : Option Nat) : LogInv { s with sink := sink } :=
  h.of_forwarded (List.Sublist.refl _) rfl rfl rfl h.flag ((h.callers .sink).sinkCalled rfl)

theorem step (h : LogInv s) (st : LogStep) : LogInv (logStep s st) := by
  cases st with
  | act a =>
      exact h.act a
  | registerSink sink =>
      unfold logStep systemLogRegisterSink
      dsimp only
      split
      · exact h
      · exact h.withSink sink
  | unregisterSink =>
      exact h.withSink none

end LogInv

/-! ## Every interleaving -/

theorem logInv_run (steps : List LogStep) : LogInv (run logStep .ready steps) :=
  inv_run (fun _ st h => h.step st) LogInv.ready steps

/-- In every interleaving: the lines handed to sinks are, in order, among the calls that are over, and
those of one caller among its calls in the order in which they began; no line that is queued or
delivered was logged from inside a sink; and a delivered line is the beginning of its text, of the
length that is reported, and not empty. -/
theorem delivered_lines_of_every_run (steps : List LogStep) :
    let s := run logStep .ready steps
    ((s.delivered.map fun d => d.2.call).Sublist s.logged ∧
      ∀ caller, (callsOf caller (s.delivered.map fun d => d.2.call)).Sublist
        (callsOf caller s.serial)) ∧
      (∀ item ∈ s.forwarded, item.call.caller ≠ .sink) ∧
      ∀ d ∈ s.delivered, ∃ text, d.2.call.text = some text ∧ 0 < text.length ∧
        d.2.line.buf = text.take (min text.length (systemLogLineMax - 1)) ∧
        d.2.line.len = min text.length (systemLogLineMax - 1) := by
  intro s
  have hs : LogInv s := logInv_run steps
  have hdelivered : (s.delivered.map Prod.snd).Sublist s.forwarded := by
    unfold LogState.forwarded
    rw [List.append_assoc]
    exact List.sublist_append_left _ _
  -- what was delivered went through the queue in the order of the calls
  have hpath : (s.delivered.map fun d => d.2.call).Sublist s.logged := by
    have hcalls := (hdelivered.map QueuedLine.call).trans hs.path
    rwa [List.map_map] at hcalls
  refine ⟨⟨hpath, fun caller => ?_⟩, hs.fromTasks, fun d hd => ?_⟩
  · rw [← (hs.callers caller).serial]
    exact (hpath.filter _).trans (List.sublist_append_left _ _)
  · have hitem : d.2 ∈ s.forwarded := hdelivered.subset (List.mem_map_of_mem hd)
    exact LogCall.line_eq_some (hs.lines d.2 hitem)

end MainboardFirmware
