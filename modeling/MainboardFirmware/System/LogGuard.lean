import MainboardFirmware.System.LogOrder

/-!
# LogGuard — which lines a registered sink gets

The guard that keeps a sink's own lines out of the queue is one flag for all tasks. While a sink stays
registered, every line that passes the check and finds room is delivered to it; what else is turned
away is every line of every task that is checked while the forwarder delivers another one.
-/

namespace MainboardFirmware

open Machine

/-! ## Lines owed -/

/-- The log call that ends with a step. -/
def LogState.ending (s : LogState) : LogAct → Option LogCall
  | .check caller =>
      match s.phase caller with
      | .checking text => if s.Forwards then none else some ⟨caller, text⟩
      | _ => none
  | .enqueue caller =>
      match s.phase caller with
      | .queueing text => some ⟨caller, text⟩
      | _ => none
  | _ => none

/-- The line that the sink is owed from a step: that of a task whose call ends, not empty, with room
for it in the queue. -/
def LogState.owed (s : LogState) (a : LogAct) : List QueuedLine :=
  match s.ending a with
  | none => []
  | some call => if call.caller = .sink then [] else s.sent call

/-- The step is a check while the forwarder is in a delivery. -/
def LogState.guarded (s : LogState) : LogAct → Bool
  | .check _ => s.forwarding
  | _ => false

/-- What is left of it by the guard. -/
def LogState.kept (s : LogState) (a : LogAct) : List QueuedLine :=
  if s.guarded a then [] else s.owed a

/-- The lines owed from the steps of a run. -/
def owedLines (s : LogState) (acts : List LogAct) : List QueuedLine :=
  (moves logAct s acts).flatMap fun m => m.1.owed m.2

def keptLines (s : LogState) (acts : List LogAct) : List QueuedLine :=
  (moves logAct s acts).flatMap fun m => m.1.kept m.2

/-! ## Catching up -/

/-- The line in the forwarder's hand, with the sink it will be handed to. -/
def ForwarderPc.outgoing (sink : Nat) : ForwarderPc → List (Nat × QueuedLine)
  | .received item => [(sink, item)]
  | .loaded chosen item => [(chosen, item)]
  | .flagged chosen item => [(chosen, item)]
  | _ => []

/-- What sinks have been and will be handed, if nothing more is logged and `sink` stays registered. -/
def LogState.outgoing (sink : Nat) (s : LogState) : List (Nat × QueuedLine) :=
  s.delivered ++ s.forwarder.outgoing sink ++ s.queue.items.map fun item => (sink, item)

/-- The steps of a round that are left to the forwarder. -/
def ForwarderPc.stepsLeft : ForwarderPc → Nat
  | .receiving => 0
  | .received _ => 5
  | .loaded _ _ => 4
  | .flagged _ _ => 3
  | .inSink => 2
  | .returned => 1

/-- The steps until the forwarder waits at an empty queue. -/
def LogState.backlog (s : LogState) : Nat :=
  6 * s.queue.items.length + s.forwarder.stepsLeft

/-- The sink ends its log call, if it is in one, and the forwarder works off the queue. -/
def LogState.caughtUp (s : LogState) : LogState :=
  run logAct (s.checkCall .sink) (List.replicate s.backlog .forward)

/-- With a sink registered. -/
structure Serving (sink : Nat) (s : LogState) : Prop where
  inv : LogInv s
  sink_eq : s.sink = some sink
  queueCreated : s.queueCreated = true

namespace Serving

variable {sink : Nat} {s : LogState}

/-- While a sink is registered, only the guard turns a line away. -/
theorem forwards_iff (h : Serving sink s) : s.Forwards ↔ s.forwarding = false := by
  unfold LogState.Forwards
  simp [h.sink_eq, h.queueCreated]

theorem forward_outgoing (h : Serving sink s) : s.forward.outgoing sink = s.outgoing sink := by
  unfold LogState.forward
  cases hpc : s.forwarder with
  | receiving =>
      cases hreceive : s.queue.receive with
      | none =>
          rfl
      | some taken =>
          -- the line moves from the queue into the hands of the forwarder
          rcases taken with ⟨item, queue⟩
          have hitems := BoundedQueue.receive_items hreceive
          simp [LogState.outgoing, hpc, ForwarderPc.outgoing, hitems]
  | received item =>
      simp [h.sink_eq, LogState.outgoing, hpc, ForwarderPc.outgoing]
  | loaded chosen item =>
      simp [LogState.outgoing, hpc, ForwarderPc.outgoing]
  | flagged chosen item =>
      simp [LogState.outgoing, hpc, ForwarderPc.outgoing]
  | inSink =>
      by_cases hidle : s.phase .sink = .idle
      · simp [LogState.outgoing, hpc, ForwarderPc.outgoing, hidle]
      · simp [LogState.outgoing, hpc, ForwarderPc.outgoing, hidle]
  | returned =>
      simp [LogState.outgoing, hpc, ForwarderPc.outgoing]

/-- A check that the guard does not fail is passed, so the call does not end with it. -/
theorem kept_check (h : Serving sink s) (caller : LogCaller) : s.kept (.check caller) = [] := by
  unfold LogState.kept
  by_cases hflag : s.forwarding = true
  · exact if_pos hflag
  · have hforwards : s.Forwards := h.forwards_iff.2 (Bool.not_eq_true _ ▸ hflag)
    have hending : s.ending (.check caller) = none := by
      unfold LogState.ending
      dsimp only
      split
      · exact if_pos hforwards
      · rfl
    simp [LogState.owed, hending]

theorem enqueue_outgoing (h : Serving sink s) (caller : LogCaller) :
    (s.queueCall caller).outgoing sink =
      s.outgoing sink ++ (s.kept (.enqueue caller)).map fun item => (sink, item) := by
  cases hphase : s.phase caller with
  | idle =>
      simp [LogState.queueCall, hphase, LogState.kept, LogState.guarded, LogState.owed,
        LogState.ending]
  | checking text =>
      simp [LogState.queueCall, hphase, LogState.kept, LogState.guarded, LogState.owed,
        LogState.ending]
  | queueing text =>
      have htask : caller ≠ .sink := fun hs => (h.inv.callers caller).sinkTurnedAway hs text hphase
      have hkept : s.kept (.enqueue caller) = s.sent ⟨caller, text⟩ := by
        simp [LogState.kept, LogState.guarded, LogState.owed, LogState.ending, hphase, htask]
      rcases LogState.sendLine_eq ⟨caller, text⟩ s with ⟨queue, hsend, hitems⟩
      rw [hkept]
      simp [LogState.queueCall, hphase, hsend, LogState.endCall, LogState.outgoing, hitems]

/-- A step hands on, queues or gives up nothing but the line it keeps. -/
theorem act_outgoing (h : Serving sink s) (a : LogAct) :
    (logAct s a).outgoing sink = s.outgoing sink ++ (s.kept a).map fun item => (sink, item) := by
  cases a with
  | call call =>
      have hkept : s.kept (.call call) = [] := rfl
      rw [hkept]
      rcases LogState.beginCall_cases call s with hsame | ⟨_, _, hbegun⟩
      · simp [logAct, hsame]
      · simp [logAct, hbegun, LogState.outgoing]
  | check caller =>
      -- no line moves in a check: it only decides whether the call goes on
      rw [h.kept_check caller]
      rcases LogState.checkCall_cases caller s with hsame | ⟨text, _, ⟨_, hnext⟩ | ⟨_, hnext⟩⟩
      · simp [logAct, hsame]
      · simp [logAct, hnext, LogState.outgoing]
      · simp [logAct, hnext, LogState.outgoing, LogState.endCall]
  | enqueue caller =>
      exact h.enqueue_outgoing caller
  | forward =>
      have hkept : s.kept .forward = [] := rfl
      rw [hkept]
      simpa [logAct] using h.forward_outgoing

end Serving

/-- Log calls and the forwarder leave the registration alone. -/
theorem act_registration (s : LogState) (a : LogAct) :
    (logAct s a).sink = s.sink ∧ (logAct s a).queueCreated = s.queueCreated ∧
      (logAct s a).initialized = s.initialized := by
  cases a with
  | call call =>
      rcases LogState.beginCall_cases call s with hsame | ⟨_, _, hbegun⟩
      · simp [logAct, hsame]
      · simp [logAct, hbegun]
  | check caller =>
      -- turned away by the gate, or on to the queue
      rcases LogState.checkCall_cases caller s with hsame | ⟨text, _, ⟨_, hnext⟩ | ⟨_, hnext⟩⟩
      · simp [logAct, hsame]
      · simp [logAct, hnext]
      · simp [logAct, hnext, LogState.endCall]
  | enqueue caller =>
      rcases LogState.queueCall_cases caller s with hsame | ⟨text, queue, _, _, hnext⟩
      · simp [logAct, hsame]
      · simp [logAct, hnext, LogState.endCall]
  | forward =>
      unfold logAct LogState.forward
      cases s.forwarder with
      | receiving =>
          cases s.queue.receive <;> exact ⟨rfl, rfl, rfl⟩
      | received item =>
          dsimp only
          split <;> exact ⟨rfl, rfl, rfl⟩
      | loaded chosen item => exact ⟨rfl, rfl, rfl⟩
      | flagged chosen item => exact ⟨rfl, rfl, rfl⟩
      | inSink =>
          dsimp only
          split <;> exact ⟨rfl, rfl, rfl⟩
      | returned => exact ⟨rfl, rfl, rfl⟩

/-- Nothing takes the initialisation back. -/
theorem step_initialized {s : LogState} (hs : s.queueCreated = true ∧ s.initialized = true)
    (st : LogStep) : (logStep s st).queueCreated = true ∧ (logStep s st).initialized = true := by
  cases st with
  | act a =>
      have hsame := act_registration s a
      exact ⟨hsame.2.1.trans hs.1, hsame.2.2.trans hs.2⟩
  | registerSink sink =>
      unfold logStep systemLogRegisterSink
      dsimp only
      split <;> exact hs
  | unregisterSink => exact hs

namespace Serving

variable {sink : Nat} {s : LogState}

theorem act (h : Serving sink s) (a : LogAct) : Serving sink (logAct s a) where
  inv := h.inv.act a
  sink_eq := (act_registration s a).1.trans h.sink_eq
  queueCreated := (act_registration s a).2.1.trans h.queueCreated

theorem run (h : Serving sink s) (acts : List LogAct) : Serving sink (Machine.run logAct s acts) :=
  inv_run (fun _ a hs => hs.act a) h acts

/-- Over a run, what is handed on grows by the lines that were kept. -/
theorem run_outgoing (h : Serving sink s) (acts : List LogAct) :
    (Machine.run logAct s acts).outgoing sink =
      s.outgoing sink ++ (keptLines s acts).map fun item => (sink, item) := by
  induction acts generalizing s with
  | nil =>
      simp [keptLines]
  | cons a acts ih =>
      rw [run_cons, ih (h.act a), h.act_outgoing a]
      simp [keptLines]

/-! ## Working off the queue -/

/-- A step of the forwarder while its sink logs nothing. -/
theorem forward_backlog (h : Serving sink s) (hidle : s.phase .sink = .idle) :
    s.forward.phase .sink = .idle ∧ s.forward.backlog = s.backlog - 1 := by
  unfold LogState.forward
  cases hpc : s.forwarder with
  | receiving =>
      cases hreceive : s.queue.receive with
      | none =>
          have hempty := BoundedQueue.receive_eq_none hreceive
          refine ⟨hidle, ?_⟩
          simp [LogState.backlog, hpc, ForwarderPc.stepsLeft, hempty]
      | some taken =>
          -- one line less in the queue, and its own steps still to do
          rcases taken with ⟨item, queue⟩
          have hitems := BoundedQueue.receive_items hreceive
          refine ⟨hidle, ?_⟩
          simp only [LogState.backlog, hpc, ForwarderPc.stepsLeft, hitems, List.length_cons]
          omega
  | received item =>
      simp only [h.sink_eq]
      exact ⟨hidle, by simp [LogState.backlog, hpc, ForwarderPc.stepsLeft]⟩
  | loaded chosen item =>
      exact ⟨hidle, by simp [LogState.backlog, hpc, ForwarderPc.stepsLeft]⟩
  | flagged chosen item =>
      exact ⟨hidle, by simp [LogState.backlog, hpc, ForwarderPc.stepsLeft]⟩
  | inSink =>
      simp only [if_pos hidle]
      exact ⟨hidle, by simp [LogState.backlog, hpc, ForwarderPc.stepsLeft]⟩
  | returned =>
      exact ⟨hidle, by simp [LogState.backlog, hpc, ForwarderPc.stepsLeft]⟩

/-- Without a backlog everything has been delivered. -/
theorem delivered_of_no_backlog (hbacklog : s.backlog = 0) : s.outgoing sink = s.delivered := by
  have hempty : s.queue.items = [] := by
    rw [← List.length_eq_zero_iff]
    unfold LogState.backlog at hbacklog
    omega
  have hrest : s.forwarder.outgoing sink = [] := by
    have hleft : s.forwarder.stepsLeft = 0 := by
      unfold LogState.backlog at hbacklog
      omega
    cases hpc : s.forwarder <;> simp [hpc, ForwarderPc.stepsLeft] at hleft
    rfl
  simp [LogState.outgoing, hempty, hrest]

/-- As many steps as the backlog counts deliver all that is under way. -/
theorem delivered_of_forwards (n : Nat) (h : Serving sink s) (hidle : s.phase .sink = .idle)
    (hbacklog : s.backlog ≤ n) :
    (Machine.run logAct s (List.replicate n .forward)).delivered = s.outgoing sink := by
  -- each step takes one off the backlog
  induction n generalizing s with
  | zero =>
      exact (delivered_of_no_backlog (Nat.le_zero.1 hbacklog)).symm
  | succ n ih =>
      rcases h.forward_backlog hidle with ⟨hidle', hbacklog'⟩
      have hrest := ih (h.act .forward) hidle' (by
        show s.forward.backlog ≤ n
        omega)
      rw [List.replicate_succ, run_cons, hrest]
      exact h.forward_outgoing

/-- A log call that the sink is in ends with its check. -/
theorem checkCall_sink (h : Serving sink s) :
    (s.checkCall .sink).phase .sink = .idle ∧ (s.checkCall .sink).backlog = s.backlog := by
  cases hphase : s.phase .sink with
  | idle =>
      simp [LogState.checkCall, hphase]
  | checking text =>
      have hturned : ¬s.Forwards := h.inv.not_forwards_of_sink (by simp [hphase])
      simp [LogState.checkCall, hphase, hturned, LogState.endCall, LogState.backlog]
  | queueing text =>
      exact absurd hphase ((h.inv.callers .sink).sinkTurnedAway rfl text)

/-- Once the forwarder has caught up, everything under way has been delivered. -/
theorem caughtUp_delivered (h : Serving sink s) : s.caughtUp.delivered = s.outgoing sink := by
  have houtgoing := h.act_outgoing (.check .sink)
  rw [h.kept_check, List.map_nil, List.append_nil] at houtgoing
  rcases h.checkCall_sink with ⟨hidle, hbacklog⟩
  have hdelivered :=
    delivered_of_forwards s.backlog (h.act (.check .sink)) hidle (Nat.le_of_eq hbacklog)
  exact hdelivered.trans houtgoing

end Serving

/-! ## Every interleaving -/

/-- A sink can be registered after any steps. -/
theorem serving_registered (before : List LogStep) (sink : Nat) :
    Serving sink (run logStep .ready (before ++ [.registerSink (some sink)])) := by
  have hinv := logInv_run (before ++ [.registerSink (some sink)])
  have hstep : ∀ (t : LogState) st, (t.queueCreated = true ∧ t.initialized = true) →
      (logStep t st).queueCreated = true ∧ (logStep t st).initialized = true :=
    fun _ st ht => step_initialized ht st
  have hup := inv_run hstep (s := .ready) ⟨rfl, rfl⟩ before
  have hlast : run logStep .ready (before ++ [.registerSink (some sink)]) =
      { run logStep .ready before with sink := some sink } := by
    unfold run
    rw [List.foldl_append]
    have hinit : (List.foldl logStep .ready before).initialized = true := hup.2
    simp [logStep, systemLogRegisterSink, hinit]
  rw [hlast] at hinv ⊢
  exact ⟨hinv, rfl, hup.1⟩

/-- With one sink registered from some moment on, in every interleaving of log calls and forwarder, once
the forwarder has caught up: what was delivered since is what was under way, then exactly the lines that
are not empty, were logged outside the sink with room in the queue, and were not checked while the
forwarder delivered another one, each of them to that sink, once and in order. -/
theorem registered_sink_gets_kept_lines (before : List LogStep) (sink : Nat) (acts : List LogAct) :
    let s := run logStep .ready (before ++ [.registerSink (some sink)])
    (run logAct s acts).caughtUp.delivered =
      s.outgoing sink ++ (keptLines s acts).map fun item => (sink, item) := by
  intro s
  have hs : Serving sink s := serving_registered before sink
  rw [(hs.run acts).caughtUp_delivered]
  exact hs.run_outgoing acts

/-! ## Every line -/

/-- The sink gets every line it is owed. -/
def GetsEveryLine (sink : Nat) (s : LogState) (acts : List LogAct) : Prop :=
  (run logAct s acts).caughtUp.delivered =
    s.outgoing sink ++ (owedLines s acts).map fun item => (sink, item)

/-- Leaving out some of the parts of a concatenation changes it unless those are empty. -/
theorem flatMap_omit_eq_iff {α β : Type} (l : List α) (omitted : α → Bool) (parts : α → List β) :
    (l.flatMap fun a => if omitted a then [] else parts a) = l.flatMap parts ↔
      ∀ a ∈ l, omitted a = true → parts a = [] := by
  have hshorter : ∀ l : List α,
      (l.flatMap fun a => if omitted a then [] else parts a).length ≤ (l.flatMap parts).length := by
    intro l
    induction l with
    | nil =>
        exact Nat.le_refl 0
    | cons a l ih =>
        simp only [List.flatMap_cons, List.length_append]
        refine Nat.add_le_add ?_ ih
        split
        · exact Nat.zero_le _
        · exact Nat.le_refl _
  induction l with
  | nil =>
      simp
  | cons a l ih =>
      simp only [List.forall_mem_cons, List.flatMap_cons]
      by_cases homitted : omitted a = true
      · simp only [homitted, if_true, List.nil_append, true_implies]
        constructor
        · -- what is left of the rest is too short to make up for a part left out here
          intro heq
          have hlength := hshorter l
          rw [heq, List.length_append] at hlength
          have hempty : parts a = [] := List.length_eq_zero_iff.1 (by omega)
          rw [hempty] at heq
          exact ⟨hempty, ih.1 heq⟩
        · rintro ⟨hempty, hrest⟩
          rw [hempty, ih.2 hrest]
          rfl
      · simpa [homitted] using ih

theorem keptLines_eq_owedLines_iff (s : LogState) (acts : List LogAct) :
    keptLines s acts = owedLines s acts ↔
      ∀ m ∈ moves logAct s acts, m.1.guarded m.2 = true → m.1.owed m.2 = [] :=
  flatMap_omit_eq_iff (moves logAct s acts) (fun m => m.1.guarded m.2) fun m => m.1.owed m.2

/-- With one sink registered from some moment on, in every interleaving: the sink gets every line it is
owed exactly if none of them is checked while the forwarder delivers another one. -/
theorem registered_sink_gets_every_line_iff (before : List LogStep) (sink : Nat)
    (acts : List LogAct) :
    let s := run logStep .ready (before ++ [.registerSink (some sink)])
    GetsEveryLine sink s acts ↔
      ∀ m ∈ moves logAct s acts, m.1.guarded m.2 = true → m.1.owed m.2 = [] := by
  intro s
  have hs : Serving sink s := serving_registered before sink
  have hinjective : Function.Injective fun item : QueuedLine => (sink, item) :=
    fun _ _ heq => (Prod.mk.inj heq).2
  rw [← keptLines_eq_owedLines_iff, GetsEveryLine, (hs.run acts).caughtUp_delivered,
    hs.run_outgoing acts, List.append_cancel_left_eq, List.map_inj_right hinjective]

/-- Task 1 logs a line, the forwarder hands it to the sink, and task 2 logs a line meanwhile. -/
def lineDuringDelivery : List LogAct :=
  [.call ⟨.task 1, some (ascii "a")⟩, .check (.task 1), .enqueue (.task 1),
    .forward, .forward, .forward, .forward,
    .call ⟨.task 2, some (ascii "b")⟩, .check (.task 2)]

/-- The second line is owed, the queue being empty, and lost. -/
theorem line_lost_during_delivery :
    let s := run logStep .ready [.registerSink (some 0)]
    (owedLines s lineDuringDelivery).map (fun item => item.call.text) =
        [some (ascii "a"), some (ascii "b")] ∧
      (run logAct s lineDuringDelivery).caughtUp.delivered.map (fun d => (d.1, d.2.call.text)) =
        [(0, some (ascii "a"))] ∧
      ¬GetsEveryLine 0 s lineDuringDelivery := by
  intro s
  have howed : (owedLines s lineDuringDelivery).length = 2 := by decide +kernel
  have hdelivered : (run logAct s lineDuringDelivery).caughtUp.delivered.length = 1 := by
    decide +kernel
  refine ⟨by decide +kernel, by decide +kernel, fun hall => ?_⟩
  have hlength := congrArg List.length hall
  rw [List.length_append, List.length_map, howed, hdelivered] at hlength
  omega

end MainboardFirmware
