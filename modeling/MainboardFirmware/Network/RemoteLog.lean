import MainboardFirmware.Network.Telemetry
import MainboardFirmware.System.LogOrder

/-!
# RemoteLog — from a log call to the broker

`app_log_sink` of `main.c` between the logging facade and the network manager: it asks whether the
broker is connected, `network_manager_publish` looks once more, and the client may still refuse the
line, which is logged from inside the sink. Log calls of all tasks, the forwarder and the event handlers
of the network run in between.
-/

namespace MainboardFirmware

open Machine

/-! ## The sink -/

/-- Where `app_log_sink` is in its call; `idle` also where it is about to return. -/
inductive LogSinkPc
  | idle
  | asking (item : QueuedLine)
  | checking (item : QueuedLine)
  | publishing (item : QueuedLine)
  | refused
  deriving DecidableEq, Repr

/-- What a line becomes: `sink(line.buf, line.len)`, and that many bytes of it. -/
def logPublication (topicLog : CString) (item : QueuedLine) : Publication :=
  ⟨topicLog, item.line.buf.take item.line.len, 1, false⟩

structure RemoteLog where
  log : LogState
  net : NetworkManager
  topicLog : CString
  pc : LogSinkPc
  /-- what the MQTT client was asked to publish, with its answers -/
  sent : List (Publication × Int)
  /-- the lines that these were -/
  lines : List QueuedLine

def RemoteLog.initial (net : NetworkManager) (topicLog : CString) : RemoteLog :=
  ⟨.ready, net, topicLog, .idle, [], []⟩

/-- The next step of `app_log_sink`. The client answers `msgId` if it is asked, and `refusal` is the text
logged if it refuses. While a log call is under way inside the sink, the sink waits. -/
def appLogSink (msgId : Int) (refusal : Option CString) (s : RemoteLog) : RemoteLog :=
  if s.log.phase .sink ≠ .idle then s
  else
    match s.pc with
    | .idle => s
    | .asking item =>
        if networkManagerIsConnected s.net = true then { s with pc := .checking item }
        else { s with pc := .idle }
    | .checking item =>
        -- `network_manager_publish` reads the flag without the mutex
        if s.net.mqttClient = false ∨ s.net.mqttConnected = false then { s with pc := .idle }
        else { s with pc := .publishing item }
    | .publishing item =>
        { s with
          sent := s.sent ++ [(logPublication s.topicLog item, msgId)]
          lines := s.lines ++ [item]
          pc := if msgId < 0 then .refused else .idle }
    | .refused => { s with log := s.log.beginCall ⟨.sink, refusal⟩, pc := .idle }

/-- The next step of the forwarder, whose sink is `app_log_sink`. -/
def forwardRemote (s : RemoteLog) : RemoteLog :=
  match s.log.forwarder with
  | .flagged _ item => { s with log := s.log.forward, pc := .asking item }
  | .inSink => if s.pc = .idle then { s with log := s.log.forward } else s
  | _ => { s with log := s.log.forward }

/-- Which task or event handler runs next. -/
inductive RemoteLogMove
  | call (call : LogCall)
  | check (caller : LogCaller)
  | enqueue (caller : LogCaller)
  | forward
  | sink (msgId : Int) (refusal : Option CString)
  /-- `system_log_register_sink(app_log_sink)` -/
  | register
  | wifi (event : WifiEvent)
  | mqtt (event : MqttEvent)
  deriving DecidableEq, Repr

def remoteLogStep (s : RemoteLog) : RemoteLogMove → RemoteLog
  | .call call => { s with log := s.log.beginCall call }
  | .check caller => { s with log := s.log.checkCall caller }
  | .enqueue caller => { s with log := s.log.queueCall caller }
  | .forward => forwardRemote s
  | .sink msgId refusal => appLogSink msgId refusal s
  | .register => { s with log := (systemLogRegisterSink (some 0) s.log).2 }
  | .wifi event => { s with net := (wifiEventHandler event s.net).1 }
  | .mqtt event => { s with net := (mqttEventHandler event s.net).1 }

/-! ## What the log calls leave alone -/

namespace LogState

theorem beginCall_delivered (call : LogCall) (s : LogState) :
    (s.beginCall call).delivered = s.delivered ∧ (s.beginCall call).forwarder = s.forwarder := by
  rcases beginCall_cases call s with h | ⟨-, -, h⟩
  · rw [h]
    exact ⟨rfl, rfl⟩
  · rw [h]
    exact ⟨rfl, rfl⟩

theorem checkCall_delivered (caller : LogCaller) (s : LogState) :
    (s.checkCall caller).delivered = s.delivered ∧
      (s.checkCall caller).forwarder = s.forwarder := by
  rcases checkCall_cases caller s with h | ⟨text, -, ⟨-, h⟩ | ⟨-, h⟩⟩
  · rw [h]
    exact ⟨rfl, rfl⟩
  · rw [h]
    exact ⟨rfl, rfl⟩
  · rw [h]
    exact ⟨rfl, rfl⟩

theorem queueCall_delivered (caller : LogCaller) (s : LogState) :
    (s.queueCall caller).delivered = s.delivered ∧
      (s.queueCall caller).forwarder = s.forwarder := by
  rcases queueCall_cases caller s with h | ⟨text, queue, -, -, h⟩
  · rw [h]
    exact ⟨rfl, rfl⟩
  · rw [h]
    exact ⟨rfl, rfl⟩

theorem registerSink_delivered (sink : Option Nat) (s : LogState) :
    (systemLogRegisterSink sink s).2.delivered = s.delivered ∧
      (systemLogRegisterSink sink s).2.forwarder = s.forwarder := by
  unfold systemLogRegisterSink
  split <;> exact ⟨rfl, rfl⟩

/-- Outside of its call of the sink the forwarder delivers nothing and does not get into the sink. -/
theorem forward_delivered {s : LogState} (hflagged : ∀ sink item, s.forwarder ≠ .flagged sink item) :
    s.forward.delivered = s.delivered := by
  unfold forward
  cases hpc : s.forwarder with
  | receiving =>
      cases s.queue.receive <;> rfl
  | received item =>
      cases s.sink <;> rfl
  | loaded sink item =>
      rfl
  | flagged sink item =>
      exact absurd hpc (hflagged sink item)
  | inSink =>
      dsimp only
      split <;> rfl
  | returned =>
      rfl

end LogState

/-! ## The invariant -/

/-- The line in the hands of the sink. -/
def LogSinkPc.inHand : LogSinkPc → List QueuedLine
  | .asking item => [item]
  | .checking item => [item]
  | .publishing item => [item]
  | _ => []

structure RemoteLogInv (topicLog : CString) (s : RemoteLog) : Prop where
  log : LogInv s.log
  topic_eq : s.topicLog = topicLog
  sent_eq : s.sent.map Prod.fst = s.lines.map (logPublication topicLog)
  path : (s.lines ++ s.pc.inHand).Sublist (s.log.delivered.map Prod.snd)
  called : s.pc ≠ .idle → s.log.forwarder = .inSink

namespace RemoteLogInv

variable {topicLog : CString} {s : RemoteLog}

theorem initial (net : NetworkManager) (topicLog : CString) :
    RemoteLogInv topicLog (.initial net topicLog) where
  log := LogInv.ready
  topic_eq := rfl
  sent_eq := rfl
  path := List.Sublist.refl []
  called h := absurd rfl h

/-- A step of the log that does not touch the sink's call. -/
theorem withLog (hs : RemoteLogInv topicLog s) {log : LogState} (hlog : LogInv log)
    (hsame : log.delivered = s.log.delivered ∧ log.forwarder = s.log.forwarder) :
    RemoteLogInv topicLog { s with log := log } where
  log := hlog
  topic_eq := hs.topic_eq
  sent_eq := hs.sent_eq
  path := by
    rw [hsame.1]
    exact hs.path
  called hpc := hsame.2.trans (hs.called hpc)

/-- The sink gives its line up, or has none to give up. -/
theorem withPc (hs : RemoteLogInv topicLog s) {pc : LogSinkPc}
    (hhand : pc.inHand.Sublist s.pc.inHand) (hpc : pc ≠ .idle → s.pc ≠ .idle) :
    RemoteLogInv topicLog { s with pc := pc } where
  log := hs.log
  topic_eq := hs.topic_eq
  sent_eq := hs.sent_eq
  path := (hhand.append_left s.lines).trans hs.path
  called h := hs.called (hpc h)

theorem sink (hs : RemoteLogInv topicLog s) (msgId : Int) (refusal : Option CString) :
    RemoteLogInv topicLog (appLogSink msgId refusal s) := by
  unfold appLogSink
  split
  · exact hs
  cases hpc : s.pc with
  | idle =>
      exact hs
  | asking item =>
      have hline : LogSinkPc.inHand (.checking item) = s.pc.inHand := by rw [hpc]; rfl
      dsimp only
      split
      · exact hs.withPc (hline ▸ List.Sublist.refl _) fun _ => by simp [hpc]
      · exact hs.withPc (List.nil_sublist _) fun h => absurd rfl h
  | checking item =>
      have hline : LogSinkPc.inHand (.publishing item) = s.pc.inHand := by rw [hpc]; rfl
      dsimp only
      split
      · exact hs.withPc (List.nil_sublist _) fun h => absurd rfl h
      · exact hs.withPc (hline ▸ List.Sublist.refl _) fun _ => by simp [hpc]
  | publishing item =>
      have hpath := hs.path
      rw [hpc] at hpath
      refine ⟨hs.log, hs.topic_eq, ?_, ?_, fun _ => hs.called (by simp [hpc])⟩
      · simp [hs.sent_eq, hs.topic_eq]
      · -- the line passes from the sink's hand to the client
        have hnone : LogSinkPc.inHand (if msgId < 0 then .refused else .idle) = [] := by
          split <;> rfl
        rw [hnone, List.append_nil]
        exact hpath
  | refused =>
      have hidle : RemoteLogInv topicLog { s with pc := .idle } :=
        hs.withPc (List.nil_sublist _) fun h => absurd rfl h
      exact hidle.withLog (hs.log.beginCall ⟨.sink, refusal⟩) (LogState.beginCall_delivered _ _)

theorem forward (hs : RemoteLogInv topicLog s) : RemoteLogInv topicLog (forwardRemote s) := by
  have hlog := hs.log.forward
  -- outside of its call the sink is idle
  have hidle : s.log.forwarder ≠ .inSink → s.pc = .idle := fun hpc => by
    by_contra hcalled
    exact hpc (hs.called hcalled)
  have hother : (∀ sink item, s.log.forwarder ≠ .flagged sink item) → s.pc = .idle →
      RemoteLogInv topicLog { s with log := s.log.forward } := fun hflagged hpc =>
    { log := hlog
      topic_eq := hs.topic_eq
      sent_eq := hs.sent_eq
      path := by
        rw [LogState.forward_delivered hflagged]
        exact hs.path
      called := fun hcalled => absurd hpc hcalled }
  unfold forwardRemote
  cases hforwarder : s.log.forwarder with
  | flagged sink item =>
      have hpath := hs.path
      rw [hidle (by simp [hforwarder])] at hpath
      have hdelivered : s.log.forward.delivered = s.log.delivered ++ [(sink, item)] := by
        simp only [LogState.forward, hforwarder]
      refine ⟨hlog, hs.topic_eq, hs.sent_eq, ?_, fun _ => ?_⟩
      · rw [hdelivered, List.map_append]
        exact ((List.append_nil s.lines) ▸ hpath).append (List.Sublist.refl [item])
      · simp only [LogState.forward, hforwarder]
  | inSink =>
      dsimp only
      split
      next hpc =>
        exact hother (by simp [hforwarder]) hpc
      next =>
        exact hs
  | receiving =>
      exact hother (by simp [hforwarder]) (hidle (by simp [hforwarder]))
  | received item =>
      exact hother (by simp [hforwarder]) (hidle (by simp [hforwarder]))
  | loaded sink item =>
      exact hother (by simp [hforwarder]) (hidle (by simp [hforwarder]))
  | returned =>
      exact hother (by simp [hforwarder]) (hidle (by simp [hforwarder]))

theorem step (hs : RemoteLogInv topicLog s) (move : RemoteLogMove) :
    RemoteLogInv topicLog (remoteLogStep s move) := by
  cases move with
  | call call =>
      exact hs.withLog (hs.log.beginCall call) (LogState.beginCall_delivered call _)
  | check caller =>
      exact hs.withLog (hs.log.checkCall caller) (LogState.checkCall_delivered caller _)
  | enqueue caller =>
      exact hs.withLog (hs.log.queueCall caller) (LogState.queueCall_delivered caller _)
  | forward =>
      exact hs.forward
  | sink msgId refusal =>
      exact hs.sink msgId refusal
  | register =>
      exact hs.withLog (hs.log.step (.registerSink (some 0))) (LogState.registerSink_delivered _ _)
  | wifi event =>
      exact ⟨hs.log, hs.topic_eq, hs.sent_eq, hs.path, hs.called⟩
  | mqtt event =>
      exact ⟨hs.log, hs.topic_eq, hs.sent_eq, hs.path, hs.called⟩

end RemoteLogInv

theorem remoteLogInv_run (net : NetworkManager) (topicLog : CString) (as : List RemoteLogMove) :
    RemoteLogInv topicLog (run remoteLogStep (.initial net topicLog) as) :=
  inv_run (fun _ move hs => hs.step move) (RemoteLogInv.initial net topicLog) as

/-! ## What a reader of the topic gets -/

/-- For every interleaving of log calls, forwarder and event handlers: what is published on the log topic
is, in order, among the lines logged, and what one task logged is in the order in which that task began
to log it; each message is the first 159 bytes of its text, and none of them was logged from inside the
sink, so a refused publish does not feed on itself. -/
theorem remote_log_of_every_run (net : NetworkManager) (topicLog : CString)
    (as : List RemoteLogMove) :
    let s := run remoteLogStep (.initial net topicLog) as
    s.sent.map Prod.fst = s.lines.map (logPublication topicLog) ∧
      (s.lines.map QueuedLine.call).Sublist s.log.logged ∧
      (∀ caller, (callsOf caller (s.lines.map QueuedLine.call)).Sublist
        (callsOf caller s.log.serial)) ∧
      ∀ item ∈ s.lines, item.call.caller ≠ .sink ∧ ∃ text, item.call.text = some text ∧ text ≠ [] ∧
        (logPublication topicLog item).payload = text.take (systemLogLineMax - 1) := by
  intro s
  have hs : RemoteLogInv topicLog s := remoteLogInv_run net topicLog as
  have hlines : s.lines.Sublist s.log.forwarded := by
    calc
      s.lines.Sublist (s.lines ++ s.pc.inHand) := List.sublist_append_left _ _
      List.Sublist _ (s.log.delivered.map Prod.snd) := hs.path
      List.Sublist _ s.log.forwarded := by
        rw [LogState.forwarded, List.append_assoc]
        exact List.sublist_append_left _ _
  have hpath : (s.lines.map QueuedLine.call).Sublist s.log.logged :=
    (hlines.map QueuedLine.call).trans hs.log.path
  refine ⟨hs.sent_eq, hpath, fun caller => ?_, fun item hitem => ?_⟩
  · rw [← (hs.log.callers caller).serial]
    exact (hpath.filter _).trans (List.sublist_append_left _ _)
  · have hforwarded := hlines.subset hitem
    rcases LogCall.line_eq_some (hs.log.lines item hforwarded) with ⟨text, htext, hpos, hbuf, hlen⟩
    refine ⟨hs.log.fromTasks item hforwarded, text, htext, List.length_pos_iff.1 hpos, ?_⟩
    simp only [logPublication, hbuf, hlen, List.take_take, Nat.min_self]
    rw [List.take_eq_take_iff]
    omega

/-! ## While the broker is connected -/

/-- The events that say that the connection is lost. -/
def RemoteLogMove.Drops : RemoteLogMove → Prop
  | .wifi .staDisconnected => True
  | .mqtt .disconnected => True
  | _ => False

/-- The module is set up, which no event takes back. -/
structure NetworkManager.Up (n : NetworkManager) : Prop where
  client : n.mqttClient = true
  mutex : n.statusMutex = true

theorem NetworkManager.Up.wifi {n : NetworkManager} (hn : n.Up) (event : WifiEvent) :
    (wifiEventHandler event n).1.Up := by
  cases event <;> exact ⟨hn.client, hn.mutex⟩

theorem NetworkManager.Up.mqtt {n : NetworkManager} (hn : n.Up) (event : MqttEvent) :
    (mqttEventHandler event n).1.Up := by
  cases event <;> exact ⟨hn.client, hn.mutex⟩

/-- Only two events say that the connection is lost. -/
theorem wifiEventHandler_connected {n : NetworkManager} (hn : n.mqttConnected = true)
    {event : WifiEvent} (hevent : event ≠ .staDisconnected) :
    (wifiEventHandler event n).1.mqttConnected = true := by
  cases event with
  | staDisconnected =>
      exact absurd rfl hevent
  | _ =>
      exact hn

theorem mqttEventHandler_connected {n : NetworkManager} (hn : n.mqttConnected = true)
    {event : MqttEvent} (hevent : event ≠ .disconnected) :
    (mqttEventHandler event n).1.mqttConnected = true := by
  cases event with
  | disconnected =>
      exact absurd rfl hevent
  | connected =>
      rfl
  | _ =>
      exact hn

theorem appLogSink_net (msgId : Int) (refusal : Option CString) (s : RemoteLog) :
    (appLogSink msgId refusal s).net = s.net := by
  unfold appLogSink
  split
  · rfl
  cases s.pc with
  | asking item =>
      dsimp only
      split <;> rfl
  | checking item =>
      dsimp only
      split <;> rfl
  | _ =>
      rfl

theorem forwardRemote_net (s : RemoteLog) : (forwardRemote s).net = s.net := by
  unfold forwardRemote
  cases s.log.forwarder with
  | inSink =>
      dsimp only
      split <;> rfl
  | _ =>
      rfl

theorem remoteLogStep_up {s : RemoteLog} (hs : s.net.Up) (move : RemoteLogMove) :
    (remoteLogStep s move).net.Up := by
  cases move with
  | forward =>
      rw [remoteLogStep, forwardRemote_net]
      exact hs
  | sink msgId refusal =>
      rw [remoteLogStep, appLogSink_net]
      exact hs
  | wifi event =>
      exact hs.wifi event
  | mqtt event =>
      exact hs.mqtt event
  | _ =>
      exact hs

/-- Since `start` the broker has been connected, and no line was lost in the sink. -/
structure UpSince (start s : RemoteLog) : Prop where
  up : s.net.Up
  connected : s.net.mqttConnected = true
  accounted : ∃ handed, s.log.delivered = start.log.delivered ++ handed ∧
    s.lines ++ s.pc.inHand = start.lines ++ start.pc.inHand ++ handed.map Prod.snd

namespace UpSince

variable {start s : RemoteLog}

theorem refl (hup : s.net.Up) (hconnected : s.net.mqttConnected = true) : UpSince s s :=
  ⟨hup, hconnected, [], (List.append_nil _).symm, (List.append_nil _).symm⟩

/-- A step that leaves what was delivered, what was published and what is in the sink's hand. -/
theorem of_same {s' : RemoteLog} (hs : UpSince start s) (hnet : s'.net = s.net)
    (hdelivered : s'.log.delivered = s.log.delivered)
    (hlines : s'.lines ++ s'.pc.inHand = s.lines ++ s.pc.inHand) : UpSince start s' := by
  rcases hs.accounted with ⟨handed, hgrown, haccount⟩
  refine ⟨hnet ▸ hs.up, hnet ▸ hs.connected, handed, ?_, ?_⟩
  · rw [hdelivered, hgrown]
  · rw [hlines, haccount]

theorem sink (hs : UpSince start s) (msgId : Int) (refusal : Option CString) :
    UpSince start (appLogSink msgId refusal s) := by
  unfold appLogSink
  split
  · exact hs
  cases hpc : s.pc with
  | idle =>
      exact hs
  | asking item =>
      have hasks : networkManagerIsConnected s.net = true := by
        rw [networkManagerIsConnected, if_pos hs.up.mutex, hs.connected]
      simp only [hasks, if_true]
      exact hs.of_same rfl rfl (by simp [hpc, LogSinkPc.inHand])
  | checking item =>
      have hchecks : ¬(s.net.mqttClient = false ∨ s.net.mqttConnected = false) := by
        simp [hs.up.client, hs.connected]
      dsimp only
      rw [if_neg hchecks]
      exact hs.of_same rfl rfl (by simp [hpc, LogSinkPc.inHand])
  | publishing item =>
      have hnone : LogSinkPc.inHand (if msgId < 0 then .refused else .idle) = [] := by
        split <;> rfl
      refine hs.of_same rfl rfl ?_
      rw [hpc]
      simp only [hnone, List.append_nil]
      rfl
  | refused =>
      exact hs.of_same rfl (LogState.beginCall_delivered _ _).1 (by simp [hpc, LogSinkPc.inHand])

theorem forward (hs : UpSince start s) (hcalled : s.pc ≠ .idle → s.log.forwarder = .inSink) :
    UpSince start (forwardRemote s) := by
  unfold forwardRemote
  cases hforwarder : s.log.forwarder with
  | flagged sink item =>
      have hidle : s.pc = .idle := by
        by_contra hpc
        simp [hforwarder] at hcalled
        exact hpc hcalled
      rcases hs.accounted with ⟨handed, hgrown, haccount⟩
      rw [hidle] at haccount
      refine ⟨hs.up, hs.connected, handed ++ [(sink, item)], ?_, ?_⟩
      · simp only [LogState.forward, hforwarder, hgrown, List.append_assoc]
      · rw [List.map_append, ← List.append_assoc, ← haccount]
        simp [LogSinkPc.inHand]
  | inSink =>
      dsimp only
      split
      · exact hs.of_same rfl (LogState.forward_delivered (by simp [hforwarder])) rfl
      · exact hs
  | _ =>
      exact hs.of_same rfl (LogState.forward_delivered (by simp [hforwarder])) rfl

theorem step (hs : UpSince start s) (hcalled : s.pc ≠ .idle → s.log.forwarder = .inSink)
    {move : RemoteLogMove} (hmove : ¬move.Drops) : UpSince start (remoteLogStep s move) := by
  cases move with
  | call call =>
      exact hs.of_same rfl (LogState.beginCall_delivered call _).1 rfl
  | check caller =>
      exact hs.of_same rfl (LogState.checkCall_delivered caller _).1 rfl
  | enqueue caller =>
      exact hs.of_same rfl (LogState.queueCall_delivered caller _).1 rfl
  | forward =>
      exact hs.forward hcalled
  | sink msgId refusal =>
      exact hs.sink msgId refusal
  | register =>
      exact hs.of_same rfl (LogState.registerSink_delivered _ _).1 rfl
  | wifi event =>
      have hevent : event ≠ .staDisconnected := fun h => hmove (h ▸ trivial)
      exact ⟨hs.up.wifi event, wifiEventHandler_connected hs.connected hevent, hs.accounted⟩
  | mqtt event =>
      have hevent : event ≠ .disconnected := fun h => hmove (h ▸ trivial)
      exact ⟨hs.up.mqtt event, mqttEventHandler_connected hs.connected hevent, hs.accounted⟩

end UpSince

/-- For every interleaving, from any moment at which the broker is connected to the next event that says
it is not: every line that the forwarder hands to the sink is published, once and in order, but for the
one that the sink is still at. -/
theorem remote_log_while_connected {net : NetworkManager} (hnet : net.Up) (topicLog : CString)
    (as bs : List RemoteLogMove) (hbs : ∀ b ∈ bs, ¬b.Drops)
    (hconnected : (run remoteLogStep (.initial net topicLog) as).net.mqttConnected = true) :
    let t := run remoteLogStep (.initial net topicLog) as
    let s := run remoteLogStep (.initial net topicLog) (as ++ bs)
    ∃ handed, s.log.delivered = t.log.delivered ++ handed ∧
      s.lines ++ s.pc.inHand = t.lines ++ t.pc.inHand ++ handed.map Prod.snd := by
  intro t s
  have hkeepsUp : ∀ (u : RemoteLog) move, u.net.Up → (remoteLogStep u move).net.Up :=
    fun _ move hu => remoteLogStep_up hu move
  have hup : t.net.Up := inv_run hkeepsUp hnet as
  have hstep : ∀ (u : RemoteLog) move, RemoteLogInv topicLog u ∧ UpSince t u → ¬move.Drops →
      RemoteLogInv topicLog (remoteLogStep u move) ∧ UpSince t (remoteLogStep u move) :=
    fun _ move hu hmove => ⟨hu.1.step move, hu.2.step hu.1.called hmove⟩
  have hs : RemoteLogInv topicLog s ∧ UpSince t s := by
    rw [show s = run remoteLogStep t bs from run_append _ as bs]
    exact inv_run_of_labels hstep
      ⟨remoteLogInv_run net topicLog as, UpSince.refl hup hconnected⟩ hbs
  exact hs.2.accounted

/-- A line reaches the client, which refuses it; what the sink logs about that reaches the serial port
only. -/
theorem remote_log_while_connected_refused :
    let line : LogCall := ⟨.task 1, some (ascii "up\n")⟩
    let as : List RemoteLogMove := [.register, .mqtt .connected, .call line, .check (.task 1),
      .enqueue (.task 1)]
    let bs : List RemoteLogMove := [.forward, .forward, .forward, .forward, .sink 0 none, .sink 0 none,
      .sink (-1) none, .sink 0 (some (ascii "Failed")), .check .sink, .forward, .forward]
    let s := run remoteLogStep (.initial (.initialized (ascii "command")) (ascii "log")) (as ++ bs)
    s.lines ++ s.pc.inHand = s.log.delivered.map Prod.snd ∧
      s.sent = [(⟨ascii "log", ascii "up\n", 1, false⟩, -1)] ∧ s.log.queue.items = [] ∧
      s.log.serial = [line, ⟨.sink, some (ascii "Failed")⟩] := by
  intro line as bs s
  have hnet : (NetworkManager.initialized (ascii "command")).Up := ⟨rfl, rfl⟩
  have hbs : ∀ b ∈ bs, ¬b.Drops := by
    simp [bs, RemoteLogMove.Drops]
  rcases remote_log_while_connected hnet (ascii "log") as bs hbs rfl with
    ⟨handed, hdelivered, hlines⟩
  refine ⟨?_, by decide, by decide, by decide⟩
  rw [hlines, hdelivered]
  rfl

end MainboardFirmware
