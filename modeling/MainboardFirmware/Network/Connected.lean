import MainboardFirmware.Library.Machine
import MainboardFirmware.Network.Manager

/-!
# Connected — what `network_manager_is_connected` says

Two event sources write one flag: MQTT events set and clear it, and a WiFi drop clears it as well.
Nothing sets it again when WiFi comes back inside one MQTT session, and an MQTT event that is handled
after the drop sets it while WiFi is down. Over every interleaving of the two sources the query is
right throughout exactly if neither happens.
-/

namespace MainboardFirmware

open Machine

/-! ## What the events say -/

/-- An event of either source. -/
inductive NetworkEvent
  | wifi (event : WifiEvent)
  | mqtt (event : MqttEvent)

/-- The state of the link and of the session according to the events handled so far. -/
structure LinkState where
  /-- the last WiFi or IP event to say so left the station with an IP -/
  ip : Bool
  /-- the last MQTT event to say so was `MQTT_EVENT_CONNECTED` -/
  session : Bool
  deriving DecidableEq, Repr

def LinkState.observe (link : LinkState) : NetworkEvent → LinkState
  | .wifi .gotIp => { link with ip := true }
  | .wifi .staDisconnected => { link with ip := false }
  | .mqtt .connected => { link with session := true }
  | .mqtt .disconnected => { link with session := false }
  | _ => link

/-- The module together with what the events said. -/
structure ObservedNetwork where
  manager : NetworkManager
  link : LinkState

/-- After `network_manager_init`, before the first event. -/
def ObservedNetwork.initial (topicCommand : CString) : ObservedNetwork :=
  ⟨NetworkManager.initialized topicCommand, ⟨false, false⟩⟩

def networkStep (s : ObservedNetwork) (event : NetworkEvent) : ObservedNetwork :=
  match event with
  | .wifi e => ⟨(wifiEventHandler e s.manager).1, s.link.observe event⟩
  | .mqtt e => ⟨(mqttEventHandler e s.manager).1, s.link.observe event⟩

/-- The query answers what the events say. -/
def ReportsLink (s : ObservedNetwork) : Prop :=
  networkManagerIsConnected s.manager = (s.link.ip && s.link.session)

/-- No IP is acquired while a session is up from before the station lost the last one, and no session
comes up while the station has no IP. -/
def SessionsEndWithLink (s : ObservedNetwork) : NetworkEvent → Prop
  | .wifi .gotIp => s.link.session = true → s.link.ip = true
  | .mqtt .connected => s.link.ip = true
  | _ => True

/-! ## One event -/

/-- While the mutex exists the query is the flag. -/
theorem reportsLink_iff {s : ObservedNetwork} (hmutex : s.manager.statusMutex = true) :
    ReportsLink s ↔ s.manager.mqttConnected = (s.link.ip && s.link.session) := by
  simp [ReportsLink, networkManagerIsConnected, hmutex]

theorem networkStep_statusMutex (s : ObservedNetwork) (event : NetworkEvent) :
    (networkStep s event).manager.statusMutex = s.manager.statusMutex := by
  cases event with
  | wifi e =>
      cases e <;> rfl
  | mqtt e =>
      cases e <;> rfl

/-- From a state in which the query is right, an event leads to one in which it is right exactly if
it meets the condition. -/
theorem networkStep_reportsLink_iff {s : ObservedNetwork} (hmutex : s.manager.statusMutex = true)
    (hs : ReportsLink s) (event : NetworkEvent) :
    ReportsLink (networkStep s event) ↔ SessionsEndWithLink s event := by
  have hflag := (reportsLink_iff hmutex).1 hs
  rw [reportsLink_iff ((networkStep_statusMutex s event).trans hmutex)]
  cases event with
  | wifi e =>
      cases e with
      | gotIp =>
          -- the flag stays, so it is right only if it was up already or need not be
          simp only [networkStep, wifiEventHandler, LinkState.observe, SessionsEndWithLink, hflag]
          cases s.link.ip <;> cases s.link.session <;> simp
      | staDisconnected =>
          simp [networkStep, wifiEventHandler, LinkState.observe, SessionsEndWithLink]
      | staStart =>
          simpa [networkStep, wifiEventHandler, LinkState.observe, SessionsEndWithLink] using hflag
      | other =>
          simpa [networkStep, wifiEventHandler, LinkState.observe, SessionsEndWithLink] using hflag
  | mqtt e =>
      cases e with
      | connected =>
          -- the flag is set, which is right only with an IP
          simp only [networkStep, mqttEventHandler, LinkState.observe, SessionsEndWithLink,
            Bool.and_true]
          exact eq_comm
      | disconnected =>
          simp [networkStep, mqttEventHandler, LinkState.observe, SessionsEndWithLink]
      | data d =>
          simpa [networkStep, mqttEventHandler, LinkState.observe, SessionsEndWithLink] using hflag
      | other =>
          simpa [networkStep, mqttEventHandler, LinkState.observe, SessionsEndWithLink] using hflag

/-! ## All interleavings -/

/-- For every sequence in which the events of the two sources are handled: the query is right in
every state exactly if no IP is acquired inside a session that outlived the last one and no session
comes up while the station has no IP. -/
theorem is_connected_reports_link_iff (topicCommand : CString) (events : List NetworkEvent) :
    (∀ s ∈ states networkStep (ObservedNetwork.initial topicCommand) events, ReportsLink s) ↔
      ∀ m ∈ moves networkStep (ObservedNetwork.initial topicCommand) events,
        SessionsEndWithLink m.1 m.2 := by
  -- the invariant is the property itself, with the mutex that init created
  have hgood : ∀ s event, s.manager.statusMutex = true ∧ ReportsLink s →
      (ReportsLink (networkStep s event) ↔ SessionsEndWithLink s event) := fun s event h =>
    networkStep_reportsLink_iff h.1 h.2 event
  have hstep : ∀ s event, s.manager.statusMutex = true ∧ ReportsLink s →
      SessionsEndWithLink s event → (networkStep s event).manager.statusMutex = true ∧
        ReportsLink (networkStep s event) := fun s event h hcond =>
    ⟨(networkStep_statusMutex s event).trans h.1, (hgood s event h).2 hcond⟩
  have hstart : ReportsLink (ObservedNetwork.initial topicCommand) := rfl
  exact forall_states_iff hgood hstep ⟨rfl, hstart⟩ hstart events

/-- A drop and return of WiFi inside one MQTT session leaves the query false for good, and a session
that comes up after the drop makes it true while WiFi is down. -/
theorem link_misreported :
    (let s := run networkStep (ObservedNetwork.initial (ascii "command"))
       [.wifi .gotIp, .mqtt .connected, .wifi .staDisconnected, .wifi .gotIp]
     networkManagerIsConnected s.manager = false ∧ s.link = ⟨true, true⟩) ∧
      (let s := run networkStep (ObservedNetwork.initial (ascii "command"))
         [.wifi .gotIp, .wifi .staDisconnected, .mqtt .connected]
       networkManagerIsConnected s.manager = true ∧ s.link = ⟨false, true⟩) := by
  decide

end MainboardFirmware
