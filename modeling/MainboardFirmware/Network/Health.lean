import MainboardFirmware.Library.Broker
import MainboardFirmware.Network.Provision
import MainboardFirmware.Network.RemoteLog
import MainboardFirmware.System.Cadence
import MainboardFirmware.System.Heartbeat

/-!
# Health — what a subscriber learns about a device

Heartbeats go from `task_supervisor` through `network_manager_publish_health` to the health topic,
unretained. On the same topic the broker publishes the will of the client, retained, when it loses the
session. The supervisor, the event handlers of the network and the broker run in any order, and what
the client has taken reaches the broker late, more than once or never.
-/

namespace MainboardFirmware

open Machine Json

/-! ## The tasks and the broker -/

/-- What a publication is to the broker. -/
def Publication.message (p : Publication) : BrokerMessage CString UInt8 :=
  ⟨p.topic, p.payload, p.retain⟩

/-- The will in the configuration of the MQTT client. -/
def NetworkSetup.will : NetworkSetup → Option (BrokerMessage CString UInt8)
  | .mqttClientInit cfg => some ⟨cfg.willTopic, cfg.willMsg, cfg.willRetain⟩
  | .wifiSetConfig _ => none

/-- `network_manager_publish_health` up to its call of the client: what that is asked to publish. What
the function returns is only logged. -/
def networkManagerPublishHealth (jsonPayload : CString) (length : Int) (n : NetworkModule) :
    Option Publication :=
  -- the flag is read without the mutex
  if n.manager.mqttClient = false ∨ n.manager.mqttConnected = false then none
  else some ⟨n.topicHealth, jsonPayload.take length.toNat, 1, false⟩

structure HealthSystem where
  sup : Supervisor
  net : NetworkModule
  /-- in the configuration of the client -/
  will : Option (BrokerMessage CString UInt8)
  task : SupervisorTask
  /-- what `task_supervisor` still does in its round -/
  acts : List SupervisorAct
  /-- what its callback is about to hand to the client -/
  publishing : Option Publication
  /-- the statistics of the rounds with a heartbeat -/
  beats : List HealthStats
  /-- what the client was asked to publish, with its answers -/
  sent : List (Publication × Int)
  broker : Broker CString UInt8

/-- Steps [8] and [9] of `app_main`, with the supervisor task behind them; nothing if one aborts. -/
def appMainHealth (sysCfg : SystemConfig) (env : NetworkAnswers) (init reconfigure : EspErr)
    (n : NetworkModule) (w : SupervisorWorld) : Option HealthSystem :=
  let (ret, net, setup) := transportMqttInit (some ⟨some sysCfg.brokerUri, some sysCfg.deviceId, true,
    some ⟨some sysCfg.wifiSsid, some sysCfg.wifiPass⟩⟩) env n
  if ret ≠ some espOk then
    none
  else
    let (ret, w) := systemSupervisorInit (some (mainSupervisorConfig sysCfg.deviceId)) init reconfigure w
    if ret ≠ espOk then
      none
    else
      some {
        sup := w.sup
        net := net
        will := (setup.filterMap NetworkSetup.will).head?
        task := taskSupervisorStart w.sup
        acts := []
        publishing := none
        beats := []
        sent := []
        broker := .empty }

/-- The next step of `task_supervisor`. A round that begins reads `stats`, and the client answers
`msgId` if it is asked. -/
def superviseHealth (stats : HealthStats) (msgId : Int) (s : HealthSystem) : HealthSystem :=
  match s.publishing with
  | some publication => { s with publishing := none, sent := s.sent ++ [(publication, msgId)] }
  | none =>
      match s.acts with
      | [] =>
          let (acts, task) := taskSupervisorRound s.sup stats s.task
          { s with
            acts := acts
            task := task
            beats := if acts.any SupervisorAct.isHeartbeat then s.beats ++ [stats] else s.beats }
      | .publish json len :: acts =>
          { s with acts := acts, publishing := networkManagerPublishHealth json len s.net }
      | _ :: acts => { s with acts := acts }

/-- What happens next, on the device or at the broker. -/
inductive HealthMove
  | supervisor (stats : HealthStats) (msgId : Int)
  | wifi (event : WifiEvent)
  | mqtt (event : MqttEvent)
  /-- the broker opens a session for the client -/
  | accept
  /-- the broker finds the connection gone -/
  | lose
  /-- what the client took for publication `i` reaches the broker, perhaps once more -/
  | arrive (i : Nat)

def healthStep (s : HealthSystem) : HealthMove → HealthSystem
  | .supervisor stats msgId => superviseHealth stats msgId s
  | .wifi event =>
      { s with net := { s.net with manager := (wifiEventHandler event s.net.manager).1 } }
  | .mqtt event =>
      { s with net := { s.net with manager := (mqttEventHandler event s.net.manager).1 } }
  | .accept => { s with broker := s.broker.connect s.will }
  | .lose => { s with broker := s.broker.lose }
  | .arrive i =>
      match s.sent[i]? with
      | some (publication, msgId) =>
          if msgId < 0 then s else { s with broker := s.broker.publish publication.message }
      | none => s

/-! ## After the boot -/

def healthTopic (deviceId : CString) : CString :=
  ascii "fortunelabs/device/" ++ deviceId ++ ascii "/health"

/-- The will of a device. -/
def offlineNotice (deviceId : CString) : BrokerMessage CString UInt8 :=
  ⟨healthTopic deviceId, ascii "\x7b\"status\":\"OFFLINE_UNEXPECTED\"\x7d", true⟩

/-- A heartbeat as the broker gets it. -/
def heartbeatMessage (deviceId payload : CString) : BrokerMessage CString UInt8 :=
  ⟨healthTopic deviceId, payload, false⟩

/-- What no step changes. -/
structure HealthSetup (deviceId : CString) (s : HealthSystem) : Prop where
  deviceId_eq : s.sup.deviceId = deviceId
  deviceId_fits : deviceId.length < systemSupDeviceIdMax
  publish : s.sup.publish ≠ none
  will_eq : s.will = some (offlineNotice deviceId)
  topic_eq : s.net.topicHealth = healthTopic deviceId
  up : s.net.manager.Up

/-- A boot that gets there leaves it so, with nothing sent and nothing kept at the broker. -/
theorem appMainHealth_ok {sysCfg : SystemConfig} (hfits : sysCfg.Fits) {env : NetworkAnswers}
    {init reconfigure : EspErr} {n : NetworkModule} {w : SupervisorWorld} {start : HealthSystem}
    (hboot : appMainHealth sysCfg env init reconfigure n w = some start) :
    HealthSetup sysCfg.deviceId start ∧ start.acts = [] ∧ start.publishing = none ∧
      start.beats = [] ∧ start.sent = [] ∧ start.broker = .empty := by
  unfold appMainHealth at hboot
  rcases htransport : transportMqttInit (some ⟨some sysCfg.brokerUri, some sysCfg.deviceId, true,
    some ⟨some sysCfg.wifiSsid, some sysCfg.wifiPass⟩⟩) env n with ⟨ret, net, setup⟩
  rw [htransport] at hboot
  dsimp only at hboot
  split at hboot
  · exact absurd hboot (by simp)
  next hret =>
    rw [not_not.1 hret] at htransport
    rcases transportMqttInit_ok hfits htransport with ⟨-, hclient, hmutex, htopic, hsetup⟩
    split at hboot
    · exact absurd hboot (by simp)
    next hinit =>
      have haccepted := not_not.1 hinit
      have hid := congrArg (fun w => w.sup.deviceId) (init_accepted haccepted)
      have hpublish := congrArg (fun w => w.sup.publish) (init_accepted haccepted)
      dsimp only at hid hpublish
      have hcopy : strlcpy sysCfg.deviceId systemSupDeviceIdMax = sysCfg.deviceId :=
        strlcpy_of_fits hfits.deviceId
      have hwhole := topicOf_whole hfits.deviceId (show ascii "/health" ∈ topicSuffixes by decide)
      rw [← Option.some.inj hboot]
      refine ⟨⟨hid.trans hcopy, hfits.deviceId, ?_, ?_, htopic.trans hwhole, hclient, hmutex⟩,
        rfl, rfl, rfl, rfl, rfl⟩
      · rw [hpublish]
        simp [mainSupervisorConfig]
      · rw [hsetup]
        rfl

/-! ## Heartbeats in hand -/

/-- The heartbeat that an act publishes. -/
def SupervisorAct.payload : SupervisorAct → Option CString
  | .publish json len => some (json.take len.toNat)
  | _ => none

/-- A round with a heartbeat has that to publish, a round without has nothing. -/
theorem round_payload {sup : Supervisor} (hid : sup.deviceId.length < systemSupDeviceIdMax)
    (hpublish : sup.publish ≠ none) (stats : HealthStats) (t : SupervisorTask) :
    (taskSupervisorRound sup stats t).1.filterMap SupervisorAct.payload =
      if (taskSupervisorRound sup stats t).1.any SupervisorAct.isHeartbeat then
        [heartbeatJson sup stats] else [] := by
  have hpos : 0 < (heartbeatJson sup stats).length := by
    rw [heartbeatJson_length]
    omega
  by_cases hdue : sup.heartbeatPeriodMs ≤ t.sincePublishMs + t.tickMs
  · rw [if_pos ((round_attempts_iff sup stats t).2 hdue)]
    simp [taskSupervisorRound, hdue, buildHeartbeat_fits hid, hpos, hpublish, List.filterMap_cons,
      SupervisorAct.payload]
  · rw [if_neg (mt (round_attempts_iff sup stats t).1 hdue)]
    simp [taskSupervisorRound, hdue, List.filterMap_cons, SupervisorAct.payload]

namespace HealthSystem

/-- What the client was handed, in order. -/
def payloads (s : HealthSystem) : List CString :=
  s.sent.map fun p => p.1.payload

/-- What the round under way still has to hand over. -/
def inHand (s : HealthSystem) : List CString :=
  (s.publishing.map Publication.payload).toList ++ s.acts.filterMap SupervisorAct.payload

/-- The heartbeats of all rounds so far. -/
def built (s : HealthSystem) : List CString :=
  s.beats.map (heartbeatJson s.sup)

end HealthSystem

/-- What an act hands over, if the broker is connected. -/
def SupervisorAct.publication (n : NetworkModule) : SupervisorAct → Option Publication
  | .publish json len => networkManagerPublishHealth json len n
  | _ => none

theorem SupervisorAct.publication_payload {n : NetworkModule}
    (hclient : n.manager.mqttClient = true) (act : SupervisorAct) :
    (act.publication n).map Publication.payload = act.payload ∨
      (n.manager.mqttConnected = false ∧ act.publication n = none) := by
  cases act with
  | publish json len =>
      by_cases hconnected : n.manager.mqttConnected = false
      · exact Or.inr ⟨hconnected, if_pos (Or.inr hconnected)⟩
      · have hup : ¬(n.manager.mqttClient = false ∨ n.manager.mqttConnected = false) := by
          simp [hclient, hconnected]
        exact Or.inl (by rw [publication, networkManagerPublishHealth, if_neg hup]; rfl)
  | _ =>
      exact Or.inl rfl

/-- A step of the task asks the client, begins a round or does the next act of its round. -/
theorem superviseHealth_cases (stats : HealthStats) (msgId : Int) (s : HealthSystem) :
    (∃ publication, s.publishing = some publication ∧ superviseHealth stats msgId s =
        { s with publishing := none, sent := s.sent ++ [(publication, msgId)] }) ∨
      (s.publishing = none ∧ s.acts = [] ∧ ∃ acts task,
        taskSupervisorRound s.sup stats s.task = (acts, task) ∧ superviseHealth stats msgId s =
          { s with
            acts := acts
            task := task
            beats := if acts.any SupervisorAct.isHeartbeat then s.beats ++ [stats] else s.beats }) ∨
      (s.publishing = none ∧ ∃ act acts, s.acts = act :: acts ∧ superviseHealth stats msgId s =
        { s with acts := acts, publishing := act.publication s.net }) := by
  unfold superviseHealth
  cases hpublishing : s.publishing with
  | some publication =>
      exact .inl ⟨publication, rfl, rfl⟩
  | none =>
      refine .inr ?_
      cases hacts : s.acts with
      | nil =>
          exact .inl ⟨rfl, rfl, _, _, rfl, rfl⟩
      | cons act acts =>
          refine .inr ⟨rfl, act, acts, rfl, ?_⟩
          cases act with
          | publish json len =>
              rfl
          | _ =>
              simp only [SupervisorAct.publication, ← hpublishing]

theorem superviseHealth_frame (stats : HealthStats) (msgId : Int) (s : HealthSystem) :
    (superviseHealth stats msgId s).sup = s.sup ∧ (superviseHealth stats msgId s).net = s.net ∧
      (superviseHealth stats msgId s).will = s.will ∧
      (superviseHealth stats msgId s).broker = s.broker := by
  rcases superviseHealth_cases stats msgId s with
    ⟨publication, -, h⟩ | ⟨-, -, acts, task, -, h⟩ | ⟨-, act, acts, -, h⟩
  all_goals
    rw [h]
    exact ⟨rfl, rfl, rfl, rfl⟩

/-- What a step of the task does with heartbeats: it builds one or none, and loses none unless the
broker is not connected. -/
structure HealthMoved (s s' : HealthSystem) : Prop where
  accounted : (∃ new, s'.built = s.built ++ new ∧
      s'.payloads ++ s'.inHand = s.payloads ++ s.inHand ++ new) ∨
    (s.net.manager.mqttConnected = false ∧ s'.built = s.built ∧
      (s'.payloads ++ s'.inHand).Sublist (s.payloads ++ s.inHand))
  inHand_le : s'.inHand.length ≤ max 1 s.inHand.length

/-- It neither builds nor loses one. -/
theorem HealthMoved.of_same {s s' : HealthSystem} (hbuilt : s'.built = s.built)
    (hhand : s'.payloads ++ s'.inHand = s.payloads ++ s.inHand)
    (hle : s'.inHand.length ≤ s.inHand.length) : HealthMoved s s' :=
  ⟨.inl ⟨[], by rw [hbuilt, List.append_nil], by rw [hhand, List.append_nil]⟩,
    hle.trans (Nat.le_max_right 1 _)⟩

theorem superviseHealth_moved {deviceId : CString} {s : HealthSystem} (hs : HealthSetup deviceId s)
    (stats : HealthStats) (msgId : Int) : HealthMoved s (superviseHealth stats msgId s) := by
  rcases superviseHealth_cases stats msgId s with
    ⟨publication, hpublishing, h⟩ | ⟨hpublishing, hacts, acts, task, hround, h⟩ |
      ⟨hpublishing, act, acts, hacts, h⟩
  · rw [h]
    apply HealthMoved.of_same
    · rfl
    · simp [HealthSystem.payloads, HealthSystem.inHand, hpublishing]
    · simp [HealthSystem.inHand, hpublishing]
  · rw [h]
    have hempty : s.inHand = [] := by
      simp [HealthSystem.inHand, hpublishing, hacts]
    have hnew := round_payload (hs.deviceId_eq ▸ hs.deviceId_fits) hs.publish stats s.task
    rw [hround] at hnew
    dsimp only at hnew
    -- what the round has to publish is what it has built
    refine ⟨.inl ⟨acts.filterMap SupervisorAct.payload, ?_, ?_⟩, ?_⟩
    · rw [hnew]
      by_cases hbeat : acts.any SupervisorAct.isHeartbeat = true
      · simp only [HealthSystem.built, if_pos hbeat, List.map_append, List.map_singleton]
      · simp only [HealthSystem.built, if_neg hbeat, List.append_nil]
    · rw [hempty, List.append_nil]
      simp [HealthSystem.payloads, HealthSystem.inHand, hpublishing]
    · simp only [HealthSystem.inHand, hnew, hpublishing]
      split <;> simp
  · rw [h]
    have hhand : s.inHand = act.payload.toList ++ acts.filterMap SupervisorAct.payload := by
      simp only [HealthSystem.inHand, hpublishing, hacts, List.filterMap_cons]
      cases act.payload <;> rfl
    rcases act.publication_payload hs.up.client with hkept | ⟨hdown, hlost⟩
    · apply HealthMoved.of_same
      · rfl
      · simp [HealthSystem.payloads, HealthSystem.inHand, hkept, ← hhand]
      · simp [HealthSystem.inHand, hkept, ← hhand]
    · refine ⟨.inr ⟨hdown, rfl, ?_⟩, ?_⟩
      · rw [hhand]
        simp [HealthSystem.payloads, HealthSystem.inHand, hlost]
      · rw [hhand]
        simp [HealthSystem.inHand, hlost]

/-! ## What holds in every state -/

/-- Every publication, also the one under way, is a heartbeat on the health topic. -/
def HealthSystem.Heartbeats (deviceId : CString) (s : HealthSystem) : Prop :=
  ∀ p ∈ s.sent.map Prod.fst ++ s.publishing.toList, p.message = heartbeatMessage deviceId p.payload

structure HealthInv (deviceId : CString) (s : HealthSystem) : Prop where
  setup : HealthSetup deviceId s
  path : (s.payloads ++ s.inHand).Sublist s.built
  inHand_le : s.inHand.length ≤ 1
  heartbeats : s.Heartbeats deviceId
  will_eq : ∀ will, s.broker.will = some will → will = offlineNotice deviceId
  kept : s.broker.Kept
  forwarded : ∀ m ∈ s.broker.forwarded, m = offlineNotice deviceId ∨
    ∃ payload ∈ s.payloads, m = heartbeatMessage deviceId payload

theorem superviseHealth_heartbeats {deviceId : CString} {s : HealthSystem}
    (hs : HealthSetup deviceId s) (hbeats : s.Heartbeats deviceId) (stats : HealthStats)
    (msgId : Int) : (superviseHealth stats msgId s).Heartbeats deviceId := by
  rcases superviseHealth_cases stats msgId s with
    ⟨publication, hpublishing, h⟩ | ⟨hpublishing, -, acts, task, -, h⟩ |
      ⟨hpublishing, act, acts, -, h⟩
  · rw [h]
    intro p hp
    apply hbeats p
    simpa [hpublishing] using hp
  · rw [h]
    exact hbeats
  · rw [h]
    intro p hp
    rcases List.mem_append.1 hp with hsent | hnew
    · exact hbeats p (List.mem_append_left _ hsent)
    · cases act with
      | publish json len =>
          simp only [SupervisorAct.publication, networkManagerPublishHealth] at hnew
          split at hnew
          · simp at hnew
          · simp only [Option.toList_some, List.mem_singleton] at hnew
            rw [hnew, Publication.message, heartbeatMessage, hs.topic_eq]
      | _ =>
          simp [SupervisorAct.publication] at hnew

theorem superviseHealth_payloads (stats : HealthStats) (msgId : Int) (s : HealthSystem) :
    s.payloads <+: (superviseHealth stats msgId s).payloads := by
  rcases superviseHealth_cases stats msgId s with
    ⟨publication, -, h⟩ | ⟨-, -, acts, task, -, h⟩ | ⟨-, act, acts, -, h⟩
  · rw [h]
    simp [HealthSystem.payloads]
  · rw [h]
    exact List.prefix_rfl
  · rw [h]
    exact List.prefix_rfl

namespace HealthInv

variable {deviceId : CString} {s : HealthSystem}

theorem initial (hs : HealthSetup deviceId s) (hacts : s.acts = []) (hpublishing : s.publishing = none)
    (hsent : s.sent = []) (hbroker : s.broker = .empty) : HealthInv deviceId s where
  setup := hs
  path := by
    simp [HealthSystem.payloads, HealthSystem.inHand, hsent, hpublishing, hacts]
  inHand_le := by
    simp [HealthSystem.inHand, hpublishing, hacts]
  heartbeats := by
    simp [HealthSystem.Heartbeats, hsent, hpublishing]
  will_eq := by
    simp [hbroker, Broker.empty]
  kept := hbroker ▸ Broker.Kept.empty
  forwarded := by
    simp [hbroker, Broker.empty]

theorem supervisor (hs : HealthInv deviceId s) (stats : HealthStats) (msgId : Int) :
    HealthInv deviceId (superviseHealth stats msgId s) := by
  rcases superviseHealth_frame stats msgId s with ⟨hsup, hnet, hwill, hbroker⟩
  have hmoved := superviseHealth_moved hs.setup stats msgId
  refine ⟨⟨?_, hs.setup.deviceId_fits, ?_, ?_, ?_, ?_⟩, ?_, ?_, ?_, ?_, ?_, ?_⟩
  · exact hsup ▸ hs.setup.deviceId_eq
  · exact hsup ▸ hs.setup.publish
  · exact hwill ▸ hs.setup.will_eq
  · exact hnet ▸ hs.setup.topic_eq
  · exact hnet ▸ hs.setup.up
  · rcases hmoved.accounted with ⟨new, hbuilt, hhand⟩ | ⟨-, hbuilt, hhand⟩
    · rw [hbuilt, hhand]
      exact hs.path.append (List.Sublist.refl new)
    · rw [hbuilt]
      exact hhand.trans hs.path
  · exact hmoved.inHand_le.trans (Nat.max_le.2 ⟨Nat.le_refl 1, hs.inHand_le⟩)
  · exact superviseHealth_heartbeats hs.setup hs.heartbeats stats msgId
  · rw [hbroker]
    exact hs.will_eq
  · rw [hbroker]
    exact hs.kept
  · rw [hbroker]
    intro m hm
    have hgrown := (superviseHealth_payloads stats msgId s).subset
    exact (hs.forwarded m hm).imp_right fun ⟨payload, hmem, heq⟩ => ⟨payload, hgrown hmem, heq⟩

/-- An event changes the flags of the module only. -/
theorem event (hs : HealthInv deviceId s) {manager : NetworkManager} (hup : manager.Up) :
    HealthInv deviceId { s with net := { s.net with manager := manager } } :=
  ⟨⟨hs.setup.deviceId_eq, hs.setup.deviceId_fits, hs.setup.publish, hs.setup.will_eq,
    hs.setup.topic_eq, hup⟩, hs.path, hs.inHand_le, hs.heartbeats, hs.will_eq, hs.kept, hs.forwarded⟩

/-- The broker does something on its own. -/
theorem broker (hs : HealthInv deviceId s) {broker : Broker CString UInt8} (hkept : broker.Kept)
    (hwill : ∀ will, broker.will = some will → will = offlineNotice deviceId)
    {new : List (BrokerMessage CString UInt8)}
    (hgrown : broker.forwarded = s.broker.forwarded ++ new)
    (hnew : ∀ m ∈ new, m = offlineNotice deviceId ∨
      ∃ payload ∈ s.payloads, m = heartbeatMessage deviceId payload) :
    HealthInv deviceId { s with broker := broker } where
  setup := ⟨hs.setup.deviceId_eq, hs.setup.deviceId_fits, hs.setup.publish, hs.setup.will_eq,
    hs.setup.topic_eq, hs.setup.up⟩
  path := hs.path
  inHand_le := hs.inHand_le
  heartbeats := hs.heartbeats
  will_eq := hwill
  kept := hkept
  forwarded := by
    intro m hm
    rw [hgrown] at hm
    exact (List.mem_append.1 hm).elim (hs.forwarded m) (hnew m)

theorem step (hs : HealthInv deviceId s) (move : HealthMove) :
    HealthInv deviceId (healthStep s move) := by
  -- a will that is published is the notice
  have hwill : ∀ m ∈ s.broker.will.toList, m = offlineNotice deviceId ∨
      ∃ payload ∈ s.payloads, m = heartbeatMessage deviceId payload := fun m hm =>
    Or.inl (hs.will_eq m (Option.mem_toList.1 hm))
  cases move with
  | supervisor stats msgId =>
      exact hs.supervisor stats msgId
  | wifi event =>
      exact hs.event (hs.setup.up.wifi event)
  | mqtt event =>
      exact hs.event (hs.setup.up.mqtt event)
  | accept =>
      refine hs.broker (hs.kept.connect s.will) ?_ (Broker.forwarded_connect _ _) hwill
      intro will hsome
      rw [Broker.connect, hs.setup.will_eq] at hsome
      exact (Option.some.inj hsome).symm
  | lose =>
      refine hs.broker hs.kept.lose ?_ (Broker.forwarded_lose _) hwill
      intro will hsome
      rw [Broker.will_lose] at hsome
      exact absurd hsome (by simp)
  | arrive i =>
      simp only [healthStep]
      split
      next publication msgId hsent =>
        split
        · exact hs
        · have hmem : publication ∈ s.sent.map Prod.fst :=
            List.mem_map.2 ⟨_, List.mem_of_getElem? hsent, rfl⟩
          have hbeat := hs.heartbeats publication (List.mem_append_left _ hmem)
          refine hs.broker (hs.kept.publish publication.message) hs.will_eq rfl ?_
          intro m hm
          rw [List.mem_singleton.1 hm, hbeat]
          exact Or.inr ⟨publication.payload,
            List.mem_map.2 ⟨_, List.mem_of_getElem? hsent, rfl⟩, rfl⟩
      next =>
        exact hs

end HealthInv

theorem healthInv_run {sysCfg : SystemConfig} (hfits : sysCfg.Fits) {env : NetworkAnswers}
    {init reconfigure : EspErr} {n : NetworkModule} {w : SupervisorWorld} {start : HealthSystem}
    (hboot : appMainHealth sysCfg env init reconfigure n w = some start) (as : List HealthMove) :
    HealthInv sysCfg.deviceId (run healthStep start as) := by
  rcases appMainHealth_ok hfits hboot with ⟨hsetup, hacts, hpublishing, -, hsent, hbroker⟩
  exact inv_run (fun _ move hs => hs.step move)
    (HealthInv.initial hsetup hacts hpublishing hsent hbroker) as

/-! ## What a subscriber gets -/

section Boot

variable {sysCfg : SystemConfig} {env : NetworkAnswers} {init reconfigure : EspErr}
  {n : NetworkModule} {w : SupervisorWorld} {start : HealthSystem}

/-- For every interleaving with a broker that starts empty, and whatever of it arrives late or twice: the
client is handed heartbeats in the order of their rounds, a reader of each gets the device and the numbers
of its round, and the broker forwards nothing else on the topic but the notice. -/
theorem health_topic_of_every_run (hfits : sysCfg.Fits) (hplain : PlainText sysCfg.deviceId)
    (hboot : appMainHealth sysCfg env init reconfigure n w = some start) (as : List HealthMove) :
    let s := run healthStep start as
    s.payloads.Sublist s.built ∧
      (∀ payload ∈ s.payloads, ∃ stats ∈ s.beats, HeartbeatReads sysCfg.deviceId stats payload) ∧
      ∀ m ∈ s.broker.forwarded, m = offlineNotice sysCfg.deviceId ∨
        ∃ payload ∈ s.payloads, m = heartbeatMessage sysCfg.deviceId payload := by
  intro s
  have hs : HealthInv sysCfg.deviceId s := healthInv_run hfits hboot as
  have hpath : s.payloads.Sublist s.built := (List.sublist_append_left _ _).trans hs.path
  refine ⟨hpath, fun payload hpayload => ?_, hs.forwarded⟩
  rcases List.mem_map.1 (hpath.subset hpayload) with ⟨stats, hstats, rfl⟩
  rcases hplain with ⟨name, hname, hverbatim⟩
  refine ⟨stats, hstats, name, hname, ?_⟩
  rw [heartbeatJson_eq_utf8 (hs.setup.deviceId_eq.trans hname), parseUtf8_utf8,
    parse_heartbeatText hverbatim]

/-- The events that say that the connection is lost. -/
def HealthMove.Drops : HealthMove → Prop
  | .wifi .staDisconnected => True
  | .mqtt .disconnected => True
  | _ => False

/-- Since `start` the broker has been connected, and no heartbeat was lost. -/
structure BeatsSince (start s : HealthSystem) : Prop where
  connected : s.net.manager.mqttConnected = true
  accounted : ∃ new, s.built = start.built ++ new ∧
    s.payloads ++ s.inHand = start.payloads ++ start.inHand ++ new

theorem BeatsSince.step {deviceId : CString} {start s : HealthSystem} (hs : BeatsSince start s)
    (hsetup : HealthSetup deviceId s) {move : HealthMove} (hmove : ¬move.Drops) :
    BeatsSince start (healthStep s move) := by
  cases move with
  | supervisor stats msgId =>
      have hconnected : (superviseHealth stats msgId s).net.manager.mqttConnected = true := by
        rw [(superviseHealth_frame stats msgId s).2.1]
        exact hs.connected
      rcases hs.accounted with ⟨new, hbuilt, hhand⟩
      rcases (superviseHealth_moved hsetup stats msgId).accounted with
        ⟨new', hbuilt', hhand'⟩ | ⟨hdown, -, -⟩
      · refine ⟨hconnected, new ++ new', ?_, ?_⟩
        · rw [healthStep, hbuilt', hbuilt, List.append_assoc]
        · rw [healthStep, hhand', hhand, List.append_assoc _ new]
      · rw [hs.connected] at hdown
        cases hdown
  | wifi event =>
      have hevent : event ≠ .staDisconnected := fun h => hmove (h ▸ trivial)
      exact ⟨wifiEventHandler_connected hs.connected hevent, hs.accounted⟩
  | mqtt event =>
      have hevent : event ≠ .disconnected := fun h => hmove (h ▸ trivial)
      exact ⟨mqttEventHandler_connected hs.connected hevent, hs.accounted⟩
  | accept =>
      exact ⟨hs.connected, hs.accounted⟩
  | lose =>
      exact ⟨hs.connected, hs.accounted⟩
  | arrive i =>
      simp only [healthStep]
      split
      · split
        · exact hs
        · exact ⟨hs.connected, hs.accounted⟩
      · exact hs

/-- For every interleaving, from any moment at which the broker is connected to the next event that says
it is not: every heartbeat is handed to the client, once and in order, but for the one of the round under
way. -/
theorem heartbeats_while_connected (hfits : sysCfg.Fits)
    (hboot : appMainHealth sysCfg env init reconfigure n w = some start) (as bs : List HealthMove)
    (hbs : ∀ b ∈ bs, ¬b.Drops)
    (hconnected : (run healthStep start as).net.manager.mqttConnected = true) :
    let t := run healthStep start as
    let s := run healthStep start (as ++ bs)
    s.inHand.length ≤ 1 ∧ ∃ new, s.built = t.built ++ new ∧
      s.payloads ++ s.inHand = t.payloads ++ t.inHand ++ new := by
  intro t s
  have hstep : ∀ (u : HealthSystem) move, HealthInv sysCfg.deviceId u ∧ BeatsSince t u →
      ¬move.Drops → HealthInv sysCfg.deviceId (healthStep u move) ∧ BeatsSince t (healthStep u move) :=
    fun _ move hu hmove => ⟨hu.1.step move, hu.2.step hu.1.setup hmove⟩
  have hs : HealthInv sysCfg.deviceId s ∧ BeatsSince t s := by
    rw [show s = run healthStep t bs from run_append _ as bs]
    refine inv_run_of_labels hstep ⟨healthInv_run hfits hboot as, hconnected, [], ?_, ?_⟩ hbs
    · exact (List.append_nil _).symm
    · exact (List.append_nil _).symm
  exact ⟨hs.1.inHand_le, hs.2.accounted⟩

end Boot

/-! ## A board -/

/-- The board behind a boot on which everything answers well. -/
def bootedHealth : HealthSystem :=
  (appMainHealth ⟨[], [], [], ascii "mainboard-07"⟩ networkUpAnswers espErrInvalidState espOk .static
    ⟨Supervisor.static, none⟩).get (by decide)

theorem bootedHealth_eq :
    appMainHealth ⟨[], [], [], ascii "mainboard-07"⟩ networkUpAnswers espErrInvalidState espOk .static
      ⟨Supervisor.static, none⟩ = some bootedHealth :=
  (Option.some_get _).symm

theorem bootedHealth_fits : (⟨[], [], [], ascii "mainboard-07"⟩ : SystemConfig).Fits :=
  ⟨by decide, by decide, by decide, by decide⟩

/-- One round, with the board connected before it publishes. -/
theorem health_topic_of_every_run_once :
    let beat := HealthMove.supervisor someStats 0
    let s := run healthStep bootedHealth [.accept, beat, beat, .mqtt .connected, beat, beat, beat,
      .arrive 0, .arrive 0]
    s.payloads.length = 1 ∧ s.broker.forwarded.length = 2 ∧ ∀ payload ∈ s.payloads,
      ∃ stats ∈ s.beats, HeartbeatReads (ascii "mainboard-07") stats payload := by
  intro beat s
  have hplain : PlainText (ascii "mainboard-07") :=
    ⟨"mainboard-07".toList, ascii_eq_utf8 (by decide), List.all_iff_forall_prop.1 (by decide)⟩
  exact ⟨rfl, rfl,
    (health_topic_of_every_run bootedHealth_fits hplain bootedHealth_eq _).2.1⟩

/-- Two rounds, the second under way. -/
theorem heartbeats_while_connected_two :
    let beat := HealthMove.supervisor someStats 0
    let bs := List.replicate 9 beat
    let s := run healthStep bootedHealth ([.mqtt .connected] ++ bs)
    s.payloads.length = 1 ∧ s.inHand.length = 1 ∧ s.payloads ++ s.inHand = s.built := by
  intro beat bs s
  have hbs : ∀ b ∈ bs, ¬b.Drops := by
    intro b hb
    rw [List.eq_of_mem_replicate hb]
    exact id
  rcases (heartbeats_while_connected bootedHealth_fits bootedHealth_eq [.mqtt .connected] bs hbs
    rfl).2 with ⟨new, hbuilt, hhand⟩
  refine ⟨by decide +kernel, by decide +kernel, ?_⟩
  rw [hhand, hbuilt]
  rfl

end MainboardFirmware
