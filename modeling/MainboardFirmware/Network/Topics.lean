import Mathlib.Data.List.Nodup
import MainboardFirmware.Network.Manager
import MainboardFirmware.System.Config

/-!
# Topics — the MQTT topics of a device

`network_manager_init` derives three topics from the device identifier and `app_main` a fourth, each
with `snprintf` into a buffer of 64 bytes. An identifier that fits the configuration leaves them
whole, and their suffixes end in four different letters, so a topic tells both its kind and its
device.
-/

namespace MainboardFirmware

/-! ## Data -/

/-- The size of each topic buffer. -/
def topicSize : Nat := 64

/-- `transport_mqtt_config_t` -/
structure TransportMqttConfig where
  wifiSsid : Option CString
  wifiPass : Option CString
  deriving DecidableEq, Repr

/-- `transport_config_t`; of the callback only whether it is `NULL`. -/
structure TransportConfig where
  brokerUri : Option CString
  deviceId : Option CString
  cmdCb : Bool
  extra : Option TransportMqttConfig
  deriving DecidableEq, Repr

/-- `wifi_config_t`, the fields the firmware fills in. -/
structure WifiStaConfig where
  ssid : CString
  password : CString
  rssiThreshold : Int
  pmfCapable : Bool
  deriving DecidableEq, Repr

/-- `esp_mqtt_client_config_t`, the fields the firmware fills in. -/
structure MqttClientConfig where
  uri : CString
  disableCleanSession : Bool
  keepalive : Nat
  reconnectTimeoutMs : Nat
  willTopic : CString
  willMsg : CString
  willQos : Nat
  willRetain : Bool
  deriving DecidableEq, Repr

/-- What `network_manager_init` hands to ESP-IDF. -/
inductive NetworkSetup
  | wifiSetConfig (cfg : WifiStaConfig)
  | mqttClientInit (cfg : MqttClientConfig)
  deriving DecidableEq, Repr

/-- What the calls of `network_manager_init` and `network_manager_start` answer; a client or a mutex
that is not created is `NULL`. -/
structure NetworkAnswers where
  statusMutex : Bool
  netifInit : EspErr
  eventLoopCreate : EspErr
  wifiInit : EspErr
  registerWifi : EspErr
  registerIp : EspErr
  setMode : EspErr
  setConfig : EspErr
  mqttClient : Bool
  registerMqtt : EspErr
  wifiStart : EspErr
  taskCreated : Bool
  deriving DecidableEq, Repr

/-- All static variables of the module. -/
structure NetworkModule where
  manager : NetworkManager
  networkCfg : SystemConfig
  topicTelemetry : CString
  topicHealth : CString
  deriving DecidableEq, Repr

/-! ## Functions -/

/-- A topic in its buffer: `fortunelabs/device/%s` and a suffix. -/
def topicOf (suffix : String) (deviceId : CString) : CString :=
  (ascii "fortunelabs/device/" ++ deviceId ++ ascii suffix).take (topicSize - 1)

/-- `network_manager_init`: its result (`none` if one of its checks aborts), the module, and what it
hands out on the way. -/
def networkManagerInit (cfg : Option SystemConfig) (env : NetworkAnswers) (n : NetworkModule) :
    Option EspErr × NetworkModule × List NetworkSetup :=
  match cfg with
  | none => (some espErrInvalidArg, n, [])
  | some cfg =>
      let n := { n with
        networkCfg := cfg
        manager := { n.manager with statusMutex := env.statusMutex } }
      if env.statusMutex = false then
        (some espErrNoMem, n, [])
      else if [env.netifInit, env.eventLoopCreate, env.wifiInit, env.registerWifi, env.registerIp,
          env.setMode].any (· ≠ espOk) then
        (none, n, [])
      else
        -- `strncpy` into 32 and 64 bytes, which need no terminator
        let wifi : WifiStaConfig := ⟨n.networkCfg.wifiSsid.take 32, n.networkCfg.wifiPass.take 64,
          -127, true⟩
        if env.setConfig ≠ espOk then
          (none, n, [.wifiSetConfig wifi])
        else
          let n := { n with
            topicTelemetry := topicOf "/telemetry" n.networkCfg.deviceId
            topicHealth := topicOf "/health" n.networkCfg.deviceId
            manager := { n.manager with
              topicCommand := topicOf "/command" n.networkCfg.deviceId
              mqttClient := env.mqttClient } }
          let mqtt : MqttClientConfig := ⟨n.networkCfg.brokerUri, false, 15, 5000, n.topicHealth,
            ascii "\x7b\"status\":\"OFFLINE_UNEXPECTED\"\x7d", 1, true⟩
          let setup := [.wifiSetConfig wifi, .mqttClientInit mqtt]
          if env.mqttClient = false then (some espFail, n, setup)
          else if env.registerMqtt ≠ espOk then (none, n, setup)
          else (some espOk, n, setup)

/-- `network_manager_start` -/
def networkManagerStart (env : NetworkAnswers) : Option EspErr :=
  if env.wifiStart ≠ espOk then none
  else if env.taskCreated = false then some espErrNoMem
  else some espOk

/-- `transport_mqtt_init` -/
def transportMqttInit (cfg : Option TransportConfig) (env : NetworkAnswers) (n : NetworkModule) :
    Option EspErr × NetworkModule × List NetworkSetup :=
  match cfg with
  | some ⟨some brokerUri, some deviceId, cmdCb, some ext⟩ =>
      let sysCfg : SystemConfig := {
        wifiSsid := strlcpy (ext.wifiSsid.getD []) systemCfgSsidLen
        wifiPass := strlcpy (ext.wifiPass.getD []) systemCfgPassLen
        brokerUri := strlcpy brokerUri systemCfgUriLen
        deviceId := strlcpy deviceId systemCfgIdLen }
      let n := { n with manager := { n.manager with cmdCb := cmdCb } }
      let (ret, n, setup) := networkManagerInit (some sysCfg) env n
      if ret = some espOk then (networkManagerStart env, n, setup) else (ret, n, setup)
  | _ => (some espErrInvalidArg, n, [])

/-- Step [8] of `app_main`: the module and `s_topic_log` behind it, or nothing if it aborts. -/
def appMainTransport (sysCfg : SystemConfig) (env : NetworkAnswers) (n : NetworkModule) :
    Option (NetworkModule × CString) :=
  let transportCfg : TransportConfig :=
    ⟨some sysCfg.brokerUri, some sysCfg.deviceId, true,
      some ⟨some sysCfg.wifiSsid, some sysCfg.wifiPass⟩⟩
  let (ret, n, _) := transportMqttInit (some transportCfg) env n
  if ret = some espOk then some (n, topicOf "/log" sysCfg.deviceId) else none

/-! ## Topics and their texts -/

/-- The four topics of a device. -/
def deviceTopics (n : NetworkModule) (topicLog : CString) : List CString :=
  [n.topicTelemetry, n.manager.topicCommand, n.topicHealth, topicLog]

def topicSuffixes : List CString :=
  [ascii "/telemetry", ascii "/command", ascii "/health", ascii "/log"]

/-- Their texts as the format strings have them, whole. -/
def topicTexts (deviceId : CString) : List CString :=
  topicSuffixes.map fun suffix => ascii "fortunelabs/device/" ++ deviceId ++ suffix

/-- A boot with this configuration has got behind step [8]. -/
def TransportUp (sysCfg : SystemConfig) (n : NetworkModule) (topicLog : CString) : Prop :=
  ∃ env start, appMainTransport sysCfg env start = some (n, topicLog)

/-- A suffix is known from its last byte. -/
theorem suffix_of_last {s t : CString} (hs : s ∈ topicSuffixes) (ht : t ∈ topicSuffixes)
    (hlast : s.getLast? = t.getLast?) : s = t := by
  have hall : ∀ s ∈ topicSuffixes, ∀ t ∈ topicSuffixes, s.getLast? = t.getLast? → s = t := by
    decide
  exact hall s hs t ht hlast

/-- Topics that are equal have the same suffix and come from the same identifier. -/
theorem topicText_inj {deviceId deviceId' s t : CString} (hs : s ∈ topicSuffixes)
    (ht : t ∈ topicSuffixes)
    (h : ascii "fortunelabs/device/" ++ deviceId ++ s =
      ascii "fortunelabs/device/" ++ deviceId' ++ t) : deviceId = deviceId' ∧ s = t := by
  have hne : ∀ s ∈ topicSuffixes, s ≠ [] := by
    decide
  have hlast : s.getLast? = t.getLast? := by
    calc
      s.getLast? = (ascii "fortunelabs/device/" ++ deviceId ++ s).getLast? :=
        (List.getLast?_append_of_ne_nil _ (hne s hs)).symm
      _ = (ascii "fortunelabs/device/" ++ deviceId' ++ t).getLast? := congrArg List.getLast? h
      _ = t.getLast? := List.getLast?_append_of_ne_nil _ (hne t ht)
  have hsuffix : s = t := suffix_of_last hs ht hlast
  subst hsuffix
  exact ⟨List.append_cancel_left (List.append_cancel_right h), rfl⟩

theorem topicTexts_nodup (deviceId : CString) : (topicTexts deviceId).Nodup := by
  have hsuffixes : topicSuffixes.Nodup := by
    decide
  refine List.Nodup.map_on ?_ hsuffixes
  intro s hs t ht h
  exact (topicText_inj hs ht h).2

theorem topicTexts_disjoint {deviceId deviceId' : CString} (hne : deviceId ≠ deviceId') :
    (topicTexts deviceId).Disjoint (topicTexts deviceId') := by
  intro topic hmem hmem'
  rcases List.mem_map.1 hmem with ⟨s, hs, htopic⟩
  rcases List.mem_map.1 hmem' with ⟨t, ht, htopic'⟩
  exact hne (topicText_inj hs ht (htopic.trans htopic'.symm)).1

/-- A buffer of 64 bytes has room for every topic of an identifier that fits. -/
theorem topicOf_whole {deviceId : CString} (hfits : deviceId.length < systemCfgIdLen)
    {suffix : String} (hsuffix : ascii suffix ∈ topicSuffixes) :
    topicOf suffix deviceId = ascii "fortunelabs/device/" ++ deviceId ++ ascii suffix := by
  have hlongest : ∀ s ∈ topicSuffixes,
      (ascii "fortunelabs/device/").length + 31 + s.length < topicSize := by
    decide
  have hroom := hlongest _ hsuffix
  apply List.take_of_length_le
  simp only [List.length_append, systemCfgIdLen] at hfits ⊢
  omega

/-! ## The topics of a boot -/

/-- What a successful `network_manager_init` leaves in the module. -/
theorem networkManagerInit_ok {cfg : SystemConfig} {env : NetworkAnswers} {n : NetworkModule}
    (h : (networkManagerInit (some cfg) env n).1 = some espOk) :
    (networkManagerInit (some cfg) env n).2.1 =
      { manager := { n.manager with
          statusMutex := true
          mqttClient := true
          topicCommand := topicOf "/command" cfg.deviceId }
        networkCfg := cfg
        topicTelemetry := topicOf "/telemetry" cfg.deviceId
        topicHealth := topicOf "/health" cfg.deviceId } := by
  unfold networkManagerInit at h ⊢
  dsimp only at h ⊢
  split at h
  · exact absurd h (by simp)
  split at h
  · exact absurd h (by simp)
  split at h
  · exact absurd h (by simp)
  split at h
  · exact absurd h (by simp [espFail, espOk])
  split at h
  · exact absurd h (by simp)
  rename_i hmutex hchecks hconfig hclient hregister
  rw [if_neg hmutex, if_neg hchecks, if_neg hconfig, if_neg hclient, if_neg hregister]
  simp only [Bool.not_eq_false] at hmutex hclient
  simp only [hmutex, hclient]

/-- The first one leaves the state in which the event handlers are verified. -/
theorem networkManagerInit_initialized {cfg : SystemConfig} {env : NetworkAnswers}
    {n : NetworkModule} (hcb : n.manager.cmdCb = true)
    (hdown : n.manager.wifiConnected = false ∧ n.manager.mqttConnected = false)
    (h : (networkManagerInit (some cfg) env n).1 = some espOk) :
    (networkManagerInit (some cfg) env n).2.1.manager =
      NetworkManager.initialized (topicOf "/command" cfg.deviceId) := by
  have hmodule := congrArg NetworkModule.manager (networkManagerInit_ok h)
  simpa [NetworkManager.initialized, hcb, hdown] using hmodule

/-- The topics behind step [8] are those of the identifier in the configuration. -/
theorem deviceTopics_of_transportUp {sysCfg : SystemConfig} {n : NetworkModule} {topicLog : CString}
    (hfits : sysCfg.deviceId.length < systemCfgIdLen) (hup : TransportUp sysCfg n topicLog) :
    deviceTopics n topicLog = topicTexts sysCfg.deviceId := by
  rcases hup with ⟨env, start, hrun⟩
  have hcopy : strlcpy sysCfg.deviceId systemCfgIdLen = sysCfg.deviceId :=
    List.take_of_length_le (Nat.le_sub_one_of_lt hfits)
  simp only [appMainTransport, transportMqttInit, hcopy] at hrun
  split at hrun
  · rename_i hinit
    -- the module was initialised with this identifier, and the transport came up or it did not
    have hmodule := networkManagerInit_ok hinit
    split at hrun
    · simp only [Option.some.injEq, Prod.mk.injEq] at hrun
      rcases hrun with ⟨rfl, rfl⟩
      simp only [deviceTopics, hmodule, topicTexts, topicSuffixes, List.map_cons, List.map_nil]
      iterate 4 rw [topicOf_whole hfits (by decide)]
    · exact absurd hrun (by simp)
  · simp at hrun

/-- For every identifier that fits, the four topics are whole and pairwise different, and two devices
with different identifiers share none. -/
theorem topics_tell_devices_apart {sysCfg : SystemConfig} {n : NetworkModule} {topicLog : CString}
    (hfits : sysCfg.deviceId.length < systemCfgIdLen) (hup : TransportUp sysCfg n topicLog) :
    deviceTopics n topicLog = topicTexts sysCfg.deviceId ∧ (deviceTopics n topicLog).Nodup ∧
      ∀ (sysCfg' : SystemConfig) (n' : NetworkModule) (topicLog' : CString),
        sysCfg'.deviceId.length < systemCfgIdLen → TransportUp sysCfg' n' topicLog' →
        sysCfg.deviceId ≠ sysCfg'.deviceId →
        (deviceTopics n topicLog).Disjoint (deviceTopics n' topicLog') := by
  have htopics := deviceTopics_of_transportUp hfits hup
  refine ⟨htopics, ?_, ?_⟩
  · simpa [htopics] using topicTexts_nodup sysCfg.deviceId
  · intro sysCfg' n' topicLog' hfits' hup' hne
    have htopics' := deviceTopics_of_transportUp hfits' hup'
    simpa [htopics, htopics'] using topicTexts_disjoint hne

/-- A boot on which everything answers well. -/
def networkUpAnswers : NetworkAnswers :=
  ⟨true, espOk, espOk, espOk, espOk, espOk, espOk, espOk, true, espOk, espOk, true⟩

/-- The static variables before it. -/
def NetworkModule.static : NetworkModule :=
  ⟨⟨false, false, false, false, false, []⟩, ⟨[], [], [], []⟩, [], []⟩

/-- The longest identifier, and one that differs from it in its last byte. -/
theorem topics_tell_devices_apart_longest :
    let config := fun last : UInt8 =>
      (⟨[], [], [], List.replicate 30 0x61 ++ [last]⟩ : SystemConfig)
    let up := fun last =>
      (appMainTransport (config last) networkUpAnswers NetworkModule.static).getD
        (NetworkModule.static, [])
    (deviceTopics (up 0x61).1 (up 0x61).2).Disjoint (deviceTopics (up 0x62).1 (up 0x62).2) := by
  intro config up
  have hup : ∀ last, TransportUp (config last) (up last).1 (up last).2 :=
    fun last => ⟨networkUpAnswers, NetworkModule.static, rfl⟩
  exact (topics_tell_devices_apart (by decide) (hup 0x61)).2.2 _ _ _ (by decide) (hup 0x62)
    (by decide)

end MainboardFirmware
