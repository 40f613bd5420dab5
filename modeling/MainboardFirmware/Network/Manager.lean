import MainboardFirmware.Esp.CString
import MainboardFirmware.Esp.Err

/-!
# Manager — `firmware/main/network/network_manager.c`

The module state behind the two event handlers and the status query. A handler is a function of one
event; what it asks of WiFi, of the MQTT client and of the command callback is the second component
of its result. Both handlers take the status mutex around each access to the two flags, so an event
is handled in one step as far as the flags go.
-/

namespace MainboardFirmware

/-! ## Events -/

/-- The `(event_base, event_id)` pairs `wifi_event_handler` tells apart. -/
inductive WifiEvent
  | staStart
  | staDisconnected
  | gotIp
  | other
  deriving DecidableEq, Repr

/-- The fields of an `MQTT_EVENT_DATA` event. Only the first event of a message has a topic. -/
structure MqttData where
  topic : Option CString
  data : List UInt8
  currentDataOffset : Nat
  totalDataLen : Nat
  deriving DecidableEq, Repr

/-- The events `mqtt_event_handler` tells apart. -/
inductive MqttEvent
  | connected
  | disconnected
  | data (event : MqttData)
  | other
  deriving DecidableEq, Repr

/-- What the handlers call. -/
inductive NetworkCall
  | wifiConnect
  | mqttClientStart
  | mqttClientSubscribe (topic : CString) (qos : Nat)
  | cmdCb (topic : Option CString) (data : List UInt8)
  deriving DecidableEq, Repr

/-! ## Module state -/

/-- The static variables of the module; pointers that are only compared with `NULL` are Booleans. -/
structure NetworkManager where
  cmdCb : Bool
  mqttClient : Bool
  statusMutex : Bool
  wifiConnected : Bool
  mqttConnected : Bool
  topicCommand : CString
  deriving DecidableEq, Repr

/-- The state a successful `network_manager_init` leaves, with the callback registered before. -/
def NetworkManager.initialized (topicCommand : CString) : NetworkManager where
  cmdCb := true
  mqttClient := true
  statusMutex := true
  wifiConnected := false
  mqttConnected := false
  topicCommand := topicCommand

/-! ## Event handlers -/

def wifiEventHandler (event : WifiEvent) (n : NetworkManager) : NetworkManager × List NetworkCall :=
  match event with
  | .staStart => (n, [.wifiConnect])
  | .staDisconnected =>
      -- MQTT is also considered disconnected when WiFi is down
      ({ n with wifiConnected := false, mqttConnected := false }, [.wifiConnect])
  | .gotIp =>
      -- starting a client that runs already does nothing, and the MQTT flag stays as it is
      ({ n with wifiConnected := true }, if n.mqttClient = true then [.mqttClientStart] else [])
  | .other => (n, [])

def mqttEventHandler (event : MqttEvent) (n : NetworkManager) : NetworkManager × List NetworkCall :=
  match event with
  | .connected =>
      ({ n with mqttConnected := true }, [.mqttClientSubscribe n.topicCommand 1])
  | .disconnected => ({ n with mqttConnected := false }, [])
  -- neither the offset nor the total length is looked at
  | .data event => (n, if n.cmdCb = true then [.cmdCb event.topic event.data] else [])
  | .other => (n, [])

/-! ## Status -/

def networkManagerIsConnected (n : NetworkManager) : Bool :=
  if n.statusMutex = true then n.mqttConnected else false

/-! ## Transport delegates -/

/-- `network_manager_subscribe`; `msgId` is what the MQTT client answers to the request. -/
def networkManagerSubscribe (topic : CString) (msgId : Int) (n : NetworkManager) :
    EspErr × List NetworkCall :=
  if n.mqttClient = false ∨ n.mqttConnected = false then
    (espErrInvalidState, [])
  else
    (if msgId < 0 then espFail else espOk, [.mqttClientSubscribe topic 1])

end MainboardFirmware
