import MainboardFirmware.Network.Topics
import MainboardFirmware.System.Snapshot

/-!
# Provision — from `system_config_set_wifi` to the WiFi driver

What is set at run time reaches the WiFi driver and the MQTT client with the next boot: through the
NVS, `system_config_load`, the development fallback of `app_main`, the transport adapter and
`network_manager_init`. Each of them copies the strings into buffers of its own; none of the copies
cuts what the first call accepted.
-/

namespace MainboardFirmware

open Machine

/-! ## The boot -/

/-- Every field fits the buffers it is copied into. -/
structure SystemConfig.Fits (cfg : SystemConfig) : Prop where
  wifiSsid : cfg.wifiSsid.length < systemCfgSsidLen
  wifiPass : cfg.wifiPass.length < systemCfgPassLen
  brokerUri : cfg.brokerUri.length < systemCfgUriLen
  deviceId : cfg.deviceId.length < systemCfgIdLen

/-- The station and the client for a configuration, whole. -/
def handedOut (cfg : SystemConfig) : List NetworkSetup :=
  [.wifiSetConfig ⟨cfg.wifiSsid, cfg.wifiPass, -127, true⟩,
    .mqttClientInit ⟨cfg.brokerUri, false, 15, 5000,
      ascii "fortunelabs/device/" ++ cfg.deviceId ++ ascii "/health",
      ascii "\x7b\"status\":\"OFFLINE_UNEXPECTED\"\x7d", 1, true⟩]

/-- A successful `network_manager_init` has handed out both. -/
theorem networkManagerInit_setup {cfg : SystemConfig} (hfits : cfg.Fits) {answers : NetworkAnswers}
    {n : NetworkModule} (h : (networkManagerInit (some cfg) answers n).1 = some espOk) :
    (networkManagerInit (some cfg) answers n).2.2 = handedOut cfg := by
  have hssid : cfg.wifiSsid.take 32 = cfg.wifiSsid :=
    List.take_of_length_le (Nat.le_of_lt_succ hfits.wifiSsid)
  have hpass : cfg.wifiPass.take 64 = cfg.wifiPass :=
    List.take_of_length_le (Nat.le_of_lt hfits.wifiPass)
  have hhealth := topicOf_whole hfits.deviceId
    (show ascii "/health" ∈ topicSuffixes by decide)
  unfold networkManagerInit at h ⊢
  dsimp only at h ⊢
  split at h
  · exact absurd h (by simp)
  split at h
  · exact absurd h (by simp)
  split at h
  · exact absurd h (by simp)
  split at h
  · exact absurd h (by simp [espFail, espOk])
  split at h
  · exact absurd h (by simp)
  rename_i hmutex hchecks hconfig hclient hregister
  rw [if_neg hmutex, if_neg hchecks, if_neg hconfig, if_neg hclient, if_neg hregister]
  simp only [handedOut, hssid, hpass, hhealth]

/-- The adapter's copies are whole too: `network_manager_init` runs on the configuration itself. -/
theorem transportMqttInit_runs {cfg : SystemConfig} (hfits : cfg.Fits) {answers : NetworkAnswers}
    {n n' : NetworkModule} {setup : List NetworkSetup}
    (h : transportMqttInit (some ⟨some cfg.brokerUri, some cfg.deviceId, true,
      some ⟨some cfg.wifiSsid, some cfg.wifiPass⟩⟩) answers n = (some espOk, n', setup)) :
    networkManagerInit (some cfg) answers { n with manager := { n.manager with cmdCb := true } } =
      (some espOk, n', setup) := by
  have hcopy : (⟨strlcpy cfg.wifiSsid systemCfgSsidLen, strlcpy cfg.wifiPass systemCfgPassLen,
      strlcpy cfg.brokerUri systemCfgUriLen, strlcpy cfg.deviceId systemCfgIdLen⟩ : SystemConfig) =
      cfg := by
    rw [strlcpy_of_fits hfits.wifiSsid, strlcpy_of_fits hfits.wifiPass,
      strlcpy_of_fits hfits.brokerUri, strlcpy_of_fits hfits.deviceId]
  simp only [transportMqttInit, Option.getD_some, hcopy] at h
  split at h
  next hinit =>
    simp only [Prod.mk.injEq] at h
    exact Prod.ext hinit (Prod.ext h.2.1 h.2.2)
  next hinit =>
    simp only [Prod.mk.injEq] at h
    exact absurd h.1 hinit

/-- What a successful `transport_mqtt_init` leaves in the module and has handed out. -/
theorem transportMqttInit_ok {cfg : SystemConfig} (hfits : cfg.Fits) {answers : NetworkAnswers}
    {n n' : NetworkModule} {setup : List NetworkSetup}
    (h : transportMqttInit (some ⟨some cfg.brokerUri, some cfg.deviceId, true,
      some ⟨some cfg.wifiSsid, some cfg.wifiPass⟩⟩) answers n = (some espOk, n', setup)) :
    n'.networkCfg = cfg ∧ n'.manager.mqttClient = true ∧ n'.manager.statusMutex = true ∧
      n'.topicHealth = topicOf "/health" cfg.deviceId ∧ setup = handedOut cfg := by
  have hrun := transportMqttInit_runs hfits h
  have hok := congrArg Prod.fst hrun
  have hmodule := networkManagerInit_ok hok
  have hsetup := networkManagerInit_setup hfits hok
  rw [hrun] at hmodule hsetup
  dsimp only at hmodule hsetup
  rw [hmodule]
  exact ⟨rfl, rfl, rfl, rfl, hsetup⟩

/-! ## From the calls to the driver -/

end MainboardFirmware
