import MainboardFirmware.System.Credentials

/-!
# Settings — the configuration store as four fields

What `system_config.c` is for: four settings, each of which was given a value or was not. Setting one
replaces it, a reset takes all four back, and a load fills in what was not given. Over any sequence of
calls whose NVS calls succeed, the store answers as these four fields do.
-/

namespace MainboardFirmware

open Machine

/-! ## The abstract store -/

/-- The values given and not taken back since. -/
@[ext]
structure Settings where
  wifiSsid : Option CString
  wifiPass : Option CString
  brokerUri : Option CString
  deviceId : Option CString
  deriving DecidableEq, Repr

def Settings.blank : Settings :=
  ⟨none, none, none, none⟩

/-- The calls on an initialised store; pointers may be `NULL`. -/
inductive SettingsCall
  | setWifi (ssid pass : Option CString)
  | setBroker (uri : Option CString)
  | reset
  | load (out : Bool)
  deriving DecidableEq, Repr

/-- A load with the defaults of `env`. -/
def Settings.load (env : ConfigEnv) (st : Settings) : SystemConfig where
  wifiSsid := st.wifiSsid.getD env.wifiSsid
  wifiPass := st.wifiPass.getD env.wifiPass
  brokerUri := st.brokerUri.getD env.brokerUri
  deviceId :=
    match st.deviceId with
    | none => deriveDeviceId env systemCfgIdLen
    | some id =>
        if id.headD 0 ≠ 0 ∧ id.length < systemCfgIdLen then id
        else deriveDeviceId env systemCfgIdLen

/-- What a call answers: its result, and the snapshot a load fills. -/
abbrev SettingsAnswer := EspErr × Option SystemConfig

def Settings.answer (env : ConfigEnv) (st : Settings) : SettingsCall → SettingsAnswer
  | .setWifi none _ => (espErrInvalidArg, none)
  | .setWifi (some ssid) pass => (if WifiArgsOk ssid pass then espOk else espErrInvalidArg, none)
  | .setBroker none => (espErrInvalidArg, none)
  | .setBroker (some uri) =>
      (if uri.length < systemCfgUriLen then espOk else espErrInvalidArg, none)
  | .reset => (espOk, none)
  | .load true => (espOk, some (st.load env))
  | .load false => (espErrInvalidArg, none)

def Settings.step (st : Settings) : SettingsCall → Settings
  | .setWifi none _ => st
  | .setWifi (some ssid) pass =>
      if WifiArgsOk ssid pass then
        { st with wifiSsid := some ssid, wifiPass := some (pass.getD []) }
      else st
  | .setBroker none => st
  | .setBroker (some uri) =>
      if uri.length < systemCfgUriLen then { st with brokerUri := some uri } else st
  | .reset => .blank
  | .load _ => st

/-! ## The latest values -/

/-- What a call gives to the SSID: nothing, a string it accepts, or with a reset its absence. -/
def ssidGiven : SettingsCall → Option (Option CString)
  | .setWifi (some ssid) pass => if WifiArgsOk ssid pass then some (some ssid) else none
  | .reset => some none
  | _ => none

def passGiven : SettingsCall → Option (Option CString)
  | .setWifi (some ssid) pass =>
      if WifiArgsOk ssid pass then some (some (pass.getD [])) else none
  | .reset => some none
  | _ => none

def uriGiven : SettingsCall → Option (Option CString)
  | .setBroker (some uri) => if uri.length < systemCfgUriLen then some (some uri) else none
  | .reset => some none
  | _ => none

/-- No call gives a device identifier. -/
def idGiven : SettingsCall → Option (Option CString)
  | .reset => some none
  | _ => none

/-- What was most recently given to each field since the last reset. -/
def Settings.latest (st : Settings) (calls : List SettingsCall) : Settings where
  wifiSsid := Machine.latest ssidGiven st.wifiSsid calls
  wifiPass := Machine.latest passGiven st.wifiPass calls
  brokerUri := Machine.latest uriGiven st.brokerUri calls
  deviceId := Machine.latest idGiven st.deviceId calls

theorem Settings.step_given (st : Settings) (call : SettingsCall) :
    (st.step call).wifiSsid = (ssidGiven call).getD st.wifiSsid ∧
      (st.step call).wifiPass = (passGiven call).getD st.wifiPass ∧
      (st.step call).brokerUri = (uriGiven call).getD st.brokerUri ∧
      (st.step call).deviceId = (idGiven call).getD st.deviceId := by
  cases call with
  | setWifi ssid pass =>
      cases ssid with
      | none =>
          exact ⟨rfl, rfl, rfl, rfl⟩
      | some ssid =>
          -- both fields are given something, or neither
          by_cases hargs : WifiArgsOk ssid pass
          · simp [step, ssidGiven, passGiven, uriGiven, idGiven, hargs]
          · simp [step, ssidGiven, passGiven, uriGiven, idGiven, hargs]
  | setBroker uri =>
      cases uri with
      | none =>
          exact ⟨rfl, rfl, rfl, rfl⟩
      | some uri =>
          by_cases hfits : uri.length < systemCfgUriLen
          · simp [step, ssidGiven, passGiven, uriGiven, idGiven, hfits]
          · simp [step, ssidGiven, passGiven, uriGiven, idGiven, hfits]
  | reset =>
      exact ⟨rfl, rfl, rfl, rfl⟩
  | load out =>
      exact ⟨rfl, rfl, rfl, rfl⟩

theorem Settings.run_eq_latest (st : Settings) (calls : List SettingsCall) :
    run Settings.step st calls = st.latest calls := by
  have hssid := run_field_eq_latest (fun st call => (Settings.step_given st call).1) st calls
  have hpass := run_field_eq_latest (fun st call => (Settings.step_given st call).2.1) st calls
  have huri := run_field_eq_latest (fun st call => (Settings.step_given st call).2.2.1) st calls
  have hid := run_field_eq_latest (fun st call => (Settings.step_given st call).2.2.2) st calls
  exact Settings.ext hssid hpass huri hid

/-! ## The calls of the code -/

/-- A call whose NVS calls all succeed. -/
def SettingsCall.exec (env : ConfigEnv) (s : ConfigStore) :
    SettingsCall → SettingsAnswer × ConfigStore
  | .setWifi ssid pass =>
      let (ret, s) := systemConfigSetWifi ssid pass espOk espOk espOk s
      ((ret, none), s)
  | .setBroker uri =>
      let (ret, s) := systemConfigSetBroker uri espOk espOk s
      ((ret, none), s)
  | .reset =>
      let (ret, s) := systemConfigReset espOk espOk s
      ((ret, none), s)
  | .load out => (systemConfigLoad env out (fun _ => espOk) s, s)

def settingsAnswer (env : ConfigEnv) (s : ConfigStore) (call : SettingsCall) : SettingsAnswer :=
  (call.exec env s).1

def settingsStep (env : ConfigEnv) (s : ConfigStore) (call : SettingsCall) : ConfigStore :=
  (call.exec env s).2

/-- A stored string that fits its field. Any other was not stored by this module, and no load returns
it. -/
def fitting (capacity : Nat) (stored : Option CString) : Option CString :=
  match stored with
  | none => none
  | some value => if value.length < capacity then some value else none

/-- What a store was given. -/
def absSettings (s : ConfigStore) : Settings where
  wifiSsid := fitting systemCfgSsidLen (s.nvs .wifiSsid)
  wifiPass := fitting systemCfgPassLen (s.nvs .wifiPass)
  brokerUri := fitting systemCfgUriLen (s.nvs .brokerUri)
  deviceId := s.nvs .deviceId

/-- The defaults as they fit into their fields. -/
def ConfigEnv.cut (env : ConfigEnv) : ConfigEnv where
  wifiSsid := strlcpy env.wifiSsid systemCfgSsidLen
  wifiPass := strlcpy env.wifiPass systemCfgPassLen
  brokerUri := strlcpy env.brokerUri systemCfgUriLen
  mac := env.mac

/-- The defaults of a build without the Kconfig options, as this repository's. -/
def ConfigEnv.unset (mac : Vector UInt8 6) : ConfigEnv :=
  ⟨ascii "", ascii "", ascii "", mac⟩

structure ConfigEnv.DefaultsFit (env : ConfigEnv) : Prop where
  wifiSsid : env.wifiSsid.length < systemCfgSsidLen
  wifiPass : env.wifiPass.length < systemCfgPassLen
  brokerUri : env.brokerUri.length < systemCfgUriLen

/-! ## Loads -/

theorem strlcpy_of_fits {value : CString} {size : Nat} (h : value.length < size) :
    strlcpy value size = value :=
  List.take_of_length_le (Nat.le_sub_one_of_lt h)

theorem ConfigEnv.DefaultsFit.cut_eq {env : ConfigEnv} (h : env.DefaultsFit) : env.cut = env := by
  rcases env with ⟨ssid, pass, uri, mac⟩
  simp only [cut, strlcpy_of_fits h.wifiSsid, strlcpy_of_fits h.wifiPass,
    strlcpy_of_fits h.brokerUri]

theorem resolved_eq_getD (default : CString) (capacity : Nat) (stored : Option CString) :
    resolved default capacity stored =
      (fitting capacity stored).getD (strlcpy default capacity) := by
  cases stored with
  | none =>
      rfl
  | some value =>
      by_cases hfits : value.length < capacity
      · simp [resolved, fitting, hfits]
      · simp [resolved, fitting, hfits]

/-- A stored identifier is used if it is not empty and fits. -/
theorem deviceId_eq (env : ConfigEnv) (s : ConfigStore) :
    (if (resolved [] systemCfgIdLen (s.nvs .deviceId)).headD 0 = 0 then
        deriveDeviceId env systemCfgIdLen
      else resolved [] systemCfgIdLen (s.nvs .deviceId)) =
      ((absSettings s).load env.cut).deviceId := by
  cases hstored : s.nvs .deviceId with
  | none =>
      simp only [Settings.load, absSettings, hstored]
      rfl
  | some id =>
      simp only [Settings.load, absSettings, hstored]
      -- an id is used if it fits and is not empty
      by_cases hfits : id.length < systemCfgIdLen
      · rw [resolved_stored hfits]
        by_cases hempty : id.headD 0 = 0
        · rw [if_pos hempty, if_neg fun h => h.1 hempty]
          rfl
        · rw [if_neg hempty, if_pos ⟨hempty, hfits⟩]
      · -- the length error leaves the empty default
        have hdefault : resolved [] systemCfgIdLen (some id) = [] := by
          simp [resolved, hfits, strlcpy]
        have hempty : ([] : CString).headD 0 = 0 := rfl
        rw [hdefault, if_pos hempty, if_neg fun h => hfits h.2]
        rfl

/-- A load of an initialised store is a load of what it was given. -/
theorem load_abs (env : ConfigEnv) {s : ConfigStore} (hinit : s.initialized = true) :
    systemConfigLoad env true (fun _ => espOk) s =
      (espOk, some ((absSettings s).load env.cut)) := by
  have hdevice := deviceId_eq env s
  simp only [systemConfigLoad, hinit, loadStr_resolved, reduceCtorEq, if_false]
  rw [hdevice]
  simp only [resolved_eq_getD]
  rfl

/-! ## Calls that set -/

theorem fitting_stored {capacity : Nat} {value : CString} (h : value.length < capacity) :
    fitting capacity (some value) = some value := by
  simp [fitting, h]

theorem setWifi_rejected {ssid : CString} {pass : Option CString} (hargs : ¬WifiArgsOk ssid pass)
    {s : ConfigStore} (hinit : s.initialized = true) :
    systemConfigSetWifi (some ssid) pass espOk espOk espOk s = (espErrInvalidArg, s) := by
  by_cases hssid : systemCfgSsidLen ≤ ssid.length
  · simp [systemConfigSetWifi, hinit, hssid]
  · have hlong : pass.any (fun p => decide (systemCfgPassLen ≤ p.length)) = true := by
      cases pass with
      | none =>
          exact absurd ⟨Nat.lt_of_not_le hssid, fun _ h => by cases h⟩ hargs
      | some p =>
          by_contra hshort
          have hpass : p.length < systemCfgPassLen := by simpa using hshort
          refine hargs ⟨Nat.lt_of_not_le hssid, fun q hq => ?_⟩
          cases hq
          exact hpass
    simp [systemConfigSetWifi, hinit, hssid, hlong]

/-- The call with NVS calls that succeed: both keys, or neither. -/
theorem setWifi_eq {s : ConfigStore} (hinit : s.initialized = true) (ssid : CString)
    (pass : Option CString) :
    systemConfigSetWifi (some ssid) pass espOk espOk espOk s =
      if WifiArgsOk ssid pass then
        (espOk, { s with
          nvs := Function.update (Function.update s.nvs .wifiSsid (some ssid)) .wifiPass
            (some (pass.getD [])) })
      else (espErrInvalidArg, s) := by
  split
  · rename_i hargs
    simpa using setWifi_accepted hargs hinit espOk espOk espOk
  · rename_i hargs
    exact setWifi_rejected hargs hinit

theorem setBroker_eq {s : ConfigStore} (hinit : s.initialized = true) (uri : CString) :
    systemConfigSetBroker (some uri) espOk espOk s =
      if uri.length < systemCfgUriLen then
        (espOk, { s with nvs := Function.update s.nvs .brokerUri (some uri) })
      else (espErrInvalidArg, s) := by
  by_cases hfits : uri.length < systemCfgUriLen
  · have hnot : ¬systemCfgUriLen ≤ uri.length := Nat.not_le.2 hfits
    simp [systemConfigSetBroker, hinit, hnot, hfits, nvsSetStr, nvsCommit]
  · have hlong : systemCfgUriLen ≤ uri.length := Nat.le_of_not_lt hfits
    simp [systemConfigSetBroker, hinit, hlong, hfits]

theorem reset_eq {s : ConfigStore} (hinit : s.initialized = true) :
    systemConfigReset espOk espOk s = (espOk, { s with nvs := fun _ => none }) := by
  simp [systemConfigReset, hinit, nvsEraseAll, nvsCommit]

/-! ## Any call -/

/-- What is shown of one call on an initialised store: it answers as the four fields do, it leaves a
store that was given what they hold then, and if it is refused it leaves the store as it was. -/
structure Refines (env : ConfigEnv) (s : ConfigStore) (call : SettingsCall) : Prop where
  answer_eq : settingsAnswer env s call = (absSettings s).answer env.cut call
  step_eq : absSettings (settingsStep env s call) = (absSettings s).step call
  initialized : (settingsStep env s call).initialized = true
  refused : (settingsAnswer env s call).1 ≠ espOk → settingsStep env s call = s

/-- A call that the code and the four fields answer alike, with stores that go on alike. -/
theorem Refines.of_exec {env : ConfigEnv} {s s' : ConfigStore} {call : SettingsCall}
    {answer : SettingsAnswer} (hexec : call.exec env s = (answer, s'))
    (hanswer : (absSettings s).answer env.cut call = answer)
    (hstep : (absSettings s).step call = absSettings s') (hinit : s'.initialized = true)
    (hrefused : answer.1 ≠ espOk → s' = s) : Refines env s call where
  answer_eq := by
    rw [settingsAnswer, hexec, hanswer]
  step_eq := by
    rw [settingsStep, hexec, hstep]
  initialized := by
    rw [settingsStep, hexec]
    exact hinit
  refused h := by
    rw [settingsAnswer, hexec] at h
    rw [settingsStep, hexec]
    exact hrefused h

theorem setWifi_refines (env : ConfigEnv) {s : ConfigStore} (hinit : s.initialized = true)
    (ssid pass : Option CString) : Refines env s (.setWifi ssid pass) := by
  cases ssid with
  | none =>
      have hexec : (SettingsCall.setWifi none pass).exec env s = ((espErrInvalidArg, none), s) := by
        simp [SettingsCall.exec, systemConfigSetWifi, hinit]
      exact .of_exec hexec rfl rfl hinit fun _ => rfl
  | some ssid =>
      have hcall := setWifi_eq hinit ssid pass
      by_cases hargs : WifiArgsOk ssid pass
      · -- a `NULL` password is stored as the empty one
        have hpass : (pass.getD []).length < systemCfgPassLen := by
          cases pass with
          | none =>
              decide
          | some p =>
              exact hargs.2 p rfl
        rw [if_pos hargs] at hcall
        have hexec : (SettingsCall.setWifi (some ssid) pass).exec env s = ((espOk, none),
            { s with
              nvs := Function.update (Function.update s.nvs .wifiSsid (some ssid)) .wifiPass
                (some (pass.getD [])) }) := by
          simp only [SettingsCall.exec, hcall]
        refine .of_exec hexec (by simp [Settings.answer, hargs]) ?_ hinit fun h => absurd rfl h
        simp [Settings.step, hargs, absSettings, fitting_stored hargs.1, fitting_stored hpass]
      · rw [if_neg hargs] at hcall
        have hexec : (SettingsCall.setWifi (some ssid) pass).exec env s =
            ((espErrInvalidArg, none), s) := by
          simp only [SettingsCall.exec, hcall]
        exact .of_exec hexec (by simp [Settings.answer, hargs]) (by simp [Settings.step, hargs])
          hinit fun _ => rfl

theorem setBroker_refines (env : ConfigEnv) {s : ConfigStore} (hinit : s.initialized = true)
    (uri : Option CString) : Refines env s (.setBroker uri) := by
  cases uri with
  | none =>
      have hexec : (SettingsCall.setBroker none).exec env s = ((espErrInvalidArg, none), s) := by
        simp [SettingsCall.exec, systemConfigSetBroker, hinit]
      exact .of_exec hexec rfl rfl hinit fun _ => rfl
  | some uri =>
      have hcall := setBroker_eq hinit uri
      by_cases hfits : uri.length < systemCfgUriLen
      · rw [if_pos hfits] at hcall
        have hexec : (SettingsCall.setBroker (some uri)).exec env s = ((espOk, none),
            { s with nvs := Function.update s.nvs .brokerUri (some uri) }) := by
          simp only [SettingsCall.exec, hcall]
        refine .of_exec hexec (by simp [Settings.answer, hfits]) ?_ hinit fun h => absurd rfl h
        simp [Settings.step, hfits, absSettings, fitting_stored hfits]
      · rw [if_neg hfits] at hcall
        have hexec : (SettingsCall.setBroker (some uri)).exec env s =
            ((espErrInvalidArg, none), s) := by
          simp only [SettingsCall.exec, hcall]
        exact .of_exec hexec (by simp [Settings.answer, hfits]) (by simp [Settings.step, hfits])
          hinit fun _ => rfl

theorem reset_refines (env : ConfigEnv) {s : ConfigStore} (hinit : s.initialized = true) :
    Refines env s .reset := by
  have hcall := reset_eq hinit
  have hexec : SettingsCall.reset.exec env s =
      ((espOk, none), { s with nvs := fun _ => none }) := by
    simp only [SettingsCall.exec, hcall]
  exact .of_exec hexec rfl rfl hinit fun h => absurd rfl h

theorem load_refines (env : ConfigEnv) {s : ConfigStore} (hinit : s.initialized = true)
    (out : Bool) : Refines env s (.load out) := by
  refine ⟨?_, rfl, hinit, fun _ => rfl⟩
  cases out with
  | false =>
      rfl
  | true =>
      exact load_abs env hinit

theorem call_refines (env : ConfigEnv) {s : ConfigStore} (hinit : s.initialized = true)
    (call : SettingsCall) : Refines env s call := by
  cases call with
  | setWifi ssid pass => exact setWifi_refines env hinit ssid pass
  | setBroker uri => exact setBroker_refines env hinit uri
  | reset => exact reset_refines env hinit
  | load out => exact load_refines env hinit out

/-! ## Any sequence of calls -/

/-- The store is always given what the four fields hold. -/
theorem absSettings_run (env : ConfigEnv) {s : ConfigStore} (hinit : s.initialized = true)
    (calls : List SettingsCall) :
    (run (settingsStep env) s calls).initialized = true ∧
      absSettings (run (settingsStep env) s calls) = (absSettings s).latest calls := by
  induction calls generalizing s with
  | nil =>
      exact ⟨hinit, rfl⟩
  | cons call calls ih =>
      have hcall := call_refines env hinit call
      rcases ih hcall.initialized with ⟨hinit', hrest⟩
      refine ⟨hinit', ?_⟩
      rw [run_cons, hrest, hcall.step_eq, ← Settings.run_eq_latest, ← Settings.run_eq_latest]
      rfl

/-- For every content of an initialised store and every sequence of calls: a load that follows returns
for each field what was most recently given to it since the last reset, or its default as it fits into
the field; every answer is that of the four fields; a refused call leaves the store as it is; and
defaults that fit, as those of this repository's build do, are not cut. -/
theorem store_refines_settings (env : ConfigEnv) (nvs : Nvs ConfigKey)
    (calls : List SettingsCall) :
    let s : ConfigStore := ⟨nvs, true, true⟩
    systemConfigLoad env true (fun _ => espOk) (run (settingsStep env) s calls) =
        (espOk, some (((absSettings s).latest calls).load env.cut)) ∧
      outputs (settingsStep env) (settingsAnswer env) s calls =
        outputs Settings.step (Settings.answer env.cut) (absSettings s) calls ∧
      (∀ move ∈ moves (settingsStep env) s calls,
        (settingsAnswer env move.1 move.2).1 ≠ espOk → settingsStep env move.1 move.2 = move.1) ∧
      (env.DefaultsFit → env.cut = env) ∧ ∀ mac, (ConfigEnv.unset mac).DefaultsFit := by
  intro s
  -- no call closes the store, so each of them refines the step of the settings
  have hkept : ∀ (t : ConfigStore) call, t.initialized = true →
      (settingsStep env t call).initialized = true :=
    fun t call ht => (call_refines env ht call).initialized
  refine ⟨?_, ?_, ?_, ConfigEnv.DefaultsFit.cut_eq, fun mac => ?_⟩
  · rcases absSettings_run env (s := s) rfl calls with ⟨hinit, habs⟩
    rw [load_abs env hinit, habs]
  · exact outputs_eq_of_abs hkept (fun t call ht => (call_refines env ht call).step_eq)
      (fun t call ht => (call_refines env ht call).answer_eq) rfl calls
  · have hrefused : ∀ (t : ConfigStore) call, t.initialized = true →
        (((settingsAnswer env t call).1 ≠ espOk → settingsStep env t call = t) ↔ True) :=
      fun t call ht => iff_true_intro (call_refines env ht call).refused
    exact (forall_moves_iff hrefused (fun t call ht _ => hkept t call ht) rfl calls).2
      fun _ _ => trivial
  · constructor <;> simp [ConfigEnv.unset, ascii, systemCfgSsidLen, systemCfgPassLen,
      systemCfgUriLen]

end MainboardFirmware
