import MainboardFirmware.Library.Machine
import MainboardFirmware.System.Config

/-!
# Credentials — what a failed `system_config_set_wifi` leaves behind

The call writes two keys one after the other and commits them together, but it returns as soon as one
step fails and takes nothing back. An entry that was set is visible at once and any later commit, such
as that of `system_config_set_broker`, makes it durable. So a failed call leaves the credentials as
they were exactly if nothing was set yet, or what was set is what was resolved before.
-/

namespace MainboardFirmware

open Machine

/-! ## What a load resolves -/

/-- The credentials of a load whose reads succeed. -/
def wifiPair (env : ConfigEnv) (s : ConfigStore) : Option (CString × CString) :=
  (systemConfigLoad env true (fun _ => espOk) s).2.map fun config =>
    (config.wifiSsid, config.wifiPass)

/-- What a read of one field that succeeds resolves. -/
def resolved (default : CString) (capacity : Nat) (stored : Option CString) : CString :=
  match stored with
  | none => strlcpy default capacity
  | some value => if value.length < capacity then value else strlcpy default capacity

theorem loadStr_resolved (nvs : Nvs ConfigKey) (key : ConfigKey) (default : CString) (outSz : Nat) :
    (loadStr nvs key (some default) outSz espOk).2 = resolved default outSz (nvs key) := by
  cases hstored : nvs key with
  | none =>
      simp [loadStr, nvsGetStr, hstored, resolved]
  | some value =>
      by_cases hfits : value.length < outSz
      · simp [loadStr, nvsGetStr, hstored, resolved, hfits]
      · have hlength : espErrNvsInvalidLength ≠ espErrNvsNotFound := by decide
        simp [loadStr, nvsGetStr, hstored, resolved, hfits, hlength]

theorem wifiPair_eq {env : ConfigEnv} {s : ConfigStore} (hinit : s.initialized = true) :
    wifiPair env s =
      some (resolved env.wifiSsid systemCfgSsidLen (s.nvs .wifiSsid),
        resolved env.wifiPass systemCfgPassLen (s.nvs .wifiPass)) := by
  simp [wifiPair, systemConfigLoad, hinit, loadStr_resolved]

/-! ## Calls that do not set credentials -/

def ConfigCall.KeepsWifi : ConfigCall → Prop
  | .init _ _ => True
  | .setBroker _ _ _ => True
  | .setWifi _ _ _ _ _ => False
  | .reset _ _ => False

/-- An initialised store with these two entries. -/
def HoldsWifi (ssid pass : Option CString) (s : ConfigStore) : Prop :=
  s.initialized = true ∧ s.nvs .wifiSsid = ssid ∧ s.nvs .wifiPass = pass

theorem setBroker_initialized (uri : Option CString) (setUri commit : EspErr) (s : ConfigStore) :
    (systemConfigSetBroker uri setUri commit s).2.initialized = s.initialized := by
  unfold systemConfigSetBroker
  split
  · rfl
  · cases uri with
    | none =>
        rfl
    | some uri =>
        dsimp only
        split
        · rfl
        · split <;> rfl

/-- Only the broker URI is set. -/
theorem setBroker_nvs (uri : Option CString) (setUri commit : EspErr) (s : ConfigStore)
    {key : ConfigKey} (hkey : key ≠ .brokerUri) :
    (systemConfigSetBroker uri setUri commit s).2.nvs key = s.nvs key := by
  unfold systemConfigSetBroker
  split
  · rfl
  · cases uri with
    | none =>
        rfl
    | some uri =>
        have hother := nvsSetStr_other s.nvs hkey uri setUri
        dsimp only
        split
        · rfl
        · split <;> exact hother

theorem init_nvs (created : Bool) (opened : EspErr) (s : ConfigStore) :
    (systemConfigInit created opened s).2.nvs = s.nvs := by
  unfold systemConfigInit
  split
  · rfl
  · split <;> rfl

/-- A store that is initialised stays so. -/
theorem init_initialized (created : Bool) (opened : EspErr) {s : ConfigStore}
    (hinit : s.initialized = true) : (systemConfigInit created opened s).2.initialized = true := by
  unfold systemConfigInit
  split
  · exact hinit
  · split
    · exact hinit
    · rfl

theorem exec_holdsWifi {ssid pass : Option CString} {s : ConfigStore} {call : ConfigCall}
    (hs : HoldsWifi ssid pass s) (hcall : call.KeepsWifi) : HoldsWifi ssid pass (call.exec s) := by
  rcases hs with ⟨hinit, hssid, hpass⟩
  cases call with
  | init created opened =>
      have hnvs := init_nvs created opened s
      exact ⟨init_initialized created opened hinit, (congrFun hnvs _).trans hssid,
        (congrFun hnvs _).trans hpass⟩
  | setBroker uri setUri commit =>
      have hkept := fun key => @setBroker_nvs uri setUri commit s key
      exact ⟨(setBroker_initialized uri setUri commit s).trans hinit,
        (hkept .wifiSsid (by decide)).trans hssid, (hkept .wifiPass (by decide)).trans hpass⟩
  | setWifi ssid pass setSsid setPass commit =>
      exact hcall.elim
  | reset erase commit =>
      exact hcall.elim

/-- Every later load resolves the entries the store holds now. -/
theorem wifiPair_run {env : ConfigEnv} {s : ConfigStore} (hinit : s.initialized = true)
    {later : List ConfigCall} (hlater : ∀ call ∈ later, call.KeepsWifi) :
    wifiPair env (run ConfigCall.exec s later) = wifiPair env s := by
  have hstep : ∀ (t : ConfigStore) (call : ConfigCall),
      HoldsWifi (s.nvs .wifiSsid) (s.nvs .wifiPass) t → call.KeepsWifi →
        HoldsWifi (s.nvs .wifiSsid) (s.nvs .wifiPass) (call.exec t) := fun _ _ ht hcall =>
    exec_holdsWifi ht hcall
  have hholds : HoldsWifi (s.nvs .wifiSsid) (s.nvs .wifiPass) (run ConfigCall.exec s later) :=
    inv_run_of_labels hstep ⟨hinit, rfl, rfl⟩ hlater
  -- a load reads nothing else of the store for the two fields
  rcases hholds with ⟨hinit', hssid, hpass⟩
  rw [wifiPair_eq hinit', wifiPair_eq hinit, hssid, hpass]

/-! ## The call -/

/-- The arguments `system_config_set_wifi` accepts. -/
def WifiArgsOk (ssid : CString) (pass : Option CString) : Prop :=
  ssid.length < systemCfgSsidLen ∧ ∀ p ∈ pass, p.length < systemCfgPassLen

instance (ssid : CString) (pass : Option CString) : Decidable (WifiArgsOk ssid pass) :=
  inferInstanceAs (Decidable (_ ∧ _))

/-- An accepted call on an initialised store: the three NVS calls, up to the first that fails. -/
theorem setWifi_accepted {ssid : CString} {pass : Option CString} (hargs : WifiArgsOk ssid pass)
    {s : ConfigStore} (hinit : s.initialized = true) (setSsid setPass commit : EspErr) :
    systemConfigSetWifi (some ssid) pass setSsid setPass commit s =
      if setSsid ≠ espOk then (setSsid, s)
      else
        let ssidSet := Function.update s.nvs .wifiSsid (some ssid)
        if setPass ≠ espOk then (setPass, { s with nvs := ssidSet })
        else (commit, { s with nvs := Function.update ssidSet .wifiPass (some (pass.getD [])) }) := by
  rcases s with ⟨nvs, initialized, mutex⟩
  have hinit' : initialized = true := hinit
  have hssid : ¬ systemCfgSsidLen ≤ ssid.length := Nat.not_le.2 hargs.1
  have hpass : pass.any (fun p => decide (systemCfgPassLen ≤ p.length)) = false := by
    cases pass with
    | none =>
        rfl
    | some p =>
        simpa using hargs.2 p rfl
  -- the call goes as far as the first NVS call that is refused
  by_cases hsetSsid : setSsid = espOk
  · by_cases hsetPass : setPass = espOk
    · simp [systemConfigSetWifi, hinit', hssid, hpass, hsetSsid, hsetPass, nvsSetStr_accepted,
        nvsCommit]
    · have hrefused := fun nvs : Nvs ConfigKey =>
        nvsSetStr_refused nvs .wifiPass (pass.getD []) hsetPass
      simp [systemConfigSetWifi, hinit', hssid, hpass, hsetSsid, hsetPass, nvsSetStr_accepted,
        hrefused]
  · have hrefused := nvsSetStr_refused nvs .wifiSsid ssid hsetSsid
    simp [systemConfigSetWifi, hinit', hssid, hpass, hsetSsid, hrefused]

/-! ## What a failed call leaves behind -/

/-- If the call fails, every later load resolves the credentials resolved before it, whatever calls
come in between that do not set credentials. -/
def KeepsPairOnError (env : ConfigEnv) (s : ConfigStore) (ssid : CString) (pass : Option CString)
    (setSsid setPass commit : EspErr) : Prop :=
  let called := systemConfigSetWifi (some ssid) pass setSsid setPass commit s
  called.1 ≠ espOk → ∀ later : List ConfigCall, (∀ call ∈ later, call.KeepsWifi) →
    wifiPair env (run ConfigCall.exec called.2 later) = wifiPair env s

/-- Nothing was set, or what was set before the failure is what was resolved before. -/
def NothingHalfSet (env : ConfigEnv) (s : ConfigStore) (ssid : CString) (pass : Option CString)
    (setSsid setPass commit : EspErr) : Prop :=
  setSsid ≠ espOk ∨
    (setPass ≠ espOk ∧ (wifiPair env s).map Prod.fst = some ssid) ∨
    (setPass = espOk ∧ (commit = espOk ∨ wifiPair env s = some (ssid, pass.getD [])))

theorem resolved_stored {default value : CString} {capacity : Nat} (h : value.length < capacity) :
    resolved default capacity (some value) = value := by
  simp [resolved, h]

/-- Without later calls the property is about the store the call leaves. -/
theorem keepsPairOnError_iff {env : ConfigEnv} {s : ConfigStore} {ssid : CString}
    {pass : Option CString} {setSsid setPass commit : EspErr}
    (hinit : (systemConfigSetWifi (some ssid) pass setSsid setPass commit s).2.initialized = true) :
    KeepsPairOnError env s ssid pass setSsid setPass commit ↔
      ((systemConfigSetWifi (some ssid) pass setSsid setPass commit s).1 ≠ espOk →
        wifiPair env (systemConfigSetWifi (some ssid) pass setSsid setPass commit s).2 =
          wifiPair env s) := by
  constructor
  · intro h herr
    exact h herr [] (by simp)
  · intro h herr later hlater
    exact (wifiPair_run hinit hlater).trans (h herr)

/-- For every store content, all accepted arguments and every choice of the NVS calls that fail: a
failed `system_config_set_wifi` leaves the resolved credentials as they were, also for later calls
that commit, if and only if nothing was set or what was set is what was resolved before. -/
theorem set_wifi_keeps_pair_iff (env : ConfigEnv) (s : ConfigStore) (hinit : s.initialized = true)
    (ssid : CString) (pass : Option CString) (hargs : WifiArgsOk ssid pass)
    (setSsid setPass commit : EspErr) :
    KeepsPairOnError env s ssid pass setSsid setPass commit ↔
      NothingHalfSet env s ssid pass setSsid setPass commit := by
  have hcall := setWifi_accepted hargs hinit setSsid setPass commit
  have hinit' : (systemConfigSetWifi (some ssid) pass setSsid setPass commit s).2.initialized
      = true := by
    rw [hcall]
    split
    · exact hinit
    · dsimp only
      split <;> exact hinit
  have hssid : resolved env.wifiSsid systemCfgSsidLen (some ssid) = ssid := resolved_stored hargs.1
  have hpass : resolved env.wifiPass systemCfgPassLen (some (pass.getD [])) = pass.getD [] := by
    cases pass with
    | none =>
        exact resolved_stored (by decide)
    | some p =>
        exact resolved_stored (hargs.2 p rfl)
  -- one case for each call that can be the first to fail
  rw [keepsPairOnError_iff hinit', hcall, NothingHalfSet]
  by_cases hsetSsid : setSsid = espOk
  · by_cases hsetPass : setPass = espOk
    · -- both entries are visible, whatever the commit answers
      simp only [hsetSsid, hsetPass, ne_eq, not_true_eq_false, if_false, false_and, false_or,
        true_and]
      rw [wifiPair_eq hinit, wifiPair_eq (by exact hinit)]
      simp [hssid, hpass, eq_comm, or_iff_not_imp_left]
    · -- the new SSID stands beside the old passphrase
      simp only [hsetSsid, hsetPass, ne_eq, not_true_eq_false, not_false_eq_true, if_false, if_true,
        false_or, true_and, false_and, or_false, true_implies]
      rw [wifiPair_eq hinit, wifiPair_eq (by exact hinit)]
      simp [hssid, eq_comm]
  · -- nothing was set
    simp [hsetSsid]

/-- An initialised store with credentials. -/
def homeStore : ConfigStore where
  nvs
    | .wifiSsid => some (ascii "home")
    | .wifiPass => some (ascii "secret")
    | _ => none
  initialized := true
  mutex := true

def blankEnv : ConfigEnv :=
  ⟨[], [], [], #v[0, 0, 0, 0, 0, 0]⟩

/-- The flash is full when the passphrase is set: the error leaves the new SSID beside the old
passphrase, and setting the broker URI then commits that pair. -/
theorem set_wifi_leaves_mixed_pair :
    let called := systemConfigSetWifi (some (ascii "office")) (some (ascii "hunter2")) espOk 0x1105
      espOk homeStore
    let later := [ConfigCall.setBroker (some (ascii "mqtt://broker")) espOk espOk]
    called.1 = 0x1105 ∧
      wifiPair blankEnv homeStore = some (ascii "home", ascii "secret") ∧
      wifiPair blankEnv (run ConfigCall.exec called.2 later) =
        some (ascii "office", ascii "secret") ∧
      ¬ KeepsPairOnError blankEnv homeStore (ascii "office") (some (ascii "hunter2")) espOk 0x1105
        espOk := by
  refine ⟨by decide, by decide, by decide, fun h => ?_⟩
  have hkept := h (by decide) [] (by simp)
  exact absurd hkept (by decide)

/-- A refused SSID on the same store, where both conditions of the equivalence hold. -/
theorem set_wifi_keeps_pair_refused :
    homeStore.initialized = true ∧ WifiArgsOk (ascii "office") (some (ascii "hunter2")) ∧
      (KeepsPairOnError blankEnv homeStore (ascii "office") (some (ascii "hunter2")) 0x1105 espOk
          espOk ↔
        NothingHalfSet blankEnv homeStore (ascii "office") (some (ascii "hunter2")) 0x1105 espOk
          espOk) :=
  ⟨rfl, by decide, set_wifi_keeps_pair_iff blankEnv homeStore rfl (ascii "office")
    (some (ascii "hunter2")) (by decide) 0x1105 espOk espOk⟩

end MainboardFirmware
