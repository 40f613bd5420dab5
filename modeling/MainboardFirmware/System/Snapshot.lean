import Mathlib.Data.List.TakeDrop
import MainboardFirmware.System.Settings

/-!
# Snapshot — what a load and a look at the device identifier answer when reads fail

`load_str` reports a read that failed and leaves the default in place. `system_config_load` drops all
four reports and returns `ESP_OK`. `system_config_get_device_id` resolves the identifier once more,
into a buffer of any length, and agrees with a load only where that length does not matter.
-/

namespace MainboardFirmware

/-! ## Reads -/

/-- The capacity of the field a key is loaded into. -/
def ConfigKey.capacity : ConfigKey → Nat
  | .wifiSsid => systemCfgSsidLen
  | .wifiPass => systemCfgPassLen
  | .brokerUri => systemCfgUriLen
  | .deviceId => systemCfgIdLen

/-- The compile-time default of a key; the identifier has none. -/
def ConfigEnv.default (env : ConfigEnv) : ConfigKey → CString
  | .wifiSsid => env.wifiSsid
  | .wifiPass => env.wifiPass
  | .brokerUri => env.brokerUri
  | .deviceId => []

def SystemConfig.field (cfg : SystemConfig) : ConfigKey → CString
  | .wifiSsid => cfg.wifiSsid
  | .wifiPass => cfg.wifiPass
  | .brokerUri => cfg.brokerUri
  | .deviceId => cfg.deviceId

/-- What NVS answers to the read of a key in a load. -/
def configRead (s : ConfigStore) (flash : ConfigKey → EspErr) (key : ConfigKey) :
    Except EspErr CString :=
  nvsGetStr s.nvs key key.capacity (flash key)

/-- A key is present and its read fails with this error. -/
def ReadFails (s : ConfigStore) (flash : ConfigKey → EspErr) (key : ConfigKey) (err : EspErr) : Prop :=
  s.nvs key ≠ none ∧ configRead s flash key = .error err

/-- What `load_str` leaves in a field. -/
def loadedField (env : ConfigEnv) (s : ConfigStore) (flash : ConfigKey → EspErr) (key : ConfigKey) :
    CString :=
  match configRead s flash key with
  | .ok value => value
  | .error _ => strlcpy (env.default key) key.capacity

theorem loadStr_out (nvs : Nvs ConfigKey) (key : ConfigKey) (default : CString) (outSz : Nat)
    (flash : EspErr) :
    (loadStr nvs key (some default) outSz flash).2 =
      match nvsGetStr nvs key outSz flash with
      | .ok value => value
      | .error _ => strlcpy default outSz := by
  unfold loadStr
  cases nvsGetStr nvs key outSz flash with
  | ok value =>
      rfl
  | error err =>
      by_cases habsent : err = espErrNvsNotFound
      · simp [habsent]
      · simp [habsent]

theorem nvsGetStr_length {nvs : Nvs ConfigKey} {key : ConfigKey} {length : Nat} {flash : EspErr}
    {value : CString} (h : nvsGetStr nvs key length flash = .ok value) : value.length < length := by
  unfold nvsGetStr at h
  split at h
  · exact absurd h (by simp)
  split at h
  · exact absurd h (by simp)
  · split at h
    · rename_i hfits
      rw [← Except.ok.inj h]
      exact hfits
    · exact absurd h (by simp)

/-- No field is filled to its end. -/
theorem loadedField_length (env : ConfigEnv) (s : ConfigStore) (flash : ConfigKey → EspErr)
    (key : ConfigKey) : (loadedField env s flash key).length < key.capacity := by
  have hpos : 0 < key.capacity := by
    cases key <;> decide
  unfold loadedField
  split
  · rename_i value hread
    exact nvsGetStr_length hread
  · simp only [strlcpy, List.length_take]
    omega

/-! ## The identifier -/

/-- The derived identifier before it is cut. -/
theorem derivedId_length (env : ConfigEnv) :
    (ascii "flab-" ++ env.mac.toList.flatMap hexByte).length = 17 := by
  have hbyte : ∀ b : UInt8, (hexByte b).length = 2 := fun _ => rfl
  have hprefix : (ascii "flab-").length = 5 := by
    decide
  simp [List.length_append, List.length_flatMap, hbyte, hprefix]

/-- It begins with a letter wherever there is room for one. -/
theorem deriveDeviceId_headD (env : ConfigEnv) {outSz : Nat} (h : 2 ≤ outSz) :
    (deriveDeviceId env outSz).headD 0 ≠ 0 := by
  have hhead : (ascii "flab-").headD 0 = 0x66 := by
    decide
  rcases Nat.exists_eq_add_of_le h with ⟨k, rfl⟩
  have hcut : 2 + k - 1 = k + 1 := by
    omega
  rw [deriveDeviceId, hcut]
  show (List.take (k + 1) (0x66 :: _)).headD 0 ≠ 0
  simp

theorem deriveDeviceId_length (env : ConfigEnv) :
    (deriveDeviceId env systemCfgIdLen).length = 17 := by
  rw [deriveDeviceId, List.length_take, derivedId_length]
  rfl

/-- A buffer holds the derived identifier whole from 18 bytes on. -/
theorem deriveDeviceId_whole_iff (env : ConfigEnv) {len : Nat} (hlen : 0 < len) :
    deriveDeviceId env len = deriveDeviceId env systemCfgIdLen ↔ 18 ≤ len := by
  constructor
  · intro heq
    have hlength := congrArg List.length heq
    rw [deriveDeviceId_length, deriveDeviceId, List.length_take, derivedId_length] at hlength
    omega
  · intro h
    have hwhole : ∀ size, 18 ≤ size →
        deriveDeviceId env size = ascii "flab-" ++ env.mac.toList.flatMap hexByte := by
      intro size hsize
      apply List.take_of_length_le
      rw [derivedId_length]
      omega
    exact (hwhole len h).trans (hwhole systemCfgIdLen (by decide)).symm

/-! ## Loads -/

/-- What a load of an initialised store answers and fills in, whatever the reads answer. -/
theorem load_eq (env : ConfigEnv) {s : ConfigStore} (hinit : s.initialized = true)
    (flash : ConfigKey → EspErr) :
    systemConfigLoad env true flash s = (espOk, some {
      wifiSsid := loadedField env s flash .wifiSsid
      wifiPass := loadedField env s flash .wifiPass
      brokerUri := loadedField env s flash .brokerUri
      deviceId :=
        if (loadedField env s flash .deviceId).headD 0 = 0 then deriveDeviceId env systemCfgIdLen
        else loadedField env s flash .deviceId }) := by
  simp only [systemConfigLoad, hinit, loadStr_out, reduceCtorEq, if_false]
  rfl

/-- What a load owes its caller: fields that end within their capacities and hold what is stored or the
default, an identifier, and a result that tells of the reads that failed. -/
structure LoadContract (env : ConfigEnv) (s : ConfigStore) (flash : ConfigKey → EspErr)
    (ret : EspErr) (cfg : SystemConfig) : Prop where
  terminated : ∀ key, (cfg.field key).length < key.capacity
  resolved : ∀ key, key ≠ .deviceId → cfg.field key =
    match configRead s flash key with
    | .ok value => value
    | .error _ => env.default key
  identified : cfg.deviceId.headD 0 ≠ 0
  ok_iff : ret = espOk ↔ ∀ key err, ¬ReadFails s flash key err
  reported : ret ≠ espOk → ∃ key, ReadFails s flash key ret

/-- The defaults that take the place of a value fit their fields. -/
def DefaultsInUseFit (env : ConfigEnv) (s : ConfigStore) (flash : ConfigKey → EspErr) : Prop :=
  ∀ key err, configRead s flash key = .error err → (env.default key).length < key.capacity

theorem loadedField_eq_iff (env : ConfigEnv) (s : ConfigStore) (flash : ConfigKey → EspErr)
    (key : ConfigKey) :
    (loadedField env s flash key =
      match configRead s flash key with
      | .ok value => value
      | .error _ => env.default key) ↔
      ∀ err, configRead s flash key = .error err → (env.default key).length < key.capacity := by
  have hpos : 0 < key.capacity := by
    cases key <;> decide
  unfold loadedField
  cases configRead s flash key with
  | ok value =>
      simp
  | error err =>
      have hcut : strlcpy (env.default key) key.capacity = env.default key ↔
          (env.default key).length ≤ key.capacity - 1 := by
        exact List.take_eq_self_iff _
      simp only [hcut, Except.error.injEq]
      constructor
      · intro hle _ _
        omega
      · intro hlt
        have hfits := hlt err rfl
        omega

/-- The fields of a load, one after the other. -/
theorem loaded_field (env : ConfigEnv) (s : ConfigStore) (flash : ConfigKey → EspErr)
    (deviceId : CString) {key : ConfigKey} (hkey : key ≠ .deviceId) :
    (SystemConfig.mk (loadedField env s flash .wifiSsid) (loadedField env s flash .wifiPass)
      (loadedField env s flash .brokerUri) deviceId).field key = loadedField env s flash key := by
  cases key with
  | wifiSsid =>
      rfl
  | wifiPass =>
      rfl
  | brokerUri =>
      rfl
  | deviceId =>
      exact absurd rfl hkey

/-- What holds of every load, however its reads end. -/
theorem loaded_deviceId (env : ConfigEnv) (s : ConfigStore) (flash : ConfigKey → EspErr) :
    let id := if (loadedField env s flash .deviceId).headD 0 = 0 then
        deriveDeviceId env systemCfgIdLen
      else loadedField env s flash .deviceId
    id.headD 0 ≠ 0 ∧ id.length < systemCfgIdLen := by
  intro id
  by_cases hempty : (loadedField env s flash .deviceId).headD 0 = 0
  · have hid : id = deriveDeviceId env systemCfgIdLen := if_pos hempty
    rw [hid, deriveDeviceId_length]
    exact ⟨deriveDeviceId_headD env (by decide), by decide⟩
  · have hid : id = loadedField env s flash .deviceId := if_neg hempty
    rw [hid]
    exact ⟨hempty, loadedField_length env s flash .deviceId⟩

/-- For every content of NVS and all answers to the four reads: a load keeps its contract if and only if
no key that is present fails to read, and the defaults it falls back on fit. -/
theorem load_contract_iff (env : ConfigEnv) (s : ConfigStore) (hinit : s.initialized = true)
    (flash : ConfigKey → EspErr) :
    (∃ cfg, (systemConfigLoad env true flash s).2 = some cfg ∧
        LoadContract env s flash (systemConfigLoad env true flash s).1 cfg) ↔
      (∀ key err, ¬ReadFails s flash key err) ∧ DefaultsInUseFit env s flash := by
  rw [load_eq env hinit flash]
  rcases loaded_deviceId env s flash with ⟨hhead, hlength⟩
  constructor
  · rintro ⟨cfg, hcfg, hcontract⟩
    refine ⟨hcontract.ok_iff.1 rfl, ?_⟩
    intro key err hread
    by_cases hkey : key = .deviceId
    · rw [hkey]
      exact Nat.succ_pos 31
    · have hfield := hcontract.resolved key hkey
      rw [← Option.some.inj hcfg, loaded_field env s flash _ hkey] at hfield
      exact (loadedField_eq_iff env s flash key).1 hfield err hread
  · rintro ⟨hreads, hdefaults⟩
    refine ⟨_, rfl, ?_⟩
    constructor
    · intro key
      by_cases hkey : key = .deviceId
      · rw [hkey]
        exact hlength
      · rw [loaded_field env s flash _ hkey]
        exact loadedField_length env s flash key
    · intro key hkey
      rw [loaded_field env s flash _ hkey]
      exact (loadedField_eq_iff env s flash key).2 (hdefaults key)
    · exact hhead
    · exact ⟨fun _ => hreads, fun _ => rfl⟩
    · intro hret
      exact absurd rfl hret

/-- The SSID is stored and the flash refuses to read it: the load returns `ESP_OK` with the default. -/
theorem load_swallows_read_error :
    let flash : ConfigKey → EspErr := fun key => if key = .wifiSsid then espFail else espOk
    ReadFails homeStore flash .wifiSsid espFail ∧
      (systemConfigLoad blankEnv true flash homeStore).1 = espOk ∧
      (systemConfigLoad blankEnv true flash homeStore).2.map SystemConfig.wifiSsid = some [] ∧
      ¬∃ cfg, (systemConfigLoad blankEnv true flash homeStore).2 = some cfg ∧
        LoadContract blankEnv homeStore flash (systemConfigLoad blankEnv true flash homeStore).1
          cfg := by
  intro flash
  have hfails : ReadFails homeStore flash .wifiSsid espFail :=
    ⟨by decide, by rfl⟩
  have hret : (systemConfigLoad blankEnv true flash homeStore).1 = espOk := by
    decide
  refine ⟨hfails, hret, by decide, ?_⟩
  rintro ⟨cfg, _, hcontract⟩
  exact hcontract.ok_iff.1 hret .wifiSsid espFail hfails

/-- The same store with a flash that reads. -/
theorem load_contract_iff_home :
    homeStore.initialized = true ∧
      ((∃ cfg, (systemConfigLoad blankEnv true (fun _ => espOk) homeStore).2 = some cfg ∧
        LoadContract blankEnv homeStore (fun _ => espOk)
          (systemConfigLoad blankEnv true (fun _ => espOk) homeStore).1 cfg) ↔
        (∀ key err, ¬ReadFails homeStore (fun _ => espOk) key err) ∧
          DefaultsInUseFit blankEnv homeStore fun _ => espOk) :=
  ⟨rfl, load_contract_iff blankEnv homeStore rfl fun _ => espOk⟩

/-! ## The identifier on its own -/

/-- `system_config_get_device_id` into `len` bytes gives what a load in the same state resolves, whenever
it returns `ESP_OK`. -/
def SameIdentity (env : ConfigEnv) (s : ConfigStore) (flash : ConfigKey → EspErr) (len : Nat) :
    Prop :=
  let got := systemConfigGetDeviceId env true len (flash .deviceId) s
  got.1 = espOk → got.2 = (systemConfigLoad env true flash s).2.map SystemConfig.deviceId

/-- The length of the buffer does not matter: a derived identifier fits it, and a stored one fits the
field of a load, too, or not even the buffer. -/
def LengthImmaterial (stored : Option CString) (answer : EspErr) (len : Nat) : Prop :=
  if answer = espOk then
    match stored with
    | none => 18 ≤ len
    | some id =>
        id.length < len → if id.headD 0 = 0 then 18 ≤ len else id.length < systemCfgIdLen
  else
    answer = espErrNvsNotFound → 18 ≤ len

/-- What is resolved in a state. -/
theorem load_deviceId (env : ConfigEnv) {s : ConfigStore} (hinit : s.initialized = true)
    (flash : ConfigKey → EspErr) :
    (systemConfigLoad env true flash s).2.map SystemConfig.deviceId =
      some (if (loadedField env s flash .deviceId).headD 0 = 0 then
          deriveDeviceId env systemCfgIdLen
        else loadedField env s flash .deviceId) := by
  rw [load_eq env hinit flash]
  rfl

/-- The read of the identifier into any number of bytes, by what is stored and answered. -/
theorem loadStr_deviceId (nvs : Nvs ConfigKey) (len : Nat) (answer : EspErr) :
    loadStr nvs .deviceId (some []) len answer =
      if answer = espOk then
        match nvs .deviceId with
        | none => (espOk, [])
        | some id => if id.length < len then (espOk, id) else (espErrNvsInvalidLength, [])
      else
        (if answer = espErrNvsNotFound then espOk else answer, []) := by
  have hdefault : strlcpy [] len = [] := List.take_nil
  by_cases hok : answer = espOk
  · cases hstored : nvs .deviceId with
    | none =>
        simp [loadStr, nvsGetStr, hok, hstored, hdefault]
    | some id =>
        have hlength : espErrNvsInvalidLength ≠ espErrNvsNotFound := by
          decide
        by_cases hfits : id.length < len
        · simp [loadStr, nvsGetStr, hok, hstored, hfits]
        · simp [loadStr, nvsGetStr, hok, hstored, hfits, hlength, hdefault]
  · by_cases habsent : answer = espErrNvsNotFound
    · have hflash : espErrNvsNotFound ≠ espOk := by
        decide
      simp [loadStr, nvsGetStr, habsent, hflash, hdefault]
    · simp [loadStr, nvsGetStr, hok, habsent, hdefault]

theorem getDeviceId_eq (env : ConfigEnv) {s : ConfigStore} (hinit : s.initialized = true)
    {len : Nat} (hlen : 1 ≤ len) (answer : EspErr) :
    systemConfigGetDeviceId env true len answer s =
      let loaded := loadStr s.nvs .deviceId (some []) len answer
      if loaded.1 = espOk ∧ loaded.2.headD 0 = 0 then (loaded.1, some (deriveDeviceId env len))
      else (loaded.1, some loaded.2) := by
  have hnonzero : len ≠ 0 := Nat.one_le_iff_ne_zero.1 hlen
  simp [systemConfigGetDeviceId, hinit, hnonzero]

/-- A stored identifier that is read whole, next to what a load makes of it. -/
theorem stored_id_agrees_iff (env : ConfigEnv) {len : Nat} (hlen : 1 ≤ len) (id : CString) :
    let field := if id.length < systemCfgIdLen then id else []
    (if id.headD 0 = 0 then some (deriveDeviceId env len) else some id) =
        some (if field.headD 0 = 0 then deriveDeviceId env systemCfgIdLen else field) ↔
      if id.headD 0 = 0 then 18 ≤ len else id.length < systemCfgIdLen := by
  intro field
  by_cases hempty : id.headD 0 = 0
  · -- an empty entry makes both derive
    have hfield : field.headD 0 = 0 := by
      unfold field
      split
      · exact hempty
      · rfl
    rw [if_pos hempty, if_pos hempty, if_pos hfield, Option.some_inj]
    exact deriveDeviceId_whole_iff env hlen
  · rw [if_neg hempty, if_neg hempty]
    by_cases hshort : id.length < systemCfgIdLen
    · have hfield : field = id := if_pos hshort
      rw [hfield, if_neg hempty]
      exact iff_of_true rfl hshort
    · -- too long for the field of a load, which derives one of 17 bytes
      have hfield : field = [] := if_neg hshort
      rw [hfield]
      refine iff_of_false ?_ hshort
      intro heq
      have hlength : id.length = 17 :=
        (congrArg List.length (Option.some.inj heq)).trans (deriveDeviceId_length env)
      exact hshort (hlength ▸ by decide)

/-- For every stored identifier or none, every answer to its read and every length: the two functions
agree on the identifier if and only if the length does not matter. -/
theorem device_id_matches_load_iff (env : ConfigEnv) (s : ConfigStore) (flash : ConfigKey → EspErr)
    (len : Nat) (hlen : 1 ≤ len) :
    SameIdentity env s flash len ↔
      (s.initialized = true → LengthImmaterial (s.nvs .deviceId) (flash .deviceId) len) := by
  have hderived := deriveDeviceId_whole_iff env hlen
  cases hinit : s.initialized with
  | false =>
      -- the call is refused, so there is nothing to agree on
      have hrefused : (systemConfigGetDeviceId env true len (flash .deviceId) s).1 ≠ espOk := by
        have hnonzero : len ≠ 0 := Nat.one_le_iff_ne_zero.1 hlen
        simp [systemConfigGetDeviceId, hinit, hnonzero]
      exact ⟨fun _ h => absurd h (by simp), fun _ h => absurd h hrefused⟩
  | true =>
      have hload := load_deviceId env hinit flash
      have hfield : loadedField env s flash .deviceId =
          (loadStr s.nvs .deviceId (some []) systemCfgIdLen (flash .deviceId)).2 :=
        (loadStr_out s.nvs .deviceId [] systemCfgIdLen (flash .deviceId)).symm
      rw [hfield] at hload
      simp only [SameIdentity, hload, getDeviceId_eq env hinit hlen, loadStr_deviceId,
        LengthImmaterial, true_implies]
      by_cases hok : flash .deviceId = espOk
      · cases hstored : s.nvs .deviceId with
        | none =>
            simpa [hok] using hderived
        | some id =>
            by_cases hfits : id.length < len
            · simpa [-List.headD_eq_head?_getD, hok, hfits, apply_ite Prod.fst, apply_ite Prod.snd]
                using stored_id_agrees_iff env hlen id
            · have hlength : espErrNvsInvalidLength ≠ espOk := by
                decide
              simp [hok, hfits, hlength]
      · by_cases habsent : flash .deviceId = espErrNvsNotFound
        · have hflash : espErrNvsNotFound ≠ espOk := by
            decide
          simpa [habsent, hflash] using hderived
        · simp [hok, habsent]

/-- Without an entry a buffer of 16 bytes gets a cut identifier, and an entry of 40 bytes is given to a
buffer of 64 while a load derives another one. Both calls return `ESP_OK`. -/
theorem two_identities_at_once :
    let stored : Option CString → ConfigStore := fun id =>
      ⟨fun key => if key = .deviceId then id else none, true, true⟩
    let flash : ConfigKey → EspErr := fun _ => espOk
    let long := List.replicate 40 0x61
    (systemConfigGetDeviceId blankEnv true 16 espOk (stored none) =
        (espOk, some (ascii "flab-0000000000")) ∧
      ¬SameIdentity blankEnv (stored none) flash 16) ∧
    (systemConfigGetDeviceId blankEnv true 64 espOk (stored (some long)) = (espOk, some long) ∧
      ¬SameIdentity blankEnv (stored (some long)) flash 64) := by
  intro stored flash long
  refine ⟨⟨by decide, ?_⟩, by decide, ?_⟩
  · intro hsame
    exact absurd (hsame (by decide)) (by decide)
  · intro hsame
    exact absurd (hsame (by decide)) (by decide)

/-- The longest identifier a load takes, in the smallest buffer that holds it. -/
theorem device_id_matches_load_iff_longest :
    let s : ConfigStore := ⟨fun _ => some (List.replicate 31 0x61), true, true⟩
    1 ≤ 32 ∧ (SameIdentity blankEnv s (fun _ => espOk) 32 ↔
      (s.initialized = true → LengthImmaterial (s.nvs .deviceId) espOk 32)) :=
  ⟨by decide, device_id_matches_load_iff blankEnv _ (fun _ => espOk) 32 (by decide)⟩

end MainboardFirmware
