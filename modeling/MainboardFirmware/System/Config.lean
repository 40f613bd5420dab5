import MainboardFirmware.Esp.Nvs

/-!
# Config — `firmware/main/system/system_config.c`

The configuration store. Every call takes the answers of the NVS calls it makes; the module mutex is
held from the first to the last of them, so a call is one step.
-/

namespace MainboardFirmware

/-! ## Keys and capacities -/

inductive ConfigKey
  | wifiSsid
  | wifiPass
  | brokerUri
  | deviceId
  deriving DecidableEq, Repr

def systemCfgSsidLen : Nat := 33
def systemCfgPassLen : Nat := 64
def systemCfgUriLen : Nat := 128
def systemCfgIdLen : Nat := 32

/-! ## State -/

/-- What the build and the chip fix: the Kconfig defaults and the factory MAC address. -/
structure ConfigEnv where
  wifiSsid : CString
  wifiPass : CString
  brokerUri : CString
  mac : Vector UInt8 6

/-- `system_config_t` -/
structure SystemConfig where
  wifiSsid : CString
  wifiPass : CString
  brokerUri : CString
  deviceId : CString
  deriving DecidableEq, Repr

structure ConfigStore where
  nvs : Nvs ConfigKey
  initialized : Bool
  mutex : Bool

/-! ## Private helpers -/

/-- `load_str`: its result, and the string it leaves in the `outSz` bytes at `out`. -/
def loadStr (nvs : Nvs ConfigKey) (key : ConfigKey) (default : Option CString) (outSz : Nat)
    (flash : EspErr) : EspErr × CString :=
  match nvsGetStr nvs key outSz flash with
  | .ok value => (espOk, value)
  | .error ret =>
      -- a key that is absent is no error, any other failure is returned with the default in place
      let out := strlcpy (default.getD []) outSz
      if ret = espErrNvsNotFound then (espOk, out) else (ret, out)

/-- `%02x` -/
def hexByte (b : UInt8) : CString :=
  let digit := fun n : UInt8 => if n < 10 then 0x30 + n else 0x57 + n
  [digit (b / 16), digit (b % 16)]

def deriveDeviceId (env : ConfigEnv) (outSz : Nat) : CString :=
  (ascii "flab-" ++ env.mac.toList.flatMap hexByte).take (outSz - 1)

/-! ## Lifecycle -/

/-- `system_config_init`; `created` says whether a mutex could be created, `opened` is the answer of
`nvs_open`. -/
def systemConfigInit (created : Bool) (opened : EspErr) (s : ConfigStore) : EspErr × ConfigStore :=
  if s.mutex = false ∧ created = false then (espErrNoMem, s)
  else if opened ≠ espOk then (opened, { s with mutex := true })
  else (espOk, { s with mutex := true, initialized := true })

/-- `system_config_load` into `out`, which is present or `NULL`. -/
def systemConfigLoad (env : ConfigEnv) (out : Bool) (flash : ConfigKey → EspErr) (s : ConfigStore) :
    EspErr × Option SystemConfig :=
  if out = false then (espErrInvalidArg, none)
  else if s.initialized = false then (espErrInvalidState, none)
  else
    -- the results of the four reads are dropped
    let field := fun key default outSz => (loadStr s.nvs key (some default) outSz (flash key)).2
    let deviceId := field .deviceId [] systemCfgIdLen
    (espOk, some {
      wifiSsid := field .wifiSsid env.wifiSsid systemCfgSsidLen
      wifiPass := field .wifiPass env.wifiPass systemCfgPassLen
      brokerUri := field .brokerUri env.brokerUri systemCfgUriLen
      deviceId := if deviceId.headD 0 = 0 then deriveDeviceId env systemCfgIdLen else deviceId })

/-! ## Runtime provisioning -/

def systemConfigSetWifi (ssid pass : Option CString) (setSsid setPass commit : EspErr)
    (s : ConfigStore) : EspErr × ConfigStore :=
  if s.initialized = false then (espErrInvalidState, s)
  else
    match ssid with
    | none => (espErrInvalidArg, s)
    | some ssid =>
        if systemCfgSsidLen ≤ ssid.length then (espErrInvalidArg, s)
        else if pass.any (fun pass => systemCfgPassLen ≤ pass.length) then (espErrInvalidArg, s)
        else
          let ssidSet := nvsSetStr s.nvs .wifiSsid ssid setSsid
          if ssidSet.1 ≠ espOk then (ssidSet.1, { s with nvs := ssidSet.2 })
          else
            -- the SSID set above stays when this set or the commit fails
            let passSet := nvsSetStr ssidSet.2 .wifiPass (pass.getD []) setPass
            if passSet.1 ≠ espOk then (passSet.1, { s with nvs := passSet.2 })
            else (nvsCommit commit, { s with nvs := passSet.2 })

def systemConfigSetBroker (uri : Option CString) (setUri commit : EspErr) (s : ConfigStore) :
    EspErr × ConfigStore :=
  if s.initialized = false then (espErrInvalidState, s)
  else
    match uri with
    | none => (espErrInvalidArg, s)
    | some uri =>
        if systemCfgUriLen ≤ uri.length then (espErrInvalidArg, s)
        else
          let uriSet := nvsSetStr s.nvs .brokerUri uri setUri
          if uriSet.1 ≠ espOk then (uriSet.1, { s with nvs := uriSet.2 })
          else (nvsCommit commit, { s with nvs := uriSet.2 })

/-- `system_config_get_device_id` into the `len` bytes at `buf`, which is present or `NULL`: its
result, and the string it leaves there. -/
def systemConfigGetDeviceId (env : ConfigEnv) (buf : Bool) (len : Nat) (flash : EspErr)
    (s : ConfigStore) : EspErr × Option CString :=
  if buf = false ∨ len = 0 then (espErrInvalidArg, none)
  else if s.initialized = false then (espErrInvalidState, none)
  else
    let loaded := loadStr s.nvs .deviceId (some []) len flash
    if loaded.1 = espOk ∧ loaded.2.headD 0 = 0 then (loaded.1, some (deriveDeviceId env len))
    else (loaded.1, some loaded.2)

def systemConfigReset (erase commit : EspErr) (s : ConfigStore) : EspErr × ConfigStore :=
  if s.initialized = false then (espErrInvalidState, s)
  else
    let erased := nvsEraseAll s.nvs erase
    if erased.1 ≠ espOk then (erased.1, { s with nvs := erased.2 })
    else (nvsCommit commit, { s with nvs := erased.2 })

/-! ## Calls -/

/-- The calls that change the store, with the answers of the NVS calls they make. -/
inductive ConfigCall
  | init (created : Bool) (opened : EspErr)
  | setWifi (ssid pass : Option CString) (setSsid setPass commit : EspErr)
  | setBroker (uri : Option CString) (setUri commit : EspErr)
  | reset (erase commit : EspErr)
  deriving DecidableEq, Repr

def ConfigCall.exec (s : ConfigStore) : ConfigCall → ConfigStore
  | .init created opened => (systemConfigInit created opened s).2
  | .setWifi ssid pass setSsid setPass commit =>
      (systemConfigSetWifi ssid pass setSsid setPass commit s).2
  | .setBroker uri setUri commit => (systemConfigSetBroker uri setUri commit s).2
  | .reset erase commit => (systemConfigReset erase commit s).2

end MainboardFirmware
