import MainboardFirmware.System.Ota

/-!
# Boot — `app_main` of `firmware/main/main.c`

The ten steps of a boot as far as they can fail: each call that `app_main` checks, in its order, with
what it answers as an input. The boot ends in the task spawn, in an `abort` or in an `esp_restart`;
on the way, step [4] may confirm the running image.
-/

namespace MainboardFirmware

/-- What the calls of one boot answer. -/
structure BootAnswers where
  nvsFlashInit : EspErr
  nvsFlashErase : EspErr
  /-- the second `nvs_flash_init` -/
  nvsFlashReinit : EspErr
  systemLogInit : EspErr
  systemConfigInit : EspErr
  systemConfigLoad : EspErr
  ota : OtaAnswers
  i2cBusInit : EspErr
  /-- the three `xQueueCreate` do not return `NULL` -/
  queueDisplay : Bool
  queueActuator : Bool
  queueComm : Bool
  sensorInit : EspErr
  actuatorInit : EspErr
  statusLedInit : EspErr
  displayInit : EspErr
  /-- `none` if one of the checks inside `network_manager_init` aborts -/
  transportInit : Option EspErr
  registerSink : EspErr
  supervisorInit : EspErr
  deriving DecidableEq, Repr

/-- How a boot ends that does not get to its task spawn. -/
inductive BootFailure
  | abort
  | restart
  deriving DecidableEq, Repr

/-- `ESP_ERROR_CHECK` -/
def espErrorCheck (ret : EspErr) : Except BootFailure Unit :=
  if ret = espOk then .ok () else .error .abort

/-! ## Steps -/

/-- [1] NVS -/
def bootNvs (env : BootAnswers) : Except BootFailure Unit := do
  if env.nvsFlashInit = espErrNvsNoFreePages ∨ env.nvsFlashInit = espErrNvsNewVersionFound then
    espErrorCheck env.nvsFlashErase
    espErrorCheck env.nvsFlashReinit
  else
    espErrorCheck env.nvsFlashInit

/-- [2] System log, [3] System config -/
def bootServices (env : BootAnswers) : Except BootFailure Unit := do
  espErrorCheck env.systemLogInit
  espErrorCheck env.systemConfigInit
  espErrorCheck env.systemConfigLoad

/-- [4] OTA rollback check: the state of the running image behind it. -/
def bootOtaCheck (env : BootAnswers) (state : OtaImgState) : OtaImgState :=
  if systemOtaPendingVerify env.ota state then (systemOtaMarkValid env.ota state).2 else state

/-- [5] I2C bus, [6] queue allocation; what the scan finds is not looked at. -/
def bootBus (env : BootAnswers) : Except BootFailure Unit := do
  espErrorCheck env.i2cBusInit
  if env.queueDisplay = false ∨ env.queueActuator = false ∨ env.queueComm = false then
    throw .restart

/-- [7] Driver init -/
def bootDrivers (env : BootAnswers) : Except BootFailure Unit := do
  espErrorCheck env.sensorInit
  espErrorCheck env.actuatorInit
  espErrorCheck env.statusLedInit
  espErrorCheck env.displayInit

/-- [8] Transport, [9] system supervisor -/
def bootNetwork (env : BootAnswers) : Except BootFailure Unit := do
  match env.transportInit with
  | none => throw .abort
  | some ret => espErrorCheck ret
  espErrorCheck env.registerSink
  espErrorCheck env.supervisorInit

/-- `app_main` on a running image in `state`: how it ends, `.ok ()` being the task spawn, and the state
it leaves the image in. -/
def appMain (env : BootAnswers) (state : OtaImgState) : Except BootFailure Unit × OtaImgState :=
  match bootNvs env >>= fun _ => bootServices env with
  | .error failure => (.error failure, state)
  | .ok () =>
      -- confirmed here, or not at all in this boot
      let state := bootOtaCheck env state
      (bootBus env >>= fun _ => bootDrivers env >>= fun _ => bootNetwork env, state)

/-! ## Which steps succeed -/

/-- Steps [1] to [3] succeed. -/
def BootAnswers.ServicesUp (env : BootAnswers) : Prop :=
  (if env.nvsFlashInit = espErrNvsNoFreePages ∨ env.nvsFlashInit = espErrNvsNewVersionFound then
    env.nvsFlashErase = espOk ∧ env.nvsFlashReinit = espOk
  else env.nvsFlashInit = espOk) ∧
    env.systemLogInit = espOk ∧ env.systemConfigInit = espOk ∧ env.systemConfigLoad = espOk

/-- Steps [5] to [9] succeed. -/
def BootAnswers.DevicesUp (env : BootAnswers) : Prop :=
  (env.i2cBusInit = espOk ∧
    env.queueDisplay = true ∧ env.queueActuator = true ∧ env.queueComm = true) ∧
  (env.sensorInit = espOk ∧ env.actuatorInit = espOk ∧ env.statusLedInit = espOk ∧
    env.displayInit = espOk) ∧
  env.transportInit = some espOk ∧ env.registerSink = espOk ∧ env.supervisorInit = espOk

instance (env : BootAnswers) : Decidable env.ServicesUp := by
  unfold BootAnswers.ServicesUp
  infer_instance

instance (env : BootAnswers) : Decidable env.DevicesUp := by
  unfold BootAnswers.DevicesUp
  infer_instance

/-- Step [4] is reached with an image that waits for its confirmation, and the OTA data can be read and
written. -/
def BootAnswers.Confirms (env : BootAnswers) (state : OtaImgState) : Prop :=
  state = .pendingVerify ∧ env.ServicesUp ∧ env.ota.Ok

instance (env : BootAnswers) (state : OtaImgState) : Decidable (env.Confirms state) :=
  inferInstanceAs (Decidable (_ ∧ _ ∧ _))

theorem bind_eq_ok_iff {step : Except BootFailure Unit} {rest : Unit → Except BootFailure Unit} :
    step >>= rest = .ok () ↔ step = .ok () ∧ rest () = .ok () := by
  cases step with
  | error failure =>
      simp [bind, Except.bind]
  | ok u =>
      simp [bind, Except.bind]

@[simp] theorem espErrorCheck_eq_ok_iff {ret : EspErr} :
    espErrorCheck ret = .ok () ↔ ret = espOk := by
  unfold espErrorCheck
  by_cases hret : ret = espOk
  · simp [hret]
  · simp [hret]

theorem bootNvs_eq_ok_iff (env : BootAnswers) :
    bootNvs env = .ok () ↔
      if env.nvsFlashInit = espErrNvsNoFreePages ∨ env.nvsFlashInit = espErrNvsNewVersionFound then
        env.nvsFlashErase = espOk ∧ env.nvsFlashReinit = espOk
      else env.nvsFlashInit = espOk := by
  unfold bootNvs
  split
  · rw [bind_eq_ok_iff, espErrorCheck_eq_ok_iff, espErrorCheck_eq_ok_iff]
  · rw [espErrorCheck_eq_ok_iff]

theorem bootServices_eq_ok_iff (env : BootAnswers) :
    bootServices env = .ok () ↔
      env.systemLogInit = espOk ∧ env.systemConfigInit = espOk ∧ env.systemConfigLoad = espOk := by
  simp only [bootServices, bind_eq_ok_iff, espErrorCheck_eq_ok_iff]

theorem servicesUp_iff (env : BootAnswers) :
    (bootNvs env >>= fun _ => bootServices env) = .ok () ↔ env.ServicesUp := by
  rw [bind_eq_ok_iff, bootNvs_eq_ok_iff, bootServices_eq_ok_iff]
  rfl

theorem bootBus_eq_ok_iff (env : BootAnswers) :
    bootBus env = .ok () ↔ env.i2cBusInit = espOk ∧
      env.queueDisplay = true ∧ env.queueActuator = true ∧ env.queueComm = true := by
  unfold bootBus
  rw [bind_eq_ok_iff, espErrorCheck_eq_ok_iff]
  refine and_congr_right fun _ => ?_
  cases env.queueDisplay <;> cases env.queueActuator <;> cases env.queueComm <;>
    simp [throw, throwThe, MonadExceptOf.throw, pure, Except.pure]

theorem bootDrivers_eq_ok_iff (env : BootAnswers) :
    bootDrivers env = .ok () ↔ env.sensorInit = espOk ∧ env.actuatorInit = espOk ∧
      env.statusLedInit = espOk ∧ env.displayInit = espOk := by
  simp only [bootDrivers, bind_eq_ok_iff, espErrorCheck_eq_ok_iff]

theorem bootNetwork_eq_ok_iff (env : BootAnswers) :
    bootNetwork env = .ok () ↔ env.transportInit = some espOk ∧ env.registerSink = espOk ∧
      env.supervisorInit = espOk := by
  unfold bootNetwork
  cases env.transportInit with
  | none =>
      simp [throw, throwThe, MonadExceptOf.throw, bind, Except.bind]
  | some ret =>
      simp only [bind_eq_ok_iff, espErrorCheck_eq_ok_iff, Option.some_inj]

theorem devicesUp_iff (env : BootAnswers) :
    (bootBus env >>= fun _ => bootDrivers env >>= fun _ => bootNetwork env) = .ok () ↔
      env.DevicesUp := by
  rw [bind_eq_ok_iff, bind_eq_ok_iff, bootBus_eq_ok_iff, bootDrivers_eq_ok_iff,
    bootNetwork_eq_ok_iff]
  rfl

/-- The tasks are spawned exactly if all steps succeed. -/
theorem appMain_spawns_iff (env : BootAnswers) (state : OtaImgState) :
    (appMain env state).1 = .ok () ↔ env.ServicesUp ∧ env.DevicesUp := by
  rw [← servicesUp_iff, ← devicesUp_iff]
  unfold appMain
  cases hservices : bootNvs env >>= fun _ => bootServices env with
  | error failure =>
      simp
  | ok u =>
      simp

theorem bootOtaCheck_eq (env : BootAnswers) (state : OtaImgState) :
    bootOtaCheck env state = if state = .pendingVerify ∧ env.ota.Ok then .valid else state := by
  unfold bootOtaCheck systemOtaMarkValid OtaAnswers.Ok
  simp only [pendingVerify_eq_true_iff]
  by_cases hpending : state = .pendingVerify
  · by_cases hread : env.ota.runningPartition = true ∧ env.ota.getState = espOk
    · by_cases hmark : env.ota.markValid = espOk <;> simp [hpending, hread, hmark]
    · rw [if_neg fun h => hread ⟨h.1, h.2.1⟩, if_neg fun h => hread ⟨h.2.1, h.2.2.1⟩]
  · rw [if_neg fun h => hpending h.2.2, if_neg fun h => hpending h.1]

/-- Nothing in a boot but the check of step [4] touches the state of the image. -/
theorem appMain_state (env : BootAnswers) (state : OtaImgState) :
    (appMain env state).2 = if env.Confirms state then .valid else state := by
  unfold appMain
  cases hservices : bootNvs env >>= fun _ => bootServices env with
  | error failure =>
      have hdown : ¬env.ServicesUp := by
        intro hup
        rw [(servicesUp_iff env).2 hup] at hservices
        cases hservices
      have hleft : ¬env.Confirms state := fun h => hdown h.2.1
      rw [if_neg hleft]
  | ok u =>
      have hup : env.ServicesUp := (servicesUp_iff env).1 hservices
      dsimp only
      rw [bootOtaCheck_eq]
      by_cases hconfirms : env.Confirms state
      · rw [if_pos hconfirms, if_pos ⟨hconfirms.1, hconfirms.2.2⟩]
      · rw [if_neg hconfirms, if_neg fun h => hconfirms ⟨h.1, hup, h.2⟩]

end MainboardFirmware
