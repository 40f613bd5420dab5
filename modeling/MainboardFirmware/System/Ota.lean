import MainboardFirmware.Esp.Err

/-!
# Ota — `firmware/main/system/system_ota.c`, rollback management

Whether the running image still waits for its confirmation, and the confirmation itself. Both go
through the OTA data of ESP-IDF, of which this module sees the state of the running image.
-/

namespace MainboardFirmware

/-- `esp_ota_img_states_t` -/
inductive OtaImgState
  | new
  | pendingVerify
  | valid
  | invalid
  | aborted
  | undefined
  deriving DecidableEq, Repr

/-- What the `esp_ota_*` calls of one boot answer; the states they read and write are not in here. -/
structure OtaAnswers where
  /-- `esp_ota_get_running_partition` does not return `NULL` -/
  runningPartition : Bool
  getState : EspErr
  markValid : EspErr
  deriving DecidableEq, Repr

/-- `system_ota_pending_verify`; `state` is the state of the running image. -/
def systemOtaPendingVerify (ota : OtaAnswers) (state : OtaImgState) : Bool :=
  if ota.runningPartition = false then false
  else if ota.getState ≠ espOk then false
  else state = .pendingVerify

/-- `system_ota_mark_valid`: its result, and the state it leaves the running image in. -/
def systemOtaMarkValid (ota : OtaAnswers) (state : OtaImgState) : EspErr × OtaImgState :=
  (ota.markValid, if ota.markValid = espOk then .valid else state)

/-- The three calls all answer well. -/
def OtaAnswers.Ok (ota : OtaAnswers) : Prop :=
  ota.runningPartition = true ∧ ota.getState = espOk ∧ ota.markValid = espOk

instance (ota : OtaAnswers) : Decidable ota.Ok :=
  inferInstanceAs (Decidable (_ ∧ _ ∧ _))

theorem pendingVerify_eq_true_iff (ota : OtaAnswers) (state : OtaImgState) :
    systemOtaPendingVerify ota state = true ↔
      ota.runningPartition = true ∧ ota.getState = espOk ∧ state = .pendingVerify := by
  unfold systemOtaPendingVerify
  cases ota.runningPartition with
  | false =>
      simp
  | true =>
      by_cases hget : ota.getState = espOk
      · simp [hget]
      · simp [hget]

end MainboardFirmware
