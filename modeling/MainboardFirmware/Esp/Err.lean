import Mathlib.Data.Int.Basic

/-!
# Err — `esp_err_t`

`esp_err_t` is a plain integer: the firmware compares it with a handful of named codes and
otherwise passes it through, so any integer can come back from ESP-IDF.
-/

namespace MainboardFirmware

abbrev EspErr := Int

def espOk : EspErr := 0
def espFail : EspErr := -1
def espErrNoMem : EspErr := 0x101
def espErrInvalidArg : EspErr := 0x102
def espErrInvalidState : EspErr := 0x103
def espErrTimeout : EspErr := 0x107
def espErrNvsNotFound : EspErr := 0x1102
def espErrNvsInvalidLength : EspErr := 0x110c
def espErrNvsNoFreePages : EspErr := 0x110d
def espErrNvsNewVersionFound : EspErr := 0x1110

@[simp] theorem espErrNoMem_ne_ok : espErrNoMem ≠ espOk := by decide

@[simp] theorem espErrInvalidArg_ne_ok : espErrInvalidArg ≠ espOk := by decide

@[simp] theorem espErrInvalidState_ne_ok : espErrInvalidState ≠ espOk := by decide

@[simp] theorem espErrTimeout_ne_ok : espErrTimeout ≠ espOk := by decide

end MainboardFirmware
