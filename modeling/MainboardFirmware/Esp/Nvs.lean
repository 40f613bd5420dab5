import Mathlib.Logic.Function.Basic
import MainboardFirmware.Esp.CString
import MainboardFirmware.Esp.Err

/-!
# Nvs — the string entries of an open NVS namespace

A namespace maps its keys to the strings stored under them. Every call takes the answer of the flash
underneath: a set or an erase that it refuses changes nothing, one that it accepts is visible to the
reads through the same handle at once, before the commit.
-/

namespace MainboardFirmware

variable {κ : Type*}

abbrev Nvs (κ : Type*) := κ → Option CString

/-- `nvs_get_str` into a buffer of `length` bytes, terminator included. -/
def nvsGetStr (nvs : Nvs κ) (key : κ) (length : Nat) (flash : EspErr) : Except EspErr CString :=
  if flash ≠ espOk then .error flash
  else
    match nvs key with
    | none => .error espErrNvsNotFound
    | some value => if value.length < length then .ok value else .error espErrNvsInvalidLength

def nvsSetStr [DecidableEq κ] (nvs : Nvs κ) (key : κ) (value : CString) (flash : EspErr) :
    EspErr × Nvs κ :=
  if flash ≠ espOk then (flash, nvs) else (espOk, Function.update nvs key (some value))

def nvsEraseAll (nvs : Nvs κ) (flash : EspErr) : EspErr × Nvs κ :=
  if flash ≠ espOk then (flash, nvs) else (espOk, fun _ => none)

/-- `nvs_commit` makes the entries durable; what the handle reads stays the same. -/
def nvsCommit (flash : EspErr) : EspErr :=
  flash

/-! ## Results -/

/-- A set returns the answer of the flash. -/
@[simp] theorem nvsSetStr_fst [DecidableEq κ] (nvs : Nvs κ) (key : κ) (value : CString)
    (flash : EspErr) : (nvsSetStr nvs key value flash).1 = flash := by
  by_cases h : flash = espOk
  · simp [nvsSetStr, h]
  · simp [nvsSetStr, h]

theorem nvsSetStr_accepted [DecidableEq κ] (nvs : Nvs κ) (key : κ) (value : CString) :
    (nvsSetStr nvs key value espOk).2 = Function.update nvs key (some value) := by
  simp [nvsSetStr]

theorem nvsSetStr_refused [DecidableEq κ] (nvs : Nvs κ) (key : κ) (value : CString)
    {flash : EspErr} (h : flash ≠ espOk) : (nvsSetStr nvs key value flash).2 = nvs := by
  simp [nvsSetStr, h]

/-- A set leaves the other keys alone. -/
theorem nvsSetStr_other [DecidableEq κ] (nvs : Nvs κ) {key other : κ} (hother : other ≠ key)
    (value : CString) (flash : EspErr) : (nvsSetStr nvs key value flash).2 other = nvs other := by
  by_cases h : flash = espOk
  · simp [h, nvsSetStr_accepted, hother]
  · simp [nvsSetStr_refused nvs key value h]

end MainboardFirmware
