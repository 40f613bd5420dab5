import MainboardFirmware.App.Boot
import MainboardFirmware.Library.Machine

/-!
# Rollback — updates, boots and the bootloader

A device with two OTA slots over many boots. The bootloader (with rollback enabled) runs before
`app_main`: it sets a new image to `PENDING_VERIFY`, and when it finds an image still in that state it
gives it up and boots the other slot. An image is thus protected by being confirmed late, and
`app_main` confirms it in step [4] of its ten.
-/

namespace MainboardFirmware

open Machine

variable {ι : Type}

/-! ## Slots and the bootloader -/

/-- An OTA slot: which image is in it, and its state in the OTA data. -/
@[ext]
structure Slot (ι : Type) where
  image : ι
  state : OtaImgState
  deriving DecidableEq, Repr

/-- The slot the OTA data selects, and the other one. -/
structure OtaFlash (ι : Type) where
  selected : Slot ι
  spare : Slot ι
  deriving DecidableEq, Repr

/-- The slot as its image finds it. -/
def Slot.boot (slot : Slot ι) : Slot ι :=
  if slot.state = .new then ⟨slot.image, .pendingVerify⟩ else slot

def bootloader (flash : OtaFlash ι) : OtaFlash ι :=
  if flash.selected.state = .pendingVerify then
    -- rolled back
    ⟨flash.spare.boot, ⟨flash.selected.image, .aborted⟩⟩
  else
    ⟨flash.selected.boot, flash.spare⟩

/-- What happens between two resets: the answers `app_main` gets, and the image of an OTA update that
succeeds later on, if there is one. -/
structure Boot (ι : Type) where
  answers : BootAnswers
  update : Option ι
  deriving DecidableEq, Repr

/-- The slot that runs in a boot from `flash`. -/
def OtaFlash.running (flash : OtaFlash ι) : Slot ι :=
  (bootloader flash).selected

/-- From one reset to the next. -/
def bootStep (flash : OtaFlash ι) (b : Boot ι) : OtaFlash ι :=
  let spare := (bootloader flash).spare
  let (ended, state) := appMain b.answers flash.running.state
  let running := ⟨flash.running.image, state⟩
  match ended, b.update with
  | .ok (), some image =>
      -- ESP-IDF begins no update while the running image waits for its confirmation
      if state = .pendingVerify then ⟨running, spare⟩ else ⟨⟨image, .new⟩, running⟩
  | _, _ => ⟨running, spare⟩

/-! ## What rollback protection is -/

/-- The boot gets to its task spawn. -/
def Boot.Spawns (b : Boot ι) (flash : OtaFlash ι) : Prop :=
  (appMain b.answers flash.running.state).1 = .ok ()

/-- The boot marks the image it runs valid. -/
def Boot.MarksValid (b : Boot ι) (flash : OtaFlash ι) : Prop :=
  flash.running.state = .pendingVerify ∧ (appMain b.answers flash.running.state).2 = .valid

/-- No slot holds `image` as a confirmed image. -/
def OtaFlash.Unconfirmed (flash : OtaFlash ι) (image : ι) : Prop :=
  flash.selected ≠ ⟨image, .valid⟩ ∧ flash.spare ≠ ⟨image, .valid⟩

/-- An image is marked valid only in a boot that goes on to spawn its tasks; so an image none of whose
boots does is rolled back at the next reset and never confirmed. -/
structure RollbackProtects (start : OtaFlash ι) (boots : List (Boot ι)) : Prop where
  spawns : ∀ move ∈ moves bootStep start boots, move.2.MarksValid move.1 → move.2.Spawns move.1
  failing : ∀ image, start.Unconfirmed image →
    (∀ move ∈ moves bootStep start boots, move.1.running.image = image →
      ¬move.2.Spawns move.1) →
    (∀ flash ∈ states bootStep start boots, flash.Unconfirmed image) ∧
      ∀ move ∈ moves bootStep start boots, move.1.running = ⟨image, .pendingVerify⟩ →
        (bootStep move.1 move.2).running = (bootloader move.1).spare.boot

/-! ## One boot -/

theorem marksValid_iff (b : Boot ι) (flash : OtaFlash ι) :
    b.MarksValid flash ↔ b.answers.Confirms flash.running.state := by
  unfold Boot.MarksValid
  rw [appMain_state]
  constructor
  · rintro ⟨hpending, hvalid⟩
    by_contra hnot
    rw [if_neg hnot, hpending] at hvalid
    cases hvalid
  · intro hconfirms
    exact ⟨hconfirms.1, if_pos hconfirms⟩

theorem marksValid_spawns_iff (b : Boot ι) (flash : OtaFlash ι) :
    (b.MarksValid flash → b.Spawns flash) ↔
      (b.answers.Confirms flash.running.state → b.answers.DevicesUp) := by
  rw [marksValid_iff]
  refine forall_congr' fun hconfirms => ?_
  unfold Boot.Spawns
  rw [appMain_spawns_iff]
  exact and_iff_right hconfirms.2.1

/-- A boot that does not confirm its image leaves it as it found it. -/
theorem state_of_not_marksValid {b : Boot ι} {flash : OtaFlash ι} (h : ¬b.MarksValid flash) :
    (appMain b.answers flash.running.state).2 = flash.running.state := by
  rw [marksValid_iff] at h
  rw [appMain_state, if_neg h]

/-- What a step leaves in the two slots. -/
theorem bootStep_cases (flash : OtaFlash ι) (b : Boot ι) :
    let running : Slot ι := ⟨flash.running.image, (appMain b.answers flash.running.state).2⟩
    bootStep flash b = ⟨running, (bootloader flash).spare⟩ ∨
      running.state ≠ .pendingVerify ∧ ∃ image, bootStep flash b = ⟨⟨image, .new⟩, running⟩ := by
  intro running
  unfold bootStep
  dsimp only
  split
  · rename_i image hended hupdate
    by_cases hpending : running.state = .pendingVerify
    · exact .inl (if_pos hpending)
    · exact .inr ⟨hpending, image, if_neg hpending⟩
  · exact .inl rfl

/-- An image that was pending and was not confirmed is not booted again. -/
theorem running_of_not_marksValid {b : Boot ι} {flash : OtaFlash ι} (h : ¬b.MarksValid flash)
    (hpending : flash.running.state = .pendingVerify) :
    (bootStep flash b).running = (bootloader flash).spare.boot := by
  have hstate := state_of_not_marksValid h
  rcases bootStep_cases flash b with hstay | ⟨hnot, _⟩
  · rw [OtaFlash.running, hstay, bootloader, if_pos (hstate.trans hpending)]
  · exact absurd (hstate.trans hpending) hnot

theorem Slot.boot_eq_valid_iff (slot : Slot ι) (image : ι) :
    slot.boot = ⟨image, .valid⟩ ↔ slot = ⟨image, .valid⟩ := by
  unfold Slot.boot
  split
  · rename_i hnew
    constructor
    · intro h
      cases h
    · rintro rfl
      cases hnew
  · exact Iff.rfl

theorem bootloader_unconfirmed {flash : OtaFlash ι} {image : ι} (h : flash.Unconfirmed image) :
    (bootloader flash).Unconfirmed image := by
  unfold bootloader
  split
  · refine ⟨fun hvalid => h.2 ((Slot.boot_eq_valid_iff _ _).1 hvalid), fun hvalid => ?_⟩
    cases hvalid
  · exact ⟨fun hvalid => h.1 ((Slot.boot_eq_valid_iff _ _).1 hvalid), h.2⟩

/-- Only a boot of the image itself confirms it. -/
theorem bootStep_unconfirmed {flash : OtaFlash ι} {b : Boot ι} {image : ι}
    (h : flash.Unconfirmed image) (hboot : flash.running.image = image → ¬b.MarksValid flash) :
    (bootStep flash b).Unconfirmed image := by
  have hloaded := bootloader_unconfirmed h
  have hrunning : (⟨flash.running.image, (appMain b.answers flash.running.state).2⟩ : Slot ι) ≠
      ⟨image, .valid⟩ := by
    intro heq
    rcases Slot.mk.inj heq with ⟨himage, hvalid⟩
    rw [state_of_not_marksValid (hboot himage)] at hvalid
    exact hloaded.1 (Slot.ext_iff.2 ⟨himage, hvalid⟩)
  rcases bootStep_cases flash b with hstay | ⟨_, new, hupdated⟩
  · rw [hstay]
    exact ⟨hrunning, hloaded.2⟩
  · rw [hupdated]
    refine ⟨fun hvalid => ?_, hrunning⟩
    cases hvalid

/-! ## Every sequence of boots -/

/-- Whatever the slots held before, whatever each step of each boot answered and whatever was installed
in between: rollback protects exactly if every boot that confirms its image gets its devices and its
network up afterwards. -/
theorem rollback_protects_iff (start : OtaFlash ι) (boots : List (Boot ι)) :
    RollbackProtects start boots ↔ ∀ move ∈ moves bootStep start boots,
      move.2.answers.Confirms move.1.running.state → move.2.answers.DevicesUp := by
  have hspawns : (∀ move ∈ moves bootStep start boots,
      move.2.MarksValid move.1 → move.2.Spawns move.1) ↔ ∀ move ∈ moves bootStep start boots,
      move.2.answers.Confirms move.1.running.state → move.2.answers.DevicesUp :=
    forall_congr' fun move => forall_congr' fun _ => marksValid_spawns_iff move.2 move.1
  constructor
  · intro hprotects
    exact hspawns.1 hprotects.spawns
  · intro hcond
    have hmarks := hspawns.2 hcond
    refine ⟨hmarks, fun image hstart hfails => ?_⟩
    -- a boot that fails marks nothing valid, so the image stays unconfirmed and pending
    have hnever : ∀ move ∈ moves bootStep start boots, move.1.running.image = image →
        ¬move.2.MarksValid move.1 :=
      fun move hmove himage hmarked => hfails move hmove himage (hmarks move hmove hmarked)
    refine ⟨?_, fun move hmove hrunning => ?_⟩
    · refine inv_states_of_moves hstart fun move hmove hbefore => ?_
      exact bootStep_unconfirmed hbefore (hnever move hmove)
    · have himage : move.1.running.image = image := by
        rw [hrunning]
      refine running_of_not_marksValid (hnever move hmove himage) ?_
      rw [hrunning]

/-- A boot in which all goes well. -/
def goodBoot : BootAnswers where
  nvsFlashInit := espOk
  nvsFlashErase := espOk
  nvsFlashReinit := espOk
  systemLogInit := espOk
  systemConfigInit := espOk
  systemConfigLoad := espOk
  ota := ⟨true, espOk, espOk⟩
  i2cBusInit := espOk
  queueDisplay := true
  queueActuator := true
  queueComm := true
  sensorInit := espOk
  actuatorInit := espOk
  statusLedInit := espOk
  displayInit := espOk
  transportInit := some espOk
  registerSink := espOk
  supervisorInit := espOk

/-- An update to image 1 that can not initialise the I2C bus. -/
def badUpdate : OtaFlash Nat :=
  ⟨⟨1, .new⟩, ⟨0, .valid⟩⟩

def badBoot : Boot Nat :=
  ⟨{ goodBoot with i2cBusInit := espErrTimeout }, none⟩

/-- The update is confirmed in its first boot, which aborts at the next step, as every later one does;
the device never goes back to image 0. -/
theorem bad_update_confirmed :
    (moves bootStep badUpdate (List.replicate 3 badBoot)).map (fun move =>
        (move.1.running, (appMain move.2.answers move.1.running.state).1.toOption.isSome)) =
        [(⟨1, .pendingVerify⟩, false), (⟨1, .valid⟩, false), (⟨1, .valid⟩, false)] ∧
      ¬RollbackProtects badUpdate (List.replicate 3 badBoot) := by
  refine ⟨by decide, fun hprotects => ?_⟩
  have hmarks : badBoot.MarksValid badUpdate := ⟨by decide, by decide⟩
  have hspawns : badBoot.Spawns badUpdate :=
    hprotects.spawns (badUpdate, badBoot) (by simp [List.replicate]) hmarks
  have hfails : (appMain badBoot.answers badUpdate.running.state).1.toOption.isSome = false := by
    decide
  rw [Boot.Spawns] at hspawns
  rw [hspawns] at hfails
  cases hfails

/-! ## Something to fall back on -/

/-- The image was confirmed, or is the one flashed by cable. -/
def Slot.Confirmed (slot : Slot ι) : Prop :=
  slot.state = .valid ∨ slot.state = .undefined

/-- The selected image is confirmed, or it is a fresh one beside a confirmed one. -/
def OtaFlash.HasFallback (flash : OtaFlash ι) : Prop :=
  flash.selected.Confirmed ∨
    (flash.selected.state = .new ∨ flash.selected.state = .pendingVerify) ∧ flash.spare.Confirmed

theorem Slot.Confirmed.boot_eq {slot : Slot ι} (h : slot.Confirmed) : slot.boot = slot := by
  unfold Slot.boot
  rcases h with hvalid | hundefined
  · rw [if_neg (by simp [hvalid])]
  · rw [if_neg (by simp [hundefined])]

theorem Slot.Confirmed.not_pending {slot : Slot ι} (h : slot.Confirmed) :
    slot.state ≠ .pendingVerify := by
  rcases h with hvalid | hundefined
  · simp [hvalid]
  · simp [hundefined]

/-- What runs is confirmed, or pending beside a confirmed image. -/
theorem OtaFlash.HasFallback.running {flash : OtaFlash ι} (h : flash.HasFallback) :
    flash.running.Confirmed ∨
      flash.running.state = .pendingVerify ∧ (bootloader flash).spare.Confirmed := by
  unfold OtaFlash.running bootloader
  rcases h with hselected | ⟨hnew | hpending, hspare⟩
  · rw [if_neg hselected.not_pending]
    exact .inl (hselected.boot_eq.symm ▸ hselected)
  · rw [if_neg (by simp [hnew])]
    refine .inr ⟨?_, hspare⟩
    simp [Slot.boot, hnew]
  · rw [if_pos hpending]
    exact .inl (hspare.boot_eq.symm ▸ hspare)

theorem bootStep_hasFallback {flash : OtaFlash ι} (h : flash.HasFallback) (b : Boot ι) :
    (bootStep flash b).HasFallback := by
  have hrunning : (⟨flash.running.image, (appMain b.answers flash.running.state).2⟩ :
      Slot ι).Confirmed ∨ (appMain b.answers flash.running.state).2 = .pendingVerify ∧
        (bootloader flash).spare.Confirmed := by
    rw [appMain_state]
    split
    · exact .inl (.inl rfl)
    · exact h.running
  rcases bootStep_cases flash b with hstay | ⟨hnot, image, hupdated⟩
  · rw [hstay]
    exact hrunning.imp_right fun hpending => ⟨.inr hpending.1, hpending.2⟩
  · rw [hupdated]
    refine .inr ⟨.inl rfl, ?_⟩
    exact hrunning.resolve_right fun hpending => hnot hpending.1

/-- However boots and updates fail, a device that starts with a confirmed image keeps one. -/
theorem run_hasFallback {start : OtaFlash ι} (h : start.HasFallback) (boots : List (Boot ι)) :
    (run bootStep start boots).HasFallback := by
  have hstep : ∀ (flash : OtaFlash ι) (b : Boot ι), flash.HasFallback →
      (bootStep flash b).HasFallback :=
    fun _ b hflash => bootStep_hasFallback hflash b
  exact inv_run hstep h boots

end MainboardFirmware
