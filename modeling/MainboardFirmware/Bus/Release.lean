import MainboardFirmware.Bus.Transfer

/-!
# Release — does `i2c_bus_deinit` release what was created?

`i2c_bus_init` creates a mutex and a master bus, and recovery replaces the master bus. Over every run
we ask of every state that a call of `i2c_bus_deinit` in it would leave neither behind. It holds as
long as the bus object says what it owns: a bus that is up owns exactly the two live objects, and one
that is down owns nothing. A recovery that fails breaks this, since it clears `initialized` and keeps
the mutex, and so does an `i2c_bus_init` of a bus that is up, since it zeroes the object first. So does
a master bus that ESP-IDF does not delete: recovery and `i2c_bus_deinit` forget it all the same.
-/

namespace MainboardFirmware

open Machine

/-! ## The property and the condition -/

/-- No mutex and no master bus is left. -/
def Esp.NothingLive (e : Esp) : Prop :=
  e.liveMasters = ∅ ∧ e.liveMutexes = ∅

/-- A call of `i2c_bus_deinit` in which `i2c_del_master_bus` answers `del` releases all there is. -/
def DeinitReleases (del : EspErr) (w : World) : Prop :=
  (i2cBusDeinit (some ()) del w).2.esp.NothingLive

/-- A recovery that the transfer runs deletes the old master bus and does not fail. -/
def XferEnv.KeepsBus (env : XferEnv) (w : World) : Prop :=
  Entered (some ()) env w → (env.attempt 0).1 = espErrTimeout →
    env.recover.delMasterBus = espOk ∧ env.recover.Heals w.bus.deviceCount

/-- The call does not make the bus object forget what it owns: a bus that is up is not initialised
again, no recovery fails, and no master bus resists its deletion. -/
def KeepsTrack (w : World) : BusCall → Prop
  | .init (some _) _ => w.bus.initialized = false
  | .deinit del => w.bus.initialized = true → del = espOk
  | .write _ _ env | .read _ _ env | .writeRead _ _ _ env => env.KeepsBus w
  | _ => True

/-! ## Ownership -/

/-- The bus object points at the one live master bus and at the one live mutex. -/
structure Owns (w : World) (m : MasterBus) (mutex : Nat) : Prop where
  busHandle_eq : w.bus.busHandle = some m
  mutex_eq : w.bus.mutex = some mutex
  liveMasters_eq : w.esp.liveMasters = {m.id}
  liveMutexes_eq : w.esp.liveMutexes = {mutex}
  master_lt : m.id < w.esp.nextMaster

/-- A bus that is up owns all there is, and beside one that is down there is nothing. -/
structure OwnInv (w : World) : Prop where
  up : w.bus.initialized = true → ∃ m mutex, Owns w m mutex
  down : w.bus.initialized = false → w.esp.NothingLive

/-- `w'` has the same owner of the same objects as `w`. -/
structure SameOwner (w w' : World) : Prop where
  initialized_eq : w'.bus.initialized = w.bus.initialized
  busHandle_eq : w'.bus.busHandle = w.bus.busHandle
  mutex_eq : w'.bus.mutex = w.bus.mutex
  liveMasters_eq : w'.esp.liveMasters = w.esp.liveMasters
  liveMutexes_eq : w'.esp.liveMutexes = w.esp.liveMutexes
  nextMaster_eq : w'.esp.nextMaster = w.esp.nextMaster

theorem Idle.sameOwner {w w' : World} (h : Idle w w') : SameOwner w w' := by
  rcases h.exists_eq with ⟨count, log, rfl⟩
  exact ⟨rfl, rfl, rfl, rfl, rfl, rfl⟩

theorem addDevice_sameOwner (bus : Option Unit) (addr : UInt8) (sclHz : UInt32)
    (label : Option String) (out : Option (Option MasterDev)) (ret : EspErr) (w : World) :
    SameOwner w (i2cBusAddDevice bus addr sclHz label out ret w).2.2 := by
  cases out with
  | none =>
      exact (Idle.refl w).sameOwner
  | some old =>
      unfold i2cBusAddDevice
      dsimp only
      split
      · exact (Idle.refl w).sameOwner
      split
      · exact (Idle.refl w).sameOwner
      split
      · exact ⟨rfl, rfl, rfl, by simp, by simp, by simp⟩
      · exact ⟨rfl, rfl, rfl, by simp, by simp, by simp⟩

theorem Owns.sameOwner {w w' : World} {m : MasterBus} {mutex : Nat} (h : Owns w m mutex)
    (hsame : SameOwner w w') : Owns w' m mutex where
  busHandle_eq := hsame.busHandle_eq.trans h.busHandle_eq
  mutex_eq := hsame.mutex_eq.trans h.mutex_eq
  liveMasters_eq := hsame.liveMasters_eq.trans h.liveMasters_eq
  liveMutexes_eq := hsame.liveMutexes_eq.trans h.liveMutexes_eq
  master_lt := hsame.nextMaster_eq ▸ h.master_lt

/-- A bus that is up gives back the master bus of its object, and its mutex whatever the deletion
answers. -/
theorem deinitReleases_up {w : World} (hup : w.bus.initialized = true) (del : EspErr) :
    DeinitReleases del w ↔ (w.esp.delMasterBus w.bus.busHandle del).liveMasters = ∅ ∧
      w.bus.mutex.elim w.esp.liveMutexes w.esp.liveMutexes.erase = ∅ := by
  have hready : ¬((some () : Option Unit) = none ∨ w.bus.initialized = false) := by
    simp [hup]
  unfold DeinitReleases i2cBusDeinit
  rw [if_neg hready]
  cases w.bus.mutex <;> simp [Esp.NothingLive, Esp.deleteMutex, Esp.emit]

namespace OwnInv

variable {w w' : World}

theorem initial : OwnInv World.initial :=
  ⟨fun h => Bool.noConfusion h, fun _ => ⟨rfl, rfl⟩⟩

theorem sameOwner (hw : OwnInv w) (hsame : SameOwner w w') : OwnInv w' where
  up hup := by
    rcases hw.up (hsame.initialized_eq ▸ hup) with ⟨m, mutex, howns⟩
    exact ⟨m, mutex, howns.sameOwner hsame⟩
  down hdown := by
    have hnothing := hw.down (hsame.initialized_eq ▸ hdown)
    exact ⟨hsame.liveMasters_eq.trans hnothing.1, hsame.liveMutexes_eq.trans hnothing.2⟩

/-- The owner of all there is releases all there is, if the master bus can be deleted. -/
theorem deinitReleases_iff (hw : OwnInv w) (del : EspErr) :
    DeinitReleases del w ↔ KeepsTrack w (.deinit del) := by
  cases hinit : w.bus.initialized with
  | false =>
      have hnothing := hw.down hinit
      simpa [DeinitReleases, i2cBusDeinit, KeepsTrack, hinit] using hnothing
  | true =>
      rcases hw.up hinit with ⟨m, mutex, howns⟩
      rw [deinitReleases_up hinit, howns.busHandle_eq, howns.mutex_eq]
      by_cases hdel : del = espOk
      · simp [KeepsTrack, hdel, Esp.delMasterBus, Esp.emit, howns.liveMasters_eq,
          howns.liveMutexes_eq]
      · simp [KeepsTrack, hinit, hdel, Esp.delMasterBus, Esp.emit, howns.liveMasters_eq]

/-- Nothing is left where nothing resists. -/
theorem deinitReleases_ok (hw : OwnInv w) : DeinitReleases espOk w :=
  (hw.deinitReleases_iff espOk).2 fun _ => rfl

theorem deinit (hw : OwnInv w) {del : EspErr} (hkeeps : KeepsTrack w (.deinit del)) :
    OwnInv (i2cBusDeinit (some ()) del w).2 := by
  have hnothing : DeinitReleases del w := (hw.deinitReleases_iff del).2 hkeeps
  have hdown : (i2cBusDeinit (some ()) del w).2.bus.initialized = false := by
    cases hinit : w.bus.initialized <;> simp [i2cBusDeinit, hinit]
  exact ⟨fun hup => absurd (hdown.symm.trans hup) (by simp), fun _ => hnothing⟩

/-- An `i2c_bus_init` of a bus that is down creates two objects, or cleans up after itself. -/
theorem init (hw : OwnInv w) (cfg : I2cBusConfig) (env : InitEnv)
    (hdown : w.bus.initialized = false) :
    OwnInv (i2cBusInit (some ()) (some cfg) env w).2 := by
  rcases hw.down hdown with ⟨hmasters, hmutexes⟩
  cases hmutex : env.mutexCreated with
  | false =>
      -- without a mutex there is nothing to give back
      refine ⟨fun hup => ?_, fun _ => ?_⟩
      · simp [i2cBusInit, Esp.createMutex, hmutex, I2cBus.zero] at hup
      · simp [i2cBusInit, Esp.createMutex, hmutex, Esp.emit, Esp.NothingLive, hmasters, hmutexes]
  | true =>
      by_cases hret : env.newMasterBus = espOk
      · refine ⟨fun _ => ⟨⟨w.esp.nextMaster, masterBusConfig cfg.port cfg.sclPin cfg.sdaPin⟩,
          w.esp.nextMutex, ?_⟩, fun hdown' => ?_⟩
        · simp only [i2cBusInit, Esp.createMutex, Esp.newMasterBus, hmutex, hret, Esp.emit, if_true,
            ne_eq, not_true_eq_false, if_false, hmasters, hmutexes]
          exact ⟨rfl, rfl, by simp, by simp, Nat.lt_succ_self _⟩
        · simp [i2cBusInit, Esp.createMutex, Esp.newMasterBus, hmutex, hret] at hdown'
      · -- the mutex is deleted again
        refine ⟨fun hup => ?_, fun _ => ?_⟩
        · simp [i2cBusInit, Esp.createMutex, Esp.newMasterBus, hmutex, hret, I2cBus.zero] at hup
        · simp [i2cBusInit, Esp.createMutex, Esp.newMasterBus, hmutex, hret, Esp.emit,
            Esp.deleteMutex, Esp.NothingLive, hmasters, hmutexes]

/-- A recovery that succeeds hands the new master bus to the bus object, and the old one is gone if it
could be deleted. -/
theorem recover (hw : OwnInv w) (hinit : w.bus.initialized = true) {env : RecoverEnv}
    (hdel : env.delMasterBus = espOk) (hok : (i2cBusRecoverLocked env w).1 = espOk) :
    OwnInv (i2cBusRecoverLocked env w).2 := by
  rcases hw.up hinit with ⟨m, mutex, howns⟩
  rcases recover_live env w hok with ⟨m', hup, hlive⟩
  have hmutex := (recover_sameRegistry env w).mutex_eq
  have hmutexes := (recover_sameMutexes env w).1
  have hdeleted : (teardown env w).esp.liveMasters = ∅ := by
    simp [teardown, howns.busHandle_eq, Esp.delMasterBus, hdel, howns.liveMasters_eq]
  have howns' : Owns (i2cBusRecoverLocked env w).2 m' mutex := by
    refine ⟨hup.busHandle_eq, hmutex.trans howns.mutex_eq, ?_, hmutexes.trans howns.liveMutexes_eq,
      Nat.lt_of_succ_le hup.newest.le⟩
    rw [hlive, hdeleted]
    rfl
  have hup' := (recover_ok env w hok).1
  exact ⟨fun _ => ⟨m', mutex, howns'⟩, fun hdown => absurd (hdown.symm.trans hup') (by simp)⟩

/-- A transfer keeps the owner unless it runs a recovery that fails or leaves the old bus. -/
theorem xfer (hw : OwnInv w) (op : XferOp) (dev : Option MasterDev) {env : XferEnv}
    (hkeeps : env.KeepsBus w) : OwnInv (i2cBusXfer op (some ()) dev env w).2 := by
  rcases xfer_idle_or_recovers op (some ()) dev env w with
    hidle | ⟨hentered, htimeout, w₀, hbefore, hafter⟩
  · exact hw.sameOwner hidle.sameOwner
  · have hw₀ : OwnInv w₀ := hw.sameOwner hbefore.sameOwner
    have hinit : w₀.bus.initialized = true := hbefore.initialized_eq.trans hentered.2.1
    rcases hkeeps hentered htimeout with ⟨hdel, hheals⟩
    have hok := (recover_eq_ok_iff env.recover w₀).2 (hbefore.deviceCount_eq ▸ hheals)
    exact (hw₀.recover hinit hdel hok).sameOwner hafter.sameOwner

end OwnInv

/-! ## What is left behind -/

section LeftBehind

variable {w : World}

/-- `i2c_bus_deinit` does nothing for a bus that is down. -/
theorem not_releases_of_down (hdown : w.bus.initialized = false) (hlive : ¬ w.esp.NothingLive)
    (del : EspErr) : ¬ DeinitReleases del w := by
  simpa [DeinitReleases, i2cBusDeinit, hdown] using hlive

/-- It deletes no master bus but the one of the bus object. -/
theorem not_releases_of_other (id : Nat) (hid : id ∈ w.esp.liveMasters)
    (hother : ∀ m, w.bus.busHandle = some m → id ≠ m.id) (del : EspErr) :
    ¬ DeinitReleases del w := by
  have hdeleted : id ∈ (w.esp.delMasterBus w.bus.busHandle del).liveMasters := by
    cases hm : w.bus.busHandle with
    | none =>
        exact hid
    | some m =>
        by_cases hdel : del = espOk
        · simp [Esp.delMasterBus, hdel, hid, hother m hm]
        · simpa [Esp.delMasterBus, hdel] using hid
  have hstays : id ∈ (i2cBusDeinit (some ()) del w).2.esp.liveMasters := by
    unfold i2cBusDeinit
    split
    · exact hid
    · cases w.bus.mutex <;> exact hdeleted
  intro hnothing
  rw [hnothing.1] at hstays
  exact absurd hstays (Finset.notMem_empty _)

/-- What is released in spite of an error is released without one. -/
theorem DeinitReleases.without_error {del : EspErr} (h : DeinitReleases del w) :
    DeinitReleases espOk w := by
  cases hinit : w.bus.initialized with
  | false =>
      simpa [DeinitReleases, i2cBusDeinit, hinit] using h
  | true =>
      rw [deinitReleases_up hinit] at h ⊢
      -- the mutex goes alike, and of the master buses an error leaves only more
      have hfewer : (w.esp.delMasterBus w.bus.busHandle espOk).liveMasters ⊆
          (w.esp.delMasterBus w.bus.busHandle del).liveMasters := by
        cases w.bus.busHandle with
        | none =>
            exact Finset.Subset.refl _
        | some m =>
            by_cases hdel : del = espOk
            · rw [hdel]
            · simpa [Esp.delMasterBus, hdel] using Finset.erase_subset m.id w.esp.liveMasters
      exact ⟨Finset.subset_empty.1 (hfewer.trans h.1.subset), h.2⟩

section Transfers

variable (op : XferOp) (dev : Option MasterDev) {env : XferEnv}

/-- A transfer whose first attempt times out leaves the bus as its recovery does. -/
theorem xfer_recovers (hentered : Entered (some ()) env w)
    (htimeout : (env.attempt 0).1 = espErrTimeout) :
    ∃ w₁, Idle w w₁ ∧
      Idle (i2cBusRecoverLocked env.recover w₁).2 (i2cBusXfer op (some ()) dev env w).2 := by
  refine ⟨(attemptedWorld op dev env w).countError,
    ((Idle.emit w _).trans (Idle.emit _ _)).trans (Idle.countError _), ?_⟩
  rw [xfer_of_entered hentered]
  by_cases hok : (i2cBusRecoverLocked env.recover
      (attemptedWorld op dev env w).countError).1 = espOk
  · rw [healXfer_of_healed htimeout hok]
    exact (retryXfer_idle op dev env _ _ _ _).trans (finishXfer_idle _ _)
  · rw [healXfer_of_failed htimeout hok]
    exact finishXfer_idle _ _

/-- After a recovery that fails, `i2c_bus_deinit` finds the bus down and leaves the mutex. -/
theorem xfer_lost_not_releases (hw : OwnInv w) (hentered : Entered (some ()) env w)
    (htimeout : (env.attempt 0).1 = espErrTimeout)
    (hlost : ¬ env.recover.Heals w.bus.deviceCount) :
    ¬ DeinitReleases espOk (i2cBusXfer op (some ()) dev env w).2 := by
  rcases hw.up hentered.2.1 with ⟨m, mutex, howns⟩
  rcases xfer_recovers op dev hentered htimeout with ⟨w₁, hbefore, hafter⟩
  have hfail : (i2cBusRecoverLocked env.recover w₁).1 ≠ espOk :=
    mt (recover_eq_ok_iff env.recover w₁).1 (hbefore.deviceCount_eq.symm ▸ hlost)
  -- the flag is down and the mutex still there, which is what `i2c_bus_deinit` does not look for
  have hdown : (i2cBusXfer op (some ()) dev env w).2.bus.initialized = false :=
    hafter.initialized_eq.trans (recover_failed env.recover w₁ hfail).1
  have hmutexes : (i2cBusXfer op (some ()) dev env w).2.esp.liveMutexes = {mutex} :=
    calc
      (i2cBusXfer op (some ()) dev env w).2.esp.liveMutexes
          = (i2cBusRecoverLocked env.recover w₁).2.esp.liveMutexes :=
        hafter.sameOwner.liveMutexes_eq
      _ = w₁.esp.liveMutexes := (recover_sameMutexes env.recover w₁).1
      _ = {mutex} := (howns.sameOwner hbefore.sameOwner).liveMutexes_eq
  refine not_releases_of_down hdown (fun hnothing => ?_) espOk
  exact Finset.singleton_ne_empty mutex (hmutexes.symm.trans hnothing.2)

/-- A recovery that cannot delete the old master bus forgets it for the new one. -/
theorem xfer_undeleted_not_releases (hw : OwnInv w) (hentered : Entered (some ()) env w)
    (htimeout : (env.attempt 0).1 = espErrTimeout)
    (hheals : env.recover.Heals w.bus.deviceCount) (hdel : env.recover.delMasterBus ≠ espOk) :
    ¬ DeinitReleases espOk (i2cBusXfer op (some ()) dev env w).2 := by
  rcases hw.up hentered.2.1 with ⟨m, mutex, howns⟩
  rcases xfer_recovers op dev hentered htimeout with ⟨w₁, hbefore, hafter⟩
  have howns₁ := howns.sameOwner hbefore.sameOwner
  have hok := (recover_eq_ok_iff env.recover w₁).2 (hbefore.deviceCount_eq.symm ▸ hheals)
  rcases recover_ok env.recover w₁ hok with ⟨-, m', hnewer, hup⟩
  rcases recover_live env.recover w₁ hok with ⟨_, -, hlive⟩
  have hkept : m.id ∈ (teardown env.recover w₁).esp.liveMasters := by
    simp [teardown, howns₁.busHandle_eq, Esp.delMasterBus, hdel, howns₁.liveMasters_eq]
  refine not_releases_of_other m.id ?_ (fun m₁ hm₁ => ?_) espOk
  · rw [hafter.sameOwner.liveMasters_eq, hlive]
    exact Finset.mem_insert_of_mem hkept
  · -- the bus object has the new one
    have heq : m₁ = m' :=
      Option.some.inj ((hm₁.symm.trans hafter.sameOwner.busHandle_eq).trans hup.busHandle_eq)
    rw [heq]
    exact (howns₁.master_lt.trans_le hnewer).ne

end Transfers

/-- An `i2c_bus_init` of a bus that is up loses its master bus. -/
theorem init_up_not_releases (hw : OwnInv w) (cfg : I2cBusConfig) (env : InitEnv)
    (hup : w.bus.initialized = true) :
    ¬ DeinitReleases espOk (i2cBusInit (some ()) (some cfg) env w).2 := by
  rcases hw.up hup with ⟨m, mutex, howns⟩
  have hne : m.id ≠ w.esp.nextMaster := howns.master_lt.ne
  -- the old master bus is none of those `i2c_bus_deinit` looks at
  refine not_releases_of_other m.id ?_ ?_ espOk
  · cases hmutex : env.mutexCreated with
    | false =>
        simp [i2cBusInit, Esp.createMutex, hmutex, Esp.emit, howns.liveMasters_eq]
    | true =>
        by_cases hret : env.newMasterBus = espOk
        · simp [i2cBusInit, Esp.createMutex, Esp.newMasterBus, hmutex, hret, Esp.emit,
            howns.liveMasters_eq]
        · simp [i2cBusInit, Esp.createMutex, Esp.newMasterBus, hmutex, hret, Esp.emit,
            Esp.deleteMutex, howns.liveMasters_eq]
  · intro m' hm'
    cases hmutex : env.mutexCreated with
    | false =>
        simp [i2cBusInit, Esp.createMutex, hmutex, I2cBus.zero] at hm'
    | true =>
        by_cases hret : env.newMasterBus = espOk
        · simp only [i2cBusInit, Esp.createMutex, Esp.newMasterBus, hmutex, hret, Esp.emit, if_true,
            ne_eq, not_true_eq_false, if_false, Option.some.injEq] at hm'
          rw [← hm']
          exact hne
        · simp [i2cBusInit, Esp.createMutex, Esp.newMasterBus, hmutex, hret, I2cBus.zero] at hm'

/-- An `i2c_bus_deinit` that cannot delete the master bus leaves it for good. -/
theorem deinit_undeleted_not_releases (hw : OwnInv w) {del : EspErr}
    (hup : w.bus.initialized = true) (hdel : del ≠ espOk) :
    ¬ DeinitReleases espOk (i2cBusDeinit (some ()) del w).2 := by
  have hdown : (i2cBusDeinit (some ()) del w).2.bus.initialized = false := by
    simp [i2cBusDeinit, hup]
  refine not_releases_of_down hdown (fun hnothing => ?_) espOk
  exact hdel ((hw.deinitReleases_iff del).1 hnothing hup)

end LeftBehind

/-! ## Runs -/

/-- A call that keeps track of what is owned keeps the invariant. -/
theorem busStep_ownInv (w : World) (call : BusCall) (hw : OwnInv w) (hkeeps : KeepsTrack w call) :
    OwnInv (busStep w call) := by
  cases call with
  | init cfg env =>
      cases cfg with
      | none =>
          exact hw
      | some cfg =>
          exact hw.init cfg env hkeeps
  | deinit del =>
      exact hw.deinit hkeeps
  | addDevice addr sclHz label out ret =>
      exact hw.sameOwner (addDevice_sameOwner _ addr sclHz label out ret w)
  | write dev data env =>
      exact hw.xfer _ dev hkeeps
  | read dev len env =>
      exact hw.xfer _ dev hkeeps
  | writeRead dev wrData rdLen env =>
      exact hw.xfer _ dev hkeeps
  | scan env =>
      exact hw.sameOwner (scan_idle _ env w).sameOwner

/-- A transfer that does not keep the bus leaves something behind. -/
theorem xfer_releases_iff {w : World} (hw : OwnInv w) (op : XferOp) (dev : Option MasterDev)
    (env : XferEnv) :
    DeinitReleases espOk (i2cBusXfer op (some ()) dev env w).2 ↔ env.KeepsBus w := by
  constructor
  · intro hreleases hentered htimeout
    have hheals : env.recover.Heals w.bus.deviceCount := by
      by_contra hlost
      exact xfer_lost_not_releases op dev hw hentered htimeout hlost hreleases
    have hdel : env.recover.delMasterBus = espOk := by
      by_contra hundeleted
      exact xfer_undeleted_not_releases op dev hw hentered htimeout hheals hundeleted hreleases
    exact ⟨hdel, hheals⟩
  · intro hkeeps
    exact (hw.xfer op dev hkeeps).deinitReleases_ok

theorem busStep_releases_iff (w : World) (call : BusCall) (hw : OwnInv w) :
    DeinitReleases espOk (busStep w call) ↔ KeepsTrack w call := by
  have hsuff : KeepsTrack w call → DeinitReleases espOk (busStep w call) := by
    intro hkeeps
    exact (busStep_ownInv w call hw hkeeps).deinitReleases_ok
  cases call with
  | init cfg env =>
      cases cfg with
      | none =>
          exact ⟨fun _ => trivial, hsuff⟩
      | some cfg =>
          refine ⟨fun hreleases => ?_, hsuff⟩
          cases hinit : w.bus.initialized with
          | false =>
              exact hinit
          | true =>
              -- the new resources replace the old ones in the object only
              exact absurd hreleases (init_up_not_releases hw cfg env hinit)
  | deinit del =>
      refine ⟨fun hreleases hup => ?_, hsuff⟩
      by_contra hdel
      exact deinit_undeleted_not_releases hw hup hdel hreleases
  | addDevice addr sclHz label out ret =>
      exact ⟨fun _ => trivial, hsuff⟩
  | write dev data env =>
      exact xfer_releases_iff hw _ dev env
  | read dev len env =>
      exact xfer_releases_iff hw _ dev env
  | writeRead dev wrData rdLen env =>
      exact xfer_releases_iff hw _ dev env
  | scan env =>
      exact ⟨fun _ => trivial, hsuff⟩

/-- The same over a run, for an `i2c_bus_deinit` that meets no error itself. -/
theorem run_releases_iff (calls : List BusCall) :
    (∀ w ∈ states busStep World.initial calls, DeinitReleases espOk w) ↔
      ∀ move ∈ moves busStep World.initial calls, KeepsTrack move.1 move.2 :=
  forall_states_iff busStep_releases_iff busStep_ownInv OwnInv.initial
    OwnInv.initial.deinitReleases_ok calls

/-- In every run of calls on the bus and for every answer to its deletion, `i2c_bus_deinit` would
release every mutex and every master bus in each state reached, exactly if no bus that is up is
initialised again, no recovery fails, and every master bus is deleted when it is asked for, by that
`i2c_bus_deinit` too. -/
theorem deinit_releases_all_iff (calls : List BusCall) (del : EspErr) :
    (∀ w ∈ states busStep World.initial calls, DeinitReleases del w) ↔
      (∀ move ∈ moves busStep World.initial calls, KeepsTrack move.1 move.2) ∧
        ∀ w ∈ states busStep World.initial calls, KeepsTrack w (.deinit del) := by
  have hown : (∀ move ∈ moves busStep World.initial calls, KeepsTrack move.1 move.2) →
      ∀ w ∈ states busStep World.initial calls, OwnInv w := by
    intro hkeeps
    exact inv_states_of_moves OwnInv.initial
      fun move hmove hw => busStep_ownInv move.1 move.2 hw (hkeeps move hmove)
  constructor
  · intro hreleases
    have hkeeps := (run_releases_iff calls).1 fun w hw => (hreleases w hw).without_error
    exact ⟨hkeeps, fun w hw => ((hown hkeeps w hw).deinitReleases_iff del).1 (hreleases w hw)⟩
  · rintro ⟨hkeeps, hdel⟩ w hw
    exact ((hown hkeeps w hw).deinitReleases_iff del).2 (hdel w hw)

/-- One write on a bus whose SDA stays low. -/
def lostRun : List BusCall :=
  [.init (some ⟨18, 19, 0⟩) ⟨true, espOk⟩,
    .write none [0x14, 0x01]
      ⟨true, fun _ => (espErrTimeout, []), ⟨espOk, fun _ => false, espOk, fun _ => espOk, espOk⟩⟩]

/-- After that run `i2c_bus_deinit` returns `ESP_ERR_INVALID_STATE` and the mutex stays. -/
theorem lost_bus_keeps_mutex :
    (i2cBusDeinit (some ()) espOk (run busStep World.initial lostRun)).1 = espErrInvalidState ∧
      (i2cBusDeinit (some ()) espOk (run busStep World.initial lostRun)).2.esp.liveMutexes = {0} ∧
      ¬ ∀ calls del, ∀ w ∈ states busStep World.initial calls, DeinitReleases del w := by
  have hmutex : (i2cBusDeinit (some ()) espOk
      (run busStep World.initial lostRun)).2.esp.liveMutexes = {0} := by
    decide
  refine ⟨by decide, hmutex, ?_⟩
  intro hall
  have hlast : run busStep World.initial lostRun ∈ states busStep World.initial lostRun := by
    simp [lostRun]
  have hnothing := (hall lostRun espOk _ hlast).2
  exact absurd (hmutex.symm.trans hnothing) (by decide)

end MainboardFirmware
