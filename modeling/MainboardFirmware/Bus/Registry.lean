import MainboardFirmware.Bus.Recover
import MainboardFirmware.Library.Machine

/-!
# Registry — the device registry over whole runs of the bus

Whatever calls are made on the bus and whatever ESP-IDF answers, an initialised bus is up on its most
recent master bus with every registered device attached to it, the registry holds exactly the
devices added since the last `i2c_bus_init`, in order, and recovery only ever changes handles.
-/

namespace MainboardFirmware

open Machine

/-! ## Calls without recovery -/

/-- `w'` differs from `w` at most in the log and the error count. -/
def Idle (w w' : World) : Prop :=
  w'.bus = { w.bus with errorCount := w'.bus.errorCount } ∧ w'.esp = { w.esp with log := w'.esp.log }

namespace Idle

theorem refl (w : World) : Idle w w :=
  ⟨rfl, rfl⟩

theorem trans {w₁ w₂ w₃ : World} (h₁ : Idle w₁ w₂) (h₂ : Idle w₂ w₃) : Idle w₁ w₃ := by
  constructor
  · rw [h₂.1, h₁.1]
  · rw [h₂.2, h₁.2]

theorem emit (w : World) (calls : List HwCall) : Idle w (w.emit calls) :=
  ⟨rfl, rfl⟩

theorem countError (w : World) : Idle w w.countError :=
  ⟨rfl, rfl⟩

theorem initialized_eq {w w' : World} (h : Idle w w') : w'.bus.initialized = w.bus.initialized := by
  rw [h.1]

theorem deviceCount_eq {w w' : World} (h : Idle w w') : w'.bus.deviceCount = w.bus.deviceCount := by
  rw [h.1]

theorem devices_eq {w w' : World} (h : Idle w w') : w'.bus.devices = w.bus.devices := by
  rw [h.1]

theorem busHandle_eq {w w' : World} (h : Idle w w') : w'.bus.busHandle = w.bus.busHandle := by
  rw [h.1]

theorem nextMaster_eq {w w' : World} (h : Idle w w') : w'.esp.nextMaster = w.esp.nextMaster := by
  rw [h.2]

theorem liveMasters_eq {w w' : World} (h : Idle w w') : w'.esp.liveMasters = w.esp.liveMasters := by
  rw [h.2]

theorem upOn {w w' : World} {m : MasterBus} (h : Idle w w') (hup : UpOn w m) : UpOn w' m where
  busHandle_eq := h.busHandle_eq.trans hup.busHandle_eq
  newest := hup.newest.trans h.nextMaster_eq.symm
  live := h.liveMasters_eq ▸ hup.live
  attached := by
    rw [h.deviceCount_eq, h.devices_eq]
    exact hup.attached

end Idle

theorem retryXfer_idle (op : XferOp) (dev : Option MasterDev) (env : XferEnv) (n k : Nat)
    (res : EspErr × List UInt8) (w : World) : Idle w (retryXfer op dev env n k res w).2 := by
  induction n generalizing k res w with
  | zero =>
      exact Idle.refl w
  | succ n ih =>
      by_cases hres : res.1 = espOk
      · simpa [retryXfer, hres] using Idle.refl w
      · -- an attempt only writes the log
        have hattempt : Idle w (attemptXfer op dev (env.attempt k) w).2 := Idle.emit w _
        simpa [retryXfer, hres] using hattempt.trans (ih (k + 1) _ _)

theorem finishXfer_idle (res : EspErr × List UInt8) (w : World) : Idle w (finishXfer res w).2 := by
  unfold finishXfer
  dsimp only
  split
  · exact (Idle.emit w _).trans (Idle.countError _)
  · exact Idle.emit w _

theorem healXfer_idle_or_recovers (op : XferOp) (dev : Option MasterDev) (env : XferEnv)
    (res : EspErr × List UInt8) (w : World) :
    Idle w (healXfer op dev env res w).2 ∨
      (res.1 = espErrTimeout ∧
        Idle (i2cBusRecoverLocked env.recover w.countError).2 (healXfer op dev env res w).2) := by
  unfold healXfer
  split
  · rename_i htimeout
    refine Or.inr ⟨htimeout, ?_⟩
    dsimp only
    split
    · exact retryXfer_idle op dev env _ _ _ _
    · exact Idle.refl _
  · exact Or.inl (Idle.refl w)

/-- The call gets past its guard and takes the mutex. -/
def Entered (bus : Option Unit) (env : XferEnv) (w : World) : Prop :=
  bus ≠ none ∧ w.bus.initialized = true ∧ env.mutexTaken = true

/-- A transfer either leaves the bus alone or, after a first attempt that timed out, runs recovery
once in between. -/
theorem xfer_idle_or_recovers (op : XferOp) (bus : Option Unit) (dev : Option MasterDev)
    (env : XferEnv) (w : World) :
    Idle w (i2cBusXfer op bus dev env w).2 ∨
      (Entered bus env w ∧ (env.attempt 0).1 = espErrTimeout ∧
        ∃ w₀, Idle w w₀ ∧
          Idle (i2cBusRecoverLocked env.recover w₀).2 (i2cBusXfer op bus dev env w).2) := by
  unfold i2cBusXfer
  split
  · exact Or.inl (Idle.refl w)
  rename_i hready
  split
  · exact Or.inl ((Idle.emit w _).trans (Idle.countError _))
  rename_i hmutex
  have hentered : Entered bus env w := by
    rw [not_or] at hready
    exact ⟨hready.1, by simpa using hready.2, by simpa using hmutex⟩
  -- everything but a recovery leaves the bus as it was
  have hfirst : Idle w (attemptXfer op dev (env.attempt 0) (w.emit [.takeMutex true])).2 :=
    (Idle.emit w _).trans (Idle.emit _ _)
  rcases healXfer_idle_or_recovers op dev env (env.attempt 0)
      (attemptXfer op dev (env.attempt 0) (w.emit [.takeMutex true])).2 with hsame | ⟨htimeout, hheal⟩
  · exact Or.inl (hfirst.trans (hsame.trans (finishXfer_idle _ _)))
  · exact Or.inr ⟨hentered, htimeout, _, hfirst.trans (Idle.countError _),
      hheal.trans (finishXfer_idle _ _)⟩

/-! ## The invariant -/

/-- The registry fits its array, and an initialised bus is up on its newest master bus. -/
structure BusInv (w : World) : Prop where
  count_le : w.bus.deviceCount ≤ i2cBusMaxDevices
  up : w.bus.initialized = true → ∃ m, UpOn w m

theorem BusInv.initial : BusInv World.initial :=
  ⟨Nat.zero_le _, fun h => Bool.noConfusion h⟩

theorem BusInv.idle {w w' : World} (hw : BusInv w) (h : Idle w w') : BusInv w' where
  count_le := h.deviceCount_eq ▸ hw.count_le
  up hinit := by
    rcases hw.up (h.initialized_eq ▸ hinit) with ⟨m, hm⟩
    exact ⟨m, h.upOn hm⟩

theorem BusInv.recover {w : World} (env : RecoverEnv) (hw : BusInv w) :
    BusInv (i2cBusRecoverLocked env w).2 where
  count_le := (recover_sameRegistry env w).deviceCount_eq ▸ hw.count_le
  up hinit := by
    by_cases hok : (i2cBusRecoverLocked env w).1 = espOk
    · rcases recover_ok env w hok with ⟨_, m, _, hup⟩
      exact ⟨m, hup⟩
    · -- a failed recovery leaves nothing to show
      have hdown := (recover_failed env w hok).1
      exact absurd hinit (by simp [hdown])

theorem BusInv.xfer {w : World} (hw : BusInv w) (op : XferOp) (bus : Option Unit)
    (dev : Option MasterDev) (env : XferEnv) : BusInv (i2cBusXfer op bus dev env w).2 := by
  rcases xfer_idle_or_recovers op bus dev env w with hidle | ⟨_, _, w₀, hbefore, hafter⟩
  · exact hw.idle hidle
  · exact ((hw.idle hbefore).recover env.recover).idle hafter

/-- What `i2c_bus_init` leaves behind: an empty registry, on a new master bus if it succeeds. -/
theorem init_spec (cfg : I2cBusConfig) (env : InitEnv) (w : World) :
    let w' := (i2cBusInit (some ()) (some cfg) env w).2
    w'.bus.deviceCount = 0 ∧ transfersOf w'.esp.log = transfersOf w.esp.log ∧
      w.esp.nextMaster ≤ w'.esp.nextMaster ∧
      (w'.bus.initialized = true → ∃ m, m.id = w.esp.nextMaster ∧ UpOn w' m) := by
  cases hmutex : env.mutexCreated with
  | false =>
      simp [i2cBusInit, Esp.createMutex, hmutex, I2cBus.zero, Esp.emit, HwCall.isTransfer]
  | true =>
      by_cases hret : env.newMasterBus = espOk
      · simp only [i2cBusInit, Esp.createMutex, Esp.newMasterBus, hmutex, hret, I2cBus.zero, Esp.emit]
        refine ⟨rfl, by simp [HwCall.isTransfer], Nat.le_succ _, fun _ => ⟨_, rfl, rfl, rfl, ?_, ?_⟩⟩
        · exact Finset.mem_insert_self _ _
        · intro i hi
          exact absurd hi (Nat.not_lt_zero i)
      · simp [i2cBusInit, Esp.createMutex, Esp.newMasterBus, hmutex, hret, I2cBus.zero, Esp.emit,
          Esp.deleteMutex, HwCall.isTransfer]

/-- A successful `i2c_bus_add_device` appends one entry, attached to the bus. -/
theorem addDevice_appends {addr : UInt8} {sclHz : UInt32} {label : Option String}
    {out : Option (Option MasterDev)} {ret : EspErr} {w : World}
    (h : (i2cBusAddDevice (some ()) addr sclHz label out ret w).1 = espOk) :
    w.bus.initialized = true ∧ w.bus.deviceCount < i2cBusMaxDevices ∧
      ∃ m d, w.bus.busHandle = some m ∧ d.master = m.id ∧ d.config.deviceAddress = addr ∧
        (i2cBusAddDevice (some ()) addr sclHz label out ret w).2.1 = some (some d) ∧
        ∃ esp, (i2cBusAddDevice (some ()) addr sclHz label out ret w).2.2 =
            ⟨{ w.bus with
                devices := Function.update w.bus.devices w.bus.deviceCount
                  ⟨addr, some d, label, true⟩
                deviceCount := w.bus.deviceCount + 1 }, esp⟩ ∧
          esp.nextMaster = w.esp.nextMaster ∧ esp.liveMasters = w.esp.liveMasters ∧
          transfersOf esp.log = transfersOf w.esp.log := by
  cases out with
  | none =>
      exact absurd h espErrInvalidArg_ne_ok
  | some old =>
      cases hinit : w.bus.initialized with
      | false =>
          simp [i2cBusAddDevice, hinit] at h
      | true =>
          by_cases hfull : i2cBusMaxDevices ≤ w.bus.deviceCount
          · simp [i2cBusAddDevice, hinit, hfull] at h
          · refine ⟨rfl, Nat.lt_of_not_le hfull, ?_⟩
            simp only [i2cBusAddDevice, hinit, hfull, reduceCtorEq, Bool.true_eq_false, or_self,
              if_false] at h ⊢
            -- the slot is filled only after the hardware took the device
            by_cases hret : (w.esp.addDevice w.bus.busHandle ⟨7, addr, sclHz⟩ ret old).1 = espOk
            · rcases addDevice_ok hret with ⟨m, d, hm, hd, hmaster, hconfig⟩
              simp only [hret, ne_eq, not_true_eq_false, if_false, hd]
              exact ⟨m, d, hm, hmaster, by rw [hconfig], rfl, _, rfl, by simp, by simp, by simp⟩
            · simp only [hret, ne_eq, not_false_eq_true, if_true] at h

/-- A failed `i2c_bus_add_device` changes nothing but the log. -/
theorem addDevice_failed {bus : Option Unit} {addr : UInt8} {sclHz : UInt32}
    {label : Option String} {out : Option (Option MasterDev)} {ret : EspErr} {w : World}
    (h : (i2cBusAddDevice bus addr sclHz label out ret w).1 ≠ espOk) :
    (i2cBusAddDevice bus addr sclHz label out ret w).2.2 = w ∨
      (i2cBusAddDevice bus addr sclHz label out ret w).2.2 = w.emit [.addDevice none] := by
  cases out with
  | none =>
      exact Or.inl rfl
  | some old =>
      unfold i2cBusAddDevice at h ⊢
      dsimp only at h ⊢
      split at h
      · rename_i hdown
        exact Or.inl (by rw [if_pos hdown])
      rename_i hup
      rw [if_neg hup]
      split at h
      · rename_i hfull
        exact Or.inl (by rw [if_pos hfull])
      rename_i hroom
      rw [if_neg hroom]
      -- behind the checks only ESP-IDF can refuse the device
      split at h
      · rename_i hret
        rw [if_pos hret, addDevice_refused hret]
        exact Or.inr rfl
      · exact absurd rfl h

theorem addDevice_failed_idle {bus : Option Unit} {addr : UInt8} {sclHz : UInt32}
    {label : Option String} {out : Option (Option MasterDev)} {ret : EspErr} {w : World}
    (h : (i2cBusAddDevice bus addr sclHz label out ret w).1 ≠ espOk) :
    Idle w (i2cBusAddDevice bus addr sclHz label out ret w).2.2 := by
  rcases addDevice_failed h with hsame | hlogged
  · rw [hsame]
    exact Idle.refl w
  · rw [hlogged]
    exact Idle.emit w _

theorem BusInv.addDevice {w : World} (hw : BusInv w) (addr : UInt8) (sclHz : UInt32)
    (label : Option String) (out : Option (Option MasterDev)) (ret : EspErr) :
    BusInv (i2cBusAddDevice (some ()) addr sclHz label out ret w).2.2 := by
  by_cases hok : (i2cBusAddDevice (some ()) addr sclHz label out ret w).1 = espOk
  · rcases addDevice_appends hok with
      ⟨hinit, hroom, m, d, hm, hmaster, haddr, _, esp, hw', hnext, hlive, _⟩
    rw [hw']
    refine ⟨hroom, fun _ => ?_⟩
    rcases hw.up hinit with ⟨m', hup⟩
    have hmm : m' = m := Option.some.inj (hup.busHandle_eq.symm.trans hm)
    subst hmm
    refine ⟨m', hm, hup.newest.trans hnext.symm, hlive ▸ hup.live, ?_⟩
    intro i hi
    by_cases hi' : i = w.bus.deviceCount
    · -- the new entry
      subst hi'
      exact ⟨d, by simp, hmaster, by simpa using haddr⟩
    · have hlt : i < w.bus.deviceCount := Nat.lt_of_le_of_ne (Nat.lt_succ_iff.1 hi) hi'
      simpa [hi'] using hup.attached i hlt
  · exact hw.idle (addDevice_failed_idle hok)

theorem BusInv.deinit {w : World} (hw : BusInv w) (bus : Option Unit) (del : EspErr) :
    BusInv (i2cBusDeinit bus del w).2 := by
  unfold i2cBusDeinit
  split
  · exact hw
  · exact ⟨hw.count_le, fun h => Bool.noConfusion h⟩

theorem scan_idle (bus : Option Unit) (env : ScanEnv) (w : World) :
    Idle w (i2cBusScan bus env w).2 := by
  unfold i2cBusScan
  split
  · exact Idle.refl w
  split
  · exact (Idle.emit w _).trans (Idle.countError _)
  · exact Idle.emit w _

theorem BusInv.scan {w : World} (hw : BusInv w) (bus : Option Unit) (env : ScanEnv) :
    BusInv (i2cBusScan bus env w).2 :=
  hw.idle (scan_idle bus env w)

theorem BusInv.init {w : World} (hw : BusInv w) (bus : Option Unit) (cfg : Option I2cBusConfig)
    (env : InitEnv) : BusInv (i2cBusInit bus cfg env w).2 := by
  cases bus with
  | none =>
      exact hw
  | some u =>
      cases cfg with
      | none =>
          exact hw
      | some cfg =>
          have hspec := init_spec cfg env w
          refine ⟨hspec.1 ▸ Nat.zero_le _, fun hinit => ?_⟩
          rcases hspec.2.2.2 hinit with ⟨m, _, hup⟩
          exact ⟨m, hup⟩

theorem busStep_inv (w : World) (call : BusCall) (hw : BusInv w) : BusInv (busStep w call) := by
  cases call with
  | init cfg env => exact hw.init _ cfg env
  | deinit del => exact hw.deinit _ del
  | addDevice addr sclHz label out ret => exact hw.addDevice addr sclHz label out ret
  | write dev data env => exact hw.xfer _ _ dev env
  | read dev len env => exact hw.xfer _ _ dev env
  | writeRead dev wrData rdLen env => exact hw.xfer _ _ dev env
  | scan env => exact hw.scan _ env

/-! ## The registered devices, in order -/

/-- The addresses and labels in the registry, in slot order. -/
def registered (b : I2cBus) : List (UInt8 × Option String) :=
  (List.range b.deviceCount).map fun i => ((b.devices i).addr, (b.devices i).label)

/-- What a registry should hold after one more call: nothing after `i2c_bus_init`, one more device
after a successful `i2c_bus_add_device`, and otherwise what it held. -/
def record (reg : List (UInt8 × Option String)) (move : World × BusCall) :
    List (UInt8 × Option String) :=
  match move.2 with
  | .init (some _) _ => []
  | .addDevice addr _ label _ _ =>
      if (move.2.exec move.1).1 = espOk then reg ++ [(addr, label)] else reg
  | _ => reg

theorem SameRegistry.registered_eq {w w' : World} (h : SameRegistry w w') :
    registered w'.bus = registered w.bus := by
  simp [registered, h.deviceCount_eq, h.addr_eq, h.label_eq]

theorem Idle.registered_eq {w w' : World} (h : Idle w w') :
    registered w'.bus = registered w.bus := by
  simp [registered, h.deviceCount_eq, h.devices_eq]

theorem xfer_registered (op : XferOp) (bus : Option Unit) (dev : Option MasterDev) (env : XferEnv)
    (w : World) : registered (i2cBusXfer op bus dev env w).2.bus = registered w.bus := by
  rcases xfer_idle_or_recovers op bus dev env w with hidle | ⟨_, _, w₀, hbefore, hafter⟩
  · exact hidle.registered_eq
  · calc
      registered (i2cBusXfer op bus dev env w).2.bus
          = registered (i2cBusRecoverLocked env.recover w₀).2.bus := hafter.registered_eq
      _ = registered w₀.bus := (recover_sameRegistry env.recover w₀).registered_eq
      _ = registered w.bus := hbefore.registered_eq

theorem busStep_registered (w : World) (call : BusCall) :
    registered (busStep w call).bus = record (registered w.bus) (w, call) := by
  cases call with
  | init cfg env =>
      cases cfg with
      | none =>
          rfl
      | some cfg =>
          have hcount := (init_spec cfg env w).1
          simp [record, busStep, BusCall.exec, registered, hcount]
  | deinit del =>
      by_cases hdown : w.bus.initialized = false <;>
        simp [record, busStep, BusCall.exec, i2cBusDeinit, hdown, registered]
  | addDevice addr sclHz label out ret =>
      by_cases hok : (i2cBusAddDevice (some ()) addr sclHz label out ret w).1 = espOk
      · rcases addDevice_appends hok with ⟨_, _, m, d, _, _, _, _, esp, hw', _, _, _⟩
        simp only [record, busStep, BusCall.exec, hok, hw', if_true, registered, List.range_succ,
          List.map_append]
        congr 1
        · -- the slots below the new one are as they were
          apply List.map_congr_left
          intro i hi
          have hne : i ≠ w.bus.deviceCount := (List.mem_range.1 hi).ne
          simp [hne]
        · simp
      · have hidle := addDevice_failed_idle hok
        simp [record, busStep, BusCall.exec, hok, hidle.registered_eq]
  | write dev data env => exact xfer_registered _ _ dev env w
  | read dev len env => exact xfer_registered _ _ dev env w
  | writeRead dev wrData rdLen env => exact xfer_registered _ _ dev env w
  | scan env =>
      simp only [record, busStep, BusCall.exec, i2cBusScan]
      split
      · rfl
      split <;> rfl

theorem run_registered (w : World) (calls : List BusCall) :
    registered (run busStep w calls).bus = (moves busStep w calls).foldl record (registered w.bus) := by
  induction calls generalizing w with
  | nil =>
      rfl
  | cons call calls ih =>
      rw [run_cons, moves_cons, List.foldl_cons, ih, busStep_registered]

/-- What `i2c_bus_get_device_count` reports is how many devices the run has registered. -/
theorem getDeviceCount_of_every_run (calls : List BusCall) :
    i2cBusGetDeviceCount (some ()) (run busStep World.initial calls) =
      ((moves busStep World.initial calls).foldl record []).length := by
  have hregistered := run_registered World.initial calls
  have hlength : (registered (run busStep World.initial calls).bus).length =
      (run busStep World.initial calls).bus.deviceCount := by
    simp [registered]
  rw [i2cBusGetDeviceCount, if_neg (by simp), ← hlength, hregistered]
  rfl

/-- Over every run of calls on the bus and all answers of ESP-IDF: an initialised bus is up on its
newest, live master bus with every registered device attached to it; the registry holds the devices
added since the last `i2c_bus_init`, in order; a failed `i2c_bus_add_device` leaves the bus object
alone; and recovery never changes the number of devices, an address or a label, and leaves the bus
down if it fails. -/
theorem registry_of_every_run (calls : List BusCall) :
    let w := run busStep World.initial calls
    (w.bus.deviceCount ≤ i2cBusMaxDevices ∧ (w.bus.initialized = true → ∃ m, UpOn w m)) ∧
      registered w.bus = (moves busStep World.initial calls).foldl record [] ∧
      (∀ bus addr sclHz label out ret,
        (i2cBusAddDevice bus addr sclHz label out ret w).1 ≠ espOk →
          (i2cBusAddDevice bus addr sclHz label out ret w).2.2.bus = w.bus) ∧
      ∀ (env : RecoverEnv) (v : World),
        let res := i2cBusRecoverLocked env v
        (res.2.bus.deviceCount = v.bus.deviceCount ∧
          ∀ i, (res.2.bus.devices i).addr = (v.bus.devices i).addr ∧
            (res.2.bus.devices i).label = (v.bus.devices i).label) ∧
        (res.1 ≠ espOk → res.2.bus.initialized = false ∧ res.2.bus.busHandle = none) := by
  have hinv : BusInv (run busStep World.initial calls) :=
    inv_run busStep_inv BusInv.initial calls
  -- the two facts about single calls hold in every state, so in this one
  refine ⟨⟨hinv.count_le, hinv.up⟩, run_registered World.initial calls, ?_, ?_⟩
  · intro bus addr sclHz label out ret hfail
    rcases addDevice_failed hfail with hsame | hlogged
    · rw [hsame]
    · rw [hlogged]
      rfl
  · intro env v
    have hsame := recover_sameRegistry env v
    exact ⟨⟨hsame.deviceCount_eq, fun i => ⟨hsame.addr_eq i, hsame.label_eq i⟩⟩,
      recover_failed env v⟩

end MainboardFirmware
