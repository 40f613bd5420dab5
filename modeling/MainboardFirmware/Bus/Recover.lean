import MainboardFirmware.Bus.I2cBus

/-!
# Recover — what one run of `_i2c_bus_recover_locked` does

The facts every later result uses:

* `recover_sameRegistry`: recovery, successful or not, keeps the registry (count, addresses,
  labels), the pins, the mutex and the error count, and issues no transaction;
* `recover_failed` and `recover_ok`: after a failed recovery the bus is down; after a successful one
  it is up on a new master bus to which every registered device is attached;
* `recover_eq_ok_iff`: which answers make it succeed;
* `recover_calls`: which calls to ESP-IDF it makes.
-/

namespace MainboardFirmware

def HwCall.isTransfer : HwCall → Bool
  | .transfer .. => true
  | _ => false

/-- The transactions in a log. -/
def transfersOf (log : List HwCall) : List HwCall :=
  log.filter HwCall.isTransfer

@[simp] theorem transfersOf_append (xs ys : List HwCall) :
    transfersOf (xs ++ ys) = transfersOf xs ++ transfersOf ys := by
  simp [transfersOf]

@[simp] theorem transfersOf_nil : transfersOf [] = [] := rfl

@[simp] theorem transfersOf_cons (call : HwCall) (calls : List HwCall) :
    transfersOf (call :: calls) =
      if call.isTransfer then call :: transfersOf calls else transfersOf calls := by
  simp [transfersOf, List.filter_cons]

@[simp] theorem transfersOf_emit (w : World) (calls : List HwCall) :
    transfersOf (w.emit calls).esp.log = transfersOf w.esp.log ++ transfersOf calls := by
  simp [World.emit, Esp.emit]

@[simp] theorem transfersOf_countError (w : World) :
    transfersOf w.countError.esp.log = transfersOf w.esp.log := rfl

/-- The bus is up on `m`: the most recent master bus, still live, with every registered device
attached to it at its own address. -/
structure UpOn (w : World) (m : MasterBus) : Prop where
  busHandle_eq : w.bus.busHandle = some m
  newest : m.id + 1 = w.esp.nextMaster
  live : m.id ∈ w.esp.liveMasters
  attached : ∀ i < w.bus.deviceCount, ∃ d, (w.bus.devices i).handle = some d ∧
    d.master = m.id ∧ d.config.deviceAddress = (w.bus.devices i).addr

/-- `w'` has the registry of `w`, its pins, mutex and error count, and no further transactions. -/
structure SameRegistry (w w' : World) : Prop where
  deviceCount_eq : w'.bus.deviceCount = w.bus.deviceCount
  addr_eq : ∀ i, (w'.bus.devices i).addr = (w.bus.devices i).addr
  label_eq : ∀ i, (w'.bus.devices i).label = (w.bus.devices i).label
  mutex_eq : w'.bus.mutex = w.bus.mutex
  errorCount_eq : w'.bus.errorCount = w.bus.errorCount
  pins_eq : (w'.bus.port, w'.bus.sclPin, w'.bus.sdaPin) = (w.bus.port, w.bus.sclPin, w.bus.sdaPin)
  transfers_eq : transfersOf w'.esp.log = transfersOf w.esp.log
  nextMaster_le : w.esp.nextMaster ≤ w'.esp.nextMaster

namespace SameRegistry

theorem refl (w : World) : SameRegistry w w :=
  ⟨rfl, fun _ => rfl, fun _ => rfl, rfl, rfl, rfl, rfl, le_rfl⟩

theorem trans {w₁ w₂ w₃ : World} (h₁ : SameRegistry w₁ w₂) (h₂ : SameRegistry w₂ w₃) :
    SameRegistry w₁ w₃ where
  deviceCount_eq := h₂.deviceCount_eq.trans h₁.deviceCount_eq
  addr_eq i := (h₂.addr_eq i).trans (h₁.addr_eq i)
  label_eq i := (h₂.label_eq i).trans (h₁.label_eq i)
  mutex_eq := h₂.mutex_eq.trans h₁.mutex_eq
  errorCount_eq := h₂.errorCount_eq.trans h₁.errorCount_eq
  pins_eq := h₂.pins_eq.trans h₁.pins_eq
  transfers_eq := h₂.transfers_eq.trans h₁.transfers_eq
  nextMaster_le := h₁.nextMaster_le.trans h₂.nextMaster_le

theorem emit (w : World) (calls : List HwCall) (h : transfersOf calls = []) :
    SameRegistry w (w.emit calls) := by
  refine ⟨rfl, fun _ => rfl, fun _ => rfl, rfl, rfl, rfl, ?_, le_rfl⟩
  simp [World.emit, Esp.emit, h]

end SameRegistry

/-! ## The calls to ESP-IDF -/

@[simp] theorem transfersOf_deleteMutex (e : Esp) (mutex : Nat) :
    transfersOf (e.deleteMutex mutex).log = transfersOf e.log := by
  simp [Esp.deleteMutex, Esp.emit, HwCall.isTransfer]

@[simp] theorem transfersOf_delMasterBus (e : Esp) (master : Option MasterBus)
    (ret : EspErr) :
    transfersOf (e.delMasterBus master ret).log = transfersOf e.log := by
  cases master <;> simp [Esp.delMasterBus, Esp.emit, HwCall.isTransfer]

@[simp] theorem transfersOf_newMasterBus (e : Esp) (config : MasterBusConfig) (ret : EspErr)
    (out : Option MasterBus) :
    transfersOf (e.newMasterBus config ret out).2.2.log = transfersOf e.log := by
  by_cases hret : ret = espOk <;> simp [Esp.newMasterBus, Esp.emit, HwCall.isTransfer, hret]

@[simp] theorem transfersOf_addDevice (e : Esp) (master : Option MasterBus) (config : DeviceConfig)
    (ret : EspErr) (out : Option MasterDev) :
    transfersOf (e.addDevice master config ret out).2.2.log = transfersOf e.log := by
  cases master with
  | none =>
      simp [Esp.addDevice, Esp.emit, HwCall.isTransfer]
  | some m =>
      by_cases hret : ret = espOk <;> simp [Esp.addDevice, Esp.emit, HwCall.isTransfer, hret]

@[simp] theorem nextMaster_delMasterBus (e : Esp) (master : Option MasterBus)
    (ret : EspErr) :
    (e.delMasterBus master ret).nextMaster = e.nextMaster := by
  cases master <;> rfl

@[simp] theorem nextMaster_addDevice (e : Esp) (master : Option MasterBus) (config : DeviceConfig)
    (ret : EspErr) (out : Option MasterDev) :
    (e.addDevice master config ret out).2.2.nextMaster = e.nextMaster := by
  cases master with
  | none =>
      rfl
  | some m =>
      by_cases hret : ret = espOk <;> simp [Esp.addDevice, Esp.emit, hret]

@[simp] theorem liveMasters_addDevice (e : Esp) (master : Option MasterBus) (config : DeviceConfig)
    (ret : EspErr) (out : Option MasterDev) :
    (e.addDevice master config ret out).2.2.liveMasters = e.liveMasters := by
  cases master with
  | none =>
      rfl
  | some m =>
      by_cases hret : ret = espOk <;> simp [Esp.addDevice, Esp.emit, hret]

/-- A device is added only to an existing master bus, and then with the address asked for. -/
theorem addDevice_ok {e : Esp} {master : Option MasterBus} {config : DeviceConfig} {ret : EspErr}
    {out : Option MasterDev} (h : (e.addDevice master config ret out).1 = espOk) :
    ∃ m d, master = some m ∧ (e.addDevice master config ret out).2.1 = some d ∧
      d.master = m.id ∧ d.config = config := by
  cases master with
  | none =>
      simp [Esp.addDevice] at h
  | some m =>
      by_cases hret : ret = espOk
      · exact ⟨m, ⟨e.nextDev, m.id, config⟩, rfl, by simp [Esp.addDevice, hret], rfl, rfl⟩
      · simp [Esp.addDevice, hret] at h

/-- A refused device changes nothing but the log. -/
theorem addDevice_refused {e : Esp} {master : Option MasterBus} {config : DeviceConfig}
    {ret : EspErr} {out : Option MasterDev}
    (h : (e.addDevice master config ret out).1 ≠ espOk) :
    (e.addDevice master config ret out).2.2 = e.emit [.addDevice none] := by
  cases master with
  | none =>
      rfl
  | some m =>
      by_cases hret : ret = espOk
      · simp [Esp.addDevice, hret] at h
      · simp [Esp.addDevice, hret]

/-- On an existing master bus the answer decides. -/
@[simp] theorem addDevice_some_fst (e : Esp) (m : MasterBus) (config : DeviceConfig) (ret : EspErr)
    (out : Option MasterDev) : (e.addDevice (some m) config ret out).1 = ret := by
  by_cases hret : ret = espOk <;> simp [Esp.addDevice, hret]

theorem addDevice_appends_log (e : Esp) (master : Option MasterBus) (config : DeviceConfig)
    (ret : EspErr) (out : Option MasterDev) :
    ∃ dev, (e.addDevice master config ret out).2.2.log = e.log ++ [.addDevice dev] := by
  cases master with
  | none =>
      exact ⟨none, rfl⟩
  | some m =>
      by_cases hret : ret = espOk
      · exact ⟨some ⟨e.nextDev, m.id, config⟩, by simp [Esp.addDevice, hret, Esp.emit]⟩
      · exact ⟨none, by simp [Esp.addDevice, hret, Esp.emit]⟩

theorem newMasterBus_appends_log (e : Esp) (config : MasterBusConfig) (ret : EspErr)
    (out : Option MasterBus) :
    ∃ master, (e.newMasterBus config ret out).2.2.log = e.log ++ [.newMasterBus master] := by
  by_cases hret : ret = espOk
  · exact ⟨some ⟨e.nextMaster, config⟩, by simp [Esp.newMasterBus, hret, Esp.emit]⟩
  · exact ⟨none, by simp [Esp.newMasterBus, hret, Esp.emit]⟩

@[simp] theorem liveMutexes_delMasterBus (e : Esp) (master : Option MasterBus)
    (ret : EspErr) :
    (e.delMasterBus master ret).liveMutexes = e.liveMutexes := by
  cases master <;> rfl

@[simp] theorem nextMutex_delMasterBus (e : Esp) (master : Option MasterBus)
    (ret : EspErr) :
    (e.delMasterBus master ret).nextMutex = e.nextMutex := by
  cases master <;> rfl

@[simp] theorem liveMutexes_addDevice (e : Esp) (master : Option MasterBus) (config : DeviceConfig)
    (ret : EspErr) (out : Option MasterDev) :
    (e.addDevice master config ret out).2.2.liveMutexes = e.liveMutexes := by
  cases master with
  | none =>
      rfl
  | some m =>
      by_cases hret : ret = espOk <;> simp [Esp.addDevice, Esp.emit, hret]

@[simp] theorem nextMutex_addDevice (e : Esp) (master : Option MasterBus) (config : DeviceConfig)
    (ret : EspErr) (out : Option MasterDev) :
    (e.addDevice master config ret out).2.2.nextMutex = e.nextMutex := by
  cases master with
  | none =>
      rfl
  | some m =>
      by_cases hret : ret = espOk <;> simp [Esp.addDevice, Esp.emit, hret]

/-- The same mutexes exist. -/
def SameMutexes (w w' : World) : Prop :=
  w'.esp.liveMutexes = w.esp.liveMutexes ∧ w'.esp.nextMutex = w.esp.nextMutex

theorem SameMutexes.trans {w w' w'' : World} (h : SameMutexes w w') (h' : SameMutexes w' w'') :
    SameMutexes w w'' :=
  ⟨h'.1.trans h.1, h'.2.trans h.2⟩

/-- A call of the kinds recovery makes, the configuration of the pins apart. -/
def HwCall.ofRebuild : HwCall → Bool
  | .newMasterBus _ | .delMasterBus _ | .addDevice _ | .gpioSetLevel _ _ | .gpioGetLevel _ _ => true
  | _ => false

/-- `w'` has further calls in its log, all of those kinds. -/
def Rebuilds (w w' : World) : Prop :=
  ∃ calls, w'.esp.log = w.esp.log ++ calls ∧ ∀ call ∈ calls, call.ofRebuild = true

/-- A call of the last stage of recovery, which does not touch the lines. -/
def HwCall.ofReadd : HwCall → Bool
  | .newMasterBus _ | .delMasterBus _ | .addDevice _ => true
  | _ => false

/-- `w'` has further calls in its log, and only such ones. -/
def LogsOnly (kind : HwCall → Prop) (w w' : World) : Prop :=
  ∃ calls, w'.esp.log = w.esp.log ++ calls ∧ ∀ call ∈ calls, kind call

namespace LogsOnly

variable {kind kind' : HwCall → Prop} {w w' w'' : World}

theorem of_log_eq (h : w'.esp.log = w.esp.log) : LogsOnly kind w w' :=
  ⟨[], by simpa using h, fun _ hcall => absurd hcall List.not_mem_nil⟩

theorem trans (h : LogsOnly kind w w') (h' : LogsOnly kind w' w'') : LogsOnly kind w w'' := by
  rcases h with ⟨calls, hlog, hkind⟩
  rcases h' with ⟨calls', hlog', hkind'⟩
  refine ⟨calls ++ calls', by rw [hlog', hlog, List.append_assoc], ?_⟩
  intro call hcall
  exact (List.mem_append.1 hcall).elim (hkind call) (hkind' call)

theorem emit (w : World) {calls : List HwCall} (h : ∀ call ∈ calls, kind call) :
    LogsOnly kind w (w.emit calls) :=
  ⟨calls, rfl, h⟩

theorem mono (hkinds : ∀ call, kind call → kind' call) (h : LogsOnly kind w w') :
    LogsOnly kind' w w' := by
  rcases h with ⟨calls, hlog, hkind⟩
  exact ⟨calls, hlog, fun call hcall => hkinds call (hkind call hcall)⟩

/-- The last stage makes calls of the kinds recovery makes. -/
theorem rebuilds (h : LogsOnly (HwCall.ofReadd ·) w w') : Rebuilds w w' := by
  apply h.mono
  intro call hreadd
  cases call <;> simp_all [HwCall.ofReadd, HwCall.ofRebuild]

end LogsOnly

theorem Rebuilds.trans {w w' w'' : World} (h : Rebuilds w w') (h' : Rebuilds w' w'') :
    Rebuilds w w'' :=
  LogsOnly.trans h h'

theorem Rebuilds.emit (w : World) {calls : List HwCall}
    (h : ∀ call ∈ calls, call.ofRebuild = true) : Rebuilds w (w.emit calls) :=
  LogsOnly.emit w h

/-! ## Re-adding the registered devices -/

section Readd

variable (env : RecoverEnv)

/-- The world after entry `i` got the handle `handle`. -/
private def withHandle (w : World) (i : Nat) (handle : Option MasterDev) (esp : Esp) : World :=
  ⟨{ w.bus with
      devices := Function.update w.bus.devices i { w.bus.devices i with handle := handle } }, esp⟩

private theorem withHandle_sameRegistry (w : World) (i : Nat) (handle : Option MasterDev) (esp : Esp)
    (hlog : transfersOf esp.log = transfersOf w.esp.log)
    (hnext : esp.nextMaster = w.esp.nextMaster) :
    SameRegistry w (withHandle w i handle esp) := by
  refine ⟨rfl, ?_, ?_, rfl, rfl, rfl, hlog, hnext.ge⟩
  · intro j
    by_cases hj : j = i
    · subst hj
      simp [withHandle]
    · simp [withHandle, hj]
  · intro j
    by_cases hj : j = i
    · subst hj
      simp [withHandle]
    · simp [withHandle, hj]

/-- The answer to adding entry `i` again. -/
private abbrev readdAnswer (w : World) (i : Nat) : EspErr × Option MasterDev × Esp :=
  w.esp.addDevice w.bus.busHandle ⟨7, (w.bus.devices i).addr, 0⟩ (env.addDevice i)
    (w.bus.devices i).handle

private theorem readdDevices_succ_failed {w : World} {i n : Nat}
    (h : (readdAnswer env w i).1 ≠ espOk) :
    readdDevices env (n + 1) i w =
      ((readdAnswer env w i).1,
        ⟨{ w.bus with busHandle := none },
          (readdAnswer env w i).2.2.delMasterBus w.bus.busHandle env.delRebuilt⟩) := by
  simp [readdDevices, h]

private theorem readdDevices_succ_ok {w : World} {i n : Nat}
    (h : (readdAnswer env w i).1 = espOk) :
    readdDevices env (n + 1) i w =
      readdDevices env n (i + 1)
        (withHandle w i (readdAnswer env w i).2.1 (readdAnswer env w i).2.2) := by
  simp [readdDevices, h, withHandle]

theorem readdDevices_sameRegistry (n i : Nat) (w : World) :
    SameRegistry w (readdDevices env n i w).2 := by
  induction n generalizing i w with
  | zero =>
      exact SameRegistry.refl w
  | succ n ih =>
      by_cases hret : (readdAnswer env w i).1 = espOk
      · rw [readdDevices_succ_ok env hret]
        -- this round changes one handle, the rest is the induction hypothesis
        have hhead := withHandle_sameRegistry w i (readdAnswer env w i).2.1
          (readdAnswer env w i).2.2 (by simp) (by simp)
        exact hhead.trans (ih (i + 1) _)
      · rw [readdDevices_succ_failed env hret]
        exact ⟨rfl, fun _ => rfl, fun _ => rfl, rfl, rfl, rfl, by simp, by simp⟩

theorem readdDevices_readds (n i : Nat) (w : World) :
    LogsOnly (HwCall.ofReadd ·) w (readdDevices env n i w).2 := by
  induction n generalizing i w with
  | zero =>
      exact LogsOnly.of_log_eq rfl
  | succ n ih =>
      rcases addDevice_appends_log w.esp w.bus.busHandle ⟨7, (w.bus.devices i).addr, 0⟩
        (env.addDevice i) (w.bus.devices i).handle with ⟨dev, hlog⟩
      by_cases hret : (readdAnswer env w i).1 = espOk
      · rw [readdDevices_succ_ok env hret]
        exact LogsOnly.trans ⟨[.addDevice dev], hlog, by simp [HwCall.ofReadd]⟩ (ih (i + 1) _)
      · -- the loop gives up and deletes the master bus
        rw [readdDevices_succ_failed env hret]
        refine ⟨[.addDevice dev, .delMasterBus w.bus.busHandle], ?_, by simp [HwCall.ofReadd]⟩
        cases hm : w.bus.busHandle <;> rw [hm] at hlog <;>
          simp [readdAnswer, hm, Esp.delMasterBus, Esp.emit, hlog]

theorem readdDevices_sameMutexes (n i : Nat) (w : World) :
    SameMutexes w (readdDevices env n i w).2 := by
  induction n generalizing i w with
  | zero =>
      exact ⟨rfl, rfl⟩
  | succ n ih =>
      by_cases hret : (readdAnswer env w i).1 = espOk
      · rw [readdDevices_succ_ok env hret]
        have hhead : SameMutexes w (withHandle w i (readdAnswer env w i).2.1
            (readdAnswer env w i).2.2) := by
          simp [SameMutexes, withHandle]
        exact hhead.trans (ih (i + 1) _)
      · rw [readdDevices_succ_failed env hret]
        simp [SameMutexes]

theorem readdDevices_initialized (n i : Nat) (w : World) :
    (readdDevices env n i w).2.bus.initialized = w.bus.initialized := by
  induction n generalizing i w with
  | zero =>
      rfl
  | succ n ih =>
      by_cases hret : (readdAnswer env w i).1 = espOk
      · rw [readdDevices_succ_ok env hret]
        exact ih (i + 1) _
      · rw [readdDevices_succ_failed env hret]

theorem readdDevices_failed {n i : Nat} {w : World} (h : (readdDevices env n i w).1 ≠ espOk) :
    (readdDevices env n i w).2.bus.busHandle = none := by
  induction n generalizing i w with
  | zero =>
      simp [readdDevices] at h
  | succ n ih =>
      by_cases hret : (readdAnswer env w i).1 = espOk
      · rw [readdDevices_succ_ok env hret] at h ⊢
        exact ih h
      · rw [readdDevices_succ_failed env hret]

/-- What the loop has done once it answers `ESP_OK`; entries below `i` are not touched. -/
structure Readded (m : MasterBus) (n i : Nat) (w w' : World) : Prop where
  busHandle_eq : w'.bus.busHandle = some m
  nextMaster_eq : w'.esp.nextMaster = w.esp.nextMaster
  liveMasters_eq : w'.esp.liveMasters = w.esp.liveMasters
  below : ∀ j < i, w'.bus.devices j = w.bus.devices j
  attached : ∀ j, i ≤ j → j < i + n → ∃ d, (w'.bus.devices j).handle = some d ∧
    d.master = m.id ∧ d.config.deviceAddress = (w'.bus.devices j).addr

theorem readdDevices_ok {m : MasterBus} {n i : Nat} {w : World} (hm : w.bus.busHandle = some m)
    (h : (readdDevices env n i w).1 = espOk) : Readded m n i w (readdDevices env n i w).2 := by
  induction n generalizing i w with
  | zero =>
      refine ⟨hm, rfl, rfl, fun _ _ => rfl, ?_⟩
      intro j hij hj
      omega
  | succ n ih =>
      by_cases hret : (readdAnswer env w i).1 = espOk
      · rw [readdDevices_succ_ok env hret] at h ⊢
        -- entry `i` is done by this round, the later ones by the induction hypothesis
        have hrest := ih (w := withHandle w i (readdAnswer env w i).2.1 (readdAnswer env w i).2.2)
          hm h
        rcases addDevice_ok hret with ⟨m', d, hm', hd, hmaster, hconfig⟩
        have hmm : m' = m := by
          rw [hm] at hm'
          exact (Option.some.inj hm').symm
        subst hmm
        refine ⟨hrest.busHandle_eq, ?_, ?_, ?_, ?_⟩
        · rw [hrest.nextMaster_eq]
          simp [withHandle]
        · rw [hrest.liveMasters_eq]
          simp [withHandle]
        · intro j hj
          rw [hrest.below j (by omega)]
          simp [withHandle, show j ≠ i by omega]
        · intro j hij hj
          by_cases hji : j = i
          · subst hji
            refine ⟨d, ?_, hmaster, ?_⟩
            · rw [hrest.below j (by omega)]
              simpa [withHandle] using hd
            · rw [hrest.below j (by omega), hconfig]
              simp [withHandle]
          · exact hrest.attached j (by omega) (by omega)
      · rw [readdDevices_succ_failed env hret] at h
        exact absurd h hret

/-- Each device comes back with its address and no clock rate. -/
theorem readdDevices_config {n i : Nat} {w : World} (h : (readdDevices env n i w).1 = espOk) :
    ∀ j, i ≤ j → j < i + n → ∃ d, ((readdDevices env n i w).2.bus.devices j).handle = some d ∧
      d.config = ⟨7, (w.bus.devices j).addr, 0⟩ := by
  induction n generalizing i w with
  | zero =>
      intro j hij hj
      omega
  | succ n ih =>
      by_cases hret : (readdAnswer env w i).1 = espOk
      · rw [readdDevices_succ_ok env hret] at h ⊢
        intro j hij hj
        by_cases hji : j = i
        · -- the later rounds leave the entry of this one alone
          subst hji
          rcases addDevice_ok hret with ⟨m, d, hm, hd, _, hconfig⟩
          have hbelow := (readdDevices_ok env (m := m)
            (w := withHandle w j (readdAnswer env w j).2.1 (readdAnswer env w j).2.2) hm h).below j
            (Nat.lt_succ_self j)
          refine ⟨d, ?_, hconfig⟩
          rw [hbelow]
          simpa [withHandle] using hd
        · simpa [withHandle, hji] using ih h j (by omega) (by omega)
      · rw [readdDevices_succ_failed env hret] at h
        exact absurd h hret

/-- On a rebuilt bus the loop succeeds exactly if every entry is taken. -/
theorem readdDevices_eq_ok_iff {m : MasterBus} {n i : Nat} {w : World}
    (hm : w.bus.busHandle = some m) :
    (readdDevices env n i w).1 = espOk ↔ ∀ j, i ≤ j → j < i + n → env.addDevice j = espOk := by
  induction n generalizing i w with
  | zero =>
      simp only [readdDevices, true_iff]
      intro j hij hj
      omega
  | succ n ih =>
      have hanswer : (readdAnswer env w i).1 = env.addDevice i := by
        simp [readdAnswer, hm]
      by_cases hret : (readdAnswer env w i).1 = espOk
      · -- entry `i` is answered well, the later ones are the induction hypothesis
        rw [readdDevices_succ_ok env hret, ih (by exact hm)]
        have hi : env.addDevice i = espOk := hanswer ▸ hret
        constructor
        · intro h j hij hj
          by_cases hji : j = i
          · exact hji ▸ hi
          · exact h j (by omega) (by omega)
        · intro h j hij hj
          exact h j (by omega) (by omega)
      · -- the loop stops here, and entry `i` is the one that was not
        rw [readdDevices_succ_failed env hret]
        constructor
        · intro h
          exact absurd h hret
        · intro h
          exact absurd (hanswer.trans (h i le_rfl (by omega))) hret

end Readd

/-! ## The whole recovery -/

theorem teardown_sameRegistry (env : RecoverEnv) (w : World) : SameRegistry w (teardown env w) := by
  cases hm : w.bus.busHandle with
  | none =>
      simp only [teardown, hm]
      exact ⟨rfl, fun _ => rfl, fun _ => rfl, rfl, rfl, rfl, rfl, le_rfl⟩
  | some m =>
      simp only [teardown, hm]
      exact ⟨rfl, fun _ => rfl, fun _ => rfl, rfl, rfl, rfl, by simp, by simp⟩

/-- After the first stage the bus is down and its handle gone. -/
theorem teardown_down (env : RecoverEnv) (w : World) :
    (teardown env w).bus.initialized = false ∧ (teardown env w).bus.busHandle = none := by
  cases hm : w.bus.busHandle <;> simp [teardown, hm]

@[simp] theorem transfersOf_clockScl (sda : Nat → Bool) (budget k : Nat) :
    transfersOf (clockSclUntilReleased sda budget k).2 = [] := by
  induction budget generalizing k with
  | zero =>
      rfl
  | succ budget ih =>
      by_cases hk : sda k = true
      · simp [clockSclUntilReleased, hk, HwCall.isTransfer]
      · simpa [clockSclUntilReleased, hk, HwCall.isTransfer] using ih (k + 1)

theorem clockScl_ofRebuild (sda : Nat → Bool) (budget k : Nat) :
    ∀ call ∈ (clockSclUntilReleased sda budget k).2, call.ofRebuild = true := by
  induction budget generalizing k with
  | zero =>
      simp [clockSclUntilReleased, HwCall.ofRebuild]
  | succ budget ih =>
      by_cases hk : sda k = true
      · simp [clockSclUntilReleased, hk, HwCall.ofRebuild]
      · simpa [clockSclUntilReleased, hk, HwCall.ofRebuild] using ih (k + 1)

theorem teardown_readds (env : RecoverEnv) (w : World) : LogsOnly (HwCall.ofReadd ·) w (teardown env w) := by
  cases hm : w.bus.busHandle with
  | none =>
      exact LogsOnly.of_log_eq (by simp [teardown, hm])
  | some m =>
      exact ⟨[.delMasterBus (some m)], by simp [teardown, hm, Esp.delMasterBus, Esp.emit],
        by simp [HwCall.ofReadd]⟩

theorem teardown_rebuilds (env : RecoverEnv) (w : World) : Rebuilds w (teardown env w) :=
  (teardown_readds env w).rebuilds

namespace RecoverEnv

/-- The line-release stage ends with SDA high. -/
def Released (env : RecoverEnv) : Prop :=
  env.sda ((clockSclUntilReleased env.sda i2cBusRecoveryClocks 0).1 + 1) = true

/-- Every stage of a recovery of `count` registered devices is answered well. -/
def Heals (env : RecoverEnv) (count : Nat) : Prop :=
  env.Released ∧ env.newMasterBus = espOk ∧ ∀ i < count, env.addDevice i = espOk

end RecoverEnv

section Recover

variable (env : RecoverEnv) (w : World)

/-- The world in which the level of SDA is judged. -/
def lineWorld : World :=
  let clocking := clockSclUntilReleased env.sda i2cBusRecoveryClocks 0
  (((teardown env w).emit [.gpioConfig, .gpioSetLevel .scl true, .gpioSetLevel .sda true]).emit
    clocking.2).emit [.gpioGetLevel .sda (env.sda (clocking.1 + 1))]

/-- The world after the manual STOP condition. -/
def stopWorld : World :=
  (lineWorld env w).emit [.gpioSetLevel .sda false, .gpioSetLevel .scl true, .gpioSetLevel .sda true]

theorem recover_of_not_released (h : ¬ env.Released) :
    i2cBusRecoverLocked env w = (espErrInvalidState, lineWorld env w) := by
  have hlow : env.sda ((clockSclUntilReleased env.sda i2cBusRecoveryClocks 0).1 + 1) = false :=
    Bool.eq_false_iff.2 h
  simp only [i2cBusRecoverLocked, lineWorld, hlow, if_true]

theorem recover_of_released (h : env.Released) :
    i2cBusRecoverLocked env w = rebuild env (stopWorld env w) := by
  have hhigh : env.sda ((clockSclUntilReleased env.sda i2cBusRecoveryClocks 0).1 + 1) = true := h
  simp only [i2cBusRecoverLocked, stopWorld, lineWorld, hhigh, Bool.true_eq_false, if_false]

theorem lineWorld_sameRegistry : SameRegistry w (lineWorld env w) := by
  unfold lineWorld
  have h₁ := (teardown_sameRegistry env w).trans
    (SameRegistry.emit _ [.gpioConfig, .gpioSetLevel .scl true, .gpioSetLevel .sda true] rfl)
  have h₂ := h₁.trans (SameRegistry.emit _ _ (transfersOf_clockScl env.sda i2cBusRecoveryClocks 0))
  exact h₂.trans (SameRegistry.emit _ _ rfl)

theorem stopWorld_sameRegistry : SameRegistry w (stopWorld env w) :=
  (lineWorld_sameRegistry env w).trans (SameRegistry.emit _ _ rfl)

theorem lineWorld_down :
    (lineWorld env w).bus.initialized = false ∧ (lineWorld env w).bus.busHandle = none :=
  teardown_down env w

theorem stopWorld_down :
    (stopWorld env w).bus.initialized = false ∧ (stopWorld env w).bus.busHandle = none :=
  teardown_down env w

/-! ### The rebuild -/

/-- The world in which the devices are re-added. -/
private def rebuiltWorld (w : World) : World :=
  let config := masterBusConfig w.bus.port w.bus.sclPin w.bus.sdaPin
  ⟨{ w.bus with busHandle := some ⟨w.esp.nextMaster, config⟩ },
    (w.esp.newMasterBus config espOk w.bus.busHandle).2.2⟩

private theorem rebuild_refused {w : World} (h : env.newMasterBus ≠ espOk) :
    rebuild env w =
      (env.newMasterBus, ⟨w.bus, w.esp.emit [.newMasterBus none]⟩) := by
  simp [rebuild, Esp.newMasterBus, h]

private theorem rebuild_granted {w : World} (h : env.newMasterBus = espOk) :
    rebuild env w =
      if (readdDevices env w.bus.deviceCount 0 (rebuiltWorld w)).1 ≠ espOk then
        readdDevices env w.bus.deviceCount 0 (rebuiltWorld w)
      else
        let w' := (readdDevices env w.bus.deviceCount 0 (rebuiltWorld w)).2
        (espOk, { w' with bus := { w'.bus with initialized := true } }) := by
  simp [rebuild, rebuiltWorld, Esp.newMasterBus, h]

private theorem rebuiltWorld_sameRegistry (w : World) : SameRegistry w (rebuiltWorld w) := by
  refine ⟨rfl, fun _ => rfl, fun _ => rfl, rfl, rfl, rfl, by simp [rebuiltWorld], ?_⟩
  simp [rebuiltWorld, Esp.newMasterBus]

theorem rebuild_sameRegistry (w : World) : SameRegistry w (rebuild env w).2 := by
  by_cases hret : env.newMasterBus = espOk
  · rw [rebuild_granted env hret]
    have h := (rebuiltWorld_sameRegistry w).trans
      (readdDevices_sameRegistry env w.bus.deviceCount 0 (rebuiltWorld w))
    split
    · exact h
    · exact ⟨h.1, h.2, h.3, h.4, h.5, h.6, h.7, h.8⟩
  · rw [rebuild_refused env hret]
    exact SameRegistry.emit w _ rfl

theorem rebuild_readds (w : World) : LogsOnly (HwCall.ofReadd ·) w (rebuild env w).2 := by
  by_cases hret : env.newMasterBus = espOk
  · rw [rebuild_granted env hret]
    have hnew : LogsOnly (HwCall.ofReadd ·) w (rebuiltWorld w) := by
      rcases newMasterBus_appends_log w.esp (masterBusConfig w.bus.port w.bus.sclPin w.bus.sdaPin)
        espOk w.bus.busHandle with ⟨master, hlog⟩
      exact ⟨[.newMasterBus master], hlog, by simp [HwCall.ofReadd]⟩
    have hreadd := hnew.trans (readdDevices_readds env w.bus.deviceCount 0 (rebuiltWorld w))
    split
    · exact hreadd
    · exact hreadd.trans (LogsOnly.of_log_eq rfl)
  · rw [rebuild_refused env hret]
    exact ⟨[.newMasterBus none], rfl, by simp [HwCall.ofReadd]⟩

theorem rebuild_rebuilds (w : World) : Rebuilds w (rebuild env w).2 :=
  (rebuild_readds env w).rebuilds

theorem rebuild_sameMutexes (w : World) : SameMutexes w (rebuild env w).2 := by
  by_cases hret : env.newMasterBus = espOk
  · rw [rebuild_granted env hret]
    have hnew : SameMutexes w (rebuiltWorld w) := by
      simp [SameMutexes, rebuiltWorld, Esp.newMasterBus, Esp.emit]
    have hreadd := hnew.trans (readdDevices_sameMutexes env w.bus.deviceCount 0 (rebuiltWorld w))
    split
    · exact hreadd
    · exact hreadd
  · rw [rebuild_refused env hret]
    exact ⟨rfl, rfl⟩

/-- A rebuild that succeeds creates one master bus. -/
theorem rebuild_live {w : World} (h : (rebuild env w).1 = espOk) :
    (rebuild env w).2.esp.liveMasters = insert w.esp.nextMaster w.esp.liveMasters := by
  by_cases hret : env.newMasterBus = espOk
  · rw [rebuild_granted env hret] at h ⊢
    split at h
    · rename_i hreadd
      exact absurd h hreadd
    · rename_i hreadd
      rw [if_neg hreadd]
      have hdone := readdDevices_ok env rfl (not_not.1 hreadd)
      simp only [hdone.liveMasters_eq]
      simp [rebuiltWorld, Esp.newMasterBus]
  · rw [rebuild_refused env hret] at h
    exact absurd h hret

theorem rebuild_failed {w : World}
    (hdown : w.bus.initialized = false ∧ w.bus.busHandle = none)
    (h : (rebuild env w).1 ≠ espOk) :
    (rebuild env w).2.bus.initialized = false ∧ (rebuild env w).2.bus.busHandle = none := by
  by_cases hret : env.newMasterBus = espOk
  · rw [rebuild_granted env hret] at h ⊢
    split at h
    · -- the bus was taken down before, and the loop does not bring it up
      rename_i hreadd
      rw [if_pos hreadd]
      refine ⟨?_, readdDevices_failed env hreadd⟩
      rw [readdDevices_initialized]
      exact hdown.1
    · exact absurd rfl h
  · rw [rebuild_refused env hret]
    exact hdown

theorem rebuild_ok {w : World} (h : (rebuild env w).1 = espOk) :
    (rebuild env w).2.bus.initialized = true ∧
      UpOn (rebuild env w).2
        ⟨w.esp.nextMaster, masterBusConfig w.bus.port w.bus.sclPin w.bus.sdaPin⟩ := by
  by_cases hret : env.newMasterBus = espOk
  · rw [rebuild_granted env hret] at h ⊢
    split at h
    · rename_i hreadd
      exact absurd h hreadd
    · -- the new master bus is the newest one, and every slot got a handle of it
      rename_i hreadd
      rw [if_neg hreadd]
      have hcount := (readdDevices_sameRegistry env w.bus.deviceCount 0 (rebuiltWorld w)).deviceCount_eq
      have hdone := readdDevices_ok env rfl (not_not.1 hreadd)
      refine ⟨rfl, hdone.busHandle_eq, ?_, ?_, ?_⟩
      · simp only [hdone.nextMaster_eq]
        simp [rebuiltWorld, Esp.newMasterBus]
      · simp only [hdone.liveMasters_eq]
        simp [rebuiltWorld, Esp.newMasterBus]
      · intro j hj
        have hj' : j < 0 + w.bus.deviceCount := by
          rw [Nat.zero_add]
          exact hcount ▸ hj
        exact hdone.attached j (Nat.zero_le j) hj'
  · rw [rebuild_refused env hret] at h
    exact absurd h hret

/-- On the rebuilt bus each device has its address and no clock rate. -/
theorem rebuild_config {w : World} (h : (rebuild env w).1 = espOk) :
    ∀ i < w.bus.deviceCount, ∃ d, ((rebuild env w).2.bus.devices i).handle = some d ∧
      d.config = ⟨7, (w.bus.devices i).addr, 0⟩ := by
  by_cases hret : env.newMasterBus = espOk
  · rw [rebuild_granted env hret] at h ⊢
    split at h
    · rename_i hreadd
      exact absurd h hreadd
    · rename_i hreadd
      rw [if_neg hreadd]
      intro i hi
      exact readdDevices_config env (not_not.1 hreadd) i (Nat.zero_le i) (by omega)
  · rw [rebuild_refused env hret] at h
    exact absurd h hret

theorem rebuild_eq_ok_iff (w : World) :
    (rebuild env w).1 = espOk ↔
      env.newMasterBus = espOk ∧ ∀ i < w.bus.deviceCount, env.addDevice i = espOk := by
  by_cases hret : env.newMasterBus = espOk
  · have hiff := readdDevices_eq_ok_iff env (n := w.bus.deviceCount) (i := 0)
      (w := rebuiltWorld w) rfl
    rw [rebuild_granted env hret]
    simp only [Nat.zero_le, Nat.zero_add, forall_const] at hiff
    split
    · rename_i hreadd
      simp [hret, ← hiff]
    · rename_i hreadd
      simpa [hret, ← hiff] using hreadd
  · rw [rebuild_refused env hret]
    simp [hret]

/-! ### Recovery -/

theorem recover_sameRegistry : SameRegistry w (i2cBusRecoverLocked env w).2 := by
  by_cases h : env.Released
  · rw [recover_of_released env w h]
    exact (stopWorld_sameRegistry env w).trans (rebuild_sameRegistry env _)
  · rw [recover_of_not_released env w h]
    exact lineWorld_sameRegistry env w

/-- Recovery configures the pins once; its other calls are those of the rebuild. -/
theorem recover_calls :
    ∃ before after,
      (i2cBusRecoverLocked env w).2.esp.log = w.esp.log ++ (before ++ .gpioConfig :: after) ∧
        ∀ call ∈ before ++ after, call.ofRebuild = true := by
  rcases teardown_rebuilds env w with ⟨before, hbefore, hkind⟩
  -- everything after the configuration is one appended list
  have hconfig : ∀ w', Rebuilds ((teardown env w).emit [.gpioConfig]) w' →
      ∃ after, w'.esp.log = w.esp.log ++ (before ++ .gpioConfig :: after) ∧
        ∀ call ∈ before ++ after, call.ofRebuild = true := by
    rintro w' ⟨after, hafter, hkind'⟩
    refine ⟨after, ?_, ?_⟩
    · rw [hafter]
      simp [World.emit, Esp.emit, hbefore]
    · intro call hcall
      exact (List.mem_append.1 hcall).elim (hkind call) (hkind' call)
  have hline : Rebuilds ((teardown env w).emit [.gpioConfig]) (lineWorld env w) := by
    have hlines : Rebuilds ((teardown env w).emit [.gpioConfig])
        ((teardown env w).emit [.gpioConfig, .gpioSetLevel .scl true, .gpioSetLevel .sda true]) :=
      ⟨[.gpioSetLevel .scl true, .gpioSetLevel .sda true], by simp [World.emit, Esp.emit],
        by simp [HwCall.ofRebuild]⟩
    have hclocked := hlines.trans (Rebuilds.emit _
      (clockScl_ofRebuild env.sda i2cBusRecoveryClocks 0))
    exact hclocked.trans (Rebuilds.emit _ (by simp [HwCall.ofRebuild]))
  refine ⟨before, hconfig _ ?_⟩
  by_cases h : env.Released
  · rw [recover_of_released env w h]
    have hstop : Rebuilds ((teardown env w).emit [.gpioConfig]) (stopWorld env w) :=
      hline.trans (Rebuilds.emit _ (by simp [HwCall.ofRebuild]))
    exact hstop.trans (rebuild_rebuilds env _)
  · rw [recover_of_not_released env w h]
    exact hline

/-- A recovery that fails at any stage leaves the bus down. -/
theorem recover_failed (h : (i2cBusRecoverLocked env w).1 ≠ espOk) :
    (i2cBusRecoverLocked env w).2.bus.initialized = false ∧
      (i2cBusRecoverLocked env w).2.bus.busHandle = none := by
  by_cases hline : env.Released
  · rw [recover_of_released env w hline] at h ⊢
    exact rebuild_failed env (stopWorld_down env w) h
  · rw [recover_of_not_released env w hline]
    exact lineWorld_down env w

/-- A recovery that succeeds leaves the bus up on a master bus created by it. -/
theorem recover_ok (h : (i2cBusRecoverLocked env w).1 = espOk) :
    (i2cBusRecoverLocked env w).2.bus.initialized = true ∧
      ∃ m, w.esp.nextMaster ≤ m.id ∧ UpOn (i2cBusRecoverLocked env w).2 m := by
  by_cases hline : env.Released
  · rw [recover_of_released env w hline] at h ⊢
    have hup := rebuild_ok env h
    exact ⟨hup.1, _, (stopWorld_sameRegistry env w).nextMaster_le, hup.2⟩
  · rw [recover_of_not_released env w hline] at h
    exact absurd h espErrInvalidState_ne_ok

/-- What a successful recovery attaches, and to which master bus: the pins and the port are those the
bus retained, the clock rates are gone. -/
theorem recover_config (h : (i2cBusRecoverLocked env w).1 = espOk) :
    ∃ id, UpOn (i2cBusRecoverLocked env w).2
        ⟨id, masterBusConfig w.bus.port w.bus.sclPin w.bus.sdaPin⟩ ∧
      ∀ i < w.bus.deviceCount, ∃ d,
        ((i2cBusRecoverLocked env w).2.bus.devices i).handle = some d ∧
          d.config = ⟨7, (w.bus.devices i).addr, 0⟩ := by
  by_cases hline : env.Released
  · rw [recover_of_released env w hline] at h ⊢
    have hsame := stopWorld_sameRegistry env w
    have hup := (rebuild_ok env h).2
    have hpins := hsame.pins_eq
    simp only [Prod.mk.injEq] at hpins
    rw [hpins.1, hpins.2.1, hpins.2.2] at hup
    refine ⟨_, hup, fun i hi => ?_⟩
    rw [← hsame.addr_eq i]
    exact rebuild_config env h i (hsame.deviceCount_eq ▸ hi)
  · rw [recover_of_not_released env w hline] at h
    exact absurd h espErrInvalidState_ne_ok

/-- The first stage decides whether the master bus that recovery finds stays; if it succeeds, the one it
creates is live with what else there was. -/
theorem recover_live (h : (i2cBusRecoverLocked env w).1 = espOk) :
    ∃ m, UpOn (i2cBusRecoverLocked env w).2 m ∧
      (i2cBusRecoverLocked env w).2.esp.liveMasters =
        insert m.id (teardown env w).esp.liveMasters := by
  by_cases hline : env.Released
  · rw [recover_of_released env w hline] at h ⊢
    exact ⟨_, (rebuild_ok env h).2, rebuild_live env h⟩
  · rw [recover_of_not_released env w hline] at h
    exact absurd h espErrInvalidState_ne_ok

/-- Recovery neither creates nor deletes a mutex. -/
theorem recover_sameMutexes : SameMutexes w (i2cBusRecoverLocked env w).2 := by
  have hteardown : SameMutexes w (teardown env w) := by
    cases hm : w.bus.busHandle with
    | none =>
        simp [SameMutexes, teardown, hm]
    | some m =>
        simp [SameMutexes, teardown, hm]
  by_cases hline : env.Released
  · rw [recover_of_released env w hline]
    have hstop : SameMutexes w (stopWorld env w) := hteardown
    exact hstop.trans (rebuild_sameMutexes env _)
  · rw [recover_of_not_released env w hline]
    exact hteardown

theorem recover_eq_ok_iff :
    (i2cBusRecoverLocked env w).1 = espOk ↔ env.Heals w.bus.deviceCount := by
  by_cases hline : env.Released
  · rw [recover_of_released env w hline, rebuild_eq_ok_iff,
      (stopWorld_sameRegistry env w).deviceCount_eq]
    simp [RecoverEnv.Heals, hline]
  · rw [recover_of_not_released env w hline]
    simp [RecoverEnv.Heals, hline]

end Recover

end MainboardFirmware
