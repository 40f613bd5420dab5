import MainboardFirmware.Bus.Registry

/-!
# Handles — the device handles the drivers keep

A driver stores the handle `i2c_bus_add_device` gave it and passes it to every later transfer.
Recovery replaces the handles in the registry, but not the copies the drivers and the call in
progress hold. This module follows those copies over whole runs: every transaction goes to a handle
of the live master bus exactly as long as no transfer is healed by a successful recovery and no
client uses a handle from before the latest `i2c_bus_init`.
-/

namespace MainboardFirmware

open Machine

/-! ## Clients of the bus -/

/-- A handle a client keeps; `fresh` until the next `i2c_bus_init`. No code reads `fresh`. -/
structure Held where
  dev : MasterDev
  fresh : Bool
  deriving DecidableEq, Repr

/-- The bus with the handles its clients hold, in the order they were handed out. -/
structure Clients where
  world : World
  held : List Held

def Clients.initial : Clients :=
  ⟨World.initial, []⟩

/-- A call by a client; a transfer names the client whose handle it uses. -/
inductive ClientCall
  | init (cfg : Option I2cBusConfig) (env : InitEnv)
  | deinit (del : EspErr)
  | addDevice (addr : UInt8) (sclHz : UInt32) (label : Option String)
      (out : Option (Option MasterDev)) (ret : EspErr)
  | xfer (client : Nat) (op : XferOp) (env : XferEnv)
  | scan (env : ScanEnv)

/-- The bus function that performs a transaction. -/
def xferCall (op : XferOp) (dev : Option MasterDev) (env : XferEnv) (w : World) : World :=
  match op with
  | .transmit data => (i2cBusWrite (some ()) dev data env w).2
  | .receive len => (i2cBusRead (some ()) dev len env w).2
  | .transmitReceive wrData rdLen => (i2cBusWriteRead (some ()) dev wrData rdLen env w).2

theorem xferCall_eq (op : XferOp) (dev : Option MasterDev) (env : XferEnv) (w : World) :
    xferCall op dev env w = (i2cBusXfer op (some ()) dev env w).2 := by
  cases op <;> rfl

def clientStep (s : Clients) : ClientCall → Clients
  | .init none env => ⟨(i2cBusInit (some ()) none env s.world).2, s.held⟩
  | .init (some cfg) env =>
      ⟨(i2cBusInit (some ()) (some cfg) env s.world).2,
        s.held.map fun h => { h with fresh := false }⟩
  | .deinit del => ⟨(i2cBusDeinit (some ()) del s.world).2, s.held⟩
  | .addDevice addr sclHz label out ret =>
      let res := i2cBusAddDevice (some ()) addr sclHz label out ret s.world
      let kept := if res.1 = espOk then res.2.1.join.toList else []
      ⟨res.2.2, s.held ++ kept.map fun dev => ⟨dev, true⟩⟩
  | .xfer client op env =>
      match s.held[client]? with
      | some h => ⟨xferCall op (some h.dev) env s.world, s.held⟩
      | none => s
  | .scan env => ⟨(i2cBusScan (some ()) env s.world).2, s.held⟩

/-- A transaction uses a handle attached to the master bus of the bus object, and that master bus
is live. -/
def OnLiveBus : HwCall → Prop
  | .transfer _ dev at_ _ =>
      ∃ d m, dev = some d ∧ at_.busHandle = some m ∧ d.master = m.id ∧ m.id ∈ at_.liveMasters
  | _ => True

/-- Every transaction so far was on the live bus. -/
def AllOnLiveBus (s : Clients) : Prop :=
  ∀ call ∈ s.world.esp.log, OnLiveBus call

/-- The transfer, if it reaches the hardware at all, is made with a handle handed out since the
latest `i2c_bus_init`, and not healed: its first attempt does not time out, or some stage of the
recovery that follows is answered badly. -/
def NotHealed (s : Clients) : ClientCall → Prop
  | .xfer client _ env =>
      ∀ h, s.held[client]? = some h → Entered (some ()) env s.world →
        h.fresh = true ∧
          ¬((env.attempt 0).1 = espErrTimeout ∧ env.recover.Heals s.world.bus.deviceCount)
  | _ => True

/-! ## The transactions one transfer issues -/

section Transactions

variable (op : XferOp) (dev : Option MasterDev) (env : XferEnv)

/-- The bus when the result of the first attempt is known. -/
def attemptedWorld (w : World) : World :=
  (attemptXfer op dev (env.attempt 0) (w.emit [.takeMutex true])).2

/-- The bus as the retry sees it. -/
def healedWorld (w : World) : World :=
  (i2cBusRecoverLocked env.recover (attemptedWorld op dev env w).countError).2

theorem recover_attempted_eq_ok_iff (w : World) :
    (i2cBusRecoverLocked env.recover (attemptedWorld op dev env w).countError).1 = espOk ↔
      env.recover.Heals w.bus.deviceCount :=
  recover_eq_ok_iff _ _

theorem attemptedWorld_transfers (w : World) :
    transfersOf (attemptedWorld op dev env w).esp.log =
      transfersOf w.esp.log ++ [.transfer op dev w.snapshot (env.attempt 0).1] := by
  simp only [attemptedWorld, attemptXfer, transfersOf_emit, transfersOf_cons, transfersOf_nil,
    HwCall.isTransfer, if_true, Bool.false_eq_true, if_false, List.append_nil]
  rfl

theorem finishXfer_transfers (res : EspErr × List UInt8) (w : World) :
    transfersOf (finishXfer res w).2.esp.log = transfersOf w.esp.log := by
  unfold finishXfer
  dsimp only
  split <;> simp [HwCall.isTransfer]

variable {op dev env} {bus : Option Unit} {w : World}

theorem xfer_of_entered (h : Entered bus env w) :
    i2cBusXfer op bus dev env w =
      finishXfer (healXfer op dev env (env.attempt 0) (attemptedWorld op dev env w)).1
        (healXfer op dev env (env.attempt 0) (attemptedWorld op dev env w)).2 := by
  rcases h with ⟨hbus, hinit, hmutex⟩
  unfold i2cBusXfer
  rw [if_neg (by simp [hbus, hinit]), if_neg (by simp [hmutex])]
  rfl

theorem xfer_refused_transfers (h : ¬ Entered bus env w) :
    transfersOf (i2cBusXfer op bus dev env w).2.esp.log = transfersOf w.esp.log := by
  unfold i2cBusXfer
  split
  · rfl
  rename_i hready
  split
  · simp [HwCall.isTransfer]
  rename_i hmutex
  rw [not_or] at hready
  exact absurd ⟨hready.1, by simpa using hready.2, by simpa using hmutex⟩ h

/-- Without a successful recovery a transfer issues one transaction, on the bus as it was. -/
theorem xfer_once_transfers (h : Entered bus env w)
    (hheal : ¬((env.attempt 0).1 = espErrTimeout ∧ env.recover.Heals w.bus.deviceCount)) :
    transfersOf (i2cBusXfer op bus dev env w).2.esp.log =
      transfersOf w.esp.log ++ [.transfer op dev w.snapshot (env.attempt 0).1] := by
  rw [xfer_of_entered h, finishXfer_transfers, ← attemptedWorld_transfers]
  unfold healXfer
  split
  · rename_i htimeout
    -- a recovery that fails is not followed by a retry, and issues no transaction itself
    have hfail := mt (recover_attempted_eq_ok_iff op dev env w).1 fun hh => hheal ⟨htimeout, hh⟩
    dsimp only
    rw [if_neg hfail]
    simp [(recover_sameRegistry _ _).transfers_eq]
  · rfl

/-- After a successful recovery the transaction is issued again, on the rebuilt bus. -/
theorem xfer_healed_transfers (h : Entered bus env w)
    (htimeout : (env.attempt 0).1 = espErrTimeout) (hheal : env.recover.Heals w.bus.deviceCount) :
    transfersOf (i2cBusXfer op bus dev env w).2.esp.log =
      transfersOf w.esp.log ++ [.transfer op dev w.snapshot (env.attempt 0).1] ++
        [.transfer op dev (healedWorld op dev env w).snapshot (env.attempt 1).1] := by
  have hok := (recover_attempted_eq_ok_iff op dev env w).2 hheal
  have hkept := (recover_sameRegistry env.recover (attemptedWorld op dev env w).countError).transfers_eq
  rw [xfer_of_entered h, finishXfer_transfers, ← attemptedWorld_transfers]
  unfold healXfer
  rw [if_pos htimeout]
  dsimp only
  rw [if_pos hok]
  simp only [i2cBusRecoveryRetry, retryXfer, htimeout, espErrTimeout_ne_ok, if_false, attemptXfer,
    transfersOf_emit, hkept, transfersOf_countError]
  rfl

end Transactions

/-! ## The invariant -/

/-- Which master bus the held handles belong to: never one created later, and, while the bus is up,
the current one exactly if they were handed out since the latest `i2c_bus_init`. -/
structure HeldInv (s : Clients) : Prop where
  bus : BusInv s.world
  older : ∀ h ∈ s.held, h.dev.master < s.world.esp.nextMaster
  current : s.world.bus.initialized = true → ∀ m, s.world.bus.busHandle = some m →
    ∀ h ∈ s.held, (h.fresh = true ↔ h.dev.master = m.id)
  log : AllOnLiveBus s

theorem allOnLiveBus_iff (s : Clients) :
    AllOnLiveBus s ↔ ∀ call ∈ transfersOf s.world.esp.log, OnLiveBus call := by
  constructor
  · intro h call hcall
    exact h call (List.mem_filter.1 hcall).1
  · intro h call hcall
    cases htransfer : call.isTransfer with
    | true =>
        exact h call (List.mem_filter.2 ⟨hcall, htransfer⟩)
    | false =>
        cases call <;> simp_all [HwCall.isTransfer, OnLiveBus]

/-- The transactions of a log decide whether all of them were on the live bus. -/
theorem AllOnLiveBus.congr {s s' : Clients}
    (h : transfersOf s'.world.esp.log = transfersOf s.world.esp.log) :
    AllOnLiveBus s' ↔ AllOnLiveBus s := by
  rw [allOnLiveBus_iff, allOnLiveBus_iff, h]

theorem HeldInv.initial : HeldInv Clients.initial where
  bus := BusInv.initial
  older _ hh := absurd hh List.not_mem_nil
  current _ _ _ _ hh := absurd hh List.not_mem_nil
  log _ hcall := absurd hcall List.not_mem_nil

/-- A step that keeps the bus object, up to the log and the error count, and the held handles. -/
theorem HeldInv.idle {s : Clients} {w' : World} (hs : HeldInv s) (hidle : Idle s.world w')
    (hlog : AllOnLiveBus ⟨w', s.held⟩) : HeldInv ⟨w', s.held⟩ where
  bus := hs.bus.idle hidle
  older h hh := hidle.nextMaster_eq ▸ hs.older h hh
  current hinit m hm h hh :=
    hs.current (hidle.initialized_eq ▸ hinit) m (hidle.busHandle_eq ▸ hm) h hh
  log := hlog

/-- A step after which the bus is down. -/
theorem HeldInv.down {s : Clients} {w' : World} (hs : HeldInv s)
    (hcount : w'.bus.deviceCount = s.world.bus.deviceCount)
    (hnext : s.world.esp.nextMaster ≤ w'.esp.nextMaster) (hdown : w'.bus.initialized = false)
    (hlog : AllOnLiveBus ⟨w', s.held⟩) : HeldInv ⟨w', s.held⟩ where
  bus := ⟨hcount ▸ hs.bus.count_le, fun hinit => absurd hinit (by simp [hdown])⟩
  older h hh := lt_of_lt_of_le (hs.older h hh) hnext
  current hinit := absurd hinit (by simp [hdown])
  log := hlog

/-! ## One call -/

/-- The first attempt uses the live bus exactly if the handle is fresh. -/
theorem onLiveBus_first_iff {s : Clients} (hs : HeldInv s) {h : Held} (hh : h ∈ s.held)
    (hinit : s.world.bus.initialized = true) (op : XferOp) (ret : EspErr) :
    OnLiveBus (.transfer op (some h.dev) s.world.snapshot ret) ↔ h.fresh = true := by
  rcases hs.bus.up hinit with ⟨m, hup⟩
  have hfresh := hs.current hinit m hup.busHandle_eq h hh
  constructor
  · rintro ⟨d, m', hd, hm', hmaster, _⟩
    have hdev : d = h.dev := (Option.some.inj hd).symm
    have hmm : m' = m := Option.some.inj (hm'.symm.trans hup.busHandle_eq)
    exact hfresh.2 (by rw [← hdev, hmaster, hmm])
  · intro hf
    exact ⟨h.dev, m, rfl, hup.busHandle_eq, hfresh.1 hf, hup.live⟩

/-- The retry after a recovery never does: the handle is older than the rebuilt master bus. -/
theorem not_onLiveBus_retry {s : Clients} (hs : HeldInv s) {h : Held} (hh : h ∈ s.held)
    (op : XferOp) (env : XferEnv) (ret : EspErr)
    (hheal : env.recover.Heals s.world.bus.deviceCount) :
    ¬ OnLiveBus (.transfer op (some h.dev) (healedWorld op (some h.dev) env s.world).snapshot ret) := by
  rintro ⟨d, m', hd, hm', hmaster, _⟩
  have hok := (recover_attempted_eq_ok_iff op (some h.dev) env s.world).2 hheal
  rcases recover_ok _ _ hok with ⟨_, m, hnewer, hup⟩
  have hmm : m' = m := Option.some.inj (hm'.symm.trans hup.busHandle_eq)
  have hdev : d = h.dev := (Option.some.inj hd).symm
  -- handed out before this call, on a master bus older than the one recovery created
  have holder : h.dev.master < s.world.esp.nextMaster := hs.older h hh
  have hnewer' : s.world.esp.nextMaster ≤ m.id := hnewer
  rw [hdev, hmm] at hmaster
  omega

/-- What one transfer does to the log, in terms of the condition. -/
theorem xfer_allOnLiveBus_iff {s : Clients} (hs : HeldInv s) {h : Held} (hh : h ∈ s.held)
    (op : XferOp) (env : XferEnv) :
    AllOnLiveBus ⟨xferCall op (some h.dev) env s.world, s.held⟩ ↔
      (Entered (some ()) env s.world →
        h.fresh = true ∧
          ¬((env.attempt 0).1 = espErrTimeout ∧ env.recover.Heals s.world.bus.deviceCount)) := by
  have hlog := (allOnLiveBus_iff s).1 hs.log
  rw [allOnLiveBus_iff, xferCall_eq]
  by_cases hentered : Entered (some ()) env s.world
  · have hfirst := onLiveBus_first_iff hs hh hentered.2.1 op (env.attempt 0).1
    by_cases hheal : (env.attempt 0).1 = espErrTimeout ∧ env.recover.Heals s.world.bus.deviceCount
    · -- healed: the retry goes to a handle of the deleted bus
      have hretry := not_onLiveBus_retry hs hh op env (env.attempt 1).1 hheal.2
      have hcalls := @xfer_healed_transfers op (some h.dev) env (some ()) s.world hentered
        hheal.1 hheal.2
      have hbad : ¬ ∀ call ∈ transfersOf (i2cBusXfer op (some ()) (some h.dev) env s.world).2.esp.log,
          OnLiveBus call := by
        intro hall
        exact hretry (hall _ (by simp [hcalls]))
      constructor
      · intro hall
        exact absurd hall hbad
      · intro hcond
        exact absurd hheal (hcond hentered).2
    · -- one transaction, on the bus as it is
      have hcalls := @xfer_once_transfers op (some h.dev) env (some ()) s.world hentered hheal
      rw [hcalls]
      constructor
      · intro hall _
        have hone : OnLiveBus (.transfer op (some h.dev) s.world.snapshot (env.attempt 0).1) :=
          hall _ (by simp)
        exact ⟨hfirst.1 hone, hheal⟩
      · intro hcond call hcall
        rcases List.mem_append.1 hcall with hold | hnew
        · exact hlog call hold
        · have hcalleq := List.mem_singleton.1 hnew
          exact hcalleq ▸ hfirst.2 (hcond hentered).1
  · -- turned away before the hardware is reached
    have hcalls := @xfer_refused_transfers op (some h.dev) env (some ()) s.world hentered
    rw [hcalls]
    exact ⟨fun _ hent => absurd hent hentered, fun _ => hlog⟩

theorem HeldInv.xfer {s : Clients} (hs : HeldInv s) {h : Held} (hh : h ∈ s.held) (op : XferOp)
    (env : XferEnv)
    (hcond : Entered (some ()) env s.world → h.fresh = true ∧
      ¬((env.attempt 0).1 = espErrTimeout ∧ env.recover.Heals s.world.bus.deviceCount)) :
    HeldInv ⟨xferCall op (some h.dev) env s.world, s.held⟩ := by
  have hlog := (xfer_allOnLiveBus_iff hs hh op env).2 hcond
  rw [xferCall_eq] at hlog ⊢
  rcases xfer_idle_or_recovers op (some ()) (some h.dev) env s.world with
    hidle | ⟨hentered, htimeout, w₀, hbefore, hafter⟩
  · exact hs.idle hidle hlog
  · -- the recovery in between failed, so the bus is down
    have hcount : w₀.bus.deviceCount = s.world.bus.deviceCount := hbefore.deviceCount_eq
    have hfail : (i2cBusRecoverLocked env.recover w₀).1 ≠ espOk := by
      intro hok
      have hheal := (recover_eq_ok_iff env.recover w₀).1 hok
      exact (hcond hentered).2 ⟨htimeout, hcount ▸ hheal⟩
    have hsame := recover_sameRegistry env.recover w₀
    refine hs.down ?_ ?_ ?_ hlog
    · rw [hafter.deviceCount_eq, hsame.deviceCount_eq, hcount]
    · rw [hafter.nextMaster_eq, ← hbefore.nextMaster_eq]
      exact hsame.nextMaster_le
    · rw [hafter.initialized_eq]
      exact (recover_failed env.recover w₀ hfail).1

theorem HeldInv.init {s : Clients} (hs : HeldInv s) (cfg : Option I2cBusConfig) (env : InitEnv) :
    HeldInv (clientStep s (.init cfg env)) := by
  cases cfg with
  | none =>
      exact hs
  | some cfg =>
      rcases init_spec cfg env s.world with ⟨_, hlog, hnext, hup⟩
      refine ⟨hs.bus.init (some ()) (some cfg) env, ?_, ?_, (AllOnLiveBus.congr hlog).2 hs.log⟩
      · intro h hh
        rcases List.mem_map.1 hh with ⟨h₀, hh₀, rfl⟩
        exact lt_of_lt_of_le (hs.older h₀ hh₀) hnext
      · intro hinit m hm h hh
        rcases List.mem_map.1 hh with ⟨h₀, hh₀, rfl⟩
        rcases hup hinit with ⟨m', hid, hup'⟩
        have hmm : m = m' := Option.some.inj (hm.symm.trans hup'.busHandle_eq)
        have holder := hs.older h₀ hh₀
        -- every handle kept so far is older than the new master bus
        have hne : h₀.dev.master ≠ m.id := by
          rw [hmm, hid]
          exact holder.ne
        exact ⟨fun hf => Bool.noConfusion hf, fun heq => absurd heq hne⟩

theorem HeldInv.deinit {s : Clients} (hs : HeldInv s) (del : EspErr) :
    HeldInv (clientStep s (.deinit del)) := by
  simp only [clientStep, i2cBusDeinit]
  split
  · exact hs
  · refine hs.down rfl ?_ rfl ((AllOnLiveBus.congr ?_).2 hs.log)
    · cases s.world.bus.mutex <;> simp [Esp.deleteMutex, Esp.emit]
    · cases s.world.bus.mutex <;> simp

@[simp] theorem transfersOf_map_probe (addrs : List Nat) (at_ : BusSnapshot) (ret : Nat → EspErr) :
    transfersOf (addrs.map fun addr => .probe addr at_ (ret addr)) = [] := by
  simp [transfersOf, HwCall.isTransfer]

theorem HeldInv.scan {s : Clients} (hs : HeldInv s) (env : ScanEnv) :
    HeldInv (clientStep s (.scan env)) := by
  simp only [clientStep, i2cBusScan]
  split
  · exact hs
  split
  · have hidle := (Idle.emit s.world [.takeMutex false]).trans (Idle.countError _)
    refine hs.idle hidle ((AllOnLiveBus.congr ?_).2 hs.log)
    simp [HwCall.isTransfer]
  · refine hs.idle (Idle.emit s.world _) ((AllOnLiveBus.congr ?_).2 hs.log)
    simp [HwCall.isTransfer]

theorem HeldInv.addDevice {s : Clients} (hs : HeldInv s) (addr : UInt8) (sclHz : UInt32)
    (label : Option String) (out : Option (Option MasterDev)) (ret : EspErr) :
    HeldInv (clientStep s (.addDevice addr sclHz label out ret)) := by
  by_cases hok : (i2cBusAddDevice (some ()) addr sclHz label out ret s.world).1 = espOk
  · rcases addDevice_appends hok with
      ⟨hinit, _, m, d, hm, hmaster, _, hout, esp, hw', hnext, hlive, hlog⟩
    have hbus := hs.bus.addDevice addr sclHz label out ret
    simp only [clientStep, hok, hout, hw', if_true, Option.join_some, Option.toList_some,
      List.map_cons, List.map_nil] at hbus ⊢
    rcases hs.bus.up hinit with ⟨m', hup⟩
    have hmm : m' = m := Option.some.inj (hup.busHandle_eq.symm.trans hm)
    have hnewest : m.id + 1 = s.world.esp.nextMaster := hmm ▸ hup.newest
    refine ⟨hbus, ?_, ?_, (AllOnLiveBus.congr hlog).2 hs.log⟩
    · -- the new handle belongs to the newest master bus
      intro h hh
      rcases List.mem_append.1 hh with hold | hnew
      · exact lt_of_lt_of_eq (hs.older h hold) hnext.symm
      · rw [List.mem_singleton.1 hnew]
        show d.master < esp.nextMaster
        omega
    · -- the bus is the same one, so the new handle is as fresh as its fresh fellows
      intro hinit' m₁ hm₁ h hh
      rcases List.mem_append.1 hh with hold | hnew
      · exact hs.current hinit m₁ hm₁ h hold
      · have hmm₁ : m₁ = m := Option.some.inj (hm₁.symm.trans hm)
        rw [List.mem_singleton.1 hnew, hmm₁]
        exact ⟨fun _ => hmaster, fun _ => rfl⟩
  · have hkept : clientStep s (.addDevice addr sclHz label out ret) =
        ⟨(i2cBusAddDevice (some ()) addr sclHz label out ret s.world).2.2, s.held⟩ := by
      simp [clientStep, hok]
    rw [hkept]
    refine hs.idle (addDevice_failed_idle hok) ((AllOnLiveBus.congr ?_).2 hs.log)
    rcases addDevice_failed hok with hsame | hlogged
    · rw [hsame]
    · rw [hlogged]
      simp [HwCall.isTransfer]

/-- A call that meets the condition keeps the invariant. -/
theorem clientStep_inv (s : Clients) (call : ClientCall) (hs : HeldInv s) (hcond : NotHealed s call) :
    HeldInv (clientStep s call) := by
  cases call with
  | init cfg env => exact hs.init cfg env
  | deinit del => exact hs.deinit del
  | addDevice addr sclHz label out ret => exact hs.addDevice addr sclHz label out ret
  | xfer client op env =>
      cases hheld : s.held[client]? with
      | none =>
          simpa only [clientStep, hheld] using hs
      | some h =>
          simpa only [clientStep, hheld] using
            hs.xfer (List.mem_of_getElem? hheld) op env (hcond h hheld)
  | scan env => exact hs.scan env

/-- Under the invariant, a call keeps all transactions on the live bus exactly if it meets the
condition. -/
theorem clientStep_allOnLiveBus_iff (s : Clients) (call : ClientCall) (hs : HeldInv s) :
    AllOnLiveBus (clientStep s call) ↔ NotHealed s call := by
  cases call with
  | init cfg env => exact ⟨fun _ => trivial, fun _ => (hs.init cfg env).log⟩
  | deinit del => exact ⟨fun _ => trivial, fun _ => (hs.deinit del).log⟩
  | addDevice addr sclHz label out ret =>
      exact ⟨fun _ => trivial, fun _ => (hs.addDevice addr sclHz label out ret).log⟩
  | xfer client op env =>
      cases hheld : s.held[client]? with
      | none =>
          -- no such client, so nothing happens
          have hvac : NotHealed s (.xfer client op env) := by
            intro h hh
            exact absurd (hheld.symm.trans hh) (by simp)
          simpa only [clientStep, hheld] using ⟨fun _ => hvac, fun _ => hs.log⟩
      | some h =>
          have hiff := xfer_allOnLiveBus_iff hs (List.mem_of_getElem? hheld) op env
          simp only [clientStep, hheld, NotHealed, Option.some.injEq, forall_eq']
          exact hiff
  | scan env => exact ⟨fun _ => trivial, fun _ => (hs.scan env).log⟩

/-- In every run, every transaction is on the live bus exactly if no transfer uses a handle from
before the latest `i2c_bus_init` and none is healed by a successful recovery. -/
theorem transfers_on_live_bus_iff (calls : List ClientCall) :
    (∀ s ∈ states clientStep Clients.initial calls, AllOnLiveBus s) ↔
      ∀ move ∈ moves clientStep Clients.initial calls, NotHealed move.1 move.2 :=
  forall_states_iff (fun s call hs => clientStep_allOnLiveBus_iff s call hs)
    (fun s call hs hcond => clientStep_inv s call hs hcond) HeldInv.initial HeldInv.initial.log calls

/-- A bus that hangs once and is healed: SDA is high at once, and the rebuild and the re-adding are
answered with `ESP_OK`. -/
def hangsOnce : XferEnv where
  mutexTaken := true
  attempt k := if k = 0 then (espErrTimeout, []) else (espOk, [])
  recover := ⟨espOk, fun _ => true, espOk, fun _ => espOk, espOk⟩

/-- One driver on one bus, one write that is healed. -/
def healedRun : List ClientCall :=
  [.init (some ⟨18, 19, 0⟩) ⟨true, espOk⟩,
    .addDevice 0x20 400000 (some "mcp23017") (some none) espOk,
    .xfer 0 (.transmit [0x14, 0x01]) hangsOnce]

/-- In that run the retry is issued with a handle of the master bus that recovery deleted. -/
theorem healed_transfer_uses_deleted_bus :
    (∃ op d at_ ret, HwCall.transfer op (some d) at_ ret ∈
        (run clientStep Clients.initial healedRun).world.esp.log ∧ d.master ∉ at_.liveMasters) ∧
      ¬ ∀ calls, ∀ s ∈ states clientStep Clients.initial calls, AllOnLiveBus s := by
  have hmem : HwCall.transfer (.transmit [0x14, 0x01])
      (some ⟨0, 0, ⟨7, 0x20, 400000⟩⟩) ⟨true, some ⟨1, masterBusConfig 0 19 18⟩, {1}⟩ espOk ∈
        (run clientStep Clients.initial healedRun).world.esp.log := by
    decide
  refine ⟨⟨_, _, _, _, hmem, by decide⟩, ?_⟩
  intro hall
  have hlast : run clientStep Clients.initial healedRun ∈
      states clientStep Clients.initial healedRun := by
    simp [healedRun]
  rcases hall healedRun _ hlast _ hmem with ⟨d, m, hd, hm, hmaster, _⟩
  rw [← Option.some.inj hd, ← Option.some.inj hm] at hmaster
  exact absurd hmaster (by decide)

end MainboardFirmware
