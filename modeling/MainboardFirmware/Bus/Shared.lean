import MainboardFirmware.Bus.Registry

/-!
# Shared — several tasks on one bus

A transfer or a scan is three atomic steps of the task that makes it: the check of `initialized`, the
taking of the mutex (or the timeout of that), and the body under the mutex, recovery included. The
check comes before the mutex is held, so another task's recovery may fail between the check and the
body. Nothing checks again, and the body then uses a bus that is gone. Over all interleavings, the
transactions are all issued on a bus that is up exactly if no body runs after such a failure.
-/

namespace MainboardFirmware

open Machine

/-! ## Calls in three steps -/

/-- `i2c_bus_write`, `i2c_bus_read` and `i2c_bus_write_read` with a device, or `i2c_bus_scan`. -/
inductive SharedOp
  | xfer (op : XferOp) (dev : Option MasterDev)
  | scan

/-- The answers the body of a call gets. -/
structure BodyEnv where
  attempt : Nat → EspErr × List UInt8
  recover : RecoverEnv
  probe : Nat → EspErr

def BodyEnv.xfer (env : BodyEnv) : XferEnv :=
  ⟨true, env.attempt, env.recover⟩

@[simp] theorem BodyEnv.xfer_recover (env : BodyEnv) : env.xfer.recover = env.recover := rfl

/-- What a transfer does between taking the mutex and its return. -/
def xferBody (op : XferOp) (dev : Option MasterDev) (env : XferEnv) (w : World) :
    (EspErr × List UInt8) × World :=
  let (res, w) := attemptXfer op dev (env.attempt 0) w
  let (res, w) := healXfer op dev env res w
  finishXfer res w

/-- What `i2c_bus_scan` does between taking the mutex and its return. -/
def scanBody (probe : Nat → EspErr) (w : World) : World :=
  w.emit (((List.range' 0x03 0x75).map fun addr => HwCall.probe addr w.snapshot (probe addr)) ++
    [.giveMutex])

def SharedOp.body (op : SharedOp) (env : BodyEnv) (w : World) : EspErr × World :=
  match op with
  | .xfer op dev => ((xferBody op dev env.xfer w).1.1, (xferBody op dev env.xfer w).2)
  | .scan => (espOk, scanBody env.probe w)

/-- The call without other tasks, as `i2c_bus.c` has it. -/
def SharedOp.alone (op : SharedOp) (taken : Bool) (env : BodyEnv) (w : World) : EspErr × World :=
  match op with
  | .xfer op dev =>
      ((i2cBusXfer op (some ()) dev { env.xfer with mutexTaken := taken } w).1.1,
        (i2cBusXfer op (some ()) dev { env.xfer with mutexTaken := taken } w).2)
  | .scan => i2cBusScan (some ()) ⟨taken, env.probe⟩ w

/-- Where a task is in its call. -/
inductive Phase
  | outside
  | waiting (op : SharedOp)
  | holding (op : SharedOp)

/-- The bus and the tasks that use it. `stale task` records whether a recovery has failed since the
check of the call that the task is in. -/
structure Shared where
  world : World
  holder : Option Nat
  phase : Nat → Phase
  stale : Nat → Bool
  returned : List (Nat × EspErr)

/-- No task in a call; from here on the log is written afresh. -/
def Shared.start (w : World) : Shared :=
  ⟨⟨w.bus, { w.esp with log := [] }⟩, none, fun _ => .outside, fun _ => false, []⟩

instance (env : RecoverEnv) (count : Nat) : Decidable (env.Heals count) :=
  inferInstanceAs (Decidable (_ = true ∧ _ = espOk ∧ ∀ i < count, _ = espOk))

/-- The body runs a recovery that fails. -/
def SharedOp.recoveryFails (op : SharedOp) (env : BodyEnv) (w : World) : Bool :=
  match op with
  | .xfer _ _ =>
      decide ((env.attempt 0).1 = espErrTimeout ∧ ¬ env.recover.Heals w.bus.deviceCount)
  | .scan => false

inductive SharedStep
  /-- the check of `initialized` -/
  | call (task : Nat) (op : SharedOp)
  /-- `xSemaphoreTake`, answering or timing out -/
  | take (task : Nat) (taken : Bool)
  /-- the rest of the call -/
  | body (task : Nat) (env : BodyEnv)

/-- One step of one task. A step that the task is not at, or that has to wait for the mutex, changes
nothing. -/
def sharedStep (s : Shared) : SharedStep → Shared
  | .call task op =>
      match s.phase task with
      | .outside =>
          -- the only look at `initialized` that the call takes
          if s.world.bus.initialized = false then
            { s with returned := s.returned ++ [(task, espErrInvalidState)] }
          else
            { s with
              phase := Function.update s.phase task (.waiting op)
              stale := Function.update s.stale task false }
      | _ => s
  | .take task taken =>
      match s.phase task with
      | .waiting op =>
          if taken = false then
            -- a timeout counts as an error of the bus and ends the call
            { s with
              world := (s.world.emit [.takeMutex false]).countError
              phase := Function.update s.phase task .outside
              returned := s.returned ++ [(task, espErrTimeout)] }
          else if s.holder = none then
            { s with
              world := s.world.emit [.takeMutex true]
              holder := some task
              phase := Function.update s.phase task (.holding op) }
          else
            s
      | _ => s
  | .body task env =>
      match s.phase task with
      | .holding op =>
          -- the bus is used as it is now, whatever became of it since the check
          { world := (op.body env s.world).2
            holder := none
            phase := Function.update s.phase task .outside
            stale := fun k => s.stale k || op.recoveryFails env s.world
            returned := s.returned ++ [(task, (op.body env s.world).1)] }
      | _ => s

/-- The three steps of a call with no other task in between are the call. -/
theorem run_alone {s : Shared} {task : Nat} (hphase : s.phase task = .outside)
    (hholder : s.holder = none) (op : SharedOp) (taken : Bool) (env : BodyEnv) :
    let s' := run sharedStep s [.call task op, .take task taken, .body task env]
    s'.world = (op.alone taken env s.world).2 ∧
      s'.returned = s.returned ++ [(task, (op.alone taken env s.world).1)] := by
  cases hinit : s.world.bus.initialized with
  | false =>
      -- turned away by the check, so the other two steps are none
      cases op <;> simp [sharedStep, hphase, hinit, SharedOp.alone, i2cBusXfer, i2cBusScan]
  | true =>
      cases taken with
      | false =>
          cases op <;> simp [sharedStep, hphase, hinit, SharedOp.alone, i2cBusXfer, i2cBusScan]
      | true =>
          cases op with
          | xfer op dev =>
              simp only [run_cons, run_nil, sharedStep, hphase, hinit, hholder, Function.update_self,
                Bool.true_eq_false, if_false, if_true, SharedOp.alone, SharedOp.body, i2cBusXfer,
                reduceCtorEq, or_self]
              exact ⟨rfl, rfl⟩
          | scan =>
              simp only [run_cons, run_nil, sharedStep, hphase, hinit, hholder, Function.update_self,
                Bool.true_eq_false, if_false, if_true, SharedOp.alone, SharedOp.body, i2cBusScan,
                reduceCtorEq, or_self, scanBody, and_true]
              simp [World.emit, Esp.emit, World.snapshot]

/-! ## The property and the condition -/

def BusSnapshot.Up (at_ : BusSnapshot) : Prop :=
  at_.initialized = true ∧ at_.busHandle ≠ none

/-- A transaction or a probe is issued on a bus that is up. -/
def HwCall.OnUpBus : HwCall → Prop
  | .transfer _ _ at_ _ => at_.Up
  | .probe _ at_ _ => at_.Up
  | _ => True

def AllOnUpBus (log : List HwCall) : Prop :=
  ∀ call ∈ log, call.OnUpBus

/-- A body does not run after a recovery has failed since the check of its call. -/
def NotStale (s : Shared) : SharedStep → Prop
  | .body task _ => (∃ op, s.phase task = .holding op) → s.stale task = false
  | _ => True

@[simp] theorem allOnUpBus_nil : AllOnUpBus [] :=
  fun _ h => absurd h List.not_mem_nil

@[simp] theorem allOnUpBus_cons (call : HwCall) (calls : List HwCall) :
    AllOnUpBus (call :: calls) ↔ call.OnUpBus ∧ AllOnUpBus calls :=
  List.forall_mem_cons

@[simp] theorem allOnUpBus_append (xs ys : List HwCall) :
    AllOnUpBus (xs ++ ys) ↔ AllOnUpBus xs ∧ AllOnUpBus ys := by
  simp only [AllOnUpBus, List.mem_append, or_imp, forall_and]

/-! ## What is issued in a body -/

/-- `w'` has further calls in its log, none of them issued on a bus that is down. -/
def Appends (w w' : World) : Prop :=
  ∃ calls, w'.esp.log = w.esp.log ++ calls ∧ AllOnUpBus calls

namespace Appends

variable {w w' w'' : World}

theorem of_log_eq (h : w'.esp.log = w.esp.log) : Appends w w' :=
  LogsOnly.of_log_eq h

theorem trans (h : Appends w w') (h' : Appends w' w'') : Appends w w'' :=
  LogsOnly.trans h h'

theorem emit (w : World) {calls : List HwCall} (h : AllOnUpBus calls) : Appends w (w.emit calls) :=
  LogsOnly.emit w h

theorem allOnUpBus_iff (h : Appends w w') : AllOnUpBus w'.esp.log ↔ AllOnUpBus w.esp.log := by
  rcases h with ⟨calls, hlog, hup⟩
  rw [hlog, allOnUpBus_append]
  exact and_iff_left hup

end Appends

/-- Recovery issues no transaction and no probe. -/
theorem recover_appends (env : RecoverEnv) (w : World) :
    Appends w (i2cBusRecoverLocked env w).2 := by
  rcases recover_calls env w with ⟨before, after, hlog, hkind⟩
  refine ⟨_, hlog, fun call hcall => ?_⟩
  by_cases hrebuild : call ∈ before ++ after
  · have hof := hkind call hrebuild
    cases call <;> simp_all [HwCall.ofRebuild, HwCall.OnUpBus]
  · have hconfig : call = .gpioConfig := by
      simp only [List.mem_append, List.mem_cons, not_or] at hcall hrebuild
      tauto
    simp [hconfig, HwCall.OnUpBus]

/-- An attempt on a bus that is up. -/
theorem attemptXfer_appends {w : World} (hup : w.snapshot.Up) (op : XferOp) (dev : Option MasterDev)
    (answer : EspErr × List UInt8) : Appends w (attemptXfer op dev answer w).2 :=
  Appends.emit w (by simpa [HwCall.OnUpBus] using hup)

theorem retryXfer_appends (op : XferOp) (dev : Option MasterDev) (env : XferEnv) (n k : Nat)
    (res : EspErr × List UInt8) {w : World} (hup : w.snapshot.Up) :
    Appends w (retryXfer op dev env n k res w).2 := by
  induction n generalizing k res w with
  | zero =>
      exact Appends.of_log_eq rfl
  | succ n ih =>
      by_cases hres : res.1 = espOk
      · simpa [retryXfer, hres] using Appends.of_log_eq (w := w) rfl
      · -- an attempt does not take the bus down
        have hattempt := attemptXfer_appends hup op dev (env.attempt k)
        simpa [retryXfer, hres] using hattempt.trans (ih (k + 1) _ hup)

theorem finishXfer_appends (res : EspErr × List UInt8) (w : World) :
    Appends w (finishXfer res w).2 := by
  have hgive : Appends w (w.emit [.giveMutex]) :=
    Appends.emit w (by simp [HwCall.OnUpBus])
  unfold finishXfer
  dsimp only
  split
  · exact hgive.trans (Appends.of_log_eq rfl)
  · exact hgive

/-- Whatever the first attempt found, only a successful recovery is followed by another one. -/
theorem healXfer_appends (op : XferOp) (dev : Option MasterDev) (env : XferEnv)
    (res : EspErr × List UInt8) (w : World) : Appends w (healXfer op dev env res w).2 := by
  unfold healXfer
  split
  · have hrecover := recover_appends env.recover w.countError
    dsimp only
    split
    · rename_i hok
      rcases recover_ok env.recover w.countError hok with ⟨hinit, m, _, hup⟩
      have hsnapshot : (i2cBusRecoverLocked env.recover w.countError).2.snapshot.Up :=
        ⟨hinit, by simp [World.snapshot, hup.busHandle_eq]⟩
      exact (Appends.of_log_eq rfl).trans
        (hrecover.trans (retryXfer_appends op dev env _ _ res hsnapshot))
    · exact (Appends.of_log_eq rfl).trans hrecover
  · exact Appends.of_log_eq rfl

/-- The transactions of a body are on a bus that is up exactly if it is up when the body starts. -/
theorem body_allOnUpBus_iff {w : World} (hlog : AllOnUpBus w.esp.log) (op : SharedOp)
    (env : BodyEnv) : AllOnUpBus (op.body env w).2.esp.log ↔ w.snapshot.Up := by
  cases op with
  | xfer op dev =>
      have hrest : Appends (attemptXfer op dev (env.xfer.attempt 0) w).2
          (SharedOp.body (.xfer op dev) env w).2 :=
        (healXfer_appends op dev env.xfer _ _).trans (finishXfer_appends _ _)
      rw [hrest.allOnUpBus_iff]
      simp only [attemptXfer, World.emit, Esp.emit, allOnUpBus_append, hlog, true_and]
      simp [HwCall.OnUpBus, World.snapshot]
  | scan =>
      simp only [SharedOp.body, scanBody, World.emit, Esp.emit, allOnUpBus_append, hlog, true_and]
      constructor
      · intro hprobes
        exact hprobes.1 (.probe 0x03 w.snapshot (env.probe 0x03))
          (List.mem_map.2 ⟨0x03, by simp, rfl⟩)
      · intro hup
        refine ⟨fun call hcall => ?_, by simp [HwCall.OnUpBus]⟩
        rcases List.mem_map.1 hcall with ⟨addr, _, rfl⟩
        exact hup

/-! ## What a body does to the bus -/

/-- A first attempt that is answered leaves the bus alone. -/
theorem xferBody_of_answered (op : XferOp) (dev : Option MasterDev) (env : XferEnv)
    (h : (env.attempt 0).1 ≠ espErrTimeout) (w : World) : Idle w (xferBody op dev env w).2 := by
  have hheal : healXfer op dev env (env.attempt 0) (attemptXfer op dev (env.attempt 0) w).2 =
      (env.attempt 0, (attemptXfer op dev (env.attempt 0) w).2) := by
    simp [healXfer, h]
  simp only [xferBody, attemptXfer] at hheal ⊢
  rw [hheal]
  exact (Idle.emit w _).trans (finishXfer_idle _ _)

/-- A first attempt that times out leaves the bus as recovery does. -/
theorem xferBody_of_timeout (op : XferOp) (dev : Option MasterDev) (env : XferEnv)
    (h : (env.attempt 0).1 = espErrTimeout) (w : World) :
    ∃ w₀, Idle w w₀ ∧ Idle (i2cBusRecoverLocked env.recover w₀).2 (xferBody op dev env w).2 := by
  have hheal : Idle
      (i2cBusRecoverLocked env.recover (attemptXfer op dev (env.attempt 0) w).2.countError).2
      (healXfer op dev env (env.attempt 0) (attemptXfer op dev (env.attempt 0) w).2).2 := by
    unfold healXfer
    rw [if_pos h]
    dsimp only
    split
    · exact retryXfer_idle op dev env _ _ _ _
    · exact Idle.refl _
  exact ⟨_, (Idle.emit w _).trans (Idle.countError _), hheal.trans (finishXfer_idle _ _)⟩

theorem body_busInv {w : World} (hw : BusInv w) (op : SharedOp) (env : BodyEnv) :
    BusInv (op.body env w).2 := by
  cases op with
  | xfer op dev =>
      by_cases h : (env.xfer.attempt 0).1 = espErrTimeout
      · rcases xferBody_of_timeout op dev env.xfer h w with ⟨w₀, hbefore, hafter⟩
        exact ((hw.idle hbefore).recover env.recover).idle hafter
      · exact hw.idle (xferBody_of_answered op dev env.xfer h w)
  | scan =>
      exact hw.idle (Idle.emit w _)

/-- A body that finds the bus up leaves it up unless it runs a recovery that fails. -/
theorem body_initialized {w : World} (hinit : w.bus.initialized = true) (op : SharedOp)
    (env : BodyEnv) :
    (op.body env w).2.bus.initialized = !op.recoveryFails env w := by
  cases op with
  | xfer op dev =>
      by_cases h : (env.attempt 0).1 = espErrTimeout
      · rcases xferBody_of_timeout op dev env.xfer h w with
          ⟨w₀, hbefore, hafter⟩
        have hok := recover_eq_ok_iff env.recover w₀
        rw [hbefore.deviceCount_eq] at hok
        simp only [SharedOp.body, SharedOp.recoveryFails, h, true_and, hafter.initialized_eq,
          BodyEnv.xfer_recover]
        by_cases hheals : env.recover.Heals w.bus.deviceCount
        · simpa [hheals] using (recover_ok env.recover w₀ (hok.2 hheals)).1
        · have hfailed := recover_failed env.recover w₀ fun hret => hheals (hok.1 hret)
          simpa [hheals] using hfailed.1
      · have hidle := xferBody_of_answered op dev env.xfer h w
        simp [SharedOp.body, SharedOp.recoveryFails, h, hidle.initialized_eq, hinit]
  | scan =>
      exact hinit

/-! ## Every interleaving -/

/-- A task in a call has seen a recovery fail exactly if the bus is down. -/
structure SharedInv (s : Shared) : Prop where
  bus : BusInv s.world
  log : AllOnUpBus s.world.esp.log
  stale : ∀ task, s.phase task ≠ .outside → s.stale task = !s.world.bus.initialized

theorem SharedInv.start (calls : List BusCall) :
    SharedInv (Shared.start (run busStep World.initial calls)) where
  bus := (inv_run busStep_inv BusInv.initial calls).idle ⟨rfl, rfl⟩
  log := allOnUpBus_nil
  stale _ h := absurd rfl h

namespace SharedInv

variable {s : Shared}

/-- The bus is as it was, and whoever is in a call was so before, with the same knowledge. -/
theorem idle (hs : SharedInv s) {s' : Shared} (hidle : Idle s.world s'.world)
    (hlog : Appends s.world s'.world)
    (hphase : ∀ task, s'.phase task ≠ .outside →
      s.phase task ≠ .outside ∧ s'.stale task = s.stale task) : SharedInv s' where
  bus := hs.bus.idle hidle
  log := hlog.allOnUpBus_iff.2 hs.log
  stale task h := by
    rcases hphase task h with ⟨hbefore, hsame⟩
    rw [hsame, hidle.initialized_eq]
    exact hs.stale task hbefore

theorem call (hs : SharedInv s) (task : Nat) (op : SharedOp) :
    SharedInv (sharedStep s (.call task op)) := by
  unfold sharedStep
  dsimp only
  split
  · split
    · exact hs.idle (Idle.refl _) (Appends.of_log_eq rfl) fun _ h => ⟨h, rfl⟩
    · -- the check has found the bus up
      rename_i hup
      refine ⟨hs.bus, hs.log, fun k hk => ?_⟩
      by_cases hkt : k = task
      · simpa [hkt] using hup
      · have hbefore : s.phase k ≠ .outside := by simpa [hkt] using hk
        simpa [hkt] using hs.stale k hbefore
  · exact hs

theorem take (hs : SharedInv s) (task : Nat) (taken : Bool) :
    SharedInv (sharedStep s (.take task taken)) := by
  unfold sharedStep
  dsimp only
  split
  · rename_i op hphase
    split
    · refine hs.idle ((Idle.emit _ _).trans (Idle.countError _)) (Appends.trans
        (Appends.emit _ (by simp [HwCall.OnUpBus])) (Appends.of_log_eq rfl)) ?_
      intro k hk
      by_cases hkt : k = task
      · exact absurd (by simp [hkt]) hk
      · exact ⟨by simpa [hkt] using hk, rfl⟩
    split
    · refine hs.idle (Idle.emit _ _) (Appends.emit _ (by simp [HwCall.OnUpBus])) ?_
      intro k hk
      by_cases hkt : k = task
      · exact ⟨by simp [hkt, hphase], rfl⟩
      · exact ⟨by simpa [hkt] using hk, rfl⟩
    · exact hs
  · exact hs

/-- A body of a task that does not hold the mutex is no step. -/
theorem body_of_not_holding (hs : SharedInv s) {task : Nat} (h : ∀ op, s.phase task ≠ .holding op)
    (env : BodyEnv) :
    (AllOnUpBus (sharedStep s (.body task env)).world.esp.log ↔ NotStale s (.body task env)) ∧
      (NotStale s (.body task env) → SharedInv (sharedStep s (.body task env))) := by
  have hstep : sharedStep s (.body task env) = s := by
    unfold sharedStep
    dsimp only
    split
    · rename_i op hphase
      exact absurd hphase (h op)
    · rfl
  have hfresh : NotStale s (.body task env) := by
    rintro ⟨op, hphase⟩
    exact absurd hphase (h op)
  rw [hstep]
  exact ⟨iff_of_true hs.log hfresh, fun _ => hs⟩

/-- A body that finds the bus up keeps the invariant; one that finds it down issues a transaction
there. -/
theorem body (hs : SharedInv s) (task : Nat) (env : BodyEnv) :
    (AllOnUpBus (sharedStep s (.body task env)).world.esp.log ↔ NotStale s (.body task env)) ∧
      (NotStale s (.body task env) → SharedInv (sharedStep s (.body task env))) := by
  cases hphase : s.phase task with
  | holding op =>
      have hstale : s.stale task = !s.world.bus.initialized := hs.stale task (by simp [hphase])
      have hcond : NotStale s (.body task env) ↔ s.world.bus.initialized = true := by
        simp [NotStale, hphase, hstale]
      have hup : s.world.snapshot.Up ↔ s.world.bus.initialized = true := by
        refine ⟨fun h => h.1, fun hinit => ⟨hinit, ?_⟩⟩
        rcases hs.bus.up hinit with ⟨m, hm⟩
        simp [World.snapshot, hm.busHandle_eq]
      have hstep : sharedStep s (.body task env) =
          { world := (op.body env s.world).2
            holder := none
            phase := Function.update s.phase task .outside
            stale := fun k => s.stale k || op.recoveryFails env s.world
            returned := s.returned ++ [(task, (op.body env s.world).1)] } := by
        simp only [sharedStep, hphase]
      rw [hstep, hcond]
      refine ⟨(body_allOnUpBus_iff hs.log op env).trans hup, fun hinit => ?_⟩
      refine ⟨body_busInv hs.bus op env, (body_allOnUpBus_iff hs.log op env).2 (hup.2 hinit),
        fun k hk => ?_⟩
      have hbefore : s.phase k ≠ .outside := by
        by_cases hkt : k = task
        · simp [hkt, hphase]
        · simpa [hkt] using hk
      -- nobody in a call had seen a failure before this body
      have hfresh : s.stale k = false := by
        simpa [hinit] using hs.stale k hbefore
      simp [hfresh, body_initialized hinit op env]
  | outside =>
      exact hs.body_of_not_holding (by simp [hphase]) env
  | waiting op =>
      exact hs.body_of_not_holding (by simp [hphase]) env

end SharedInv

theorem sharedStep_allOnUpBus_iff (s : Shared) (step : SharedStep) (hs : SharedInv s) :
    AllOnUpBus (sharedStep s step).world.esp.log ↔ NotStale s step := by
  cases step with
  | call task op => exact ⟨fun _ => trivial, fun _ => (hs.call task op).log⟩
  | take task taken => exact ⟨fun _ => trivial, fun _ => (hs.take task taken).log⟩
  | body task env => exact (hs.body task env).1

theorem sharedStep_inv (s : Shared) (step : SharedStep) (hs : SharedInv s) (h : NotStale s step) :
    SharedInv (sharedStep s step) := by
  cases step with
  | call task op => exact hs.call task op
  | take task taken => exact hs.take task taken
  | body task env => exact (hs.body task env).2 h

/-- For every registry, any number of tasks and every interleaving of their steps: no transaction and
no probe is issued on a bus that is down exactly if no body runs after a recovery has failed since
the check of its call. -/
theorem tasks_use_up_bus_iff (calls : List BusCall) (steps : List SharedStep) :
    (∀ s ∈ states sharedStep (Shared.start (run busStep World.initial calls)) steps,
        AllOnUpBus s.world.esp.log) ↔
      ∀ move ∈ moves sharedStep (Shared.start (run busStep World.initial calls)) steps,
        NotStale move.1 move.2 :=
  forall_states_iff sharedStep_allOnUpBus_iff sharedStep_inv (SharedInv.start calls)
    (SharedInv.start calls).log steps

/-- A bus with an ADC and an expander. -/
def sensorBus : List BusCall :=
  [.init (some ⟨18, 19, 0⟩) ⟨true, espOk⟩, .addDevice 0x48 400000 (some "ADS1115") (some none) espOk,
    .addDevice 0x20 400000 (some "MCP23017") (some none) espOk]

/-- The first attempt times out and SDA stays low. -/
def wedged : BodyEnv :=
  ⟨fun _ => (espErrTimeout, []), ⟨espOk, fun _ => false, espOk, fun _ => espOk, espOk⟩, fun _ => espOk⟩

/-- Both tasks pass the check; the recovery of the first fails while the second waits. -/
def waitingRun : List SharedStep :=
  [.call 0 (.xfer (.transmit [0x01]) (some ⟨0, 0, ⟨7, 0x48, 400000⟩⟩)),
    .call 1 (.xfer (.transmit [0x14, 0x01]) (some ⟨1, 0, ⟨7, 0x20, 400000⟩⟩)),
    .take 0 true, .body 0 wedged, .take 1 true, .body 1 wedged]

/-- The second task's write is issued with `initialized` false and `bus_handle` `NULL`. -/
theorem waiting_task_uses_deleted_bus :
    (∃ op d at_ ret, HwCall.transfer op (some d) at_ ret ∈
        (run sharedStep (Shared.start (run busStep World.initial sensorBus)) waitingRun).world.esp.log ∧
          at_.initialized = false ∧ at_.busHandle = none) ∧
      ¬ ∀ s ∈ states sharedStep (Shared.start (run busStep World.initial sensorBus)) waitingRun,
        AllOnUpBus s.world.esp.log := by
  have hmem : HwCall.transfer (.transmit [0x14, 0x01]) (some ⟨1, 0, ⟨7, 0x20, 400000⟩⟩)
      ⟨false, none, ∅⟩ espErrTimeout ∈
        (run sharedStep (Shared.start (run busStep World.initial sensorBus)) waitingRun).world.esp.log := by
    decide
  refine ⟨⟨_, _, _, _, hmem, rfl, rfl⟩, fun hall => ?_⟩
  have hlast : run sharedStep (Shared.start (run busStep World.initial sensorBus)) waitingRun ∈
      states sharedStep (Shared.start (run busStep World.initial sensorBus)) waitingRun := by
    simp [waitingRun]
  exact absurd (hall _ hlast _ hmem).1 (by decide)

end MainboardFirmware
