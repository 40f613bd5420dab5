import MainboardFirmware.Bus.Handles

/-!
# Transfer — what one call of `i2c_bus_write`, `i2c_bus_read` or `i2c_bus_write_read` does

The calls a transfer adds to the log decide everything that is asked of it: how many hardware
attempts it makes and with which results, where recovery stands between them, and that the mutex
is taken and given back once. The three functions differ in the attempt alone, so on equal
answers they leave the same bus.
-/

namespace MainboardFirmware

/-! ## Reading a log -/

/-- The result of a hardware attempt. -/
def HwCall.attemptResult : HwCall → Option EspErr
  | .transfer _ _ _ ret => some ret
  | _ => none

/-- The results of the hardware attempts in a log, in order. -/
def attemptResults (calls : List HwCall) : List EspErr :=
  calls.filterMap HwCall.attemptResult

def HwCall.isMutex : HwCall → Bool
  | .takeMutex _ | .giveMutex => true
  | _ => false

/-- The takes and gives of the mutex in a log, in order. -/
def mutexCalls (calls : List HwCall) : List HwCall :=
  calls.filter HwCall.isMutex

/-- The runs of recovery in a log: each of them configures the pins once. -/
def recoveries (calls : List HwCall) : Nat :=
  calls.count .gpioConfig

@[simp] theorem attemptResults_append (xs ys : List HwCall) :
    attemptResults (xs ++ ys) = attemptResults xs ++ attemptResults ys := by
  simp [attemptResults]

@[simp] theorem mutexCalls_append (xs ys : List HwCall) :
    mutexCalls (xs ++ ys) = mutexCalls xs ++ mutexCalls ys := by
  simp [mutexCalls]

@[simp] theorem recoveries_append (xs ys : List HwCall) :
    recoveries (xs ++ ys) = recoveries xs + recoveries ys := by
  simp [recoveries]

/-- The calls of one recovery: no attempt, nothing about the mutex, the pins configured once. -/
structure OneRecovery (calls : List HwCall) : Prop where
  noAttempt : attemptResults calls = []
  noMutex : mutexCalls calls = []
  once : recoveries calls = 1

/-- The calls of the rebuild show up in none of the three readings. -/
theorem ofRebuild_unread {calls : List HwCall} (h : ∀ call ∈ calls, call.ofRebuild = true) :
    attemptResults calls = [] ∧ mutexCalls calls = [] ∧ recoveries calls = 0 := by
  refine ⟨List.filterMap_eq_nil_iff.2 ?_, List.filter_eq_nil_iff.2 ?_, List.count_eq_zero.2 ?_⟩
  · intro call hcall
    have hof := h call hcall
    cases call <;> simp_all [HwCall.ofRebuild, HwCall.attemptResult]
  · intro call hcall
    have hof := h call hcall
    cases call <;> simp_all [HwCall.ofRebuild, HwCall.isMutex]
  · intro hmem
    exact absurd (h _ hmem) (by simp [HwCall.ofRebuild])

theorem recover_oneRecovery (env : RecoverEnv) (w : World) :
    ∃ calls, (i2cBusRecoverLocked env w).2.esp.log = w.esp.log ++ calls ∧ OneRecovery calls := by
  rcases recover_calls env w with ⟨before, after, hlog, hkind⟩
  -- only the one GPIO configuration is read as a recovery, the rest as nothing at all
  have hbefore := ofRebuild_unread fun call hcall => hkind call (List.mem_append_left _ hcall)
  have hafter := ofRebuild_unread fun call hcall => hkind call (List.mem_append_right _ hcall)
  refine ⟨_, hlog, ?_, ?_, ?_⟩
  · calc
      attemptResults (before ++ .gpioConfig :: after)
          = attemptResults before ++ attemptResults after := by
            rw [attemptResults_append]
            rfl
      _ = [] := by rw [hbefore.1, hafter.1, List.append_nil]
  · calc
      mutexCalls (before ++ .gpioConfig :: after) = mutexCalls before ++ mutexCalls after := by
            rw [mutexCalls_append]
            rfl
      _ = [] := by rw [hbefore.2.1, hafter.2.1, List.append_nil]
  · calc
      recoveries (before ++ .gpioConfig :: after) = recoveries before + (recoveries after + 1) := by
            rw [recoveries_append]
            simp [recoveries]
      _ = 1 := by rw [hbefore.2.2, hafter.2.2]

/-! ## Worlds that differ in the log and the error count -/

namespace Idle

theorem symm {w w' : World} (h : Idle w w') : Idle w' w := by
  constructor
  · rw [h.1]
  · rw [h.2]

/-- Such a world is the first one with another log and another error count. -/
theorem exists_eq {w w' : World} (h : Idle w w') :
    ∃ count log, w' = ⟨{ w.bus with errorCount := count }, { w.esp with log := log }⟩ :=
  ⟨w'.bus.errorCount, w'.esp.log, by rw [← h.1, ← h.2]⟩

theorem of_eq (w : World) (count : UInt32) (log : List HwCall) :
    Idle w ⟨{ w.bus with errorCount := count }, { w.esp with log := log }⟩ :=
  ⟨rfl, rfl⟩

theorem bus_eq {w w' : World} (h : Idle w w') (hcount : w'.bus.errorCount = w.bus.errorCount) :
    w'.bus = w.bus := by
  rw [h.1, hcount]

end Idle

/-- ESP-IDF answers the same whatever is in the log. -/
theorem addDevice_relogged (e : Esp) (log : List HwCall) (master : Option MasterBus)
    (config : DeviceConfig) (ret : EspErr) (out : Option MasterDev) :
    ∃ log', ({ e with log := log } : Esp).addDevice master config ret out =
      ((e.addDevice master config ret out).1, (e.addDevice master config ret out).2.1,
        { (e.addDevice master config ret out).2.2 with log := log' }) := by
  cases master with
  | none =>
      exact ⟨_, rfl⟩
  | some m =>
      by_cases hret : ret = espOk
      · exact ⟨_, by simp [Esp.addDevice, hret, Esp.emit]; rfl⟩
      · exact ⟨_, by simp [Esp.addDevice, hret, Esp.emit]; rfl⟩

theorem newMasterBus_relogged (e : Esp) (log : List HwCall) (config : MasterBusConfig)
    (ret : EspErr) (out : Option MasterBus) :
    ∃ log', ({ e with log := log } : Esp).newMasterBus config ret out =
      ((e.newMasterBus config ret out).1, (e.newMasterBus config ret out).2.1,
        { (e.newMasterBus config ret out).2.2 with log := log' }) := by
  by_cases hret : ret = espOk
  · exact ⟨_, by simp [Esp.newMasterBus, hret, Esp.emit]; rfl⟩
  · exact ⟨_, by simp [Esp.newMasterBus, hret, Esp.emit]; rfl⟩

theorem delMasterBus_relogged (e : Esp) (log : List HwCall) (master : Option MasterBus)
    (ret : EspErr) :
    ∃ log', ({ e with log := log } : Esp).delMasterBus master ret =
      { e.delMasterBus master ret with log := log' } := by
  cases master with
  | none =>
      exact ⟨_, rfl⟩
  | some m =>
      exact ⟨_, rfl⟩

/-- Two results with the same code, in worlds that differ in the log and the error count. -/
def SameOutcome {α : Type} (code : α → EspErr) (r r' : α × World) : Prop :=
  code r'.1 = code r.1 ∧ Idle r.2 r'.2

theorem readdDevices_alike (env : RecoverEnv) (n i : Nat) {w w' : World} (h : Idle w w') :
    SameOutcome id (readdDevices env n i w) (readdDevices env n i w') := by
  induction n generalizing i w w' with
  | zero =>
      exact ⟨rfl, h⟩
  | succ n ih =>
      rcases h.exists_eq with ⟨count, log, rfl⟩
      rcases addDevice_relogged w.esp log w.bus.busHandle ⟨7, (w.bus.devices i).addr, 0⟩
        (env.addDevice i) (w.bus.devices i).handle with ⟨log', hadd⟩
      simp only [readdDevices, hadd]
      split
      · -- both loops give up here
        rcases delMasterBus_relogged (w.esp.addDevice w.bus.busHandle ⟨7, (w.bus.devices i).addr, 0⟩
          (env.addDevice i) (w.bus.devices i).handle).2.2 log' w.bus.busHandle env.delRebuilt with
          ⟨log'', hdel⟩
        rw [hdel]
        exact ⟨rfl, rfl, rfl⟩
      · exact ih (i + 1) ⟨rfl, rfl⟩

theorem rebuild_alike (env : RecoverEnv) {w w' : World} (h : Idle w w') :
    SameOutcome id (rebuild env w) (rebuild env w') := by
  rcases h.exists_eq with ⟨count, log, rfl⟩
  rcases newMasterBus_relogged w.esp log (masterBusConfig w.bus.port w.bus.sclPin w.bus.sdaPin)
    env.newMasterBus w.bus.busHandle with ⟨log', hnew⟩
  simp only [rebuild, hnew]
  generalize w.esp.newMasterBus (masterBusConfig w.bus.port w.bus.sclPin w.bus.sdaPin)
    env.newMasterBus w.bus.busHandle = res
  split
  · exact ⟨rfl, rfl, rfl⟩
  · -- the loop answers both alike, so both are judged alike
    have hreadd := readdDevices_alike env w.bus.deviceCount 0
      (Idle.of_eq ⟨{ w.bus with busHandle := res.2.1 }, res.2.2⟩ count log')
    have hcode := hreadd.1
    simp only [id_eq] at hcode
    simp only [hcode]
    split
    · exact ⟨rfl, hreadd.2⟩
    · refine ⟨rfl, ?_⟩
      rcases hreadd.2.exists_eq with ⟨count', log'', heq⟩
      rw [heq]
      exact ⟨rfl, rfl⟩

/-- Recovery answers alike on worlds that differ in the log and the error count. -/
theorem recover_alike (env : RecoverEnv) {w w' : World} (h : Idle w w') :
    SameOutcome id (i2cBusRecoverLocked env w) (i2cBusRecoverLocked env w') := by
  have hteardown : Idle (teardown env w) (teardown env w') := by
    rcases h.exists_eq with ⟨count, log, rfl⟩
    cases hm : w.bus.busHandle with
    | none =>
        simp only [teardown, hm]
        exact ⟨rfl, rfl⟩
    | some m =>
        simp only [teardown, hm]
        exact ⟨rfl, rfl⟩
  have hemit : ∀ {v v' : World} (calls : List HwCall), Idle v v' →
      Idle (v.emit calls) (v'.emit calls) := by
    intro v v' calls hv
    exact (Idle.emit v calls).symm.trans (hv.trans (Idle.emit v' calls))
  -- up to the answer of the line both recoveries do the same
  have hline : Idle (lineWorld env w) (lineWorld env w') :=
    hemit _ (hemit _ (hemit _ hteardown))
  by_cases hreleased : env.Released
  · rw [recover_of_released env w hreleased, recover_of_released env w' hreleased]
    exact rebuild_alike env (hemit _ hline)
  · rw [recover_of_not_released env w hreleased, recover_of_not_released env w' hreleased]
    exact ⟨rfl, hline⟩

/-! ## The stages of a transfer -/

section Stages

variable (op : XferOp) (dev : Option MasterDev) (env : XferEnv)

/-- The retry loop makes at most `n` more attempts at the request, takes the hardware's results in
order, and returns the last one. -/
theorem retryXfer_calls (n k : Nat) (res : EspErr × List UInt8) (w : World) :
    ∃ j ≤ n, ∃ calls, (retryXfer op dev env n k res w).2.esp.log = w.esp.log ++ calls ∧
      (∀ call ∈ calls, ∃ at_ ret, call = .transfer op dev at_ ret) ∧
      attemptResults calls = (List.range' k j).map (fun i => (env.attempt i).1) ∧
      (retryXfer op dev env n k res w).1.1 = (attemptResults calls).getLast?.getD res.1 := by
  induction n generalizing k res w with
  | zero =>
      exact ⟨0, le_rfl, [], by simp [retryXfer], by simp, rfl, rfl⟩
  | succ n ih =>
      by_cases hres : res.1 = espOk
      · exact ⟨0, Nat.zero_le _, [], by simp [retryXfer, hres], by simp, rfl,
          by simp [retryXfer, hres, attemptResults]⟩
      · -- one attempt now, the others by the induction hypothesis
        rcases ih (k + 1) (env.attempt k) (attemptXfer op dev (env.attempt k) w).2 with
          ⟨j, hj, calls, hlog, hrequest, hresults, hlast⟩
        have hstep : retryXfer op dev env (n + 1) k res w =
            retryXfer op dev env n (k + 1) (env.attempt k)
              (attemptXfer op dev (env.attempt k) w).2 := by
          simp [retryXfer, hres, attemptXfer]
        refine ⟨j + 1, Nat.succ_le_succ hj,
          .transfer op dev w.snapshot (env.attempt k).1 :: calls, ?_, ?_, ?_, ?_⟩
        · rw [hstep, hlog]
          simp [attemptXfer, World.emit, Esp.emit]
        · intro call hcall
          rcases List.mem_cons.1 hcall with hfirst | hrest
          · exact ⟨_, _, hfirst⟩
          · exact hrequest call hrest
        · simpa [attemptResults, HwCall.attemptResult, List.range'_succ] using hresults
        · rw [hstep, hlast]
          simp [attemptResults, HwCall.attemptResult, List.getLast?_cons]

variable {op dev env}

theorem healXfer_of_answered {res : EspErr × List UInt8} (h : res.1 ≠ espErrTimeout) (w : World) :
    healXfer op dev env res w = (res, w) := by
  simp [healXfer, h]

theorem healXfer_of_failed {res : EspErr × List UInt8} {w : World} (h : res.1 = espErrTimeout)
    (hfail : (i2cBusRecoverLocked env.recover w.countError).1 ≠ espOk) :
    healXfer op dev env res w = (res, (i2cBusRecoverLocked env.recover w.countError).2) := by
  simp [healXfer, h, hfail]

theorem healXfer_of_healed {res : EspErr × List UInt8} {w : World} (h : res.1 = espErrTimeout)
    (hok : (i2cBusRecoverLocked env.recover w.countError).1 = espOk) :
    healXfer op dev env res w = retryXfer op dev env i2cBusRecoveryRetry 1 res
      (i2cBusRecoverLocked env.recover w.countError).2 := by
  simp [healXfer, h, hok]

variable (op dev env)

theorem retryXfer_errorCount (n k : Nat) (res : EspErr × List UInt8) (w : World) :
    (retryXfer op dev env n k res w).2.bus.errorCount = w.bus.errorCount := by
  induction n generalizing k res w with
  | zero =>
      rfl
  | succ n ih =>
      by_cases hres : res.1 = espOk
      · simp [retryXfer, hres]
      · have hrest := ih (k + 1) (env.attempt k) (attemptXfer op dev (env.attempt k) w).2
        simpa [retryXfer, hres, attemptXfer, World.emit] using hrest

/-- A first attempt that times out is counted, recovery and retry are not. -/
theorem healXfer_errorCount (res : EspErr × List UInt8) (w : World) :
    (healXfer op dev env res w).2.bus.errorCount =
      w.bus.errorCount + if res.1 = espErrTimeout then 1 else 0 := by
  have hrecover := (recover_sameRegistry env.recover w.countError).errorCount_eq
  by_cases htimeout : res.1 = espErrTimeout
  · rw [if_pos htimeout]
    by_cases hok : (i2cBusRecoverLocked env.recover w.countError).1 = espOk
    · rw [healXfer_of_healed htimeout hok, retryXfer_errorCount]
      exact hrecover
    · rw [healXfer_of_failed htimeout hok]
      exact hrecover
  · simp [healXfer_of_answered htimeout, htimeout]

theorem finishXfer_errorCount (res : EspErr × List UInt8) (w : World) :
    (finishXfer res w).2.bus.errorCount =
      w.bus.errorCount + if res.1 ≠ espOk then 1 else 0 := by
  by_cases hres : res.1 = espOk
  · simp [finishXfer, hres, World.emit]
  · simp [finishXfer, hres, World.emit, World.countError]

theorem finishXfer_fst (res : EspErr × List UInt8) (w : World) : (finishXfer res w).1 = res := by
  by_cases hres : res.1 = espOk <;> simp [finishXfer, hres]

theorem finishXfer_log (res : EspErr × List UInt8) (w : World) :
    (finishXfer res w).2.esp.log = w.esp.log ++ [.giveMutex] := by
  by_cases hres : res.1 = espOk <;> simp [finishXfer, hres, World.emit, Esp.emit, World.countError]

/-- A transfer that takes the mutex counts a first attempt that times out and a failure of its own,
both if it comes to that. -/
theorem xfer_errorCount {bus : Option Unit} {w : World} (h : Entered bus env w) :
    (i2cBusXfer op bus dev env w).2.bus.errorCount =
      w.bus.errorCount + (if (env.attempt 0).1 = espErrTimeout then 1 else 0) +
        (if (i2cBusXfer op bus dev env w).1.1 ≠ espOk then 1 else 0) := by
  rw [xfer_of_entered h, finishXfer_fst, finishXfer_errorCount, healXfer_errorCount]
  rfl

end Stages

/-! ## Equal answers -/

/-- The hardware answers both transfers with the same codes, and so does recovery. -/
structure SameAnswers (env env' : XferEnv) : Prop where
  mutexTaken_eq : env'.mutexTaken = env.mutexTaken
  attempt_eq : ∀ k, (env'.attempt k).1 = (env.attempt k).1
  recover_eq : env'.recover = env.recover

section SameAnswers

variable {env env' : XferEnv} (h : SameAnswers env env') (op op' : XferOp)
  (dev dev' : Option MasterDev)

include h

theorem retryXfer_alike (n k : Nat) {res res' : EspErr × List UInt8} (hres : res'.1 = res.1)
    {w w' : World} (hw : Idle w w') :
    SameOutcome Prod.fst (retryXfer op dev env n k res w) (retryXfer op' dev' env' n k res' w') := by
  have hworlds : ∀ {v v' : World}, Idle w v → Idle w' v' → Idle v v' := by
    intro v v' hv hv'
    exact hv.symm.trans (hw.trans hv')
  refine ⟨?_, hworlds (retryXfer_idle op dev env n k res w) (retryXfer_idle op' dev' env' n k res' w')⟩
  induction n generalizing k res res' w w' with
  | zero =>
      exact hres
  | succ n ih =>
      by_cases hok : res.1 = espOk
      · simp [retryXfer, hok, hres]
      · -- both go on, and the next attempt is answered alike
        have hok' : res'.1 ≠ espOk := hres ▸ hok
        have hattempts : Idle (attemptXfer op dev (env.attempt k) w).2
            (attemptXfer op' dev' (env'.attempt k) w').2 :=
          hworlds (Idle.emit w _) (Idle.emit w' _)
        simpa [retryXfer, hok, hok', attemptXfer] using
          ih (k + 1) (h.attempt_eq k) hattempts fun hv hv' => hv.symm.trans (hattempts.trans hv')

theorem healXfer_alike {res res' : EspErr × List UInt8} (hres : res'.1 = res.1) {w w' : World}
    (hw : Idle w w') :
    SameOutcome Prod.fst (healXfer op dev env res w) (healXfer op' dev' env' res' w') := by
  have hcounted : Idle w.countError w'.countError :=
    (Idle.countError w).symm.trans (hw.trans (Idle.countError w'))
  have hrecover := recover_alike env.recover hcounted
  have hcode : (i2cBusRecoverLocked env'.recover w'.countError).1 =
      (i2cBusRecoverLocked env.recover w.countError).1 := by
    rw [h.recover_eq]
    exact hrecover.1
  -- the codes are equal, so both take the same one of the three ways
  by_cases htimeout : res.1 = espErrTimeout
  · have htimeout' : res'.1 = espErrTimeout := hres.trans htimeout
    by_cases hok : (i2cBusRecoverLocked env.recover w.countError).1 = espOk
    · rw [healXfer_of_healed htimeout hok, healXfer_of_healed htimeout' (hcode.trans hok),
        h.recover_eq]
      exact retryXfer_alike h op op' dev dev' _ _ hres hrecover.2
    · have hfail' : (i2cBusRecoverLocked env'.recover w'.countError).1 ≠ espOk := hcode ▸ hok
      rw [healXfer_of_failed htimeout hok, healXfer_of_failed htimeout' hfail', h.recover_eq]
      exact ⟨hres, hrecover.2⟩
  · rw [healXfer_of_answered htimeout, healXfer_of_answered (hres ▸ htimeout)]
    exact ⟨hres, hw⟩

end SameAnswers

/-! ## The calls of a transfer -/

/-- Every attempt among the calls is the request itself. -/
def OnlyRequests (op : XferOp) (dev : Option MasterDev) (calls : List HwCall) : Prop :=
  ∀ op' dev' at_ ret, .transfer op' dev' at_ ret ∈ calls → op' = op ∧ dev' = dev

/-- The calls go on after `w` with one attempt, then a recovery that returns `ESP_OK`, and then
without a further one. -/
def HealedBetween (env : XferEnv) (w : World) (calls : List HwCall) : Prop :=
  ∃ first recovery rest w₁, calls = first ++ recovery ++ rest ∧
    (attemptResults first).length = 1 ∧ recoveries first = 0 ∧ recoveries rest = 0 ∧
    Idle w w₁ ∧ w₁.esp.log = w.esp.log ++ first ∧
    (i2cBusRecoverLocked env.recover w₁).1 = espOk ∧
    (i2cBusRecoverLocked env.recover w₁).2.esp.log = w₁.esp.log ++ recovery

/-- What is asked of a transfer that makes the calls `calls` from `w` on and returns `ret`. -/
structure XferContract (op : XferOp) (dev : Option MasterDev) (env : XferEnv) (w : World)
    (calls : List HwCall) (ret : EspErr) : Prop where
  request : OnlyRequests op dev calls
  /-- The attempts take the hardware's results in order. -/
  results : attemptResults calls =
    (List.range (attemptResults calls).length).map fun k => (env.attempt k).1
  attempts_le : (attemptResults calls).length ≤ 1 + i2cBusRecoveryRetry
  recoveries_le : recoveries calls ≤ 1
  retried : 1 < (attemptResults calls).length →
    (env.attempt 0).1 = espErrTimeout ∧ HealedBetween env w calls
  returned : env.mutexTaken = true → (attemptResults calls).getLast? = some ret
  /-- The mutex is taken before everything else and given back, once each, after it. -/
  mutex : env.mutexTaken = true →
    ∃ body, calls = .takeMutex true :: (body ++ [.giveMutex]) ∧ mutexCalls body = []
  turnedAway : env.mutexTaken = false → ret = espErrTimeout ∧ calls = [.takeMutex false]

theorem onlyRequests_append {op : XferOp} {dev : Option MasterDev} {xs ys : List HwCall}
    (hxs : OnlyRequests op dev xs) (hys : OnlyRequests op dev ys) :
    OnlyRequests op dev (xs ++ ys) := by
  intro op' dev' at_ ret hmem
  rcases List.mem_append.1 hmem with hmem | hmem
  · exact hxs op' dev' at_ ret hmem
  · exact hys op' dev' at_ ret hmem

theorem onlyRequests_of_noAttempt (op : XferOp) (dev : Option MasterDev) {calls : List HwCall}
    (h : attemptResults calls = []) : OnlyRequests op dev calls := by
  intro op' dev' at_ ret hmem
  exact absurd (List.filterMap_eq_nil_iff.1 h _ hmem) (by simp [HwCall.attemptResult])

theorem requests_unread {op : XferOp} {dev : Option MasterDev} {calls : List HwCall}
    (h : ∀ call ∈ calls, ∃ at_ ret, call = .transfer op dev at_ ret) :
    OnlyRequests op dev calls ∧ mutexCalls calls = [] ∧ recoveries calls = 0 := by
  refine ⟨?_, List.filter_eq_nil_iff.2 ?_, List.count_eq_zero.2 ?_⟩
  · intro op' dev' at_ ret hmem
    rcases h _ hmem with ⟨_, _, heq⟩
    cases heq
    exact ⟨rfl, rfl⟩
  · intro call hcall
    rcases h call hcall with ⟨at_, ret, rfl⟩
    simp [HwCall.isMutex]
  · intro hmem
    rcases h _ hmem with ⟨_, _, heq⟩
    cases heq

/-- What a transfer does after its first attempt, which was answered `res`: as many further attempts
as the retry budget allows, and only behind a recovery that returned `ESP_OK`. -/
structure HealRun (op : XferOp) (dev : Option MasterDev) (env : XferEnv) (res : EspErr × List UInt8)
    (w : World) (calls : List HwCall) : Prop where
  log : (healXfer op dev env res w).2.esp.log = w.esp.log ++ calls
  request : OnlyRequests op dev calls
  noMutex : mutexCalls calls = []
  recoveries_le : recoveries calls ≤ 1
  results : ∃ j ≤ i2cBusRecoveryRetry,
    attemptResults calls = (List.range' 1 j).map fun k => (env.attempt k).1
  returned : (healXfer op dev env res w).1.1 = (attemptResults calls).getLast?.getD res.1
  retried : attemptResults calls ≠ [] → res.1 = espErrTimeout ∧
    (i2cBusRecoverLocked env.recover w.countError).1 = espOk ∧
    ∃ recovery rest, calls = recovery ++ rest ∧ recoveries rest = 0 ∧
      (i2cBusRecoverLocked env.recover w.countError).2.esp.log = w.esp.log ++ recovery

theorem healXfer_run (op : XferOp) (dev : Option MasterDev) (env : XferEnv)
    (res : EspErr × List UInt8) (w : World) : ∃ calls, HealRun op dev env res w calls := by
  by_cases htimeout : res.1 = espErrTimeout
  · rcases recover_oneRecovery env.recover w.countError with ⟨recovery, hlog, hrec⟩
    by_cases hok : (i2cBusRecoverLocked env.recover w.countError).1 = espOk
    · -- a recovery, and the attempts of the retry loop behind it
      rcases retryXfer_calls op dev env i2cBusRecoveryRetry 1 res
        (i2cBusRecoverLocked env.recover w.countError).2 with
        ⟨j, hj, rest, hrest, hrequest, hresults, hlast⟩
      have hunread := requests_unread hrequest
      have hattempts : attemptResults (recovery ++ rest) = attemptResults rest := by
        rw [attemptResults_append, hrec.noAttempt, List.nil_append]
      refine ⟨recovery ++ rest, ?_, ?_, ?_, ?_, ⟨j, hj, ?_⟩, ?_, ?_⟩
      · rw [healXfer_of_healed htimeout hok, hrest, hlog, List.append_assoc]
        rfl
      · exact onlyRequests_append (onlyRequests_of_noAttempt op dev hrec.noAttempt) hunread.1
      · rw [mutexCalls_append, hrec.noMutex, hunread.2.1, List.append_nil]
      · rw [recoveries_append, hrec.once, hunread.2.2]
      · rw [hattempts, hresults]
      · rw [healXfer_of_healed htimeout hok, hattempts, hlast]
      · intro _
        exact ⟨htimeout, hok, recovery, rest, rfl, hunread.2.2, hlog⟩
    · -- a recovery that fails is not followed by an attempt
      refine ⟨recovery, ?_, onlyRequests_of_noAttempt op dev hrec.noAttempt, hrec.noMutex,
        hrec.once.le, ⟨0, Nat.zero_le _, hrec.noAttempt⟩, ?_, ?_⟩
      · rw [healXfer_of_failed htimeout hok]
        exact hlog
      · rw [healXfer_of_failed htimeout hok, hrec.noAttempt]
        rfl
      · intro hsome
        exact absurd hrec.noAttempt hsome
  · -- any other answer is passed on
    refine ⟨[], ?_, ?_, rfl, Nat.zero_le _, ⟨0, Nat.zero_le _, rfl⟩, ?_, ?_⟩
    · simp [healXfer_of_answered htimeout]
    · exact onlyRequests_of_noAttempt op dev rfl
    · rw [healXfer_of_answered htimeout]
      rfl
    · intro hsome
      exact absurd rfl hsome

/-- A transfer that takes the mutex: one attempt, what it does about the result, and the mutex given
back. -/
theorem xfer_contract_of_entered {op : XferOp} {dev : Option MasterDev} {env : XferEnv} {w : World}
    (h : Entered (some ()) env w) :
    ∃ calls, (i2cBusXfer op (some ()) dev env w).2.esp.log = w.esp.log ++ calls ∧
      XferContract op dev env w calls (i2cBusXfer op (some ()) dev env w).1.1 := by
  have htaken : env.mutexTaken = true := h.2.2
  rcases healXfer_run op dev env (env.attempt 0) (attemptedWorld op dev env w) with ⟨middle, hrun⟩
  rcases hrun.results with ⟨j, hj, hresults⟩
  -- the first attempt, with the mutex taken before it
  let first : List HwCall := [.takeMutex true, .transfer op dev w.snapshot (env.attempt 0).1]
  have hfirst : (attemptedWorld op dev env w).esp.log = w.esp.log ++ first := by
    simp [attemptedWorld, attemptXfer, World.emit, Esp.emit, World.snapshot, first]
  have hone : attemptResults first = [(env.attempt 0).1] := rfl
  have hattempts : attemptResults (first ++ middle ++ [.giveMutex]) =
      (env.attempt 0).1 :: attemptResults middle := by
    rw [attemptResults_append, attemptResults_append, hone]
    simp [attemptResults, HwCall.attemptResult]
  have hlength : (attemptResults (first ++ middle ++ [.giveMutex])).length = j + 1 := by
    rw [hattempts, hresults]
    simp
  refine ⟨first ++ middle ++ [.giveMutex], ?_, ?_, ?_, ?_, ?_, ?_, ?_, ?_, ?_⟩
  · rw [xfer_of_entered h, finishXfer_log, hrun.log, hfirst]
    simp only [List.append_assoc]
  · refine onlyRequests_append (onlyRequests_append ?_ hrun.request)
      (onlyRequests_of_noAttempt op dev rfl)
    intro op' dev' at_ ret hmem
    simp only [first, List.mem_cons, reduceCtorEq, HwCall.transfer.injEq, List.not_mem_nil,
      or_false, false_or] at hmem
    exact ⟨hmem.1, hmem.2.1⟩
  · rw [hlength, hattempts, hresults, List.range_eq_range', List.range'_succ]
    rfl
  · rw [hlength]
    omega
  · rw [recoveries_append, recoveries_append]
    simpa [recoveries, first] using hrun.recoveries_le
  · -- a second attempt is one of the retry loop, so recovery ran before it
    intro hsecond
    have hsome : attemptResults middle ≠ [] := by
      intro hnone
      rw [hattempts, hnone] at hsecond
      exact absurd hsecond (by simp)
    rcases hrun.retried hsome with ⟨htimeout, hok, recovery, rest, hmiddle, hrest, hlog⟩
    refine ⟨htimeout, first, recovery, rest ++ [.giveMutex],
      (attemptedWorld op dev env w).countError, ?_, ?_, ?_, ?_, ?_, hfirst, hok, hlog⟩
    · rw [hmiddle]
      simp only [List.append_assoc]
    · rw [hone]
      rfl
    · simp [recoveries, first]
    · rw [recoveries_append, hrest]
      rfl
    · exact ((Idle.emit w _).trans (Idle.emit _ _)).trans (Idle.countError _)
  · intro _
    rw [xfer_of_entered h, finishXfer_fst, hrun.returned, hattempts, List.getLast?_cons]
  · intro _
    refine ⟨.transfer op dev w.snapshot (env.attempt 0).1 :: middle, rfl, ?_⟩
    simpa [mutexCalls, HwCall.isMutex] using hrun.noMutex
  · intro hfree
    exact absurd (htaken.symm.trans hfree) (by simp)

/-- A transfer that is not given the mutex. -/
theorem xfer_of_not_taken {op : XferOp} {dev : Option MasterDev} {env : XferEnv} {w : World}
    (hup : w.bus.initialized = true) (h : env.mutexTaken = false) :
    i2cBusXfer op (some ()) dev env w =
      ((espErrTimeout, []), (w.emit [.takeMutex false]).countError) := by
  simp [i2cBusXfer, hup, h]

/-! ## The three functions -/

/-- The bus function that performs a request, as a call. -/
def XferOp.call (op : XferOp) (dev : Option MasterDev) (env : XferEnv) : BusCall :=
  match op with
  | .transmit data => .write dev data env
  | .receive len => .read dev len env
  | .transmitReceive wrData rdLen => .writeRead dev wrData rdLen env

theorem XferOp.exec_call (op : XferOp) (dev : Option MasterDev) (env : XferEnv) (w : World) :
    (op.call dev env).exec w =
      ((i2cBusXfer op (some ()) dev env w).1.1, (i2cBusXfer op (some ()) dev env w).2) := by
  cases op with
  | transmit data =>
      rfl
  | receive len =>
      rfl
  | transmitReceive wrData rdLen =>
      rfl

theorem xfer_contract {op : XferOp} {dev : Option MasterDev} {env : XferEnv} {w : World}
    (hup : w.bus.initialized = true) :
    ∃ calls, (i2cBusXfer op (some ()) dev env w).2.esp.log = w.esp.log ++ calls ∧
      XferContract op dev env w calls (i2cBusXfer op (some ()) dev env w).1.1 := by
  cases htaken : env.mutexTaken with
  | true =>
      exact xfer_contract_of_entered ⟨by simp, hup, htaken⟩
  | false =>
      rw [xfer_of_not_taken hup htaken]
      -- the record is the refused mutex alone
      refine ⟨[.takeMutex false], rfl, ?_⟩
      refine ⟨onlyRequests_of_noAttempt op dev rfl, rfl, Nat.zero_le _, Nat.zero_le _, ?_, ?_, ?_, ?_⟩
      · intro hsecond
        exact absurd hsecond (Nat.not_lt_zero _)
      · intro h
        exact absurd (htaken.symm.trans h) (by simp)
      · intro h
        exact absurd (htaken.symm.trans h) (by simp)
      · intro _
        exact ⟨rfl, rfl⟩

/-- On equal answers two transfers return the same code and leave the same bus. -/
theorem xfer_bus_eq {env env' : XferEnv} (h : SameAnswers env env') (op op' : XferOp)
    (dev dev' : Option MasterDev) {w : World} (hup : w.bus.initialized = true) :
    (i2cBusXfer op' (some ()) dev' env' w).1.1 = (i2cBusXfer op (some ()) dev env w).1.1 ∧
      (i2cBusXfer op' (some ()) dev' env' w).2.bus = (i2cBusXfer op (some ()) dev env w).2.bus := by
  cases htaken : env.mutexTaken with
  | false =>
      have htaken' : env'.mutexTaken = false := h.mutexTaken_eq.trans htaken
      rw [xfer_of_not_taken hup htaken, xfer_of_not_taken hup htaken']
      exact ⟨rfl, rfl⟩
  | true =>
      have hentered : Entered (some ()) env w := ⟨by simp, hup, htaken⟩
      have hentered' : Entered (some ()) env' w := ⟨by simp, hup, h.mutexTaken_eq.trans htaken⟩
      have hattempted : Idle (attemptedWorld op dev env w) (attemptedWorld op' dev' env' w) :=
        ⟨rfl, rfl⟩
      have hheal := healXfer_alike h op op' dev dev' (h.attempt_eq 0) hattempted
      have hcode : (i2cBusXfer op' (some ()) dev' env' w).1.1 =
          (i2cBusXfer op (some ()) dev env w).1.1 := by
        rw [xfer_of_entered hentered, xfer_of_entered hentered', finishXfer_fst, finishXfer_fst]
        exact hheal.1
      have hidle : Idle (i2cBusXfer op (some ()) dev env w).2
          (i2cBusXfer op' (some ()) dev' env' w).2 := by
        rw [xfer_of_entered hentered, xfer_of_entered hentered']
        exact (finishXfer_idle _ _).symm.trans (hheal.2.trans (finishXfer_idle _ _))
      -- the counts are equal because they depend on the codes alone
      refine ⟨hcode, hidle.bus_eq ?_⟩
      rw [xfer_errorCount op dev env hentered, xfer_errorCount op' dev' env' hentered', hcode,
        h.attempt_eq 0]

/-- `i2c_bus_write`, `i2c_bus_read` and `i2c_bus_write_read` on an initialised bus, whatever the
hardware answers: each keeps the contract of a transfer, and on equal answers all of them return the
same code and leave the same bus. -/
theorem transfer_functions_agree (op : XferOp) (dev : Option MasterDev) (env : XferEnv) (w : World)
    (hup : w.bus.initialized = true) :
    (∃ calls, ((op.call dev env).exec w).2.esp.log = w.esp.log ++ calls ∧
      XferContract op dev env w calls ((op.call dev env).exec w).1) ∧
    ∀ (op' : XferOp) dev' env', SameAnswers env env' →
      ((op'.call dev' env').exec w).1 = ((op.call dev env).exec w).1 ∧
        ((op'.call dev' env').exec w).2.bus = ((op.call dev env).exec w).2.bus := by
  simp only [XferOp.exec_call]
  refine ⟨xfer_contract hup, ?_⟩
  intro op' dev' env' hanswers
  exact xfer_bus_eq hanswers op op' dev dev' hup

/-- The bus of the board after `i2c_bus_init`. -/
def startedBus : World :=
  busStep World.initial (.init (some ⟨18, 19, 0⟩) ⟨true, espOk⟩)

theorem transfer_functions_agree_healed :
    (∃ calls, (((XferOp.transmit [0x14, 0x01]).call none hangsOnce).exec startedBus).2.esp.log =
        startedBus.esp.log ++ calls ∧
      XferContract (.transmit [0x14, 0x01]) none hangsOnce startedBus calls
        (((XferOp.transmit [0x14, 0x01]).call none hangsOnce).exec startedBus).1) ∧
    ∀ (op' : XferOp) dev' env', SameAnswers hangsOnce env' →
      ((op'.call dev' env').exec startedBus).1 =
          (((XferOp.transmit [0x14, 0x01]).call none hangsOnce).exec startedBus).1 ∧
        ((op'.call dev' env').exec startedBus).2.bus =
          (((XferOp.transmit [0x14, 0x01]).call none hangsOnce).exec startedBus).2.bus :=
  transfer_functions_agree (.transmit [0x14, 0x01]) none hangsOnce startedBus rfl

end MainboardFirmware
