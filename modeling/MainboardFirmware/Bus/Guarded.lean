import MainboardFirmware.Bus.Lifecycle
import MainboardFirmware.Mcp23017.Operations

/-!
# Guarded — what a driver does on a context whose `init` has failed

The caller allocates the context, so before the first `init` it holds anything, the ready flag
included. `mcp23017_init` clears the flag when it begins to fill the context in and `ads1115_init`
zeroes all of it, but both do so after their argument check. Every exit behind that point leaves the
context down; a rejected configuration leaves the flag as it was.
-/

namespace MainboardFirmware

open Machine

/-! ## A driver behind a flag -/

/-- A driver whose context is a `C`, on a bus with the state `σ`, as the functions of its vtable that
get a pointer to that context. -/
structure GuardedDriver (C σ Config Op : Type) where
  init : Option Config → C → σ → EspErr × C × σ
  /-- Any other operation; a `void` function has no return code, and an undefined run no result. -/
  op : Op → C → σ → Option (Option EspErr × C × σ)
  ready : C → Bool
  /-- The argument check of `init`. -/
  Accepts : Option Config → Prop
  /-- What an operation returns on a context that is not initialised. -/
  refusal : Op → Option EspErr

/-- The context, the bus, and whether the last `init` on the context has returned an error. -/
structure GuardedState (C σ : Type) where
  ctx : C
  bus : σ
  failed : Bool

/-- A call on the context, or whatever else happens on the bus. -/
inductive GuardedCall (Config Op σ : Type)
  | init (config : Option Config)
  | op (o : Op)
  | bus (state : σ)

namespace GuardedDriver

variable {C σ Config Op : Type} (d : GuardedDriver C σ Config Op)

/-- An undefined run leaves the state as it is here. -/
def step (s : GuardedState C σ) : GuardedCall Config Op σ → GuardedState C σ
  | .init config =>
      let (ret, ctx, bus) := d.init config s.ctx s.bus
      ⟨ctx, bus, ret != espOk⟩
  | .op o =>
      match d.op o s.ctx s.bus with
      | some (_, ctx, bus) => ⟨ctx, bus, s.failed⟩
      | none => s
  | .bus state => ⟨s.ctx, state, s.failed⟩

/-- Every operation is refused, and the bus, with all traffic that was ever on it, stays as it is. -/
def Inert (s : GuardedState C σ) : Prop :=
  ∀ o, ∃ ctx, d.op o s.ctx s.bus = some (d.refusal o, ctx, s.bus)

/-- A configuration that is rejected is passed with a context whose flag is clear. -/
def RejectsDown (s : GuardedState C σ) : GuardedCall Config Op σ → Prop
  | .init config => ¬d.Accepts config → d.ready s.ctx = false
  | _ => True

/-- What is asked of the operations of a driver. -/
structure Spec : Prop where
  rejected : ∀ config ctx bus, ¬d.Accepts config →
    d.init config ctx bus = (espErrInvalidArg, ctx, bus)
  failed : ∀ config ctx bus, d.Accepts config → (d.init config ctx bus).1 ≠ espOk →
    d.ready (d.init config ctx bus).2.1 = false
  refused : ∀ o ctx bus, d.ready ctx = false →
    ∃ ctx', d.op o ctx bus = some (d.refusal o, ctx', bus) ∧ d.ready ctx' = false
  /-- Some operation gets past the flag whatever the bus does. -/
  passed : ∃ o, ∀ ctx bus ctx', d.ready ctx = true → d.op o ctx bus ≠ some (d.refusal o, ctx', bus)

variable {d}

theorem inert_iff (hd : d.Spec) (s : GuardedState C σ) : d.Inert s ↔ d.ready s.ctx = false := by
  constructor
  · intro hinert
    rcases hd.passed with ⟨o, hpassed⟩
    rcases hinert o with ⟨ctx, hop⟩
    by_contra hready
    exact hpassed s.ctx s.bus ctx (Bool.not_eq_false _ ▸ hready) hop
  · intro hdown o
    rcases hd.refused o s.ctx s.bus hdown with ⟨ctx, hop, _⟩
    exact ⟨ctx, hop⟩

/-- One call leaves a context with a failed `init` down exactly if it is no rejected one on a context
that is up. -/
theorem step_down_iff (hd : d.Spec) {s : GuardedState C σ}
    (hs : s.failed = true → d.ready s.ctx = false) (call : GuardedCall Config Op σ) :
    ((d.step s call).failed = true → d.ready (d.step s call).ctx = false) ↔
      d.RejectsDown s call := by
  cases call with
  | init config =>
      -- an `init` that gets past its check is on the safe side whether it fails or not
      by_cases haccepts : d.Accepts config
      · have hfailed := hd.failed config s.ctx s.bus haccepts
        refine ⟨fun _ h => absurd haccepts h, fun _ herr => ?_⟩
        apply hfailed
        simpa [step] using herr
      · have hrejected := hd.rejected config s.ctx s.bus haccepts
        simp only [step, hrejected, RejectsDown, haccepts, not_false_eq_true, forall_true_left]
        exact ⟨fun h => h rfl, fun h _ => h⟩
  | op o =>
      refine ⟨fun _ => trivial, fun _ hfailed => ?_⟩
      -- no operation takes back that the last `init` has failed, and none sets the flag
      have hwas : s.failed = true := by
        simp only [step] at hfailed
        split at hfailed <;> exact hfailed
      rcases hd.refused o s.ctx s.bus (hs hwas) with ⟨ctx, hop, hdown⟩
      simpa [step, hop] using hdown
  | bus state =>
      exact ⟨fun _ => trivial, fun _ => hs⟩

/-- From a context with any content, every state of a run is inert whose last `init` has failed,
exactly if every rejected configuration is passed with a context whose flag is clear. -/
theorem inert_after_failure_iff (hd : d.Spec) (ctx : C) (bus : σ)
    (calls : List (GuardedCall Config Op σ)) :
    (∀ s ∈ states d.step ⟨ctx, bus, false⟩ calls, s.failed = true → d.Inert s) ↔
      ∀ move ∈ moves d.step ⟨ctx, bus, false⟩ calls, d.RejectsDown move.1 move.2 := by
  have hgood : ∀ s call, (s.failed = true → d.ready s.ctx = false) →
      (((d.step s call).failed = true → d.Inert (d.step s call)) ↔ d.RejectsDown s call) := by
    intro s call hs
    rw [inert_iff hd]
    exact step_down_iff hd hs call
  exact forall_states_iff hgood (fun s call hs => (step_down_iff hd hs call).2)
    (fun h => Bool.noConfusion h) (fun h => Bool.noConfusion h) calls

end GuardedDriver

/-! ## The expander -/

section Mcp23017

variable {β η σ : Type} (api : I2cBusApi β η σ)

/-- A call other than `init` that gets a pointer to the context. -/
def Mcp23017Call.OnContext : Mcp23017Call β → Prop
  | .init _ _ => False
  | .deinit dev | .setPortDirection dev _ _ | .writePort dev _ _ | .readPort dev _ _
  | .setPortPullup dev _ _ | .setPortPolarity dev _ _ | .setPinDirection dev _ _ _
  | .writePin dev _ _ _ | .readPin dev _ _ _ | .togglePin dev _ _ => dev = some ()

/-- The return code of a call that returns one. -/
def Mcp23017Call.code (call : Mcp23017Call β) (ret : EspErr) : Option EspErr :=
  match call with
  | .deinit _ => none
  | _ => some ret

def mcp23017Guarded : GuardedDriver (Mcp23017 β η) σ (Mcp23017Config β)
    { call : Mcp23017Call β // call.OnContext } where
  init config ctx bus :=
    let (ret, w) := mcp23017Init api (some ()) config ⟨ctx, bus⟩
    (ret, w.dev, w.bus)
  op call ctx bus :=
    let (res, w) := call.val.exec api ⟨ctx, bus⟩
    some (call.val.code res.ret, w.dev, w.bus)
  ready ctx := ctx.isInitialized
  Accepts config := ∃ c, config = some c ∧ c.bus ≠ none ∧ mcp23017AddrBase ≤ c.address ∧
    c.address ≤ mcp23017AddrMax
  refusal call := call.val.code espErrInvalidState

theorem mcp23017WriteRegs_dev (regs : List (UInt8 × UInt8)) (w : Mcp23017World β η σ) :
    (mcp23017WriteRegs api regs w).2.dev = w.dev := by
  induction regs generalizing w with
  | nil =>
      rfl
  | cons reg regs ih =>
      unfold mcp23017WriteRegs
      dsimp only
      split
      · rfl
      · exact ih _

/-- An `init` that gets past its argument check and fails leaves the flag clear. -/
theorem mcp23017Init_failed {config : Mcp23017Config β} (hbus : config.bus ≠ none)
    (hlow : mcp23017AddrBase ≤ config.address) (hhigh : config.address ≤ mcp23017AddrMax)
    (w : Mcp23017World β η σ) (herr : (mcp23017Init api (some ()) (some config) w).1 ≠ espOk) :
    (mcp23017Init api (some ()) (some config) w).2.dev.isInitialized = false := by
  rcases Option.ne_none_iff_exists'.1 hbus with ⟨b, hb⟩
  rcases hadd : api.addDevice (some b) config.address config.sclHz (some "mcp23017")
    w.dev.devHandle w.bus with ⟨ret, handle, bus⟩
  have heq := mcp23017Init_eq hb hlow hhigh hadd
  dsimp only at heq
  rw [heq] at herr ⊢
  -- the flag was cleared before the device was registered, and no write sets it
  split
  · rfl
  · split
    · rw [mcp23017WriteRegs_dev]
      rfl
    · rename_i hret hwrites
      rw [if_neg hret, if_neg hwrites] at herr
      exact absurd rfl herr

/-- On a context whose flag is clear no call touches the bus. -/
theorem mcp23017Exec_down {ctx : Mcp23017 β η} (hdown : ctx.isInitialized = false) (bus : σ)
    {call : Mcp23017Call β} (hcall : call.OnContext) : ∃ res ctx',
      call.exec api ⟨ctx, bus⟩ = (res, ⟨ctx', bus⟩) ∧ ctx'.isInitialized = false ∧
        call.code res.ret = call.code espErrInvalidState := by
  have hready : ∀ dev, mcp23017IsReady dev (⟨ctx, bus⟩ : Mcp23017World β η σ) = false := by
    intro dev
    simp [mcp23017IsReady, hdown]
  cases call with
  | init dev config =>
      exact hcall.elim
  | deinit dev =>
      cases hcall
      exact ⟨⟨espOk, none, none⟩, Mcp23017.zero, rfl, rfl, rfl⟩
  | setPortDirection dev port dirMask =>
      refine ⟨⟨espErrInvalidState, none, none⟩, ctx, ?_, hdown, rfl⟩
      simp [Mcp23017Call.exec, mcp23017SetPortDirection, writePortReg, hready]
  | writePort dev port value =>
      refine ⟨⟨espErrInvalidState, none, none⟩, ctx, ?_, hdown, rfl⟩
      simp [Mcp23017Call.exec, mcp23017WritePort, writePortReg, hready]
  | readPort dev port out =>
      refine ⟨⟨espErrInvalidState, out, none⟩, ctx, ?_, hdown, rfl⟩
      simp [Mcp23017Call.exec, mcp23017ReadPort, hready]
  | setPortPullup dev port pullupMask =>
      refine ⟨⟨espErrInvalidState, none, none⟩, ctx, ?_, hdown, rfl⟩
      simp [Mcp23017Call.exec, mcp23017SetPortPullup, writePortReg, hready]
  | setPortPolarity dev port polarityMask =>
      refine ⟨⟨espErrInvalidState, none, none⟩, ctx, ?_, hdown, rfl⟩
      simp [Mcp23017Call.exec, mcp23017SetPortPolarity, writePortReg, hready]
  | setPinDirection dev port pin direction =>
      refine ⟨⟨espErrInvalidState, none, none⟩, ctx, ?_, hdown, rfl⟩
      simp [Mcp23017Call.exec, mcp23017SetPinDirection, modifyPin, hready]
  | writePin dev port pin value =>
      refine ⟨⟨espErrInvalidState, none, none⟩, ctx, ?_, hdown, rfl⟩
      simp [Mcp23017Call.exec, mcp23017WritePin, modifyPin, hready]
  | readPin dev port pin out =>
      refine ⟨⟨espErrInvalidState, none, out⟩, ctx, ?_, hdown, rfl⟩
      simp [Mcp23017Call.exec, mcp23017ReadPin, hready]
  | togglePin dev port pin =>
      refine ⟨⟨espErrInvalidState, none, none⟩, ctx, ?_, hdown, rfl⟩
      simp [Mcp23017Call.exec, mcp23017TogglePin, modifyPin, hready]

theorem mcp23017Guarded_spec : (mcp23017Guarded api).Spec where
  rejected := by
    intro config ctx bus hrejected
    have hinit : mcp23017Init api (some ()) config ⟨ctx, bus⟩ = (espErrInvalidArg, ⟨ctx, bus⟩) := by
      apply init_turnedAway
      exact fun h => hrejected h.2
    simp [mcp23017Guarded, hinit]
  failed := by
    rintro _ ctx bus ⟨c, rfl, hbus, hlow, hhigh⟩ herr
    exact mcp23017Init_failed api hbus hlow hhigh ⟨ctx, bus⟩ herr
  refused := by
    rintro ⟨call, hcall⟩ ctx bus hdown
    rcases mcp23017Exec_down api hdown bus hcall with ⟨res, ctx', hexec, hflag, hcode⟩
    refine ⟨ctx', ?_, hflag⟩
    simp only [mcp23017Guarded, hexec, hcode]
  passed := by
    -- there is no third port
    refine ⟨⟨.writePort (some ()) 2 0, rfl⟩, fun ctx bus ctx' hup hop => ?_⟩
    have hflag : ctx.isInitialized = true := hup
    simp [mcp23017Guarded, Mcp23017Call.exec, mcp23017WritePort, writePortReg, mcp23017IsReady,
      hflag, mcp23017PortA, mcp23017PortB, Mcp23017Call.code, espErrInvalidArg,
      espErrInvalidState] at hop

end Mcp23017

/-! ## The converter -/

section Ads1115

variable {β η σ : Type} (api : I2cBusApi β η σ) (vTaskDelay : UInt32 → σ → σ)

/-- A call other than `init` that gets a pointer to the context. -/
inductive Ads1115Op
  | read (channel : UInt32) (out : Option UInt16)
  | reset
  | deinit

/-- `ads1115_read` looks at its output pointer before it looks at the flag. -/
def Ads1115Op.refusal : Ads1115Op → Option EspErr
  | .read _ none => some espErrInvalidArg
  | .read _ (some _) => some espErrInvalidState
  | .reset => some espErrInvalidState
  | .deinit => none

def ads1115Guarded : GuardedDriver (Ads1115Dev β η) σ (Ads1115Config β) Ads1115Op where
  init config ctx bus :=
    let (ret, w) := ads1115Init api (some ()) config ⟨ctx, bus⟩
    (ret, w.dev, w.bus)
  op
    | .read channel out, ctx, bus =>
        (ads1115Read api vTaskDelay (some ()) channel out ⟨ctx, bus⟩).map
          fun (ret, _, w) => (some ret, w.dev, w.bus)
    | .reset, ctx, bus =>
        let (ret, w) := ads1115Reset api (some ()) ⟨ctx, bus⟩
        some (some ret, w.dev, w.bus)
    | .deinit, ctx, bus =>
        let w := ads1115Deinit (some ()) (⟨ctx, bus⟩ : Ads1115World β η σ)
        some (none, w.dev, w.bus)
  ready ctx := ctx.initialized
  Accepts config := ∃ c, config = some c ∧ c.bus ≠ none
  refusal := Ads1115Op.refusal

theorem ads1115Guarded_spec : (ads1115Guarded api vTaskDelay).Spec where
  rejected := by
    intro config ctx bus hrejected
    cases config with
    | none =>
        rfl
    | some c =>
        have hbus : c.bus = none := by
          by_contra hsome
          exact hrejected ⟨c, rfl, hsome⟩
        simp [ads1115Guarded, ads1115Init, hbus]
  failed := by
    rintro _ ctx bus ⟨c, rfl, hbus⟩ herr
    rcases Option.ne_none_iff_exists'.1 hbus with ⟨b, hb⟩
    rcases hadd : api.addDevice (some b) c.addr.toUInt8 c.sclHz (some "ADS1115") none bus with
      ⟨ret, handle, bus'⟩
    have heq := @ads1115Init_eq β η σ api ⟨ctx, bus⟩ b c hb ret handle bus' hadd
    dsimp only at heq
    simp only [ads1115Guarded, heq] at herr ⊢
    -- the context was zeroed, and the flag is set in the last line only
    split
    · rfl
    · split
      · rfl
      · rename_i hret hwrite
        rw [if_neg hret, if_neg hwrite] at herr
        exact absurd rfl herr
  refused := by
    intro o ctx bus hdown
    have hflag : ctx.initialized = false := hdown
    cases o with
    | read channel out =>
        refine ⟨ctx, ?_, hdown⟩
        cases out <;> simp [ads1115Guarded, ads1115Read, hflag, Ads1115Op.refusal]
    | reset =>
        refine ⟨ctx, ?_, hdown⟩
        simp [ads1115Guarded, ads1115Reset, hflag, Ads1115Op.refusal]
    | deinit =>
        exact ⟨{ ctx with initialized := false }, rfl, rfl⟩
  passed := by
    -- there is no channel 0
    refine ⟨.read 0 (some 0), fun ctx bus ctx' hup hop => ?_⟩
    have hflag : ctx.initialized = true := hup
    simp [ads1115Guarded, ads1115Read, hflag, ads1115ChannelValid, ads1115Channel0,
      Ads1115Op.refusal, espErrInvalidArg, espErrInvalidState] at hop

end Ads1115

/-! ## Both drivers -/

/-- For both drivers, every bus, every content of the context and every run of calls: after an `init`
that has failed the driver refuses everything and leaves the bus alone until one succeeds, exactly if
every configuration that the argument check rejects is passed with a context whose flag is clear. -/
theorem failed_init_leaves_inert_iff {β η σ : Type} (api : I2cBusApi β η σ)
    (vTaskDelay : UInt32 → σ → σ) :
    (∀ ctx bus calls,
      (∀ s ∈ states (mcp23017Guarded api).step ⟨ctx, bus, false⟩ calls,
        s.failed = true → (mcp23017Guarded api).Inert s) ↔
      ∀ move ∈ moves (mcp23017Guarded api).step ⟨ctx, bus, false⟩ calls,
        (mcp23017Guarded api).RejectsDown move.1 move.2) ∧
    (∀ ctx bus calls,
      (∀ s ∈ states (ads1115Guarded api vTaskDelay).step ⟨ctx, bus, false⟩ calls,
        s.failed = true → (ads1115Guarded api vTaskDelay).Inert s) ↔
      ∀ move ∈ moves (ads1115Guarded api vTaskDelay).step ⟨ctx, bus, false⟩ calls,
        (ads1115Guarded api vTaskDelay).RejectsDown move.1 move.2) :=
  ⟨GuardedDriver.inert_after_failure_iff (mcp23017Guarded_spec api),
    GuardedDriver.inert_after_failure_iff (ads1115Guarded_spec api vTaskDelay)⟩

/-! ## A context on the stack -/

/-- A bus that records the pointers and bytes of every write, and answers all of them well. -/
def recordingApi : I2cBusApi Nat Nat (List (Option Nat × Option Nat × List UInt8)) where
  addDevice _ _ _ _ _ s := (espOk, some 0, s)
  write bus dev data s := (espOk, s ++ [(bus, dev, data)])
  writeRead bus dev wrData rdLen s := (espOk, List.replicate rdLen 0, s ++ [(bus, dev, wrData)])

/-- An expander context that nothing was ever written to. -/
def stackContext : Mcp23017 Nat Nat :=
  ⟨some 0xA5A5A5A5, some 0x5A5A5A5A, 0xA5, true, 0, 0, 0, 0⟩

/-- After the only `init` was rejected, a write goes out on the bus and to the device that the memory
happens to name. -/
theorem rejected_init_leaves_stack_context_ready :
    let d := mcp23017Guarded recordingApi
    let s := run d.step ⟨stackContext, [], false⟩ [.init none]
    s.failed = true ∧
      (d.op ⟨.writePort (some ()) mcp23017PortA 0xFF, rfl⟩ s.ctx s.bus).map (fun r => (r.1, r.2.2)) =
        some (some espOk, [(some 0xA5A5A5A5, some 0x5A5A5A5A, [mcp23017RegOlata, 0xFF])]) ∧
      ¬∀ ctx bus calls, ∀ s ∈ states d.step ⟨ctx, bus, false⟩ calls, s.failed = true → d.Inert s := by
  intro d s
  refine ⟨rfl, by decide, fun hall => ?_⟩
  have hinert := hall stackContext [] [.init none] s (by simp [s]) rfl
  have hdown := (GuardedDriver.inert_iff (mcp23017Guarded_spec recordingApi) s).1 hinert
  exact Bool.noConfusion hdown

end MainboardFirmware
