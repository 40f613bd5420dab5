import MainboardFirmware.Bus.Recover
import MainboardFirmware.Library.Machine
import MainboardFirmware.Library.TwoWire

/-!
# Waveform — what a recovery does to the two lines

Recovery drives SCL and SDA by hand, next to a slave that holds SDA or lets it go when it likes. Its
tail is meant as a STOP condition, but it pulls SDA low while SCL is still high from the clocking:
that is a START condition, and the STOP comes after it.
-/

namespace MainboardFirmware

open Machine TwoWire

/-! ## Wires -/

/-- What the master leaves SCL and SDA at, and what the slave leaves SDA at. -/
structure Wires where
  scl : Bool
  master : Bool
  slave : Bool
  deriving DecidableEq, Repr

/-- SDA is high if neither side holds it. -/
def Wires.levels (w : Wires) : Levels :=
  ⟨w.scl, w.master && w.slave⟩

/-- A call of the master, or the slave changing its mind. -/
inductive WireEvent
  | call (call : HwCall)
  | slave (level : Bool)
  deriving DecidableEq

def WireEvent.call? : WireEvent → Option HwCall
  | .call c => some c
  | .slave _ => none

def wireStep (w : Wires) : WireEvent → Wires
  | .call (.gpioSetLevel .scl level) => { w with scl := level }
  | .call (.gpioSetLevel .sda level) => { w with master := level }
  | .slave level => { w with slave := level }
  | .call _ => w

/-- The calls that configure, set or read the two lines. -/
def HwCall.onLines : HwCall → Bool
  | .gpioConfig | .gpioSetLevel _ _ | .gpioGetLevel _ _ => true
  | _ => false

/-- Those that a recovery makes, in order. -/
def recoveryLineCalls (env : RecoverEnv) (w : World) : List HwCall :=
  ((i2cBusRecoverLocked env w).2.esp.log.drop w.esp.log.length).filter HwCall.onLines

/-- The calls of a recovery among the moves of a slave, each reading of SDA being its level then. -/
structure Waveform (env : RecoverEnv) (w : World) (start : Wires) (events : List WireEvent) :
    Prop where
  calls : events.filterMap WireEvent.call? = recoveryLineCalls env w
  samples : ∀ m ∈ moves wireStep start events, ∀ level,
    m.2 = .call (.gpioGetLevel .sda level) → level = m.1.levels.sda

/-- The levels end with a STOP condition, and the master drives no START condition. -/
def StopsCleanly (start : Wires) (events : List WireEvent) : Prop :=
  EndsWithStop ((states wireStep start events).map Wires.levels) ∧
    ∀ m ∈ moves wireStep start events, m.2.call? ≠ none →
      ¬IsStart m.1.levels (wireStep m.1 m.2).levels

/-- The call with which the tail of a recovery begins. -/
def pullSda : HwCall :=
  .gpioSetLevel .sda false

/-- The slave holds SDA when the master pulls it low, and lets it go before the rebuild. -/
def HeldAcrossPull (start : Wires) (events : List WireEvent) : Prop :=
  ∃ before after, events = before ++ .call pullSda :: after ∧
    (run wireStep start before).slave = false ∧ (run wireStep start events).slave = true

/-- Whatever the slave does is done when SDA is read for the last time. -/
def ActsWhileClocked (events : List WireEvent) : Prop :=
  ∀ before level after, events = before ++ .slave level :: after →
    ∃ sample, .call (.gpioGetLevel .sda sample) ∈ after

/-! ## The calls of a recovery -/

/-- Up to the last reading of SDA. -/
def releaseCalls (env : RecoverEnv) : List HwCall :=
  let clocking := clockSclUntilReleased env.sda i2cBusRecoveryClocks 0
  [.gpioConfig, .gpioSetLevel .scl true, .gpioSetLevel .sda true] ++ clocking.2 ++
    [.gpioGetLevel .sda (env.sda (clocking.1 + 1))]

theorem filter_onLines_of_readds {w w' : World} (h : LogsOnly (HwCall.ofReadd ·) w w') (n : Nat)
    (hn : n ≤ w.esp.log.length) :
    (w'.esp.log.drop n).filter HwCall.onLines = (w.esp.log.drop n).filter HwCall.onLines := by
  rcases h with ⟨calls, hlog, hkind⟩
  have hnone : calls.filter HwCall.onLines = [] := by
    apply List.filter_eq_nil_iff.2
    intro call hcall
    have hreadd := hkind call hcall
    cases call <;> simp_all [HwCall.ofReadd, HwCall.onLines]
  rw [hlog, List.drop_append_of_le_length hn, List.filter_append, hnone, List.append_nil]

theorem clockScl_onLines (sda : Nat → Bool) (budget k : Nat) :
    ∀ call ∈ (clockSclUntilReleased sda budget k).2, call.onLines = true := by
  induction budget generalizing k with
  | zero =>
      simp [clockSclUntilReleased, HwCall.onLines]
  | succ budget ih =>
      by_cases hk : sda k = true
      · simp [clockSclUntilReleased, hk, HwCall.onLines]
      · simpa [clockSclUntilReleased, hk, HwCall.onLines] using ih (k + 1)

/-- A recovery that gets SDA released makes these calls and no others on the lines. -/
theorem recoveryLineCalls_eq {env : RecoverEnv} (hreleased : env.Released) (w : World) :
    recoveryLineCalls env w =
      releaseCalls env ++ pullSda :: [.gpioSetLevel .scl true, .gpioSetLevel .sda true] := by
  rcases teardown_readds env w with ⟨calls, hlog, hkind⟩
  have hstop : (stopWorld env w).esp.log = (teardown env w).esp.log ++ (releaseCalls env ++
      pullSda :: [.gpioSetLevel .scl true, .gpioSetLevel .sda true]) := by
    simp [stopWorld, lineWorld, releaseCalls, pullSda, World.emit, Esp.emit]
  have hprefix : w.esp.log.length ≤ (teardown env w).esp.log.length := by
    rw [hlog, List.length_append]
    exact Nat.le_add_right _ _
  have hlength : w.esp.log.length ≤ (stopWorld env w).esp.log.length := by
    rw [hstop, List.length_append]
    exact Nat.le_add_right_of_le hprefix
  have htorn : ((teardown env w).esp.log.drop w.esp.log.length).filter HwCall.onLines = [] := by
    rw [filter_onLines_of_readds (teardown_readds env w) _ le_rfl, List.drop_length]
    rfl
  have hall : (releaseCalls env ++ pullSda ::
      [HwCall.gpioSetLevel .scl true, .gpioSetLevel .sda true]).filter HwCall.onLines =
        releaseCalls env ++ pullSda :: [.gpioSetLevel .scl true, .gpioSetLevel .sda true] := by
    apply List.filter_eq_self.2
    intro call hcall
    simp only [releaseCalls, List.mem_append, List.mem_cons, List.not_mem_nil, or_false] at hcall
    rcases hcall with ((hcall | hcall) | rfl) | rfl | rfl | rfl
    · rcases hcall with rfl | rfl | rfl <;> rfl
    · exact clockScl_onLines env.sda i2cBusRecoveryClocks 0 call hcall
    · rfl
    · rfl
    · rfl
    · rfl
  rw [recoveryLineCalls, recover_of_released env w hreleased,
    filter_onLines_of_readds (rebuild_readds env _) _ hlength, hstop,
    List.drop_append_of_le_length hprefix, List.filter_append, htorn, hall, List.nil_append]

/-! ## What the master holds -/

/-- The level a call sets `line` to. -/
def HwCall.sets (line : Line) : HwCall → Option Bool
  | .gpioSetLevel line' level => if line' = line then some level else none
  | _ => none

theorem run_scl (w : Wires) (events : List WireEvent) :
    (run wireStep w events).scl =
      ((events.filterMap WireEvent.call?).filterMap (HwCall.sets .scl)).getLast?.getD w.scl := by
  rw [List.filterMap_filterMap]
  apply @run_field_eq_latest _ _ wireStep _ Wires.scl
  intro w event
  rcases event with (_ | _ | _ | _ | _ | _ | _ | _ | _ | _ | ⟨_ | _, _⟩ | _) | _ <;> rfl

theorem run_master (w : Wires) (events : List WireEvent) :
    (run wireStep w events).master =
      ((events.filterMap WireEvent.call?).filterMap (HwCall.sets .sda)).getLast?.getD w.master := by
  rw [List.filterMap_filterMap]
  apply @run_field_eq_latest _ _ wireStep _ Wires.master
  intro w event
  rcases event with (_ | _ | _ | _ | _ | _ | _ | _ | _ | _ | ⟨_ | _, _⟩ | _) | _ <;> rfl

/-- Clocking leaves SCL high. -/
theorem clockScl_sets_scl (sda : Nat → Bool) (budget k : Nat) :
    ((clockSclUntilReleased sda budget k).2.filterMap (HwCall.sets .scl)).getLast?.getD true =
      true := by
  induction budget generalizing k with
  | zero =>
      rfl
  | succ budget ih =>
      by_cases hk : sda k = true
      · simp [clockSclUntilReleased, hk, HwCall.sets]
      · simpa [clockSclUntilReleased, hk, HwCall.sets, List.getLast?_cons] using ih (k + 1)

/-- Clocking leaves SDA to the slave. -/
theorem clockScl_sets_sda (sda : Nat → Bool) (budget k : Nat) :
    (clockSclUntilReleased sda budget k).2.filterMap (HwCall.sets .sda) = [] := by
  induction budget generalizing k with
  | zero =>
      rfl
  | succ budget ih =>
      by_cases hk : sda k = true
      · simp [clockSclUntilReleased, hk, HwCall.sets]
      · simpa [clockSclUntilReleased, hk, HwCall.sets] using ih (k + 1)

theorem releaseCalls_sets_sda (env : RecoverEnv) :
    (releaseCalls env).filterMap (HwCall.sets .sda) = [true] := by
  simp [releaseCalls, HwCall.sets, List.filterMap_cons, clockScl_sets_sda]

theorem releaseCalls_sets_scl (env : RecoverEnv) :
    ((releaseCalls env).filterMap (HwCall.sets .scl)).getLast? = some true := by
  have hclocking := clockScl_sets_scl env.sda i2cBusRecoveryClocks 0
  simpa [releaseCalls, HwCall.sets, List.filterMap_cons, List.getLast?_cons] using hclocking

/-- The last of them finds SDA high. -/
theorem releaseCalls_eq_append {env : RecoverEnv} (hreleased : env.Released) :
    ∃ calls, releaseCalls env = calls ++ [.gpioGetLevel .sda true] := by
  have hhigh : env.sda ((clockSclUntilReleased env.sda i2cBusRecoveryClocks 0).1 + 1) = true :=
    hreleased
  exact ⟨_, by rw [releaseCalls, hhigh]⟩

theorem pullSda_not_mem_releaseCalls (env : RecoverEnv) : pullSda ∉ releaseCalls env := by
  intro hpull
  have hfalse : false ∈ (releaseCalls env).filterMap (HwCall.sets .sda) :=
    List.mem_filterMap.2 ⟨pullSda, hpull, rfl⟩
  rw [releaseCalls_sets_sda] at hfalse
  exact absurd hfalse (by simp)

/-! ## The pull -/

/-- Of the calls of a run, one is in the place it has among them. -/
theorem split_at_call {events : List WireEvent} {pre post : List HwCall} {c : HwCall}
    (h : events.filterMap WireEvent.call? = pre ++ c :: post) :
    ∃ before after, events = before ++ .call c :: after ∧
      before.filterMap WireEvent.call? = pre ∧ after.filterMap WireEvent.call? = post := by
  rcases List.filterMap_eq_append_iff.1 h with ⟨early, late, rfl, hearly, hlate⟩
  rcases List.filterMap_eq_cons_iff.1 hlate with ⟨quiet, event, after, rfl, hquiet, hevent, hafter⟩
  have hcall : event = .call c := by
    cases event with
    | call c' =>
        exact congrArg WireEvent.call (Option.some.inj hevent)
    | slave level =>
        exact absurd hevent (by simp [WireEvent.call?])
  refine ⟨early ++ quiet, after, by rw [hcall, List.append_assoc], ?_, hafter⟩
  rw [List.filterMap_append, hearly, List.filterMap_eq_nil_iff.2 hquiet, List.append_nil]

/-- A recovery that gets SDA released: what comes before the master pulls SDA low, and what after. -/
structure Pulled (env : RecoverEnv) (events before after : List WireEvent) : Prop where
  split : events = before ++ .call pullSda :: after
  earlier : before.filterMap WireEvent.call? = releaseCalls env
  later : after.filterMap WireEvent.call? = [.gpioSetLevel .scl true, .gpioSetLevel .sda true]

theorem Waveform.pulled {env : RecoverEnv} {w : World} {start : Wires} {events : List WireEvent}
    (h : Waveform env w start events) (hreleased : env.Released) :
    ∃ before after, Pulled env events before after := by
  have hcalls := h.calls
  rw [recoveryLineCalls_eq hreleased] at hcalls
  rcases split_at_call hcalls with ⟨before, after, hsplit, hbefore, hafter⟩
  exact ⟨before, after, hsplit, hbefore, hafter⟩

namespace Pulled

variable {env : RecoverEnv} {start : Wires} {events before after : List WireEvent}

/-- A call before the pull is one of those up to the last reading. -/
theorem call_mem_earlier (h : Pulled env events before after) {c : HwCall}
    (hc : .call c ∈ before) : c ∈ releaseCalls env := by
  rw [← h.earlier]
  exact List.mem_filterMap.2 ⟨.call c, hc, rfl⟩

theorem call_mem_later (h : Pulled env events before after) {c : HwCall} (hc : .call c ∈ after) :
    c = .gpioSetLevel .scl true ∨ c = .gpioSetLevel .sda true := by
  have hmem : c ∈ after.filterMap WireEvent.call? := List.mem_filterMap.2 ⟨.call c, hc, rfl⟩
  rw [h.later] at hmem
  simpa using hmem

theorem not_mem_before (h : Pulled env events before after) : .call pullSda ∉ before :=
  fun hpull => pullSda_not_mem_releaseCalls env (h.call_mem_earlier hpull)

theorem not_mem_after (h : Pulled env events before after) : .call pullSda ∉ after := by
  intro hpull
  rcases h.call_mem_later hpull with hc | hc
  · exact absurd hc (by decide)
  · exact absurd hc (by decide)

/-- The master pulls SDA low once. -/
theorem unique (h : Pulled env events before after) {before' after' : List WireEvent}
    (h' : events = before' ++ .call pullSda :: after') : before' = before ∧ after' = after := by
  have heq : before ++ .call pullSda :: after = before' ++ .call pullSda :: after' :=
    h.split.symm.trans h'
  have hsame := (List.append_cons_inj_of_notMem h.not_mem_before h.not_mem_after).1 heq
  exact ⟨hsame.1.symm, hsame.2.2.symm⟩

/-- When the master pulls SDA low, SCL is high and SDA is up to the slave. -/
theorem lines_before (h : Pulled env events before after) :
    (run wireStep start before).scl = true ∧ (run wireStep start before).master = true := by
  constructor
  · rw [run_scl, h.earlier, releaseCalls_sets_scl]
    rfl
  · rw [run_master, h.earlier, releaseCalls_sets_sda]
    rfl

/-- In the end the master has let go of both lines. -/
theorem lines_end (h : Pulled env events before after) :
    (run wireStep start events).scl = true ∧ (run wireStep start events).master = true := by
  rw [h.split, run_append, run_cons]
  constructor
  · rw [run_scl, h.later]
    rfl
  · rw [run_master, h.later]
    rfl

end Pulled

/-! ## Conditions on the lines -/

/-- No call but the pull makes a START condition. -/
theorem eq_pullSda_of_isStart {w : Wires} {c : HwCall}
    (h : IsStart w.levels (wireStep w (.call c)).levels) : c = pullSda := by
  rcases h with ⟨-, -, hhigh, hlow⟩
  rcases c with _ | _ | _ | _ | _ | _ | _ | _ | _ | _ | ⟨line, level⟩ | _
  case gpioSetLevel =>
    cases line with
    | scl =>
        -- SCL changes, SDA does not
        exact absurd (hhigh.symm.trans hlow) (by simp)
    | sda =>
        cases level with
        | true =>
            simp [Wires.levels, wireStep] at hhigh hlow
            exact absurd (hhigh.2.symm.trans hlow) (by simp)
        | false =>
            rfl
  all_goals exact absurd (hhigh.symm.trans hlow) (by simp)

theorem isStart_pullSda_iff (w : Wires) :
    IsStart w.levels (wireStep w (.call pullSda)).levels ↔
      w.scl = true ∧ w.master = true ∧ w.slave = true := by
  rcases w with ⟨scl, master, slave⟩
  simp [IsStart, Wires.levels, wireStep, pullSda]

theorem mem_of_mem_moves {m : Wires × WireEvent} {start : Wires} {events : List WireEvent}
    (h : m ∈ moves wireStep start events) : m.2 ∈ events :=
  (forall_moves_label_iff start events).2 (fun _ hevent => hevent) m h

namespace Pulled

variable {env : RecoverEnv} {start : Wires} {events before after : List WireEvent}

/-- The master drives no START condition exactly if the slave holds SDA at the pull. -/
theorem no_start_iff (h : Pulled env events before after) :
    (∀ m ∈ moves wireStep start events, m.2.call? ≠ none →
        ¬IsStart m.1.levels (wireStep m.1 m.2).levels) ↔
      (run wireStep start before).slave = false := by
  have hlines : (run wireStep start before).scl = true ∧ (run wireStep start before).master = true :=
    h.lines_before
  constructor
  · intro hnone
    have hpull : (run wireStep start before, .call pullSda) ∈ moves wireStep start events := by
      rw [h.split, moves_append]
      simp
    have hstart := hnone _ hpull (by simp [WireEvent.call?])
    rw [isStart_pullSda_iff] at hstart
    exact Bool.eq_false_iff.2 fun hslave => hstart ⟨hlines.1, hlines.2, hslave⟩
  · rintro hslave m hm hcall hstart
    rcases m with ⟨w, _ | level⟩
    case slave =>
      exact hcall rfl
    case call c =>
      have hc : c = pullSda := eq_pullSda_of_isStart hstart
      subst hc
      rw [h.split, moves_append, List.mem_append, moves_cons, List.mem_cons] at hm
      rcases hm with hm | hm | hm
      · exact h.not_mem_before (mem_of_mem_moves hm)
      · -- the pull itself
        have hw : w = run wireStep start before := congrArg Prod.fst hm
        have hhigh := ((isStart_pullSda_iff w).1 hstart).2.2
        rw [hw, hslave] at hhigh
        exact absurd hhigh (by simp)
      · exact h.not_mem_after (mem_of_mem_moves hm)

/-- From the pull on SCL stays high. -/
theorem scl_high (h : Pulled env events before after) {w : Wires} (hw : w.scl = true) :
    ∀ t ∈ states wireStep w after, t.scl = true := by
  apply @inv_states_of_moves _ _ wireStep (fun t => t.scl = true) w after hw
  rintro ⟨t, event⟩ hm ht
  have hevent := mem_of_mem_moves hm
  cases event with
  | slave level =>
      exact ht
  | call c =>
      rcases h.call_mem_later hevent with rfl | rfl
      · rfl
      · exact ht

/-- The levels end with a STOP condition exactly if the slave has let go of SDA in the end. -/
theorem endsWithStop_iff (h : Pulled env events before after) :
    EndsWithStop ((states wireStep start events).map Wires.levels) ↔
      (run wireStep start events).slave = true := by
  have hend : (run wireStep start events).master = true := h.lines_end.2
  constructor
  · intro hstop
    have hlast : ((states wireStep start events).map Wires.levels).getLast? =
        some (run wireStep start events).levels := by
      rw [List.getLast?_map, getLast?_states]
      rfl
    have hhigh := (hstop.last_high hlast).2
    simp [Wires.levels] at hhigh
    exact hhigh.2
  · intro hslave
    -- the STOP condition is looked for behind the pull, which leaves SDA low
    have hpulled : (wireStep (run wireStep start before) (.call pullSda)).scl = true :=
      h.lines_before.1
    have hscl := h.scl_high hpulled
    have hlast := @getLast?_states _ _ wireStep
      (wireStep (run wireStep start before) (.call pullSda)) after
    rw [← run_cons, ← run_append, ← h.split] at hlast
    rw [h.split, states_append_cons, List.map_append]
    apply EndsWithStop.append_left
    rw [states_eq_cons] at hscl hlast ⊢
    apply endsWithStop_of_rise
    · rfl
    · intro l hl
      rw [← List.map_cons] at hl
      rcases List.mem_map.1 hl with ⟨t, ht, rfl⟩
      exact hscl t ht
    · intro last hl
      rw [← List.map_cons, List.getLast?_map, hlast] at hl
      cases hl
      simp [Wires.levels, hend, hslave]

/-- From the pull on SDA is not read. -/
theorem not_mem_reading (h : Pulled env events before after) (sample : Bool) :
    .call (.gpioGetLevel .sda sample) ∉ WireEvent.call pullSda :: after := by
  intro hreading
  rcases List.mem_cons.1 hreading with hreading | hreading
  · exact absurd hreading (by simp [pullSda])
  · rcases h.call_mem_later hreading with hc | hc
    · exact absurd hc (by simp)
    · exact absurd hc (by simp)

/-- A slave that is done at the last reading makes no move between it and the pull. -/
theorem quiet_eq_nil (h : Pulled env events before after) (hacts : ActsWhileClocked events)
    {early quiet : List WireEvent} {sample : Bool}
    (hbefore : before = early ++ .call (.gpioGetLevel .sda sample) :: quiet)
    (hquiet : quiet.filterMap WireEvent.call? = []) : quiet = [] := by
  have hcalls := List.filterMap_eq_nil_iff.1 hquiet
  apply List.eq_nil_iff_forall_not_mem.2
  intro event hevent
  cases event with
  | call c =>
      exact absurd (hcalls _ hevent) (by simp [WireEvent.call?])
  | slave level =>
      rcases List.append_of_mem hevent with ⟨q₁, q₂, hq⟩
      have hsplit : events = (early ++ .call (.gpioGetLevel .sda sample) :: q₁) ++
          .slave level :: (q₂ ++ .call pullSda :: after) := by
        rw [h.split, hbefore, hq]
        simp
      -- no reading is left for it to come before
      rcases hacts _ level _ hsplit with ⟨later, hlater⟩
      rcases List.mem_append.1 hlater with hlater | hlater
      · have hmem : WireEvent.call (.gpioGetLevel .sda later) ∈ quiet := by
          rw [hq]
          exact List.mem_append_right _ (List.mem_cons_of_mem _ hlater)
        exact absurd (hcalls _ hmem) (by simp [WireEvent.call?])
      · exact absurd hlater (h.not_mem_reading later)

/-- The last reading finds SDA high, so such a slave does not hold SDA at the pull. -/
theorem slave_high_of_acts (h : Pulled env events before after) {w : World}
    (hwave : Waveform env w start events) (hreleased : env.Released)
    (hacts : ActsWhileClocked events) : (run wireStep start before).slave = true := by
  rcases releaseCalls_eq_append hreleased with ⟨calls, hcalls⟩
  rcases split_at_call (h.earlier.trans hcalls) with ⟨early, quiet, hbefore, -, hquiet⟩
  have hreading : (run wireStep start early, .call (.gpioGetLevel .sda true)) ∈
      moves wireStep start events := by
    rw [h.split, hbefore, moves_append, moves_append]
    simp
  have hlevel : true = (run wireStep start early).levels.sda :=
    hwave.samples _ hreading true rfl
  simp [Wires.levels] at hlevel
  rw [hbefore, h.quiet_eq_nil hacts hbefore hquiet, run_append]
  exact hlevel.2

end Pulled

/-- A recovery that gets SDA released ends with a STOP condition and no START condition of the master
exactly if the slave has SDA again when the master pulls it low, and lets it go before the rebuild. A
slave that acts only while SCL is clocked does not. -/
theorem stopsCleanly_iff_heldAcrossPull {env : RecoverEnv} {w : World} {start : Wires}
    {events : List WireEvent} (h : Waveform env w start events) (hreleased : env.Released) :
    (StopsCleanly start events ↔ HeldAcrossPull start events) ∧
      (ActsWhileClocked events → ¬StopsCleanly start events) := by
  rcases h.pulled hreleased with ⟨before, after, hpull⟩
  have hstop := @Pulled.endsWithStop_iff _ start _ _ _ hpull
  have hstart := @Pulled.no_start_iff _ start _ _ _ hpull
  refine ⟨⟨?_, ?_⟩, ?_⟩
  · rintro ⟨hends, hnone⟩
    exact ⟨before, after, hpull.split, hstart.1 hnone, hstop.1 hends⟩
  · rintro ⟨before', after', hsplit, hheld, hlet⟩
    rw [(hpull.unique hsplit).1] at hheld
    exact ⟨hstop.2 hlet, hstart.2 hheld⟩
  · rintro hacts ⟨-, hnone⟩
    have hheld := hstart.1 hnone
    rw [hpull.slave_high_of_acts h hreleased hacts] at hheld
    exact absurd hheld (by simp)

/-- A bus as `i2c_bus_init` leaves it. -/
def initialisedBus : World :=
  (i2cBusInit (some ()) (some ⟨18, 19, 0⟩) ⟨true, espOk⟩ World.initial).2

/-- SDA is read low twice, then it is high. -/
def releasedByTwoClocks : RecoverEnv :=
  ⟨espOk, fun k => decide (2 ≤ k), espOk, fun _ => espOk, espOk⟩

def beforeRelease : List WireEvent :=
  [.call .gpioConfig, .call (.gpioSetLevel .scl true), .call (.gpioSetLevel .sda true),
    .call (.gpioGetLevel .sda false), .call (.gpioSetLevel .scl false),
    .call (.gpioSetLevel .scl true), .call (.gpioGetLevel .sda false),
    .call (.gpioSetLevel .scl false)]

def afterRelease : List WireEvent :=
  [.call (.gpioSetLevel .scl true), .call (.gpioGetLevel .sda true),
    .call (.gpioGetLevel .sda true), .call pullSda, .call (.gpioSetLevel .scl true),
    .call (.gpioSetLevel .sda true)]

/-- The slave lets go of SDA while SCL is low in the second clock. -/
def releaseInSecondClock : List WireEvent :=
  beforeRelease ++ .slave true :: afterRelease

theorem releaseInSecondClock_waveform :
    Waveform releasedByTwoClocks initialisedBus ⟨true, true, false⟩ releaseInSecondClock :=
  ⟨by decide, by decide⟩

theorem releaseInSecondClock_acts : ActsWhileClocked releaseInSecondClock := by
  intro before level after hsplit
  have hlevel : level = true := by
    have hmem : WireEvent.slave level ∈ releaseInSecondClock := by
      rw [hsplit]
      simp
    revert hmem
    cases level <;> decide
  subst hlevel
  have hsame := (List.append_cons_inj_of_notMem (by decide) (by decide)).1 hsplit
  rw [← hsame.2.2]
  exact ⟨true, by decide⟩

theorem stopsCleanly_iff_heldAcrossPull_second :
    (StopsCleanly ⟨true, true, false⟩ releaseInSecondClock ↔
        HeldAcrossPull ⟨true, true, false⟩ releaseInSecondClock) ∧
      (ActsWhileClocked releaseInSecondClock →
        ¬StopsCleanly ⟨true, true, false⟩ releaseInSecondClock) :=
  stopsCleanly_iff_heldAcrossPull releaseInSecondClock_waveform rfl

/-- The slave lets go in the second clock, and the master then pulls SDA low under a high SCL. -/
theorem stop_begins_with_start :
    Waveform releasedByTwoClocks initialisedBus ⟨true, true, false⟩ releaseInSecondClock ∧
      releasedByTwoClocks.Released ∧ ActsWhileClocked releaseInSecondClock ∧
      ¬StopsCleanly ⟨true, true, false⟩ releaseInSecondClock := by
  refine ⟨releaseInSecondClock_waveform, rfl, releaseInSecondClock_acts, ?_⟩
  rintro ⟨-, hnone⟩
  exact hnone (⟨true, true, true⟩, .call pullSda) (by decide) (by decide) (by decide)

end MainboardFirmware
