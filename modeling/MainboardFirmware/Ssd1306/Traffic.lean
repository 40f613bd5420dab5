import MainboardFirmware.Bus.Lifecycle
import MainboardFirmware.Library.Machine

/-!
# Traffic — where the writes of the display driver go

The driver keeps one bus, one device, one width and one flag. `ssd1306_init_hw` overwrites the first
three before anything can fail, does not clear the flag first, and sets it before the last of its
writes. So a failed init can leave an earlier flag standing over a mixture of old and new values, or
its own flag over a panel that was not cleared.

We provide:

* `init_early` and `init_late`: what `init` returns and what it leaves behind, from the answers of the
  bus alone;
* `Sends`: the writes of an operation, with where they go and what data they carry;
* `display_state_matches_init_iff`: over whole runs, when the driver follows its last `init`.
-/

namespace MainboardFirmware

open Machine

variable {β η : Type}

/-! ## A bus that keeps its traffic -/

/-- A write: the bus and the device it goes to, and its bytes. -/
structure Message (β η : Type) where
  bus : Option β
  dev : Option η
  data : List UInt8
  deriving DecidableEq

/-- What the bus functions answer during one call of the driver: what the registration returns and
leaves in the handle, and the result of each write. -/
structure DisplayAnswers (η : Type) where
  addDevice : EspErr × Option η
  write : Nat → EspErr

/-- The writes of the current call are counted, the messages are never forgotten. -/
structure TrafficBus (β η : Type) where
  answers : DisplayAnswers η
  writes : Nat
  log : List (Message β η)

def trafficApi : I2cBusApi β η (TrafficBus β η) where
  addDevice _ _ _ _ _ s := (s.answers.addDevice.1, s.answers.addDevice.2, s)
  write bus dev data s :=
    (s.answers.write s.writes, ⟨s.answers, s.writes + 1, s.log ++ [⟨bus, dev, data⟩]⟩)
  writeRead bus dev wrData _ s :=
    (s.answers.write s.writes, [], ⟨s.answers, s.writes + 1, s.log ++ [⟨bus, dev, wrData⟩]⟩)

abbrev TrafficWorld (β η : Type) := Ssd1306World β η (TrafficBus β η)

/-- A driver state at the start of a call. -/
def TrafficWorld.begin (dev : Ssd1306 β η) (answers : DisplayAnswers η) (log : List (Message β η)) :
    TrafficWorld β η :=
  ⟨dev, answers, 0, log⟩

/-! ## Calls -/

/-- A call of the display contract. -/
inductive DisplayCall (β : Type)
  | init (cfg : Option (DisplayConfig β))
  | clear
  | showText (row : UInt8) (text : Option CString)
  | setBrightness (level : UInt8)
  | deinit

/-- The return code (none for `deinit`) and the state after the call. -/
def DisplayCall.exec (call : DisplayCall β) (w : TrafficWorld β η) :
    Except Ssd1306Fault (Option EspErr × TrafficWorld β η) :=
  match call with
  | .init cfg =>
      let (ret, w) := ssd1306Init trafficApi cfg w
      .ok (some ret, w)
  | .clear =>
      let (ret, w) := ssd1306Clear trafficApi w
      .ok (some ret, w)
  | .showText row text =>
      match ssd1306ShowText trafficApi row text w with
      | .error fault => .error fault
      | .ok (ret, w) => .ok (some ret, w)
  | .setBrightness level =>
      let (ret, w) := ssd1306SetBrightness trafficApi level w
      .ok (some ret, w)
  | .deinit => .ok (none, ssd1306Deinit trafficApi w)

/-- The operations that return `ESP_FAIL` on a driver that is not initialised. -/
def DisplayCall.Guarded : DisplayCall β → Prop
  | .clear | .showText _ _ | .setBrightness _ => True
  | .init _ | .deinit => False

/-- The data that a call writes to a panel of the given width, after its control byte. -/
def DisplayCall.payload (width : UInt16) : DisplayCall β → List UInt8
  | .showText _ (some text) => renderedText text (ssd1306MaxChars width)
  | _ => List.replicate 128 0x00

/-! ## What is sent -/

/-- Every message is for this device on this bus, and a data message carries this payload. -/
def Addresses (bus : Option β) (dev : Option η) (payload : List UInt8) (m : Message β η) : Prop :=
  m.bus = bus ∧ m.dev = dev ∧ (m.data.head? = some 0x40 → m.data = 0x40 :: payload)

/-- From `w` to `w'` messages were sent to the device that `w` holds, and nothing else has changed but
the number of writes. -/
structure Sends (payload : List UInt8) (w w' : TrafficWorld β η) : Prop where
  dev_eq : w'.dev = w.dev
  answers_eq : w'.bus.answers = w.bus.answers
  log_eq : ∃ sent, w'.bus.log = w.bus.log ++ sent ∧
    ∀ m ∈ sent, Addresses w.dev.i2cBus w.dev.devHandle payload m

namespace Sends

variable {payload : List UInt8} {w w₁ w₂ : TrafficWorld β η}

theorem refl (w : TrafficWorld β η) : Sends payload w w :=
  ⟨rfl, rfl, [], by simp, by simp⟩

theorem trans (h₁ : Sends payload w w₁) (h₂ : Sends payload w₁ w₂) : Sends payload w w₂ := by
  rcases h₁.log_eq with ⟨sent₁, hlog₁, hto₁⟩
  rcases h₂.log_eq with ⟨sent₂, hlog₂, hto₂⟩
  refine ⟨h₂.dev_eq.trans h₁.dev_eq, h₂.answers_eq.trans h₁.answers_eq, sent₁ ++ sent₂, ?_, ?_⟩
  · rw [hlog₂, hlog₁, List.append_assoc]
  · intro m hm
    rcases List.mem_append.1 hm with hfirst | hsecond
    · exact hto₁ m hfirst
    · have hto := hto₂ m hsecond
      rwa [h₁.dev_eq] at hto

end Sends

section Sending

variable (payload : List UInt8)

theorem sendCmd_sends (cmd : UInt8) (w : TrafficWorld β η) :
    Sends payload w (ssd1306SendCmd trafficApi cmd w).2 := by
  refine ⟨rfl, rfl, [⟨w.dev.i2cBus, w.dev.devHandle, [0x00, cmd]⟩], rfl, ?_⟩
  intro m hm
  rw [List.mem_singleton.1 hm]
  exact ⟨rfl, rfl, fun h => absurd h (by simp)⟩

theorem sendData_sends (w : TrafficWorld β η) :
    Sends payload w (ssd1306SendData trafficApi (0x40 :: payload) w).2 := by
  refine ⟨rfl, rfl, [⟨w.dev.i2cBus, w.dev.devHandle, 0x40 :: payload⟩], rfl, ?_⟩
  intro m hm
  rw [List.mem_singleton.1 hm]
  exact ⟨rfl, rfl, fun _ => rfl⟩

theorem address_sends (page : UInt8) (w : TrafficWorld β η) :
    Sends payload w (ssd1306Address trafficApi page w) :=
  (sendCmd_sends _ _ w).trans ((sendCmd_sends _ _ _).trans (sendCmd_sends _ _ _))

/-- A command sequence succeeds exactly if every one of its writes does; then all were sent. -/
theorem sendCmds_sends (cmds : List UInt8) (w : TrafficWorld β η) :
    Sends payload w (ssd1306SendCmds trafficApi cmds w).2 ∧
      ((ssd1306SendCmds trafficApi cmds w).1 = espOk ↔
        ∀ k < cmds.length, w.bus.answers.write (w.bus.writes + k) = espOk) ∧
      ((ssd1306SendCmds trafficApi cmds w).1 = espOk →
        (ssd1306SendCmds trafficApi cmds w).2.bus.writes = w.bus.writes + cmds.length) := by
  induction cmds generalizing w with
  | nil =>
      exact ⟨Sends.refl w, by simp [ssd1306SendCmds], fun _ => rfl⟩
  | cons cmd cmds ih =>
      have hcmd := sendCmd_sends payload cmd w
      rcases ih (ssd1306SendCmd trafficApi cmd w).2 with ⟨hrest, hok, hwrites⟩
      have hanswer : (ssd1306SendCmd trafficApi cmd w).1 = w.bus.answers.write w.bus.writes := rfl
      have hnext : (ssd1306SendCmd trafficApi cmd w).2.bus.writes = w.bus.writes + 1 := rfl
      -- the rest of the sequence sees the same answers, from the next write on
      rw [hcmd.answers_eq, hnext] at hok
      rw [hnext] at hwrites
      have hall : (∀ k < (cmd :: cmds).length, w.bus.answers.write (w.bus.writes + k) = espOk) ↔
          w.bus.answers.write w.bus.writes = espOk ∧
            ∀ k < cmds.length, w.bus.answers.write (w.bus.writes + 1 + k) = espOk := by
        rw [List.length_cons, Nat.forall_lt_succ_left]
        simp only [Nat.add_zero, Nat.add_assoc, Nat.add_comm 1]
      rw [hall]
      by_cases hret : w.bus.answers.write w.bus.writes = espOk
      · have heq : ssd1306SendCmds trafficApi (cmd :: cmds) w =
            ssd1306SendCmds trafficApi cmds (ssd1306SendCmd trafficApi cmd w).2 := by
          simp [ssd1306SendCmds, hanswer, hret]
        rw [heq, List.length_cons, ← Nat.add_assoc, Nat.add_right_comm]
        exact ⟨hcmd.trans hrest, ⟨fun h => ⟨hret, hok.1 h⟩, fun h => hok.2 h.2⟩, hwrites⟩
      · have heq : ssd1306SendCmds trafficApi (cmd :: cmds) w = ssd1306SendCmd trafficApi cmd w := by
          simp only [ssd1306SendCmds, hanswer, ne_eq, hret, not_false_eq_true, if_true]
          rw [← hanswer]
        rw [heq, hanswer]
        exact ⟨hcmd, ⟨fun h => absurd h hret, fun h => h.1⟩, fun h => absurd h hret⟩

/-- Clearing looks at every fourth write only. -/
theorem clearPages_sends (n : Nat) (page : UInt8) (w : TrafficWorld β η) :
    Sends (List.replicate 128 0x00) w (ssd1306ClearPages trafficApi n page w).2 ∧
      ((ssd1306ClearPages trafficApi n page w).1 = espOk ↔
        ∀ k < n, w.bus.answers.write (w.bus.writes + (4 * k + 3)) = espOk) := by
  induction n generalizing page w with
  | zero =>
      exact ⟨Sends.refl w, by simp [ssd1306ClearPages]⟩
  | succ n ih =>
      -- a page is three commands, whose results nothing looks at, and the data write
      have haddress := address_sends (List.replicate 128 0x00) page w
      have hdata := sendData_sends (List.replicate 128 0x00) (ssd1306Address trafficApi page w)
      generalize hw₁ : ssd1306Address trafficApi page w = w₁ at haddress hdata
      have hwrites : w₁.bus.writes = w.bus.writes + 3 := by
        rw [← hw₁]
        rfl
      rcases ih (page + 1) (ssd1306SendData trafficApi (0x40 :: List.replicate 128 0x00) w₁).2 with
        ⟨hrest, hok⟩
      have hanswer : (ssd1306SendData trafficApi (0x40 :: List.replicate 128 0x00) w₁).1 =
          w.bus.answers.write (w.bus.writes + 3) := by
        rw [← haddress.answers_eq, ← hwrites]
        rfl
      have hnext : (ssd1306SendData trafficApi (0x40 :: List.replicate 128 0x00) w₁).2.bus.writes =
          w.bus.writes + 4 := by
        show w₁.bus.writes + 1 = w.bus.writes + 4
        rw [hwrites]
      rw [hdata.answers_eq, haddress.answers_eq, hnext] at hok
      have hall : (∀ k < n + 1, w.bus.answers.write (w.bus.writes + (4 * k + 3)) = espOk) ↔
          w.bus.answers.write (w.bus.writes + 3) = espOk ∧
            ∀ k < n, w.bus.answers.write (w.bus.writes + 4 + (4 * k + 3)) = espOk := by
        rw [Nat.forall_lt_succ_left]
        have hshift : ∀ k, w.bus.writes + (4 * (k + 1) + 3) = w.bus.writes + 4 + (4 * k + 3) := by
          intro k
          omega
        simp only [hshift, Nat.mul_zero, Nat.zero_add]
      rw [hall]
      by_cases hret : w.bus.answers.write (w.bus.writes + 3) = espOk
      · have heq : ssd1306ClearPages trafficApi (n + 1) page w = ssd1306ClearPages trafficApi n
            (page + 1) (ssd1306SendData trafficApi (0x40 :: List.replicate 128 0x00) w₁).2 := by
          simp only [ssd1306ClearPages, hw₁, hanswer, hret, ne_eq, not_true_eq_false, if_false]
        rw [heq]
        exact ⟨haddress.trans (hdata.trans hrest), ⟨fun h => ⟨hret, hok.1 h⟩, fun h => hok.2 h.2⟩⟩
      · have heq : ssd1306ClearPages trafficApi (n + 1) page w =
            ssd1306SendData trafficApi (0x40 :: List.replicate 128 0x00) w₁ := by
          simp only [ssd1306ClearPages, hw₁, hanswer, ne_eq, hret, not_false_eq_true, if_true]
          rw [← hanswer]
        rw [heq, hanswer]
        exact ⟨haddress.trans hdata, ⟨fun h => absurd h hret, fun h => h.1⟩⟩

end Sending

/-! ## `init` -/

section Init

variable (dev : Ssd1306 β η) (answers : DisplayAnswers η) (log : List (Message β η))

/-- The arguments are rejected, or the device, or one of the commands. -/
def FailsEarly (cfg : Option (DisplayConfig β)) (answers : DisplayAnswers η) : Prop :=
  (∀ c, cfg = some c → c.bus = none) ∨ answers.addDevice.1 ≠ espOk ∨
    ∃ k < ssd1306InitCmds.length, answers.write k ≠ espOk

/-- All eight pages of the clear at the end of `init` get through. -/
def ClearsPages (answers : DisplayAnswers η) : Prop :=
  ∀ k < 8, answers.write (ssd1306InitCmds.length + (4 * k + 3)) = espOk

/-- What the driver holds when `init` sets the flag. -/
def Ssd1306.initialised (c : DisplayConfig β) (answers : DisplayAnswers η) : Ssd1306 β η :=
  ⟨c.bus, answers.addDevice.2, c.width, c.height, true⟩

/-- What it holds when the commands begin: the flag is still the old one. -/
def Ssd1306.registered (dev : Ssd1306 β η) (c : DisplayConfig β) (answers : DisplayAnswers η) :
    Ssd1306 β η :=
  { Ssd1306.initialised c answers with isInitialized := dev.isInitialized }

/-- `init` for a configuration with a bus. -/
theorem display_init_accepted {c : DisplayConfig β} (hbus : c.bus ≠ none) :
    let w₁ := TrafficWorld.begin (dev.registered c answers) answers log
    let res := ssd1306SendCmds trafficApi ssd1306InitCmds w₁
    ssd1306Init trafficApi (some c) (TrafficWorld.begin dev answers log) =
      if answers.addDevice.1 ≠ espOk then (answers.addDevice.1, w₁)
      else if res.1 ≠ espOk then res
      else ssd1306Clear trafficApi ⟨{ res.2.dev with isInitialized := true }, res.2.bus⟩ := by
  rcases Option.ne_none_iff_exists'.1 hbus with ⟨b, hb⟩
  exact @ssd1306Init_eq β η _ trafficApi (TrafficWorld.begin dev answers log) b c hb
    answers.addDevice.1 answers.addDevice.2 ⟨answers, 0, log⟩ rfl

/-- The commands change nothing the driver holds, and if all get through so many writes were made. -/
theorem initCmds_from_begin :
    let res := ssd1306SendCmds trafficApi ssd1306InitCmds (TrafficWorld.begin dev answers log)
    res.2.dev = dev ∧ res.2.bus.answers = answers ∧
      (res.1 = espOk ↔ ∀ k < ssd1306InitCmds.length, answers.write k = espOk) ∧
      (res.1 = espOk → res.2.bus.writes = ssd1306InitCmds.length) := by
  rcases sendCmds_sends [] ssd1306InitCmds (TrafficWorld.begin dev answers log) with
    ⟨hsends, hok, hwrites⟩
  simp only [TrafficWorld.begin, Nat.zero_add] at hok hwrites
  exact ⟨hsends.dev_eq, hsends.answers_eq, hok, hwrites⟩

/-- An `init` that fails early leaves the flag as it was. -/
theorem init_early {cfg : Option (DisplayConfig β)} (h : FailsEarly cfg answers) :
    (ssd1306Init trafficApi cfg (TrafficWorld.begin dev answers log)).1 ≠ espOk ∧
      (ssd1306Init trafficApi cfg (TrafficWorld.begin dev answers log)).2.dev.isInitialized =
        dev.isInitialized := by
  by_cases hrejected : ∀ c, cfg = some c → c.bus = none
  · cases cfg with
    | none =>
        exact ⟨espErrInvalidArg_ne_ok, rfl⟩
    | some c =>
        have hnone : c.bus = none := hrejected c rfl
        simp [ssd1306Init, hnone, TrafficWorld.begin]
  · simp only [not_forall] at hrejected
    rcases hrejected with ⟨c, rfl, hbus⟩
    have heq := display_init_accepted dev answers log hbus
    dsimp only at heq
    rw [heq]
    by_cases hadd : answers.addDevice.1 = espOk
    · -- the device was taken, so it is one of the commands that fails
      rcases initCmds_from_begin (dev.registered c answers) answers log with ⟨hdev, _, hok, _⟩
      have hfail : ¬∀ k < ssd1306InitCmds.length, answers.write k = espOk := by
        intro hall
        rcases h with hrej | hrefused | ⟨k, hk, hcmd⟩
        · exact hbus (hrej c rfl)
        · exact hrefused hadd
        · exact hcmd (hall k hk)
      rw [← hok] at hfail
      rw [if_neg (not_not.2 hadd), if_pos hfail, hdev]
      exact ⟨hfail, rfl⟩
    · rw [if_pos hadd]
      exact ⟨hadd, rfl⟩

/-- Any other `init` sets the flag, and succeeds exactly if the panel is cleared. -/
theorem init_late {cfg : Option (DisplayConfig β)} (h : ¬FailsEarly cfg answers) :
    ∃ c, cfg = some c ∧
      ((ssd1306Init trafficApi cfg (TrafficWorld.begin dev answers log)).1 = espOk ↔
        ClearsPages answers) ∧
      (ssd1306Init trafficApi cfg (TrafficWorld.begin dev answers log)).2.dev =
        Ssd1306.initialised c answers := by
  simp only [FailsEarly, not_or, not_forall, not_exists, not_and, not_not] at h
  rcases h with ⟨⟨c, rfl, hbus⟩, hadd, hcmds⟩
  refine ⟨c, rfl, ?_⟩
  rcases initCmds_from_begin (dev.registered c answers) answers log with
    ⟨hdev, hanswers, hok, hwrites⟩
  have hsent := hok.2 hcmds
  have hcount := hwrites hsent
  have heq := display_init_accepted dev answers log hbus
  dsimp only at heq
  rw [if_neg (not_not.2 hadd), if_neg (not_not.2 hsent), hdev] at heq
  rw [heq]
  -- from here on the flag is set
  generalize (ssd1306SendCmds trafficApi ssd1306InitCmds
    (TrafficWorld.begin (dev.registered c answers) answers log)).2.bus = bus at hanswers hcount
  have hclear : ssd1306Clear trafficApi ⟨Ssd1306.initialised c answers, bus⟩ =
      ssd1306ClearPages trafficApi 8 0 ⟨Ssd1306.initialised c answers, bus⟩ := by
    simp [ssd1306Clear, Ssd1306.initialised]
  rcases clearPages_sends 8 0 (⟨Ssd1306.initialised c answers, bus⟩ : TrafficWorld β η) with
    ⟨hpages, hpagesOk⟩
  have hflag : ({ dev.registered c answers with isInitialized := true } : Ssd1306 β η) =
      Ssd1306.initialised c answers := rfl
  rw [hflag, hclear, hpagesOk, hpages.dev_eq, hanswers, hcount]
  exact ⟨Iff.rfl, rfl⟩

end Init

/-! ## The other operations -/

/-- Whatever call it is, a driver that is not initialised sends nothing. -/
theorem exec_down {w : TrafficWorld β η} (hdown : w.dev.isInitialized = false)
    {call : DisplayCall β} (hcall : ∀ cfg, call ≠ .init cfg) :
    ∃ ret, call.exec w = .ok (ret, w) ∧ (call.Guarded → ret = some espFail) := by
  cases call with
  | init cfg =>
      exact absurd rfl (hcall cfg)
  | clear =>
      exact ⟨some espFail, by simp [DisplayCall.exec, ssd1306Clear, hdown], fun _ => rfl⟩
  | showText row text =>
      refine ⟨some espFail, ?_, fun _ => rfl⟩
      cases text <;> simp [DisplayCall.exec, ssd1306ShowText, hdown]
  | setBrightness level =>
      exact ⟨some espFail, by simp [DisplayCall.exec, ssd1306SetBrightness, hdown], fun _ => rfl⟩
  | deinit =>
      exact ⟨none, by simp [DisplayCall.exec, ssd1306Deinit, hdown], fun h => h.elim⟩

/-- A driver that is initialised does not refuse to clear the panel. -/
theorem clear_up {dev : Ssd1306 β η} (hup : dev.isInitialized = true)
    (log : List (Message β η)) :
    (ssd1306Clear trafficApi (TrafficWorld.begin dev ⟨(espOk, none), fun _ => espOk⟩ log)).1 =
      espOk := by
  have hclear : ssd1306Clear trafficApi
      (TrafficWorld.begin dev ⟨(espOk, none), fun _ => espOk⟩ log) =
        ssd1306ClearPages trafficApi 8 0
          (TrafficWorld.begin dev ⟨(espOk, none), fun _ => espOk⟩ log) := by
    simp [ssd1306Clear, TrafficWorld.begin, hup]
  rw [hclear]
  exact (clearPages_sends 8 0 _).2.2 fun _ _ => rfl

theorem clear_sends (w : TrafficWorld β η) :
    Sends (List.replicate 128 0x00) w (ssd1306Clear trafficApi w).2 := by
  unfold ssd1306Clear
  split
  · exact Sends.refl w
  · exact (clearPages_sends 8 0 w).1

theorem setBrightness_sends (payload : List UInt8) (level : UInt8) (w : TrafficWorld β η) :
    Sends payload w (ssd1306SetBrightness trafficApi level w).2 := by
  have hfirst := sendCmd_sends payload 0x81 w
  unfold ssd1306SetBrightness
  split
  · exact Sends.refl w
  · dsimp only
    -- the level follows only if the command got through
    split
    · exact hfirst.trans (sendCmd_sends payload level _)
    · exact hfirst

theorem showText_sends {row : UInt8} {text : Option CString} {w w' : TrafficWorld β η}
    {ret : EspErr} (h : ssd1306ShowText trafficApi row text w = .ok (ret, w')) :
    Sends ((DisplayCall.showText row text : DisplayCall β).payload w.dev.scrWidth) w w' := by
  cases text with
  | none =>
      cases h
      exact Sends.refl w
  | some text =>
      have haddress := address_sends (renderedText text (ssd1306MaxChars w.dev.scrWidth)) row w
      simp only [ssd1306ShowText, haddress.dev_eq] at h
      -- not initialised, and a row that the panel does not have
      split at h
      · cases h
        exact Sends.refl w
      split at h
      · cases h
        exact Sends.refl w
      cases hrender : renderText text (ssd1306MaxChars w.dev.scrWidth) 0 [0x40] with
      | error fault =>
          rw [hrender] at h
          cases h
      | ok stream =>
          have hstream : stream = 0x40 :: renderedText text (ssd1306MaxChars w.dev.scrWidth) := by
            rw [(renderText_ok hrender).1, renderedText, List.range_eq_range']
            rfl
          simp only [hrender, Except.ok.injEq] at h
          have hw' : (ssd1306SendData trafficApi stream (ssd1306Address trafficApi row w)).2 = w' :=
            congrArg Prod.snd h
          rw [← hw', hstream]
          exact haddress.trans (sendData_sends _ _)

/-- Every call but `init` sends to the device the driver holds, in its width, and then the driver
either holds it still or is not initialised. -/
theorem exec_sends {w w' : TrafficWorld β η} {call : DisplayCall β}
    (hcall : ∀ cfg, call ≠ .init cfg) {ret : Option EspErr} (hexec : call.exec w = .ok (ret, w')) :
    (∃ sent, w'.bus.log = w.bus.log ++ sent ∧
      ∀ m ∈ sent, Addresses w.dev.i2cBus w.dev.devHandle (call.payload w.dev.scrWidth) m) ∧
      (w'.dev = w.dev ∨ w'.dev.isInitialized = false) := by
  cases call with
  | init cfg =>
      exact absurd rfl (hcall cfg)
  | clear =>
      cases hexec
      have hsends := clear_sends w
      exact ⟨hsends.log_eq, Or.inl hsends.dev_eq⟩
  | showText row text =>
      cases hshow : ssd1306ShowText trafficApi row text w with
      | error fault =>
          simp [DisplayCall.exec, hshow] at hexec
      | ok res =>
          simp only [DisplayCall.exec, hshow, Except.ok.injEq] at hexec
          cases hexec
          have hsends := showText_sends hshow
          exact ⟨hsends.log_eq, Or.inl hsends.dev_eq⟩
  | setBrightness level =>
      cases hexec
      have hsends := setBrightness_sends (List.replicate 128 0x00) level w
      exact ⟨hsends.log_eq, Or.inl hsends.dev_eq⟩
  | deinit =>
      cases hexec
      have hoff := sendCmd_sends (List.replicate 128 0x00) 0xAE w
      cases hready : w.dev.isInitialized with
      | false =>
          have heq : ssd1306Deinit trafficApi w = w := by
            simp [ssd1306Deinit, hready]
          rw [heq]
          exact ⟨(Sends.refl w).log_eq, Or.inl rfl⟩
      | true =>
          -- the display-off command still goes to the device that is given up
          have heq : (ssd1306Deinit trafficApi w).bus = (ssd1306SendCmd trafficApi 0xAE w).2.bus ∧
              (ssd1306Deinit trafficApi w).dev.isInitialized = false := by
            simp [ssd1306Deinit, hready]
          rw [heq.1]
          exact ⟨hoff.log_eq, Or.inr heq.2⟩

/-! ## Runs -/

/-- How the last `init` ended; of a successful one the bus, the device it registered and the width. -/
inductive LastInit (β η : Type)
  | never
  | failed
  | ok (bus : Option β) (dev : Option η) (width : UInt16)

/-- The driver, all messages so far, and how the last `init` ended. -/
structure DisplayState (β η : Type) where
  dev : Ssd1306 β η
  log : List (Message β η)
  last : LastInit β η

/-- The driver as it is linked. -/
def DisplayState.start : DisplayState β η :=
  ⟨Ssd1306.static, [], .never⟩

/-- A call, and what the bus answers during it. -/
structure DisplayMove (β η : Type) where
  call : DisplayCall β
  answers : DisplayAnswers η

/-- What a call makes of the last `init`. -/
def LastInit.next (last : LastInit β η) (m : DisplayMove β η) (ret : Option EspErr) :
    LastInit β η :=
  match m.call with
  | .init (some cfg) =>
      if ret = some espOk then .ok cfg.bus m.answers.addDevice.2 cfg.width else .failed
  | .init none => .failed
  | _ => last

/-- An undefined call leaves the state as it is here. -/
def displayStep (s : DisplayState β η) (m : DisplayMove β η) : DisplayState β η :=
  match m.call.exec (TrafficWorld.begin s.dev m.answers s.log) with
  | .error _ => s
  | .ok (ret, w) => ⟨w.dev, w.bus.log, s.last.next m ret⟩

/-- `clear`, `show_text` and `set_brightness` return `ESP_FAIL` and send nothing. -/
def Refuses (s : DisplayState β η) : Prop :=
  ∀ call : DisplayCall β, call.Guarded → ∀ answers,
    call.exec (TrafficWorld.begin s.dev answers s.log) =
      .ok (some espFail, TrafficWorld.begin s.dev answers s.log)

/-- Every call but `init` sends to this bus and this device only, in this width. -/
def SendsOnlyTo (s : DisplayState β η) (bus : Option β) (dev : Option η) (width : UInt16) : Prop :=
  ∀ call : DisplayCall β, (∀ cfg, call ≠ .init cfg) → ∀ answers ret w',
    call.exec (TrafficWorld.begin s.dev answers s.log) = .ok (ret, w') →
      ∃ sent, w'.bus.log = s.log ++ sent ∧ ∀ m ∈ sent, Addresses bus dev (call.payload width) m

/-- The driver does what its last `init` asks for. -/
def FollowsInit (s : DisplayState β η) : Prop :=
  match s.last with
  | .never => True
  | .failed => Refuses s
  | .ok bus dev width => SendsOnlyTo s bus dev width

/-- An `init` that fails before the flag finds it clear, and any other clears the whole panel. -/
def InitsCleanly (s : DisplayState β η) (m : DisplayMove β η) : Prop :=
  match m.call with
  | .init cfg =>
      (FailsEarly cfg m.answers → s.dev.isInitialized = false) ∧
        (¬FailsEarly cfg m.answers → ClearsPages m.answers)
  | _ => True

/-- The flag is clear after a failed `init`, and stands over the values of a successful one. -/
def DisplayInv (s : DisplayState β η) : Prop :=
  match s.last with
  | .never => True
  | .failed => s.dev.isInitialized = false
  | .ok bus dev width => s.dev.isInitialized = true →
      s.dev.i2cBus = bus ∧ s.dev.devHandle = dev ∧ s.dev.scrWidth = width

theorem refuses_iff (s : DisplayState β η) : Refuses s ↔ s.dev.isInitialized = false := by
  constructor
  · -- a bus that answers well is enough to tell a driver that is up from one that refuses
    intro hrefuses
    by_contra hready
    have hfail := hrefuses .clear trivial ⟨(espOk, none), fun _ => espOk⟩
    have hclear := clear_up (Bool.not_eq_false _ ▸ hready) s.log
    simp only [DisplayCall.exec, Except.ok.injEq, Prod.mk.injEq, Option.some.injEq] at hfail
    exact absurd (hfail.1.symm.trans hclear) (by decide)
  · intro hdown call hguarded answers
    have hcall : ∀ cfg, call ≠ .init cfg := by
      rintro cfg rfl
      exact hguarded
    rcases @exec_down _ _ (TrafficWorld.begin s.dev answers s.log) hdown _ hcall with
      ⟨ret, hexec, hret⟩
    rw [hexec, hret hguarded]

theorem DisplayInv.follows {s : DisplayState β η} (hs : DisplayInv s) : FollowsInit s := by
  unfold DisplayInv at hs
  unfold FollowsInit
  cases hlast : s.last with
  | never =>
      trivial
  | failed =>
      rw [hlast] at hs
      exact (refuses_iff s).2 hs
  | ok bus dev width =>
      rw [hlast] at hs
      intro call hcall answers ret w' hexec
      -- under the flag the driver holds the values of that `init`, without it nothing is sent
      cases hready : s.dev.isInitialized with
      | true =>
          rcases hs hready with ⟨rfl, rfl, rfl⟩
          exact (exec_sends hcall hexec).1
      | false =>
          rcases @exec_down _ _ (TrafficWorld.begin s.dev answers s.log) hready _ hcall with
            ⟨_, hsame, _⟩
          rw [hsame] at hexec
          cases hexec
          exact ⟨[], by simp [TrafficWorld.begin], by simp⟩

/-- The three ways an `init` can end. -/
theorem displayStep_init_cases (s : DisplayState β η) (cfg : Option (DisplayConfig β))
    (answers : DisplayAnswers η) :
    let s' := displayStep s ⟨.init cfg, answers⟩
    (FailsEarly cfg answers ∧ s'.last = .failed ∧ s'.dev.isInitialized = s.dev.isInitialized) ∨
    (¬FailsEarly cfg answers ∧ ClearsPages answers ∧ ∃ c : DisplayConfig β,
      s'.last = .ok c.bus answers.addDevice.2 c.width ∧ s'.dev = Ssd1306.initialised c answers) ∨
    (¬FailsEarly cfg answers ∧ ¬ClearsPages answers ∧ s'.last = .failed ∧
      s'.dev.isInitialized = true) := by
  intro s'
  have hdev : s'.dev =
      (ssd1306Init trafficApi cfg (TrafficWorld.begin s.dev answers s.log)).2.dev := rfl
  have hlast : s'.last = s.last.next ⟨.init cfg, answers⟩
      (some (ssd1306Init trafficApi cfg (TrafficWorld.begin s.dev answers s.log)).1) := rfl
  by_cases hearly : FailsEarly cfg answers
  · rcases init_early s.dev answers s.log hearly with ⟨hret, hready⟩
    refine Or.inl ⟨hearly, ?_, hdev ▸ hready⟩
    rw [hlast]
    cases cfg <;> simp [LastInit.next, hret]
  · rcases init_late s.dev answers s.log hearly with ⟨c, rfl, hret, hholds⟩
    rw [hholds] at hdev
    -- from here on only the clear decides
    by_cases hclears : ClearsPages answers
    · refine Or.inr (Or.inl ⟨hearly, hclears, c, ?_, hdev⟩)
      rw [hlast]
      simp [LastInit.next, hret.2 hclears]
    · refine Or.inr (Or.inr ⟨hearly, hclears, ?_, ?_⟩)
      · rw [hlast]
        simp only [LastInit.next, Option.some.injEq]
        exact if_neg fun hok => hclears (hret.1 hok)
      · rw [hdev]
        rfl

/-- A call other than `init` leaves the record of the last `init` and keeps the invariant. -/
theorem displayStep_other {s : DisplayState β η} (hs : DisplayInv s) {m : DisplayMove β η}
    (hcall : ∀ cfg, m.call ≠ .init cfg) :
    (displayStep s m).last = s.last ∧ DisplayInv (displayStep s m) := by
  cases hexec : m.call.exec (TrafficWorld.begin s.dev m.answers s.log) with
  | error fault =>
      -- an undefined call is no step of the model
      have heq : displayStep s m = s := by
        simp [displayStep, hexec]
      rw [heq]
      exact ⟨rfl, hs⟩
  | ok res =>
      rcases res with ⟨ret, w⟩
      have hnext : s.last.next m ret = s.last := by
        unfold LastInit.next
        split
        · rename_i h
          exact absurd h (hcall _)
        · rename_i h
          exact absurd h (hcall _)
        · rfl
      have heq : displayStep s m = ⟨w.dev, w.bus.log, s.last⟩ := by
        simp [displayStep, hexec, hnext]
      have hsends := (exec_sends hcall hexec).2
      simp only [TrafficWorld.begin] at hsends
      rw [heq]
      refine ⟨rfl, ?_⟩
      unfold DisplayInv at hs ⊢
      dsimp only
      cases hlast : s.last with
      | never =>
          trivial
      | failed =>
          rw [hlast] at hs
          rcases hsends with hsame | hdown
          · exact hsame ▸ hs
          · exact hdown
      | ok bus dev width =>
          rw [hlast] at hs
          rcases hsends with hsame | hdown
          · exact hsame ▸ hs
          · intro hup
            exact Bool.noConfusion (hdown.symm.trans hup)

/-- After one call the driver follows its last `init` exactly if that call was no `init` that broke
it. -/
theorem displayStep_follows_iff (s : DisplayState β η) (m : DisplayMove β η) (hs : DisplayInv s) :
    FollowsInit (displayStep s m) ↔ InitsCleanly s m := by
  rcases m with ⟨call, answers⟩
  cases call with
  | init cfg =>
      rcases displayStep_init_cases s cfg answers with ⟨hearly, hlast, hready⟩ |
        ⟨hlate, hclears, c, hlast, hdev⟩ | ⟨hlate, hnot, hlast, hready⟩
      · -- the flag is what it was
        have hiff := refuses_iff (displayStep s ⟨.init cfg, answers⟩)
        rw [hready] at hiff
        simp only [FollowsInit, hlast, hiff, InitsCleanly, hearly, forall_true_left,
          not_true_eq_false, false_implies, and_true]
      · have hinv : DisplayInv (displayStep s ⟨.init cfg, answers⟩) := by
          unfold DisplayInv
          rw [hlast, hdev]
          exact fun _ => ⟨rfl, rfl, rfl⟩
        exact ⟨fun _ => ⟨fun h => absurd h hlate, fun _ => hclears⟩, fun _ => hinv.follows⟩
      · -- the flag is set although `init` has failed
        have hiff := refuses_iff (displayStep s ⟨.init cfg, answers⟩)
        rw [hready] at hiff
        simp only [FollowsInit, hlast, hiff, Bool.true_eq_false, false_iff]
        exact fun h => hnot (h.2 hlate)
  | clear =>
      exact ⟨fun _ => trivial, fun _ => (displayStep_other hs (by simp)).2.follows⟩
  | showText row text =>
      exact ⟨fun _ => trivial, fun _ => (displayStep_other hs (by simp)).2.follows⟩
  | setBrightness level =>
      exact ⟨fun _ => trivial, fun _ => (displayStep_other hs (by simp)).2.follows⟩
  | deinit =>
      exact ⟨fun _ => trivial, fun _ => (displayStep_other hs (by simp)).2.follows⟩

theorem displayStep_inv (s : DisplayState β η) (m : DisplayMove β η) (hs : DisplayInv s)
    (hclean : InitsCleanly s m) : DisplayInv (displayStep s m) := by
  rcases m with ⟨call, answers⟩
  cases call with
  | init cfg =>
      rcases displayStep_init_cases s cfg answers with ⟨hearly, hlast, hready⟩ |
        ⟨hlate, hclears, c, hlast, hdev⟩ | ⟨hlate, hnot, hlast, hready⟩
      · unfold DisplayInv
        rw [hlast]
        exact hready.trans (hclean.1 hearly)
      · unfold DisplayInv
        rw [hlast, hdev]
        exact fun _ => ⟨rfl, rfl, rfl⟩
      · exact absurd (hclean.2 hlate) hnot
  | clear =>
      exact (displayStep_other hs (by simp)).2
  | showText row text =>
      exact (displayStep_other hs (by simp)).2
  | setBrightness level =>
      exact (displayStep_other hs (by simp)).2
  | deinit =>
      exact (displayStep_other hs (by simp)).2

theorem start_displayInv : DisplayInv (DisplayState.start : DisplayState β η) :=
  trivial

/-- For every run of the driver: in every state it refuses to work if its last `init` has failed, and
sends only to the bus and the device of that `init` and in its width if it has succeeded, exactly if
every `init` that fails before the flag finds it clear and every other one clears the whole panel. -/
theorem display_state_matches_init_iff (calls : List (DisplayMove β η)) :
    (∀ s ∈ states displayStep DisplayState.start calls, FollowsInit s) ↔
      ∀ move ∈ moves displayStep DisplayState.start calls, InitsCleanly move.1 move.2 :=
  forall_states_iff displayStep_follows_iff displayStep_inv start_displayInv
    start_displayInv.follows calls

/-! ## A second `init` that fails -/

/-- The display on bus 1, in full width. -/
def firstInit : DisplayMove Nat Nat :=
  ⟨.init (some ⟨some 1, 0x3C, 128, 64⟩), ⟨(espOk, some 11), fun _ => espOk⟩⟩

/-- A half as wide one on bus 2, which does not take the device. -/
def refusedInit : DisplayMove Nat Nat :=
  ⟨.init (some ⟨some 2, 0x3C, 64, 64⟩), ⟨(espErrNoMem, some 11), fun _ => espOk⟩⟩

def setBrightnessMove : DisplayMove Nat Nat :=
  ⟨.setBrightness 0xFF, ⟨(espOk, none), fun _ => espOk⟩⟩

/-- After the refused `init` the next call sends to the device of bus 1 on bus 2. -/
theorem failed_reinit_mixes_two_displays :
    let before := run displayStep DisplayState.start [firstInit, refusedInit]
    let after := displayStep before setBrightnessMove
    before.dev = ⟨some 2, some 11, 64, 64, true⟩ ∧
      after.log.drop before.log.length =
        [⟨some 2, some 11, [0x00, 0x81]⟩, ⟨some 2, some 11, [0x00, 0xFF]⟩] ∧
      ¬∀ calls : List (DisplayMove Nat Nat),
        ∀ s ∈ states displayStep DisplayState.start calls, FollowsInit s := by
  refine ⟨by decide +kernel, by decide +kernel, fun hall => ?_⟩
  have hfollows := hall [firstInit, refusedInit]
    (displayStep (displayStep DisplayState.start firstInit) refusedInit) (by simp)
  have hrefuses : Refuses (displayStep (displayStep DisplayState.start firstInit) refusedInit) :=
    hfollows
  have hdown := (refuses_iff _).1 hrefuses
  exact absurd hdown (by decide +kernel)

end MainboardFirmware
