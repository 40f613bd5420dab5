import MainboardFirmware.Library.Loop
import MainboardFirmware.Ssd1306.Panel
import MainboardFirmware.Ssd1306.Stream
import MainboardFirmware.Tasks.Sensor

/-!
# Display — from the display queue to the panel

`task_display` takes a message out of its queue and then has the driver show it; it does not look at
what the driver answers. The other tasks run in between, but none of them touches the panel, so one call
of the driver is one step here, and the states are those outside of it. A text whose page command is
lost while its data gets through would land on the page of the text before it. The column commands do
not matter: a line fills its page, so the column pointer comes round to where it was, and the init left
it at 0. So as long as no page command is lost alone, every page carries the last text for it whose data
arrived.
-/

namespace MainboardFirmware

variable {V : Type*}

/-! ## The tasks and the panel -/

structure DisplaySystem (V : Type*) where
  board : TaskBoard V
  world : PanelWorld
  /-- the message `task_display` has taken and not yet passed to the driver -/
  inHand : Option DisplayMsg
  /-- the messages the driver reported as shown, in order -/
  shown : List DisplayMsg

/-- The driver as `app_main` initialises it. -/
def displayReady : Ssd1306 Unit Unit :=
  ⟨some (), some (), 128, 64, true⟩

/-- The tasks have been spawned, none has run. -/
def DisplaySystem.initial (V : Type*) (panel : Panel) (answers : Nat → EspErr) : DisplaySystem V :=
  ⟨.initial V, .begin displayReady panel answers, none, []⟩

/-- The next step of `task_display`: it takes a message, or has the one in hand shown. On an empty queue
it stays blocked. -/
def taskDisplay (s : DisplaySystem V) : Except Ssd1306Fault (DisplaySystem V) :=
  match s.inHand with
  | none =>
      match s.board.display.queue.receive with
      | none => .ok s
      | some (msg, _) => .ok
          { s with
            board := { s.board with display := s.board.display.receive }
            inHand := some msg.2 }
  | some msg =>
      match ssd1306ShowText panelApi msg.row (some msg.text) s.world with
      | .error fault => .error fault
      | .ok (ret, world) => .ok
          { s with
            world
            inHand := none
            shown := if ret = espOk then s.shown ++ [msg] else s.shown }

def displaySystemStep (values : SensorValues V) (move : TaskMove V) (s : DisplaySystem V) :
    Except Ssd1306Fault (DisplaySystem V) :=
  match move with
  | .display => taskDisplay s
  | _ => .ok { s with board := taskStep values s.board move }

/-! ## What the panel should show -/

/-- The last of the texts for a page. -/
def textOn (page : Fin 8) (shown : List DisplayMsg) : Option CString :=
  ((shown.filter fun msg => msg.row.toNat = page.val).getLast?).map DisplayMsg.text

/-- A page with a text shows it in sixteen characters; one without is as it was. -/
def Panel.Shows (p start : Panel) (shown : List DisplayMsg) : Prop :=
  ∀ page k, p.ram page k =
    match textOn page shown with
    | none => start.ram page k
    | some text => (glyphsOf text 16).getD k.val 0

instance (ch : UInt8) : Decidable (BehindFont ch) :=
  inferInstanceAs (Decidable (_ ∧ _))

/-- The driver looks every character up inside its font table. -/
def TextInFont (text : CString) : Prop :=
  ∀ ch ∈ text, ¬ BehindFont ch

instance (text : CString) : Decidable (TextInFont text) :=
  decidable_of_iff (text.all fun ch => !decide (BehindFont ch)) (by simp [TextInFont])

def TaskMove.InFont : TaskMove V → Prop
  | .ota text _ => TextInFont text
  | _ => True

/-- A page command is lost at most together with the data behind it; each text takes four writes, the
first is the page command and the last the data. -/
def PageCommandsKeepUp (answers : Nat → EspErr) : Prop :=
  ∀ k, answers (4 * k) = espOk ∨ answers (4 * k + 3) ≠ espOk

theorem textOn_concat (page : Fin 8) (shown : List DisplayMsg) (msg : DisplayMsg) :
    textOn page (shown ++ [msg]) =
      if page.val = msg.row.toNat then some msg.text else textOn page shown := by
  by_cases hrow : msg.row.toNat = page.val
  · simp [textOn, List.filter_append, hrow]
  · simp [textOn, List.filter_append, hrow, Ne.symm hrow]

/-- Messages for no page do not show. -/
theorem textOn_filter (page : Fin 8) (shown : List DisplayMsg) :
    textOn page (shown.filter fun msg => msg.row < 8) = textOn page shown := by
  have hrow : ∀ msg : DisplayMsg, (decide (msg.row.toNat = page.val) && decide (msg.row < 8)) =
      decide (msg.row.toNat = page.val) := by
    intro msg
    by_cases hpage : msg.row.toNat = page.val
    · have hlt : msg.row < 8 := by
        rw [UInt8.lt_iff_toNat_lt, hpage]
        exact page.isLt
      simp [hpage, hlt]
    · simp [hpage]
  simp only [textOn, List.filter_filter, hrow]

/-! ## One text -/

section Text

variable {w : PanelWorld} {row : UInt8} {text : CString}

theorem foldl_store_col (bytes : List UInt8) (p : Panel) :
    (bytes.foldl Panel.store p).col.val = (p.col.val + bytes.length) % 128 := by
  induction bytes generalizing p with
  | nil =>
      have hlt := p.col.isLt
      simp only [List.foldl_nil, List.length_nil]
      omega
  | cons byte bytes ih =>
      rw [List.foldl_cons, ih]
      simp only [Panel.store, Fin.val_add, Fin.val_one', List.length_cons]
      omega

/-- A full row stored from column 0 on replaces the page and leaves the pointer where it was. -/
theorem foldl_store_row {bytes : List UInt8} (hlength : bytes.length = 128) {p : Panel}
    (hcol : p.col = 0) :
    (bytes.foldl Panel.store p).col = 0 ∧ ∀ page k, (bytes.foldl Panel.store p).ram page k =
      if page = p.page then bytes.getD k.val 0 else p.ram page k := by
  constructor
  · rw [Fin.ext_iff, foldl_store_col, hcol, hlength]
    rfl
  · intro page k
    have hoff : k - p.col = k := by
      have hlt := k.isLt
      have hzero : (0 : Fin 128).val = 0 := rfl
      rw [hcol, Fin.ext_iff, Fin.sub_def]
      simp only [hzero]
      omega
    have hk : k.val < bytes.length := by
      rw [hlength]
      exact k.isLt
    simp only [foldl_store_ram _ (Nat.le_of_eq hlength), hoff, hk, and_true]

/-- The stream of a text that is in the font. -/
theorem renderText_inFont (hfont : TextInFont text) :
    renderText text 16 0 [0x40] = .ok (0x40 :: glyphsOf text 16) ∧
      (glyphsOf text 16).length = 128 := by
  have hlookup : ∀ c, ¬ BehindFont (text.getD c 0x20) := fun c =>
    (forall_not_behindFont_iff text (c + 1)).2 (fun ch hch => hfont ch (List.mem_of_mem_take hch)) c
      (Nat.lt_succ_self c)
  have hexists : ∃ stream, renderText text 16 0 [0x40] = .ok stream := by
    refine renderText_exists (fun c => ?_) (by decide)
    rw [fontIdx_eq]
    rcases font_lookup (text.getD c 0x20) with ⟨hbehind, -⟩ | ⟨-, hglyph⟩
    · exact absurd hbehind (hlookup c)
    · rw [hglyph]
      rfl
  rcases hexists with ⟨stream, hstream⟩
  rcases renderText_stream hstream with ⟨hstream_eq, hlength, -⟩
  rw [renderedText_eq_glyphsOf fun c _ => hlookup c] at hstream_eq hlength
  rw [← hstream_eq]
  exact ⟨hstream, hlength⟩

/-- What `show_text` leaves of a row in range. -/
structure RowShown (row : UInt8) (text : CString) (w w' : PanelWorld) : Prop where
  dev_eq : w'.dev = w.dev
  answers_eq : w'.bus.answers = w.bus.answers
  writes_eq : w'.bus.writes = w.bus.writes + 4
  col_eq : w'.bus.panel.col = 0
  ram_eq : ∀ page k, w'.bus.panel.ram page k =
    if page.val = row.toNat ∧ w.bus.answers (w.bus.writes + 3) = espOk then
      (glyphsOf text 16).getD k.val 0
    else w.bus.panel.ram page k

/-- With the column pointer at 0 only the page command counts. -/
theorem showText_row (hdev : w.dev = displayReady) (hcol : w.bus.panel.col = 0) (hrow : row < 8)
    (hfont : TextInFont text) (hpage : w.bus.answers w.bus.writes = espOk ∨
      w.bus.answers (w.bus.writes + 3) ≠ espOk) :
    ∃ w', ssd1306ShowText panelApi row (some text) w =
        .ok (w.bus.answers (w.bus.writes + 3), w') ∧ RowShown row text w w' := by
  have hready : w.dev.isInitialized = true := by rw [hdev]; rfl
  have hattached : w.dev.Attached := by rw [hdev]; exact ⟨rfl, rfl⟩
  have hchars : ssd1306MaxChars w.dev.scrWidth = 16 := by rw [hdev]; rfl
  rcases renderText_inFont hfont with ⟨hstream, hlength⟩
  have hrow' : row.toNat < 8 := UInt8.lt_iff_toNat_lt.1 hrow
  have haddressed := address_attached hattached
    (show (⟨row.toNat, hrow'⟩ : Fin 8).val = row.toNat from rfl)
  have hcall := showText_rendered hready hrow (by rw [hchars]; exact hstream)
  generalize ssd1306Address panelApi row w = v at haddressed hcall
  have hcol' : v.bus.panel.col = 0 := by
    rw [haddressed.col_eq_zero_iff, hcol]
    exact ⟨Or.inr rfl, Or.inr rfl⟩
  have hanswer : v.bus.answer = w.bus.answers (w.bus.writes + 3) := by
    rw [PanelBus.answer, haddressed.answers_eq, haddressed.writes_eq]
  have hattached' : v.dev.Attached := haddressed.dev_eq ▸ hattached
  by_cases hok : w.bus.answers (w.bus.writes + 3) = espOk
  · -- the data arrived, so the page command did
    have hpointer : v.bus.panel.page.val = row.toNat := by
      rw [haddressed.page_eq, if_pos (hpage.resolve_right (not_not_intro hok))]
    rw [sendData_arrived hattached' (hanswer.trans hok), ← hok] at hcall
    rcases foldl_store_row hlength hcol' with ⟨hcolStored, hstored⟩
    refine ⟨_, hcall, haddressed.dev_eq, haddressed.answers_eq,
      by simp only [haddressed.writes_eq], hcolStored, fun page k => ?_⟩
    simp only [hstored, hok, and_true, Fin.ext_iff, hpointer, haddressed.ram_eq]
  · -- the data was lost and only pointers moved
    have hdata := sendData_attached hattached' (0x40 :: glyphsOf text 16)
    rw [hdata, hanswer] at hcall
    have hsame : v.bus.after (0x40 :: glyphsOf text 16) =
        ⟨v.bus.panel, v.bus.answers, v.bus.writes + 1⟩ := by
      rw [PanelBus.after, hanswer, if_neg hok]
    rw [hsame] at hcall
    refine ⟨_, hcall, haddressed.dev_eq, haddressed.answers_eq,
      by simp only [haddressed.writes_eq], hcol', ?_⟩
    intro page k
    rw [if_neg fun h => hok h.2, ← haddressed.ram_eq]

/-- A row that the panel does not have is refused before anything is sent. -/
theorem showText_refused (hdev : w.dev = displayReady) (hrow : ¬ row < 8) :
    ssd1306ShowText panelApi row (some text) w = .ok (espErrInvalidArg, w) := by
  have hready : w.dev.isInitialized = true := by rw [hdev]; rfl
  simp [ssd1306ShowText, hready, UInt8.not_lt.1 hrow]

end Text

/-! ## What holds in every state -/

structure DisplaySystemInv (start : Panel) (answers : Nat → EspErr) (s : DisplaySystem V) : Prop where
  dev_eq : s.world.dev = displayReady
  answers_eq : s.world.bus.answers = answers
  aligned : 4 ∣ s.world.bus.writes
  col_eq : s.world.bus.panel.col = 0
  in_font : ∀ item ∈ s.board.display.queue.items, TextInFont item.2.text
  hand_in_font : ∀ msg ∈ s.inHand, TextInFont msg.text
  shows : s.world.bus.panel.Shows start s.shown
  shown_sublist : (s.shown ++ s.inHand.toList).Sublist (s.board.display.delivered.map Prod.snd)
  all_shown : (∀ k, answers k = espOk) →
    s.shown ++ s.inHand.toList.filter (fun msg => msg.row < 8) =
      (s.board.display.delivered.map Prod.snd).filter fun msg => msg.row < 8

section Steps

variable {values : SensorValues V} {start : Panel} {answers : Nat → EspErr} {s : DisplaySystem V}

theorem displaySystemInv_initial (hcol : start.col = 0) :
    DisplaySystemInv start answers (DisplaySystem.initial V start answers) where
  dev_eq := rfl
  answers_eq := rfl
  aligned := ⟨0, rfl⟩
  col_eq := hcol
  in_font := by simp [DisplaySystem.initial, TaskBoard.initial, Channel.empty, BoundedQueue.empty]
  hand_in_font := by simp [DisplaySystem.initial]
  shows := fun _ _ => rfl
  shown_sublist := List.Sublist.refl _
  all_shown := fun _ => rfl

/-- The texts are cut to the size of a message. -/
theorem displayMsg_inFont {text : CString} (h : TextInFont text) (row : UInt8) :
    TextInFont (displayMsg row text).text :=
  fun ch hch => h ch (List.mem_of_mem_take hch)

theorem statusText_inFont (ledState : Bool) : TextInFont (statusText ledState) := by
  have hboth : TextInFont (statusText false) ∧ TextInFont (statusText true) := by
    decide
  cases ledState with
  | false =>
      exact hboth.1
  | true =>
      exact hboth.2

theorem voltText_inFont (hvalues : ∀ value, TextInFont (values.fixed2 value)) (value : V) :
    TextInFont (ascii "VOLT: " ++ values.fixed2 value ++ ascii " V") := by
  have hends : TextInFont (ascii "VOLT: ") ∧ TextInFont (ascii " V") := by
    decide
  intro ch hch
  rcases List.mem_append.1 hch with hch | hch
  · rcases List.mem_append.1 hch with hch | hch
    · exact hends.1 ch hch
    · exact hvalues value ch hch
  · exact hends.2 ch hch

/-- A send puts at most its own item in the queue. -/
theorem send_inFont {c : Channel (Sender × DisplayMsg) displayDepth}
    (hc : ∀ item ∈ c.queue.items, TextInFont item.2.text) {x : Sender × DisplayMsg}
    (hx : TextInFont x.2.text) : ∀ item ∈ (c.send x).queue.items, TextInFont item.2.text := by
  intro item hitem
  rw [Channel.send, BoundedQueue.send_items] at hitem
  rcases List.mem_append.1 hitem with hitem | hitem
  · exact hc item hitem
  · split at hitem
    · rw [List.mem_singleton.1 hitem]
      exact hx
    · simp at hitem

/-- The tasks that send. -/
theorem taskStep_inFont (hvalues : ∀ value, TextInFont (values.fixed2 value)) {b : TaskBoard V}
    (hb : ∀ item ∈ b.display.queue.items, TextInFont item.2.text) {move : TaskMove V}
    (hmove : move ≠ .display) (hfont : move.InFont) :
    (taskStep values b move).display.delivered = b.display.delivered ∧
      ∀ item ∈ (taskStep values b move).display.queue.items, TextInFont item.2.text := by
  cases move with
  | sensor answer =>
      simp only [taskStep, taskSensor]
      split
      next =>
        split <;> exact ⟨rfl, hb⟩
      next reading _ =>
        have hsend := send_inFont hb (x := (Sender.sensor, displayMsg 0 _))
          (displayMsg_inFont (voltText_inFont hvalues reading.value) 0)
        split <;> exact ⟨rfl, hsend⟩
      next =>
        exact ⟨rfl, hb⟩
      next current _ =>
        exact ⟨rfl, send_inFont hb (displayMsg_inFont (statusText_inFont current) 2)⟩
  | remote topic data =>
      exact ⟨rfl, hb⟩
  | ota text row =>
      exact ⟨rfl, send_inFont hb (displayMsg_inFont hfont row)⟩
  | actuator =>
      exact ⟨rfl, hb⟩
  | display =>
      exact absurd rfl hmove

/-- The page of a text that arrived is the only one that changes. -/
theorem shows_concat {w w' : PanelWorld} {msg : DisplayMsg} {shown : List DisplayMsg}
    (hshows : w.bus.panel.Shows start shown) (hrow : RowShown msg.row msg.text w w') :
    w'.bus.panel.Shows start
      (if w.bus.answers (w.bus.writes + 3) = espOk then shown ++ [msg] else shown) := by
  intro page k
  by_cases hok : w.bus.answers (w.bus.writes + 3) = espOk
  · rw [hrow.ram_eq, if_pos hok, textOn_concat]
    by_cases hpage : page.val = msg.row.toNat
    · rw [if_pos ⟨hpage, hok⟩, if_pos hpage]
    · rw [if_neg fun h => hpage h.1, if_neg hpage]
      exact hshows page k
  · rw [hrow.ram_eq, if_neg fun h => hok h.2, if_neg hok]
    exact hshows page k

/-- A message that is taken goes from the queue to the hand. -/
theorem taskDisplay_takes (hhand : s.inHand = none) (hs : DisplaySystemInv start answers s) :
    Ends (taskDisplay s) (DisplaySystemInv start answers) := by
  cases hreceive : s.board.display.queue.receive with
  | none =>
      simp only [taskDisplay, hhand, hreceive]
      exact Ends.ok hs
  | some taken =>
      rcases taken with ⟨⟨sender, msg⟩, rest⟩
      have hchannel := Channel.receive_of_some hreceive
      have hitems := BoundedQueue.receive_items hreceive
      have hrest : ∀ item ∈ s.board.display.receive.queue.items, TextInFont item.2.text := by
        intro item hitem
        rw [hchannel] at hitem
        exact hs.in_font item (by simp [hitems, hitem])
      have hdelivered : s.board.display.receive.delivered.map Prod.snd =
          s.board.display.delivered.map Prod.snd ++ [msg] := by
        simp [hchannel]
      have hsublist := hs.shown_sublist
      rw [hhand, Option.toList_none, List.append_nil] at hsublist
      simp only [taskDisplay, hhand, hreceive]
      refine Ends.ok ⟨hs.dev_eq, hs.answers_eq, hs.aligned, hs.col_eq, hrest, ?_, hs.shows, ?_, ?_⟩
      · rintro msg' hmsg'
        cases Option.some.inj hmsg'
        exact hs.in_font (sender, msg) (by simp [hitems])
      · simp only [hdelivered, Option.toList_some]
        exact hsublist.append (List.Sublist.refl _)
      · intro hall
        have hshown := hs.all_shown hall
        rw [hhand, Option.toList_none, List.filter_nil, List.append_nil] at hshown
        rw [hdelivered, List.filter_append, ← hshown]
        rfl

/-- The message in hand is shown if the panel has its row and the data arrive. -/
theorem taskDisplay_shows (hpages : PageCommandsKeepUp answers) {msg : DisplayMsg}
    (hhand : s.inHand = some msg) (hs : DisplaySystemInv start answers s) :
    Ends (taskDisplay s) (DisplaySystemInv start answers) := by
  have hmsg : TextInFont msg.text := hs.hand_in_font msg hhand
  have hsublist := hs.shown_sublist
  rw [hhand, Option.toList_some] at hsublist
  have hfewer := (List.sublist_append_left s.shown [msg]).trans hsublist
  by_cases hrow : msg.row < 8
  · have hkeep : s.world.bus.answers s.world.bus.writes = espOk ∨
        s.world.bus.answers (s.world.bus.writes + 3) ≠ espOk := by
      rcases hs.aligned with ⟨k, hk⟩
      rw [hs.answers_eq, hk]
      exact hpages k
    rcases showText_row hs.dev_eq hs.col_eq hrow hmsg hkeep with ⟨w', hcall, hshown⟩
    simp only [taskDisplay, hhand, hcall]
    refine Ends.ok ⟨hshown.dev_eq.trans hs.dev_eq, hshown.answers_eq.trans hs.answers_eq, ?_,
      hshown.col_eq, hs.in_font, by simp, shows_concat hs.shows hshown, ?_, ?_⟩
    · simp only [hshown.writes_eq]
      exact Nat.dvd_add hs.aligned (Nat.dvd_refl 4)
    · rw [Option.toList_none, List.append_nil]
      split
      · exact hsublist
      · exact hfewer
    · intro hall
      have hok : s.world.bus.answers (s.world.bus.writes + 3) = espOk := by
        rw [hs.answers_eq]
        exact hall _
      have hshown' := hs.all_shown hall
      rw [hhand] at hshown'
      simpa [hok, hrow] using hshown'
  · have hcall := @showText_refused s.world msg.row msg.text hs.dev_eq hrow
    simp only [taskDisplay, hhand, hcall]
    rw [if_neg espErrInvalidArg_ne_ok]
    refine Ends.ok ⟨hs.dev_eq, hs.answers_eq, hs.aligned, hs.col_eq, hs.in_font, by simp, hs.shows,
      ?_, ?_⟩
    · rw [Option.toList_none, List.append_nil]
      exact hfewer
    · intro hall
      have hshown' := hs.all_shown hall
      rw [hhand] at hshown'
      simpa [hrow] using hshown'

theorem taskDisplay_inv (hpages : PageCommandsKeepUp answers) (hs : DisplaySystemInv start answers s) :
    Ends (taskDisplay s) (DisplaySystemInv start answers) := by
  cases hhand : s.inHand with
  | none =>
      exact taskDisplay_takes hhand hs
  | some msg =>
      exact taskDisplay_shows hpages hhand hs

theorem displaySystemStep_inv (hvalues : ∀ value, TextInFont (values.fixed2 value))
    (hpages : PageCommandsKeepUp answers) {move : TaskMove V} (hfont : move.InFont)
    (hs : DisplaySystemInv start answers s) :
    Ends (displaySystemStep values move s) (DisplaySystemInv start answers) := by
  have hboard : move ≠ .display →
      DisplaySystemInv start answers { s with board := taskStep values s.board move } := by
    intro hmove
    rcases taskStep_inFont hvalues hs.in_font hmove hfont with ⟨hdelivered, hqueue⟩
    refine ⟨hs.dev_eq, hs.answers_eq, hs.aligned, hs.col_eq, hqueue, hs.hand_in_font, hs.shows, ?_, ?_⟩
    · rw [hdelivered]
      exact hs.shown_sublist
    · rw [hdelivered]
      exact hs.all_shown
  cases move with
  | display =>
      exact taskDisplay_inv hpages hs
  | sensor answer =>
      exact Ends.ok (hboard (by simp))
  | remote topic data =>
      exact Ends.ok (hboard (by simp))
  | ota text row =>
      exact Ends.ok (hboard (by simp))
  | actuator =>
      exact Ends.ok (hboard (by simp))

end Steps

/-- For every interleaving of the tasks and every pattern of failing writes in which no page command is
lost alone: no text takes the driver outside its arrays, every page of the panel shows the last text for
it that was reported as shown, and these texts are some of those taken out of the queue, in order. If no
write fails, the queue is empty and no message is in hand, every page shows the last text for it that
the queue accepted. -/
theorem panel_follows_queue (values : SensorValues V)
    (hvalues : ∀ value, TextInFont (values.fixed2 value)) (panel : Panel) (hcol : panel.col = 0)
    (answers : Nat → EspErr) (hpages : PageCommandsKeepUp answers) (as : List (TaskMove V))
    (hfont : ∀ a ∈ as, a.InFont) :
    Ends (Loop.each (displaySystemStep values) as (.initial V panel answers)) fun s =>
      s.world.bus.panel.Shows panel s.shown ∧
        s.shown.Sublist (s.board.display.delivered.map Prod.snd) ∧
        ((∀ k, answers k = espOk) → s.board.display.queue.items = [] → s.inHand = none →
          s.world.bus.panel.Shows panel (s.board.display.history.map Prod.snd)) := by
  have hrun : Ends (Loop.each (displaySystemStep values) as (.initial V panel answers))
      (DisplaySystemInv panel answers) :=
    Loop.each_ends (displaySystemInv_initial hcol) fun a ha s hs =>
      displaySystemStep_inv hvalues hpages (hfont a ha) hs
  refine hrun.mono fun s hs => ⟨hs.shows, (List.sublist_append_left _ _).trans hs.shown_sublist,
    fun hall hempty hnone page k => ?_⟩
  have hshown := hs.all_shown hall
  rw [hnone, Option.toList_none, List.filter_nil, List.append_nil] at hshown
  rw [hs.shows page k, hshown, textOn_filter, Channel.history, hempty, List.append_nil]

/-- A voltage over the threshold and its status line on a panel full of pixels; the data of the voltage
is lost. -/
theorem panel_follows_queue_lost :
    let values : SensorValues Nat := ⟨fun value => 2500 < value, fun _ => ascii "3.30"⟩
    let sensor : TaskMove Nat := .sensor (espOk, ⟨0, 3300, 0⟩)
    let as := [sensor, sensor, sensor, sensor, .display, .display, .display, .display]
    let answers : Nat → EspErr := fun k => if k = 3 then espFail else espOk
    Ends (Loop.each (displaySystemStep values) as (.initial Nat ⟨fun _ _ => 0xFF, 0, 0⟩ answers)) fun s =>
      s.shown = [⟨2, ascii "OVER THRESHOLD!"⟩] ∧ s.world.bus.panel.ram 0 0 = 0xFF ∧
        s.world.bus.panel.ram 2 0 = 0x3e := by
  intro values sensor as answers
  have hvalues : ∀ value, TextInFont (values.fixed2 value) := fun _ => by
    change TextInFont (ascii "3.30")
    decide
  have hpages : PageCommandsKeepUp answers := fun k => Or.inl (if_neg (by omega))
  have hfont : ∀ a ∈ as, a.InFont := by
    simp [as, sensor, TaskMove.InFont]
  rcases panel_follows_queue values hvalues ⟨fun _ _ => 0xFF, 0, 0⟩ rfl answers hpages as hfont with
    ⟨s, hrun, hshows, -⟩
  have hshown : (Loop.each (displaySystemStep values) as
      (.initial Nat ⟨fun _ _ => 0xFF, 0, 0⟩ answers)).toOption.map DisplaySystem.shown =
      some [⟨2, ascii "OVER THRESHOLD!"⟩] := by
    decide +kernel
  rw [hrun] at hshown
  have hshown' : s.shown = [⟨2, ascii "OVER THRESHOLD!"⟩] := Option.some.inj hshown
  rw [hshown'] at hshows
  exact ⟨s, hrun, hshown', (hshows 0 0).trans (by decide), (hshows 2 0).trans (by decide)⟩

end MainboardFirmware
