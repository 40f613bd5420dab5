import Mathlib.Data.Bool.AllAny
import Mathlib.Data.List.ProdSigma
import MainboardFirmware.Ssd1306.Stream
import MainboardFirmware.Tasks.Sensor

/-!
# Readings — the voltages of `task_sensor` on the panel

Row 0 shows a voltage with two decimals. The table of `ssd1306.c` has glyphs for the digits 0 to 5
only: the digits 6 to 9, the minus sign and the decimal point are blank, and voltages that differ in
nothing else look the same.
-/

namespace MainboardFirmware

variable {β η : Type}

/-! ## The texts -/

/-- What `%.2f` prints: an optional minus sign, digits, and two more behind the decimal point. -/
structure Voltage where
  negative : Bool
  whole : CString
  hundredths : CString
  whole_ne_nil : whole ≠ []
  length_hundredths : hundredths.length = 2
  digit : ∀ ch ∈ whole ++ hundredths, ch ∈ ascii "0123456789"

def Voltage.fixed2 (v : Voltage) : CString :=
  (if v.negative = true then ascii "-" else []) ++ v.whole ++ ascii "." ++ v.hundredths

/-- The line of row 0. -/
def Voltage.text (v : Voltage) : CString :=
  ascii "VOLT: " ++ v.fixed2 ++ ascii " V"

/-- The line of row 0 is what `task_sensor` queues for such a value. -/
theorem displayMsg_volt {V : Type*} (values : SensorValues V) {value : V} {v : Voltage}
    (hvalue : values.fixed2 value = v.fixed2) (hfit : v.text.length < displayTextSize) :
    displayMsg 0 (ascii "VOLT: " ++ values.fixed2 value ++ ascii " V") = ⟨0, v.text⟩ := by
  rw [hvalue, ← Voltage.text, displayMsg, List.take_of_length_le (Nat.le_sub_one_of_lt hfit)]

/-- Whatever the row and the answers of the bus, the last message of `show_text` is `data`. -/
def SendsData (dev : Ssd1306 β η) (text : CString) (data : List UInt8) : Prop :=
  ∀ row < 8, ∀ answers log, ∃ ret w',
    ssd1306ShowText trafficApi row (some text) (TrafficWorld.begin dev answers log) =
      .ok (ret, w') ∧
    w'.bus.log.getLast? = some ⟨dev.i2cBus, dev.devHandle, data⟩

/-- The two texts do not look the same. -/
def ToldApart (dev : Ssd1306 β η) (text₁ text₂ : CString) : Prop :=
  ∃ data₁ data₂, SendsData dev text₁ data₁ ∧ SendsData dev text₂ data₂ ∧ data₁ ≠ data₂

/-- The digits that have a glyph. -/
def LowDigit (ch : UInt8) : Prop :=
  0x30 ≤ ch ∧ ch ≤ 0x35

instance (ch : UInt8) : Decidable (LowDigit ch) :=
  inferInstanceAs (Decidable (_ ∧ _))

/-- Where the texts differ, somewhere, one of the two characters is a digit that has a glyph. -/
def DifferInLowDigit (text₁ text₂ : CString) : Prop :=
  ∃ c, text₁.getD c 0x20 ≠ text₂.getD c 0x20 ∧
    (LowDigit (text₁.getD c 0x20) ∨ LowDigit (text₂.getD c 0x20))

/-! ## Messages -/

theorem sendsData_glyphs {dev : Ssd1306 β η} {text : CString} (h : SendsGlyphs dev text) :
    SendsData dev text (0x40 :: glyphsOf text (ssd1306MaxChars dev.scrWidth)) := h

/-- A text has one rendering. -/
theorem SendsData.unique {dev : Ssd1306 β η} {text : CString} {data data' : List UInt8}
    (h : SendsData dev text data) (h' : SendsData dev text data') : data = data' := by
  rcases h 0 (by decide) ⟨(espOk, none), fun _ => espOk⟩ [] with ⟨ret, w, hcall, hlast⟩
  rcases h' 0 (by decide) ⟨(espOk, none), fun _ => espOk⟩ [] with ⟨ret', w', hcall', hlast'⟩
  have hsame : (ret, w) = (ret', w') := Except.ok.inj (hcall.symm.trans hcall')
  cases hsame
  rw [hlast] at hlast'
  simpa using hlast'

/-- A panel too wide for the buffer shows nothing. -/
theorem not_sendsData_of_full {dev : Ssd1306 β η} (hready : dev.isInitialized = true)
    (hfull : 16 < ssd1306MaxChars dev.scrWidth) (text : CString) (data : List UInt8) :
    ¬SendsData dev text data := by
  intro h
  rcases h 0 (by decide) ⟨(espOk, none), fun _ => espOk⟩ [] with ⟨ret, w, hcall, -⟩
  cases hrender : renderText text (ssd1306MaxChars dev.scrWidth) 0 [0x40] with
  | error fault =>
      have hfault := @showText_of_fault _ _
        (TrafficWorld.begin dev ⟨(espOk, none), fun _ => espOk⟩ []) 0 text hready (by decide) _ hrender
      rw [hfault] at hcall
      cases hcall
  | ok stream =>
      -- the stream is longer than the buffer
      rcases renderText_ok hrender with ⟨-, hlength, hfit⟩
      have hlong := hfit (by omega)
      rw [hlength, List.length_singleton, ssd1306StreamSize] at hlong
      omega

/-! ## Glyphs -/

theorem glyphOf_length (ch : UInt8) : (glyphOf ch).length = 8 := by
  have hrows : ∀ row ∈ font8x8Init, row.2.length = 8 := by
    decide
  unfold glyphOf
  split
  · cases hrow : font8x8Init.lookup (ch - 0x20).toNat with
    | none =>
        rfl
    | some glyph =>
        rcases List.lookup_eq_some_iff.1 hrow with ⟨before, after, heq, -⟩
        have hmem : ((ch - 0x20).toNat, glyph) ∈ font8x8Init := by
          rw [heq]
          simp
        exact hrows _ hmem
  · rfl

/-- Two texts have the same glyphs exactly if they have them place by place. -/
theorem glyphsOf_eq_iff (text₁ text₂ : CString) (n : Nat) :
    glyphsOf text₁ n = glyphsOf text₂ n ↔
      ∀ c < n, glyphOf (text₁.getD c 0x20) = glyphOf (text₂.getD c 0x20) := by
  induction n with
  | zero =>
      simp [glyphsOf]
  | succ n ih =>
      have hlength : (glyphOf (text₁.getD n 0x20)).length = (glyphOf (text₂.getD n 0x20)).length := by
        rw [glyphOf_length, glyphOf_length]
      rw [glyphsOf_succ, glyphsOf_succ]
      constructor
      · intro hsame c hc
        have hparts := List.append_inj' hsame hlength
        rcases Nat.lt_succ_iff_lt_or_eq.1 hc with hc | rfl
        · exact ih.1 hparts.1 c hc
        · exact hparts.2
      · intro hall
        rw [ih.2 fun c hc => hall c (Nat.lt_succ_of_lt hc), hall n (Nat.lt_succ_self n)]

/-- The characters that two lines of the same length can differ in. -/
def numberChars : CString :=
  ascii "0123456789-."

/-- Two of them have different glyphs only if one is a digit from 0 to 5. -/
theorem glyphOf_ne_iff {a b : UInt8} (ha : a ∈ numberChars) (hb : b ∈ numberChars) (hne : a ≠ b) :
    glyphOf a ≠ glyphOf b ↔ LowDigit a ∨ LowDigit b := by
  have hall : ∀ p ∈ numberChars.product numberChars, p.1 ≠ p.2 →
      (glyphOf p.1 ≠ glyphOf p.2 ↔ LowDigit p.1 ∨ LowDigit p.2) :=
    List.all_iff_forall_prop.1 (by decide)
  exact hall (a, b) (List.pair_mem_product.2 ⟨ha, hb⟩) hne

namespace Voltage

theorem mem_fixed2 (v : Voltage) : ∀ ch ∈ v.fixed2, ch ∈ numberChars := by
  have hdigits : ∀ ch ∈ ascii "0123456789", ch ∈ numberChars :=
    List.all_iff_forall_prop.1 (by decide)
  have hmarks : ∀ ch ∈ ascii "-.", ch ∈ numberChars := List.all_iff_forall_prop.1 (by decide)
  intro ch hch
  simp only [fixed2, List.mem_append] at hch
  rcases hch with ((hsign | hwhole) | hpoint) | hhundredths
  · cases hnegative : v.negative with
    | true =>
        rw [hnegative, if_pos rfl] at hsign
        exact hmarks ch (List.mem_append_left (ascii ".") hsign)
    | false =>
        rw [hnegative] at hsign
        exact absurd hsign (by simp)
  · exact hdigits ch (v.digit ch (List.mem_append_left _ hwhole))
  · exact hmarks ch (List.mem_append_right (ascii "-") hpoint)
  · exact hdigits ch (v.digit ch (List.mem_append_right _ hhundredths))

theorem text_length (v : Voltage) : v.text.length = v.fixed2.length + 8 := by
  have hfixed : (ascii "VOLT: ").length = 6 ∧ (ascii " V").length = 2 := by
    decide
  simp only [text, List.length_append, hfixed.1, hfixed.2]
  omega

/-- No character of a line is behind the font. -/
theorem not_behindFont (v : Voltage) : ∀ ch ∈ v.text, ¬BehindFont ch := by
  have hnumber : ∀ ch ∈ numberChars, ¬(0x5A ≤ ch ∧ ch ≤ 0x5F) :=
    List.all_iff_forall_prop.1 (by decide)
  have hfixed : ∀ ch ∈ ascii "VOLT: " ++ ascii " V", ¬(0x5A ≤ ch ∧ ch ≤ 0x5F) :=
    List.all_iff_forall_prop.1 (by decide)
  intro ch hch
  simp only [text, List.mem_append] at hch
  rcases hch with (hch | hch) | hch
  · exact hfixed ch (List.mem_append_left _ hch)
  · exact hnumber ch (v.mem_fixed2 ch hch)
  · exact hfixed ch (List.mem_append_right _ hch)

/-- The last character is the unit. -/
theorem text_last (v : Voltage) : v.text.getD (v.text.length - 1) 0x20 = 0x56 := by
  have hfixed : (ascii "VOLT: ").length = 6 := by
    decide
  have hlast : v.text.length - 1 - (ascii "VOLT: " ++ v.fixed2).length = 1 := by
    rw [text_length, List.length_append, hfixed]
    omega
  rw [text, List.getD_append_right, ← text, hlast]
  · rfl
  · rw [← text, text_length, List.length_append, hfixed]
    omega

/-- Two lines of the same length differ in their numbers only. -/
theorem text_getD (v₁ v₂ : Voltage) (hlength : v₁.text.length = v₂.text.length) (c : Nat) :
    v₁.text.getD c 0x20 = v₂.text.getD c 0x20 ∨
      (v₁.text.getD c 0x20 ∈ numberChars ∧ v₂.text.getD c 0x20 ∈ numberChars) := by
  have hnumber : v₁.fixed2.length = v₂.fixed2.length := by
    rw [text_length, text_length] at hlength
    omega
  have hvolt : (ascii "VOLT: ").length = 6 := by
    decide
  by_cases hbefore : c < 6 + v₁.fixed2.length
  · have hleft : ∀ v : Voltage, v.fixed2.length = v₁.fixed2.length →
        v.text.getD c 0x20 = (ascii "VOLT: " ++ v.fixed2).getD c 0x20 := by
      intro v hv
      apply List.getD_append
      rw [List.length_append, hvolt, hv]
      exact hbefore
    rw [hleft v₁ rfl, hleft v₂ hnumber.symm]
    by_cases hprefix : c < 6
    · left
      rw [List.getD_append _ _ _ _ (hvolt ▸ hprefix), List.getD_append _ _ _ _ (hvolt ▸ hprefix)]
    · right
      have hin : ∀ v : Voltage, v.fixed2.length = v₁.fixed2.length →
          (ascii "VOLT: " ++ v.fixed2).getD c 0x20 ∈ numberChars := by
        intro v hv
        rw [List.getD_append_right _ _ _ _ (by omega), hvolt,
          List.getD_eq_getElem _ _ (by omega)]
        exact v.mem_fixed2 _ (List.getElem_mem _)
      exact ⟨hin v₁ rfl, hin v₂ hnumber.symm⟩
  · -- behind the number both are the unit
    left
    have hright : ∀ v : Voltage, v.fixed2.length = v₁.fixed2.length →
        v.text.getD c 0x20 = (ascii " V").getD (c - (6 + v₁.fixed2.length)) 0x20 := by
      intro v hv
      rw [text, List.getD_append_right, List.length_append, hvolt, hv]
      rw [List.length_append, hvolt, hv]
      exact Nat.le_of_not_lt hbefore
    rw [hright v₁ rfl, hright v₂ hnumber.symm]

end Voltage

/-! ## On the panel -/

/-- On a panel the buffer has room for, two lines are told apart by their glyphs. -/
theorem toldApart_iff_glyphs {dev : Ssd1306 β η} (hready : dev.isInitialized = true)
    (hchars : ssd1306MaxChars dev.scrWidth ≤ 16) (v₁ v₂ : Voltage) :
    ToldApart dev v₁.text v₂.text ↔
      ∃ c < ssd1306MaxChars dev.scrWidth,
        glyphOf (v₁.text.getD c 0x20) ≠ glyphOf (v₂.text.getD c 0x20) := by
  have hsends : ∀ v : Voltage,
      SendsData dev v.text (0x40 :: glyphsOf v.text (ssd1306MaxChars dev.scrWidth)) := by
    intro v
    apply sendsData_glyphs
    apply sendsGlyphs_of_font hready hchars
    exact fun ch hch => v.not_behindFont ch (List.mem_of_mem_take hch)
  have hglyphs : (∃ c < ssd1306MaxChars dev.scrWidth,
      glyphOf (v₁.text.getD c 0x20) ≠ glyphOf (v₂.text.getD c 0x20)) ↔
        glyphsOf v₁.text (ssd1306MaxChars dev.scrWidth) ≠
          glyphsOf v₂.text (ssd1306MaxChars dev.scrWidth) := by
    rw [Ne, glyphsOf_eq_iff]
    simp only [not_forall, exists_prop, ne_eq]
  rw [hglyphs]
  constructor
  · rintro ⟨data₁, data₂, hdata₁, hdata₂, hne⟩ hsame
    apply hne
    rw [hdata₁.unique (hsends v₁), hdata₂.unique (hsends v₂), hsame]
  · intro hne
    refine ⟨_, _, hsends v₁, hsends v₂, ?_⟩
    intro hsame
    exact hne (List.cons.inj hsame).2

/-- The longer of two lines shows its unit where the other is blank. -/
theorem exists_glyph_ne_of_length_lt {v₁ v₂ : Voltage} {n : Nat} (hfit : v₁.text.length ≤ n)
    (hlonger : v₂.text.length < v₁.text.length) :
    ∃ c < n, glyphOf (v₁.text.getD c 0x20) ≠ glyphOf (v₂.text.getD c 0x20) := by
  refine ⟨v₁.text.length - 1, by omega, ?_⟩
  rw [v₁.text_last, List.getD_eq_default _ _ (by omega)]
  decide

/-- On an initialised driver, for all voltages whose lines fit: the two lines are told apart exactly if
the buffer has room for the width, and the lines differ in their lengths or in a digit from 0 to 5. -/
theorem readings_told_apart_iff (dev : Ssd1306 β η) (hready : dev.isInitialized = true)
    (v₁ v₂ : Voltage) (hfit₁ : v₁.text.length ≤ ssd1306MaxChars dev.scrWidth)
    (hfit₂ : v₂.text.length ≤ ssd1306MaxChars dev.scrWidth) :
    ToldApart dev v₁.text v₂.text ↔
      dev.scrWidth < 136 ∧
        (v₁.text.length ≠ v₂.text.length ∨ DifferInLowDigit v₁.text v₂.text) := by
  rw [← maxChars_le_iff]
  by_cases hchars : ssd1306MaxChars dev.scrWidth ≤ 16
  · rw [toldApart_iff_glyphs hready hchars, and_iff_right hchars]
    by_cases hlength : v₁.text.length = v₂.text.length
    · rw [or_iff_right (not_not_intro hlength)]
      constructor
      · rintro ⟨c, -, hglyph⟩
        have hne : v₁.text.getD c 0x20 ≠ v₂.text.getD c 0x20 := fun h => hglyph (by rw [h])
        rcases v₁.text_getD v₂ hlength c with hsame | ⟨h₁, h₂⟩
        · exact absurd hsame hne
        · exact ⟨c, hne, (glyphOf_ne_iff h₁ h₂ hne).1 hglyph⟩
      · rintro ⟨c, hne, hlow⟩
        refine ⟨c, ?_, ?_⟩
        · -- behind both lines there is nothing to differ in
          by_contra hbehind
          apply hne
          rw [List.getD_eq_default _ _ (by omega), List.getD_eq_default _ _ (by omega)]
        · rcases v₁.text_getD v₂ hlength c with hsame | ⟨h₁, h₂⟩
          · exact absurd hsame hne
          · exact (glyphOf_ne_iff h₁ h₂ hne).2 hlow
    · refine iff_of_true ?_ (Or.inl hlength)
      rcases Nat.lt_or_gt_of_ne hlength with hlonger | hlonger
      · rcases exists_glyph_ne_of_length_lt hfit₂ hlonger with ⟨c, hc, hglyph⟩
        exact ⟨c, hc, hglyph.symm⟩
      · exact exists_glyph_ne_of_length_lt hfit₁ hlonger
  · refine iff_of_false ?_ fun h => hchars h.1
    rintro ⟨data, -, hdata, -⟩
    exact not_sendsData_of_full hready (Nat.lt_of_not_le hchars) _ _ hdata

/-- 1.67 V -/
def voltage167 : Voltage :=
  ⟨false, ascii "1", ascii "67", by decide, rfl, List.all_iff_forall_prop.1 (by decide)⟩

/-- 1.89 V -/
def voltage189 : Voltage :=
  ⟨false, ascii "1", ascii "89", by decide, rfl, List.all_iff_forall_prop.1 (by decide)⟩

theorem readings_told_apart_iff_board :
    ToldApart boardDriver voltage167.text voltage189.text ↔
      boardDriver.scrWidth < 136 ∧ (voltage167.text.length ≠ voltage189.text.length ∨
        DifferInLowDigit voltage167.text voltage189.text) :=
  readings_told_apart_iff boardDriver rfl voltage167 voltage189 (by decide) (by decide)

/-- The two lines differ, fit the panel of the board, and look the same on it. -/
theorem two_voltages_look_the_same :
    voltage167.text ≠ voltage189.text ∧
      voltage167.text.length ≤ ssd1306MaxChars boardDriver.scrWidth ∧
      voltage189.text.length ≤ ssd1306MaxChars boardDriver.scrWidth ∧
      (∃ data, SendsData boardDriver voltage167.text data ∧
        SendsData boardDriver voltage189.text data) ∧
      ¬ToldApart boardDriver voltage167.text voltage189.text := by
  have hsends : ∀ v : Voltage, SendsData boardDriver v.text (0x40 :: glyphsOf v.text 16) := by
    intro v
    apply sendsData_glyphs
    apply sendsGlyphs_of_font rfl (by decide)
    exact fun ch hch => v.not_behindFont ch (List.mem_of_mem_take hch)
  have hsame : glyphsOf voltage167.text 16 = glyphsOf voltage189.text 16 := by
    decide
  refine ⟨by decide, by decide, by decide, ⟨_, hsends voltage167, ?_⟩, ?_⟩
  · rw [hsame]
    exact hsends voltage189
  · rintro ⟨data₁, data₂, hdata₁, hdata₂, hne⟩
    apply hne
    rw [hdata₁.unique (hsends voltage167), hdata₂.unique (hsends voltage189), hsame]

end MainboardFirmware
