import Mathlib.Algebra.Field.Rat
import Mathlib.Data.Nat.Digits.Lemmas

/-!
# Json — the values of JSON texts

Each function reads what it is named after from the front of a text and returns the rest.

We provide:

* `parse` and `parseUtf8`: the value of a text, if it is a JSON text;
* `closeString_cases`: where a string ends that was meant to end at a certain quote;
* `unescape_eq_self_iff`: which strings are read as they stand;
* `readString_eq_self`: what a string is followed by that is read as it stands;
* `readValue_numeral`: a natural number in decimal is read as that number;
* `readMembers_cons`, `readMembers_last`: the members of an object, one by one.
-/

namespace MainboardFirmware

/-! ## Texts and bytes -/

/-- The bytes of a text. -/
def utf8 (text : List Char) : List UInt8 :=
  text.flatMap String.utf8EncodeChar

/-- The text of a byte sequence, if it is the encoding of one. -/
def ofUtf8 (bytes : List UInt8) : Option (List Char) :=
  bytes.toByteArray.utf8Decode?.map Array.toList

@[simp] theorem utf8_append (text text' : List Char) :
    utf8 (text ++ text') = utf8 text ++ utf8 text' := by
  simp [utf8]

@[simp] theorem ofUtf8_utf8 (text : List Char) : ofUtf8 (utf8 text) = some text := by
  have hencode : (utf8 text).toByteArray = text.utf8Encode := rfl
  simp [ofUtf8, hencode]

/-- A JSON value; the members of an object are in the order of the text. -/
inductive Json
  | null
  | bool (b : Bool)
  | number (q : ℚ)
  | string (text : List Char)
  | array (items : List Json)
  | object (members : List (List Char × Json))

namespace Json

def isSpace (c : Char) : Bool :=
  c = ' ' || c = '\t' || c = '\n' || c = '\r'

def skipSpace (cs : List Char) : List Char :=
  cs.dropWhile isSpace

/-! ## Strings -/

/-- A character that stands for itself in a string. -/
def Verbatim (c : Char) : Prop :=
  c ≠ '"' ∧ c ≠ '\\' ∧ ' ' ≤ c

instance (c : Char) : Decidable (Verbatim c) :=
  inferInstanceAs (Decidable (_ ∧ _))

/-- What a string holds up to the quote that closes it. -/
def closeString : List Char → Option (List Char × List Char)
  | [] => none
  | '"' :: cs => some ([], cs)
  | '\\' :: c :: cs => (closeString cs).map fun p => ('\\' :: c :: p.1, p.2)
  | c :: cs => (closeString cs).map fun p => (c :: p.1, p.2)

def hexDigit (c : Char) : Option Nat :=
  if '0' ≤ c ∧ c ≤ '9' then some (c.toNat - '0'.toNat)
  else if 'a' ≤ c ∧ c ≤ 'f' then some (c.toNat - 'a'.toNat + 10)
  else if 'A' ≤ c ∧ c ≤ 'F' then some (c.toNat - 'A'.toNat + 10)
  else none

def hex4 : List Char → Option (Nat × List Char)
  | a :: b :: c :: d :: cs => do
      let a ← hexDigit a
      let b ← hexDigit b
      let c ← hexDigit c
      let d ← hexDigit d
      some (((a * 16 + b) * 16 + c) * 16 + d, cs)
  | _ => none

/-- Behind `\u`: a code unit, or the two of a surrogate pair. -/
def codeUnits (cs : List Char) : Option (Char × List Char) :=
  match hex4 cs with
  | none => none
  | some (high, cs) =>
      if high < 0xD800 ∨ 0xE000 ≤ high then
        some (Char.ofNat high, cs)
      else
        match cs with
        | '\\' :: 'u' :: cs =>
            match hex4 cs with
            | none => none
            | some (low, cs) =>
                if high < 0xDC00 ∧ 0xDC00 ≤ low ∧ low < 0xE000 then
                  some (Char.ofNat (0x10000 + (high - 0xD800) * 0x400 + (low - 0xDC00)), cs)
                else
                  none
        | _ => none

/-- Behind a backslash. -/
def escape : List Char → Option (Char × List Char)
  | '"' :: cs => some ('"', cs)
  | '\\' :: cs => some ('\\', cs)
  | '/' :: cs => some ('/', cs)
  | 'b' :: cs => some ('\x08', cs)
  | 'f' :: cs => some ('\x0c', cs)
  | 'n' :: cs => some ('\n', cs)
  | 'r' :: cs => some ('\r', cs)
  | 't' :: cs => some ('\t', cs)
  | 'u' :: cs => codeUnits cs
  | _ => none

def stringChar : List Char → Option (Char × List Char)
  | [] => none
  | c :: cs => if c = '\\' then escape cs else if Verbatim c then some (c, cs) else none

/-- The characters that the inside of a string stands for; as many rounds as characters are enough. -/
def unescape : Nat → List Char → Option (List Char)
  | _, [] => some []
  | 0, _ :: _ => none
  | n + 1, c :: cs =>
      match stringChar (c :: cs) with
      | none => none
      | some (c', cs') => (unescape n cs').map (c' :: ·)

/-- Behind the opening quote. -/
def readString (cs : List Char) : Option (List Char × List Char) :=
  match closeString cs with
  | none => none
  | some (inside, rest) => (unescape inside.length inside).map fun text => (text, rest)

/-! ## Numbers -/

def natOf (ds : List Char) : Nat :=
  ds.foldl (fun n c => 10 * n + (c.toNat - '0'.toNat)) 0

def readFraction : List Char → Option (List Char × List Char)
  | '.' :: cs =>
      if cs.takeWhile Char.isDigit = [] then none
      else some (cs.takeWhile Char.isDigit, cs.dropWhile Char.isDigit)
  | cs => some ([], cs)

def readExponent : List Char → Option (Int × List Char)
  | [] => some (0, [])
  | c :: cs =>
      if c = 'e' ∨ c = 'E' then
        let (sign, cs) : Int × List Char :=
          match cs with
          | '-' :: cs => (-1, cs)
          | '+' :: cs => (1, cs)
          | cs => (1, cs)
        if cs.takeWhile Char.isDigit = [] then none
        else some (sign * natOf (cs.takeWhile Char.isDigit), cs.dropWhile Char.isDigit)
      else
        some (0, c :: cs)

/-- Digits without a leading zero, and with a fraction and an exponent if they are there. -/
def readUnsigned (cs : List Char) : Option (ℚ × List Char) :=
  let whole := cs.takeWhile Char.isDigit
  if whole = [] ∨ (whole.head? = some '0' ∧ whole ≠ ['0']) then
    none
  else
    match readFraction (cs.dropWhile Char.isDigit) with
    | none => none
    | some (frac, cs) =>
        match readExponent cs with
        | none => none
        | some (exp, cs) => some (natOf (whole ++ frac) * 10 ^ (exp - frac.length), cs)

def readNumber : List Char → Option (ℚ × List Char)
  | '-' :: cs => (readUnsigned cs).map fun p => (-p.1, p.2)
  | cs => readUnsigned cs

/-! ## Values -/

mutual

/-- A value without space in front; `n` bounds the rounds. -/
def readValue : Nat → List Char → Option (Json × List Char)
  | 0, _ => none
  | n + 1, cs =>
      match cs with
      | '"' :: cs => (readString cs).map fun p => (.string p.1, p.2)
      | '\x7b' :: cs =>
          match skipSpace cs with
          | '\x7d' :: rest => some (.object [], rest)
          | cs => (readMembers n cs).map fun p => (.object p.1, p.2)
      | '[' :: cs =>
          match skipSpace cs with
          | ']' :: rest => some (.array [], rest)
          | cs => (readElements n cs).map fun p => (.array p.1, p.2)
      | 't' :: 'r' :: 'u' :: 'e' :: rest => some (.bool true, rest)
      | 'f' :: 'a' :: 'l' :: 's' :: 'e' :: rest => some (.bool false, rest)
      | 'n' :: 'u' :: 'l' :: 'l' :: rest => some (.null, rest)
      | cs => (readNumber cs).map fun p => (.number p.1, p.2)

/-- The elements of an array that has some, up to its bracket. -/
def readElements : Nat → List Char → Option (List Json × List Char)
  | 0, _ => none
  | n + 1, cs =>
      match readValue n cs with
      | none => none
      | some (item, cs) =>
          match skipSpace cs with
          | ']' :: rest => some ([item], rest)
          | ',' :: cs => (readElements n (skipSpace cs)).map fun p => (item :: p.1, p.2)
          | _ => none

/-- The members of an object that has some, up to its brace. -/
def readMembers : Nat → List Char → Option (List (List Char × Json) × List Char)
  | 0, _ => none
  | n + 1, cs =>
      match cs with
      | '"' :: cs =>
          match readString cs with
          | none => none
          | some (key, cs) =>
              match skipSpace cs with
              | ':' :: cs =>
                  match readValue n (skipSpace cs) with
                  | none => none
                  | some (item, cs) =>
                      match skipSpace cs with
                      | '\x7d' :: rest => some ([(key, item)], rest)
                      | ',' :: cs =>
                          (readMembers n (skipSpace cs)).map fun p => ((key, item) :: p.1, p.2)
                      | _ => none
              | _ => none
      | _ => none

end

/-- One value with space around it; each bracket and each comma takes two rounds at most. -/
def parse (cs : List Char) : Option Json :=
  match readValue (2 * cs.length + 1) (skipSpace cs) with
  | none => none
  | some (v, rest) => if skipSpace rest = [] then some v else none

/-- The value of a text that comes as bytes. -/
def parseUtf8 (bytes : List UInt8) : Option Json :=
  (ofUtf8 bytes).bind parse

theorem parseUtf8_utf8 (text : List Char) : parseUtf8 (utf8 text) = parse text := by
  rw [parseUtf8, ofUtf8_utf8, Option.bind_some]

/-! ## Where a string ends -/

theorem closeString_cons {c : Char} (hquote : c ≠ '"') (hescape : c ≠ '\\') (cs : List Char) :
    closeString (c :: cs) = (closeString cs).map fun p => (c :: p.1, p.2) :=
  closeString.eq_4 c cs hquote fun _ _ h => absurd h hescape

/-- A string that is followed by a quote ends before it, at it, or where a string behind it would. -/
theorem closeString_cases (cs rest : List Char) :
    (∃ inside cs', cs = inside ++ '"' :: cs' ∧
      closeString (cs ++ '"' :: rest) = some (inside, cs' ++ '"' :: rest)) ∨
    closeString (cs ++ '"' :: rest) = some (cs, rest) ∨
    closeString (cs ++ '"' :: rest) =
      (closeString rest).map fun p => (cs ++ '"' :: p.1, p.2) := by
  induction cs using closeString.induct with
  | case1 =>
      exact Or.inr (Or.inl rfl)
  | case2 cs =>
      exact Or.inl ⟨[], cs, rfl, rfl⟩
  | case3 c cs ih =>
      simp only [List.cons_append, closeString]
      rcases ih with ⟨inside, cs', rfl, heq⟩ | heq | heq
      · exact Or.inl ⟨'\\' :: c :: inside, cs', rfl, by rw [heq]; rfl⟩
      · exact Or.inr (Or.inl (by rw [heq]; rfl))
      · refine Or.inr (Or.inr ?_)
        rw [heq, Option.map_map]
        rfl
  | case4 c cs hquote hescape ih =>
      by_cases hc : c = '\\'
      · -- a backslash at the end takes the quote along
        subst hc
        cases cs with
        | nil =>
            exact Or.inr (Or.inr rfl)
        | cons c' cs =>
            exact absurd rfl (hescape c' cs rfl)
      · simp only [List.cons_append, closeString_cons hquote hc]
        rcases ih with ⟨inside, cs', rfl, heq⟩ | heq | heq
        · exact Or.inl ⟨c :: inside, cs', rfl, by rw [heq]; rfl⟩
        · exact Or.inr (Or.inl (by rw [heq]; rfl))
        · refine Or.inr (Or.inr ?_)
          rw [heq, Option.map_map]
          rfl

theorem closeString_verbatim {cs : List Char} (hverbatim : ∀ c ∈ cs, Verbatim c) (rest : List Char) :
    closeString (cs ++ '"' :: rest) = some (cs, rest) := by
  induction cs with
  | nil =>
      rfl
  | cons c cs ih =>
      have hc : Verbatim c := hverbatim c List.mem_cons_self
      rw [List.cons_append, closeString_cons hc.1 hc.2.1,
        ih fun c' hc' => hverbatim c' (List.mem_cons_of_mem c hc')]
      rfl

/-! ## What a string stands for -/

theorem hex4_length {cs cs' : List Char} {u : Nat} (h : hex4 cs = some (u, cs')) :
    cs'.length < cs.length := by
  unfold hex4 at h
  split at h
  · simp only [Option.bind_eq_bind, Option.bind_eq_some_iff, Option.some.injEq, Prod.mk.injEq] at h
    rcases h with ⟨-, -, -, -, -, -, -, -, -, rfl⟩
    simp only [List.length_cons]
    omega
  · exact absurd h (by simp)

theorem codeUnits_length {cs cs' : List Char} {c : Char} (h : codeUnits cs = some (c, cs')) :
    cs'.length < cs.length := by
  unfold codeUnits at h
  cases hhigh : hex4 cs with
  | none =>
      rw [hhigh] at h
      exact absurd h (by simp)
  | some p =>
      rcases p with ⟨high, cs₁⟩
      have hlength := hex4_length hhigh
      simp only [hhigh] at h
      split at h
      · simp only [Option.some.injEq, Prod.mk.injEq] at h
        rw [← h.2]
        exact hlength
      split at h
      · rename_i cs₂
        cases hlow : hex4 cs₂ with
        | none =>
            rw [hlow] at h
            exact absurd h (by simp)
        | some p =>
            rcases p with ⟨low, cs₃⟩
            have hlength' := hex4_length hlow
            simp only [hlow] at h
            split at h
            · simp only [Option.some.injEq, Prod.mk.injEq] at h
              rw [← h.2]
              simp only [List.length_cons] at hlength
              omega
            · exact absurd h (by simp)
      · exact absurd h (by simp)

/-- An escape is longer than the character it stands for. -/
theorem escape_length {cs cs' : List Char} {c : Char} (h : escape cs = some (c, cs')) :
    cs'.length < cs.length := by
  unfold escape at h
  split at h
  case h_9 cs =>
    have hlength := codeUnits_length h
    simp only [List.length_cons]
    omega
  case h_10 =>
    exact absurd h (by simp)
  all_goals
    simp only [Option.some.injEq, Prod.mk.injEq] at h
    rw [← h.2]
    exact Nat.lt_succ_self _

/-- A character is read as it stands, or what is read is longer. -/
theorem stringChar_cases {c c' : Char} {cs cs' : List Char}
    (h : stringChar (c :: cs) = some (c', cs')) :
    (Verbatim c ∧ c' = c ∧ cs' = cs) ∨ cs'.length < cs.length := by
  simp only [stringChar] at h
  by_cases hescape : c = '\\'
  · rw [if_pos hescape] at h
    exact Or.inr (escape_length h)
  · rw [if_neg hescape] at h
    by_cases hverbatim : Verbatim c
    · rw [if_pos hverbatim] at h
      simp only [Option.some.injEq, Prod.mk.injEq] at h
      exact Or.inl ⟨hverbatim, h.1.symm, h.2.symm⟩
    · rw [if_neg hverbatim] at h
      exact absurd h (by simp)

/-- A string stands for at most as many characters as it has, and if for as many, then for its own. -/
theorem unescape_length {n : Nat} {cs text : List Char} (h : unescape n cs = some text) :
    text.length ≤ cs.length ∧ (text.length = cs.length → text = cs ∧ ∀ c ∈ cs, Verbatim c) := by
  induction n generalizing cs text with
  | zero =>
      cases cs with
      | nil =>
          have htext : [] = text := by
            simpa [unescape] using h
          simp [← htext]
      | cons c cs =>
          exact absurd h (by simp [unescape])
  | succ n ih =>
      cases cs with
      | nil =>
          have htext : [] = text := by
            simpa [unescape] using h
          simp [← htext]
      | cons c cs =>
          cases hchar : stringChar (c :: cs) with
          | none =>
              exact absurd h (by simp [unescape, hchar])
          | some p =>
              rcases p with ⟨c', cs'⟩
              simp only [unescape, hchar, Option.map_eq_some_iff] at h
              rcases h with ⟨text, htext, rfl⟩
              rcases ih htext with ⟨hle, heq⟩
              rcases stringChar_cases hchar with ⟨hverbatim, rfl, rfl⟩ | hshorter
              · refine ⟨Nat.succ_le_succ hle, ?_⟩
                intro hlength
                rcases heq (Nat.succ.inj hlength) with ⟨rfl, hall⟩
                exact ⟨rfl, List.forall_mem_cons.2 ⟨hverbatim, hall⟩⟩
              · simp only [List.length_cons]
                constructor
                · omega
                · intro hlength
                  omega

theorem unescape_verbatim {cs : List Char} (hverbatim : ∀ c ∈ cs, Verbatim c) :
    unescape cs.length cs = some cs := by
  induction cs with
  | nil =>
      rfl
  | cons c cs ih =>
      rcases List.forall_mem_cons.1 hverbatim with ⟨hc, hcs⟩
      have hchar : stringChar (c :: cs) = some (c, cs) := by
        simp only [stringChar, hc.2.1, if_false, hc, if_true]
      simp only [List.length_cons, unescape, hchar, ih hcs, Option.map_some]

/-- A string is read as it stands exactly if its characters stand for themselves. -/
theorem unescape_eq_self_iff (cs : List Char) :
    unescape cs.length cs = some cs ↔ ∀ c ∈ cs, Verbatim c :=
  ⟨fun h => ((unescape_length h).2 rfl).2, unescape_verbatim⟩

theorem readString_verbatim {cs : List Char} (hverbatim : ∀ c ∈ cs, Verbatim c) (rest : List Char) :
    readString (cs ++ '"' :: rest) = some (cs, rest) := by
  simp only [readString, closeString_verbatim hverbatim, unescape_verbatim hverbatim, Option.map_some]

/-- A string is never read as more characters than stand before its end, so one that is read as what
stands before a quote consists of such characters, or goes on behind that quote. -/
theorem readString_eq_self {cs rest rest' : List Char}
    (h : readString (cs ++ '"' :: rest) = some (cs, rest')) :
    (∀ c ∈ cs, Verbatim c) ∨ ∃ inside, closeString rest = some (inside, rest') := by
  unfold readString at h
  rcases closeString_cases cs rest with ⟨inside, cs', hcs, heq⟩ | heq | heq
  · -- it ends before the quote, and is too short
    simp only [heq, Option.map_eq_some_iff, Prod.mk.injEq] at h
    rcases h with ⟨text, htext, rfl, -⟩
    have hlength := (unescape_length htext).1
    rw [hcs, List.length_append, List.length_cons] at hlength
    omega
  · simp only [heq, Option.map_eq_some_iff, Prod.mk.injEq] at h
    rcases h with ⟨text, htext, rfl, -⟩
    exact Or.inl ((unescape_eq_self_iff text).1 htext)
  · right
    cases hclose : closeString rest with
    | none =>
        simp [heq, hclose] at h
    | some p =>
        simp only [heq, hclose, Option.map_some, Option.map_eq_some_iff, Prod.mk.injEq] at h
        rcases h with ⟨text, -, -, rfl⟩
        exact ⟨p.1, rfl⟩

/-! ## Numerals -/

/-- A natural number in decimal. -/
def numeral (n : Nat) : List Char :=
  if n = 0 then ['0'] else (Nat.digits 10 n).reverse.map Nat.digitChar

theorem natOf_concat (ds : List Char) (c : Char) :
    natOf (ds ++ [c]) = 10 * natOf ds + (c.toNat - '0'.toNat) := by
  simp [natOf]

theorem natOf_reverse_map {ds : List Nat} (hds : ∀ d ∈ ds, d < 10) :
    natOf (ds.reverse.map Nat.digitChar) = Nat.ofDigits 10 ds := by
  have hdigit : ∀ d < 10, (Nat.digitChar d).toNat - '0'.toNat = d := by
    decide
  induction ds with
  | nil =>
      rfl
  | cons d ds ih =>
      rcases List.forall_mem_cons.1 hds with ⟨hd, hrest⟩
      rw [List.reverse_cons, List.map_append, List.map_singleton, natOf_concat, ih hrest, hdigit d hd,
        Nat.ofDigits_cons, Nat.add_comm]

theorem natOf_numeral (n : Nat) : natOf (numeral n) = n := by
  by_cases hn : n = 0
  · rw [numeral, if_pos hn, hn]
    rfl
  · rw [numeral, if_neg hn, natOf_reverse_map fun d hd => Nat.digits_lt_base (by decide) hd,
      Nat.ofDigits_digits]

theorem isDigit_numeral (n : Nat) : ∀ c ∈ numeral n, c.isDigit = true := by
  have hdigit : ∀ d < 10, (Nat.digitChar d).isDigit = true := by
    decide
  intro c hc
  by_cases hn : n = 0
  · rw [numeral, if_pos hn, List.mem_singleton] at hc
    rw [hc]
    rfl
  · rw [numeral, if_neg hn, List.mem_map] at hc
    rcases hc with ⟨d, hd, rfl⟩
    exact hdigit d (Nat.digits_lt_base (by decide) (List.mem_reverse.1 hd))

/-- It begins with a digit, and with a zero only if it is one. -/
theorem numeral_head (n : Nat) :
    ∃ d < 10, ∃ cs, numeral n = Nat.digitChar d :: cs ∧ (d = 0 → cs = []) := by
  by_cases hn : n = 0
  · exact ⟨0, by decide, [], by rw [numeral, if_pos hn]; rfl, fun _ => rfl⟩
  · have hne : Nat.digits 10 n ≠ [] := Nat.digits_ne_nil_iff_ne_zero.2 hn
    have hlast := Nat.getLast_digit_ne_zero 10 hn
    refine ⟨(Nat.digits 10 n).getLast hne, ?_, ((Nat.digits 10 n).dropLast.reverse).map Nat.digitChar,
      ?_, fun h => absurd h hlast⟩
    · exact Nat.digits_lt_base (by decide) (List.getLast_mem hne)
    · rw [numeral, if_neg hn, ← List.map_cons]
      congr 1
      conv =>
        lhs
        rw [← List.dropLast_append_getLast hne]
      rw [List.reverse_append]
      rfl

/-- A numeral is no padded number. -/
theorem numeral_unpadded (n : Nat) :
    ¬(numeral n = [] ∨ ((numeral n).head? = some '0' ∧ numeral n ≠ ['0'])) := by
  have hzero : ∀ d < 10, Nat.digitChar d = '0' → d = 0 := by
    decide
  rcases numeral_head n with ⟨d, hd, cs, heq, hcs⟩
  rw [heq]
  rintro (hnil | ⟨hhead, hne⟩)
  · exact absurd hnil (by simp)
  · have hd0 : d = 0 := hzero d hd (Option.some.inj hhead)
    exact hne (by rw [hd0, hcs hd0]; rfl)

/-- What a number is not followed by if it ends there. -/
def EndsNumber (c : Char) : Prop :=
  c.isDigit = false ∧ c ≠ '.' ∧ c ≠ 'e' ∧ c ≠ 'E'

theorem readUnsigned_numeral (n : Nat) {c : Char} (hc : EndsNumber c) (rest : List Char) :
    readUnsigned (numeral n ++ c :: rest) = some ((n : ℚ), c :: rest) := by
  have htake : (numeral n ++ c :: rest).takeWhile Char.isDigit = numeral n := by
    rw [List.takeWhile_append_of_pos (isDigit_numeral n), List.takeWhile_cons_of_neg (by simp [hc.1]),
      List.append_nil]
  have hdrop : (numeral n ++ c :: rest).dropWhile Char.isDigit = c :: rest := by
    rw [List.dropWhile_append_of_pos (isDigit_numeral n), List.dropWhile_cons_of_neg (by simp [hc.1])]
  have hfraction : readFraction (c :: rest) = some ([], c :: rest) :=
    readFraction.eq_2 _ fun cs h => hc.2.1 (List.cons.inj h).1
  have hexponent : readExponent (c :: rest) = some (0, c :: rest) :=
    if_neg (not_or.2 hc.2.2)
  simp only [readUnsigned, htake, hdrop, if_neg (numeral_unpadded n), hfraction, hexponent, List.append_nil,
    natOf_numeral, List.length_nil, Nat.cast_zero, sub_zero, zpow_zero, mul_one]

/-- A text that begins with a digit is read as a number without a sign. -/
theorem readValue_digit {d : Nat} (hd : d < 10) (k : Nat) (cs : List Char) :
    readValue (k + 1) (Nat.digitChar d :: cs) =
      (readUnsigned (Nat.digitChar d :: cs)).map fun p => (.number p.1, p.2) := by
  interval_cases d <;> rfl

/-- A numeral is read as its number. -/
theorem readValue_numeral (k n : Nat) {c : Char} (hc : EndsNumber c) (rest : List Char) :
    readValue (k + 1) (numeral n ++ c :: rest) = some (.number n, c :: rest) := by
  have hunsigned := readUnsigned_numeral n hc rest
  rcases numeral_head n with ⟨d, hd, cs, heq, -⟩
  rw [heq, List.cons_append] at hunsigned ⊢
  rw [readValue_digit hd, hunsigned]
  rfl

theorem natOf_append (ds es : List Char) :
    natOf (ds ++ es) = natOf ds * 10 ^ es.length + natOf es := by
  induction es using List.reverseRecOn with
  | nil =>
      simp [natOf]
  | append_singleton es c ih =>
      rw [← List.append_assoc, natOf_concat, ih, natOf_concat, List.length_append,
        List.length_singleton, Nat.pow_succ]
      ring

/-- A numeral with decimals behind it is read as what they stand for together. -/
theorem readUnsigned_decimals (n : Nat) {decimals : List Char} (hne : decimals ≠ [])
    (hdigits : ∀ c ∈ decimals, c.isDigit = true) {c : Char} (hc : EndsNumber c) (rest : List Char) :
    readUnsigned (numeral n ++ '.' :: (decimals ++ c :: rest)) =
      some ((n : ℚ) + natOf decimals / 10 ^ decimals.length, c :: rest) := by
  have hpoint : ¬ '.'.isDigit = true := by decide
  have htake : (numeral n ++ '.' :: (decimals ++ c :: rest)).takeWhile Char.isDigit = numeral n := by
    rw [List.takeWhile_append_of_pos (isDigit_numeral n), List.takeWhile_cons_of_neg hpoint,
      List.append_nil]
  have hdrop : (numeral n ++ '.' :: (decimals ++ c :: rest)).dropWhile Char.isDigit =
      '.' :: (decimals ++ c :: rest) := by
    rw [List.dropWhile_append_of_pos (isDigit_numeral n), List.dropWhile_cons_of_neg hpoint]
  have htake' : (decimals ++ c :: rest).takeWhile Char.isDigit = decimals := by
    rw [List.takeWhile_append_of_pos hdigits, List.takeWhile_cons_of_neg (by simp [hc.1]),
      List.append_nil]
  have hdrop' : (decimals ++ c :: rest).dropWhile Char.isDigit = c :: rest := by
    rw [List.dropWhile_append_of_pos hdigits, List.dropWhile_cons_of_neg (by simp [hc.1])]
  have hfraction : readFraction ('.' :: (decimals ++ c :: rest)) = some (decimals, c :: rest) := by
    rw [readFraction, htake', hdrop', if_neg hne]
  have hexponent : readExponent (c :: rest) = some (0, c :: rest) :=
    if_neg (not_or.2 hc.2.2)
  have hten : (10 : ℚ) ^ decimals.length ≠ 0 := pow_ne_zero _ (by norm_num)
  have hvalue : ((natOf (numeral n ++ decimals) : ℕ) : ℚ) * 10 ^ ((0 : ℤ) - decimals.length) =
      n + natOf decimals / 10 ^ decimals.length := by
    rw [natOf_append, natOf_numeral, zero_sub, zpow_neg, zpow_natCast]
    push_cast
    rw [add_mul, mul_assoc, mul_inv_cancel₀ hten, mul_one, div_eq_mul_inv]
  simp only [readUnsigned, htake, hdrop, if_neg (numeral_unpadded n), hfraction, hexponent, hvalue]

theorem skipSpace_numeral (n : Nat) (rest : List Char) :
    skipSpace (numeral n ++ rest) = numeral n ++ rest := by
  rcases numeral_head n with ⟨d, hd, cs, heq, -⟩
  have hdigit : ∀ d < 10, isSpace (Nat.digitChar d) = false := by
    decide
  rw [heq, List.cons_append, skipSpace, List.dropWhile_cons_of_neg (by simp [hdigit d hd])]

/-! ## Objects -/

theorem readValue_string (n : Nat) (cs : List Char) :
    readValue (n + 1) ('"' :: cs) = (readString cs).map fun p => (.string p.1, p.2) := rfl

section Objects

variable {key : List Char} {n : Nat} {cs : List Char} {item : Json}

/-- The first member of an object, under a key that is read as it stands. -/
theorem readMembers_member (hkey : ∀ c ∈ key, Verbatim c) (hcs : skipSpace cs = cs) :
    readMembers (n + 1) ('"' :: (key ++ '"' :: ':' :: cs)) =
      match readValue n cs with
      | none => none
      | some (item, cs) =>
          match skipSpace cs with
          | '\x7d' :: rest => some ([(key, item)], rest)
          | ',' :: cs => (readMembers n (skipSpace cs)).map fun p => ((key, item) :: p.1, p.2)
          | _ => none := by
  have hcolon : skipSpace (':' :: cs) = ':' :: cs := rfl
  simp only [readMembers, readString_verbatim hkey, hcolon, hcs]

theorem readMembers_cons (hkey : ∀ c ∈ key, Verbatim c) (hcs : skipSpace cs = cs) {rest : List Char}
    (hitem : readValue n cs = some (item, ',' :: '"' :: rest)) :
    readMembers (n + 1) ('"' :: (key ++ '"' :: ':' :: cs)) =
      (readMembers n ('"' :: rest)).map fun p => ((key, item) :: p.1, p.2) := by
  rw [readMembers_member hkey hcs, hitem]
  rfl

theorem readMembers_last (hkey : ∀ c ∈ key, Verbatim c) (hcs : skipSpace cs = cs) {rest : List Char}
    (hitem : readValue n cs = some (item, '\x7d' :: rest)) :
    readMembers (n + 1) ('"' :: (key ++ '"' :: ':' :: cs)) = some ([(key, item)], rest) := by
  rw [readMembers_member hkey hcs, hitem]
  rfl

/-- If the first member is a string, what comes behind its quote is a comma or the end. -/
theorem readMembers_string {ms : List (List Char × Json)} {rest text : List Char}
    (hkey : ∀ c ∈ key, Verbatim c)
    (h : readMembers (n + 2) ('"' :: (key ++ '"' :: ':' :: '"' :: cs)) =
      some ((key, .string text) :: ms, rest)) :
    ∃ rest', readString cs = some (text, rest') ∧
      ((skipSpace rest').head? = some ',' ∨ (skipSpace rest').head? = some '\x7d') := by
  rw [readMembers_member hkey rfl, readValue_string] at h
  cases hread : readString cs with
  | none =>
      rw [hread] at h
      exact absurd h (by simp)
  | some p =>
      rcases p with ⟨text', rest'⟩
      simp only [hread, Option.map_some] at h
      split at h
      · rename_i hspace
        simp only [Option.some.injEq, Prod.mk.injEq, List.cons.injEq, string.injEq, true_and] at h
        rw [h.1.1]
        exact ⟨rest', rfl, Or.inr (by rw [hspace]; rfl)⟩
      · rename_i hspace
        simp only [Option.map_eq_some_iff, Prod.mk.injEq, List.cons.injEq, string.injEq,
          true_and] at h
        rcases h with ⟨_, -, ⟨rfl, -⟩, -⟩
        exact ⟨rest', rfl, Or.inl (by rw [hspace]; rfl)⟩
      · exact absurd h (by simp)

theorem parse_object (cs : List Char) :
    parse ('\x7b' :: '"' :: cs) =
      match readMembers (2 * (cs.length + 2)) ('"' :: cs) with
      | none => none
      | some (ms, rest) => if skipSpace rest = [] then some (.object ms) else none := by
  have hvalue : readValue (2 * (cs.length + 2) + 1) ('\x7b' :: '"' :: cs) =
      (readMembers (2 * (cs.length + 2)) ('"' :: cs)).map fun p => (.object p.1, p.2) := rfl
  have hspace : skipSpace ('\x7b' :: '"' :: cs) = '\x7b' :: '"' :: cs := rfl
  simp only [parse, List.length_cons, hspace, Nat.add_assoc] at hvalue ⊢
  rw [hvalue]
  cases readMembers (2 * (cs.length + 2)) ('"' :: cs) with
  | none =>
      rfl
  | some p =>
      rfl

end Objects

end Json
end MainboardFirmware
