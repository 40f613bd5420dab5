import MainboardFirmware.Network.Topics
import MainboardFirmware.System.Heartbeat
import MainboardFirmware.Tasks.Sensor

/-!
# Telemetry — what `task_network_telemetry` publishes

The task looks at the connection, peeks the newest sample and publishes it with a running number; any
other task or event handler may run in between, and the client may refuse the message. What a reader of
the topic gets over every interleaving: JSON texts whose numbers count the publishes tried, a refused one
leaving a gap, with samples that never go back in time. After the connection is lost at most the message
that was under way is still published.
-/

namespace MainboardFirmware

open Machine Json

variable {V : Type*}

/-! ## The task -/

/-- What the MQTT client is asked to publish. -/
structure Publication where
  topic : CString
  payload : CString
  qos : Nat
  retain : Bool
  deriving DecidableEq, Repr

/-- The size of `payload`. -/
def telemetryPayloadSize : Nat := 128

/-- `snprintf` into `payload`. -/
def telemetryPayload (values : SensorValues V) (seq : UInt32) (value : V) : CString :=
  (ascii "\x7b\"seq\":\"" ++ decimal seq.toNat ++ ascii "\",\"sensor_v\":" ++ values.fixed2 value ++
    ascii ",\"status\":\"OK\"\x7d").take (telemetryPayloadSize - 1)

/-- Where `task_network_telemetry` is in its loop. -/
inductive TelemetryPc (V : Type*)
  | check
  | peek
  /-- there were `seen` samples at the peek -/
  | publish (reading : SensorReading V) (seen : Nat)
  deriving DecidableEq, Repr

/-- A publish of the task. -/
structure TelemetryMessage where
  publication : Publication
  /-- how many samples there were at its peek -/
  seen : Nat
  /-- what `esp_mqtt_client_publish` answered -/
  msgId : Int
  deriving DecidableEq, Repr

/-- The client took it: an identifier of a message is not negative. -/
def TelemetryMessage.taken (m : TelemetryMessage) : Bool :=
  decide (0 ≤ m.msgId)

structure TelemetrySystem (V : Type*) where
  board : TaskBoard V
  net : NetworkModule
  pc : TelemetryPc V
  txCount : UInt32
  /-- what the MQTT client was asked for, in order -/
  sent : List TelemetryMessage

def TelemetrySystem.initial (V : Type*) (net : NetworkModule) : TelemetrySystem V :=
  ⟨.initial V, net, .check, 0, []⟩

/-- What gets onto the topic. -/
def TelemetrySystem.taken (s : TelemetrySystem V) : List TelemetryMessage :=
  s.sent.filter TelemetryMessage.taken

/-- The next step of `task_network_telemetry`, in which the client answers `msgId` if it is asked; the
delays only separate the rounds. -/
def taskNetworkTelemetry (values : SensorValues V) (msgId : Int) (s : TelemetrySystem V) :
    TelemetrySystem V :=
  match s.pc with
  | .check =>
      if s.net.manager.mqttConnected = true then { s with pc := .peek } else s
  | .peek =>
      match s.board.comm with
      | none => { s with pc := .check }
      | some reading => { s with pc := .publish reading s.board.samples.length }
  | .publish reading seen =>
      -- what the client answers is only logged, the number is used up either way
      { s with
        pc := .check
        txCount := s.txCount + 1
        sent := s.sent ++
          [⟨⟨s.net.topicTelemetry, telemetryPayload values s.txCount reading.value, 1, false⟩, seen,
            msgId⟩] }

/-- What a handler asks of `app_transport_command`. -/
def forwardCommand (board : TaskBoard V) : NetworkCall → TaskBoard V
  | .cmdCb topic data => remoteCommand topic data board
  | _ => board

/-- Which task or event handler runs next, and what the client answers the telemetry task. -/
inductive TelemetryMove (V : Type*)
  | task (move : TaskMove V)
  | wifi (event : WifiEvent)
  | mqtt (event : MqttEvent)
  | telemetry (msgId : Int)
  deriving DecidableEq, Repr

def telemetryStep (values : SensorValues V) (s : TelemetrySystem V) :
    TelemetryMove V → TelemetrySystem V
  | .task move => { s with board := taskStep values s.board move }
  | .wifi event =>
      { s with net := { s.net with manager := (wifiEventHandler event s.net.manager).1 } }
  | .mqtt event =>
      let r := mqttEventHandler event s.net.manager
      { s with
        net := { s.net with manager := r.1 }
        board := r.2.foldl forwardCommand s.board }
  | .telemetry msgId => taskNetworkTelemetry values msgId s

/-! ## What `%.2f` prints -/

/-- A number with two decimals, not larger than a `float` can be. -/
structure Fixed2 where
  negative : Bool
  whole : Nat
  hundredths : Nat
  whole_lt : whole < 10 ^ 39
  hundredths_lt : hundredths < 100

namespace Fixed2

def text (d : Fixed2) : CString :=
  (if d.negative = true then ascii "-" else []) ++ decimal d.whole ++ ascii "." ++
    decimal (d.hundredths / 10) ++ decimal (d.hundredths % 10)

def value (d : Fixed2) : ℚ :=
  (if d.negative = true then -1 else 1) * (d.whole + d.hundredths / 100)

end Fixed2

/-! ## A payload and its reader -/

/-- A reader gets the number, the value and the status. -/
def TelemetryReads (seq : Nat) (value : ℚ) (payload : CString) : Prop :=
  parseUtf8 payload = some (.object [
    ("seq".toList, .string (numeral seq)),
    ("sensor_v".toList, .number value),
    ("status".toList, .string "OK".toList)])

/-- The two decimals. -/
def Fixed2.decimals (d : Fixed2) : List Char :=
  [Nat.digitChar (d.hundredths / 10), Nat.digitChar (d.hundredths % 10)]

def Fixed2.chars (d : Fixed2) : List Char :=
  (if d.negative = true then ['-'] else []) ++ numeral d.whole ++ '.' :: d.decimals

theorem numeral_digit {n : Nat} (hn : n < 10) : numeral n = [Nat.digitChar n] := by
  interval_cases n <;> rfl

theorem Fixed2.text_eq_utf8 (d : Fixed2) : d.text = utf8 d.chars := by
  have hd := d.hundredths_lt
  have htens : numeral (d.hundredths / 10) = [Nat.digitChar (d.hundredths / 10)] :=
    numeral_digit (by omega)
  have hones : numeral (d.hundredths % 10) = [Nat.digitChar (d.hundredths % 10)] :=
    numeral_digit (by omega)
  have hsign : (if d.negative = true then ascii "-" else []) =
      utf8 (if d.negative = true then ['-'] else []) := by
    cases d.negative <;> rfl
  have hchars : d.chars = (if d.negative = true then ['-'] else []) ++ numeral d.whole ++
      ".".toList ++ numeral (d.hundredths / 10) ++ numeral (d.hundredths % 10) := by
    rw [htens, hones]
    simp [chars, decimals]
  rw [hchars, text, utf8_append, utf8_append, utf8_append, utf8_append, hsign, decimal_eq_utf8,
    decimal_eq_utf8, decimal_eq_utf8, ascii_eq_utf8 (by decide)]

theorem Fixed2.text_length_le (d : Fixed2) : d.text.length ≤ 43 := by
  have hd := d.hundredths_lt
  have hwhole : (decimal d.whole).length ≤ 39 := decimal_length_le (by decide) d.whole_lt
  have htens : (decimal (d.hundredths / 10)).length ≤ 1 :=
    decimal_length_le (by decide) (by omega)
  have hones : (decimal (d.hundredths % 10)).length ≤ 1 :=
    decimal_length_le (by decide) (by omega)
  have hsign : (if d.negative = true then ascii "-" else []).length ≤ 1 := by
    cases d.negative <;> decide
  have hpoint : (ascii ".").length = 1 := by decide
  simp only [text, List.length_append]
  omega

/-- The value is read with its sign. -/
theorem readValue_fixed2 (d : Fixed2) (k : Nat) {c : Char} (hc : EndsNumber c) (rest : List Char) :
    readValue (k + 1) (d.chars ++ c :: rest) = some (.number d.value, c :: rest) := by
  have hd := d.hundredths_lt
  have hdigit : ∀ n < 10, (Nat.digitChar n).isDigit = true ∧
      (Nat.digitChar n).toNat - '0'.toNat = n := by
    decide
  have htens := hdigit (d.hundredths / 10) (by omega)
  have hones := hdigit (d.hundredths % 10) (by omega)
  have hdigits : ∀ c ∈ d.decimals, c.isDigit = true := by
    simp [Fixed2.decimals, htens.1, hones.1]
  have hnat : natOf d.decimals = d.hundredths := by
    simp only [Fixed2.decimals, natOf, List.foldl_cons, List.foldl_nil, htens.2, hones.2]
    omega
  have hne : d.decimals ≠ [] := List.cons_ne_nil _ _
  have hunsigned := readUnsigned_decimals d.whole hne hdigits hc rest
  rw [hnat] at hunsigned
  have hlength : (10 : ℚ) ^ d.decimals.length = 100 := by
    norm_num [Fixed2.decimals]
  rw [hlength] at hunsigned
  cases hsign : d.negative with
  | false =>
      rcases numeral_head d.whole with ⟨n, hn, cs, heq, -⟩
      simp only [Fixed2.chars, Fixed2.value, hsign, Bool.false_eq_true, if_false, List.nil_append,
        List.append_assoc, List.cons_append, one_mul]
      rw [heq, List.cons_append] at hunsigned ⊢
      rw [readValue_digit hn, hunsigned]
      rfl
  | true =>
      simp only [Fixed2.chars, Fixed2.value, hsign, if_true, List.nil_append, List.append_assoc,
        List.cons_append, neg_mul, one_mul]
      have hnegative : readValue (k + 1)
          ('-' :: (numeral d.whole ++ '.' :: (d.decimals ++ c :: rest))) =
            ((readUnsigned (numeral d.whole ++ '.' :: (d.decimals ++ c :: rest))).map
              fun p => (-p.1, p.2)).map fun p => (.number p.1, p.2) := rfl
      rw [hnegative, hunsigned]
      rfl

theorem skipSpace_fixed2 (d : Fixed2) (rest : List Char) :
    skipSpace (d.chars ++ rest) = d.chars ++ rest := by
  cases hsign : d.negative with
  | false =>
      simp only [Fixed2.chars, hsign, Bool.false_eq_true, if_false, List.nil_append,
        List.append_assoc]
      exact skipSpace_numeral d.whole _
  | true =>
      simp only [Fixed2.chars, hsign, if_true, List.cons_append]
      rfl

/-- The payload as a text. -/
def telemetryText (seq : Nat) (d : Fixed2) : List Char :=
  "\x7b\"seq\":\"".toList ++ numeral seq ++ "\",\"sensor_v\":".toList ++ d.chars ++
    ",\"status\":\"OK\"\x7d".toList

/-- Behind the brace and the quote in front. -/
def telemetryMembers (seq : Nat) (d : Fixed2) : List Char :=
  "seq".toList ++ '"' :: ':' :: '"' :: (numeral seq ++ '"' :: ',' :: '"' ::
    ("sensor_v".toList ++ '"' :: ':' :: (d.chars ++ ',' :: '"' ::
      ("status".toList ++ '"' :: ':' :: '"' :: ("OK".toList ++ '"' :: ['\x7d'])))))

theorem telemetryText_eq (seq : Nat) (d : Fixed2) :
    telemetryText seq d = '\x7b' :: '"' :: telemetryMembers seq d := by
  unfold telemetryText
  rw [List.append_assoc, List.append_assoc, List.append_assoc]
  rfl

theorem verbatim_numeral (n : Nat) : ∀ c ∈ numeral n, Verbatim c := by
  intro c hc
  have hdigit := isDigit_numeral n c hc
  have hrange : 48 ≤ c.toNat ∧ c.toNat ≤ 57 := by
    simpa [Char.isDigit, UInt32.le_iff_toNat_le] using hdigit
  refine ⟨?_, ?_, ?_⟩
  · rintro rfl
    exact absurd hrange.1 (by decide)
  · rintro rfl
    exact absurd hrange.2 (by decide)
  · have hspace : ' '.toNat ≤ c.toNat := le_trans (by decide) hrange.1
    exact hspace

theorem parse_telemetryText (seq : Nat) (d : Fixed2) :
    parse (telemetryText seq d) = some (.object [("seq".toList, .string (numeral seq)),
      ("sensor_v".toList, .number d.value), ("status".toList, .string "OK".toList)]) := by
  have hseq : ∀ c ∈ "seq".toList, Verbatim c := List.all_iff_forall_prop.1 (by decide)
  have hvolt : ∀ c ∈ "sensor_v".toList, Verbatim c := List.all_iff_forall_prop.1 (by decide)
  have hstatus : ∀ c ∈ "status".toList, Verbatim c := List.all_iff_forall_prop.1 (by decide)
  have hok : ∀ c ∈ "OK".toList, Verbatim c := List.all_iff_forall_prop.1 (by decide)
  -- a string is read as it stands
  have hstring : ∀ {cs : List Char} (k : Nat) (rest : List Char), (∀ c ∈ cs, Verbatim c) →
      readValue (k + 1) ('"' :: (cs ++ '"' :: rest)) = some (.string cs, rest) := by
    intro cs k rest hcs
    rw [readValue_string, readString_verbatim hcs]
    rfl
  have hrounds : ∃ n, 2 * ((telemetryMembers seq d).length + 2) = n + 4 := by
    exact ⟨2 * (telemetryMembers seq d).length, by omega⟩
  rcases hrounds with ⟨n, hn⟩
  rw [telemetryText_eq, parse_object, hn, telemetryMembers,
    readMembers_cons hseq rfl (hstring _ _ (verbatim_numeral seq)),
    readMembers_cons hvolt (skipSpace_fixed2 d _) (readValue_fixed2 d _ endsNumber_comma _),
    readMembers_last hstatus rfl (hstring _ _ hok)]
  rfl

/-- Every payload fits, and its reader gets what was put in. -/
theorem telemetryPayload_reads {values : SensorValues V} {value : V} {d : Fixed2}
    (hvalue : values.fixed2 value = d.text) (seq : UInt32) :
    TelemetryReads seq.toNat d.value (telemetryPayload values seq value) := by
  have hseq : (decimal seq.toNat).length ≤ 10 :=
    decimal_length_le (by decide) (seq.toNat_lt.trans (by decide))
  have hlength := d.text_length_le
  have hparts : (ascii "\x7b\"seq\":\"").length = 8 ∧ (ascii "\",\"sensor_v\":").length = 13 ∧
      (ascii ",\"status\":\"OK\"\x7d").length = 15 := by
    decide
  have hwhole : telemetryPayload values seq value = utf8 (telemetryText seq.toNat d) := by
    unfold telemetryPayload telemetryText
    rw [hvalue, utf8_append, utf8_append, utf8_append, utf8_append, ← decimal_eq_utf8,
      ← d.text_eq_utf8, ← ascii_eq_utf8 (by decide), ← ascii_eq_utf8 (by decide),
      ← ascii_eq_utf8 (by decide)]
    apply List.take_of_length_le
    simp only [List.length_append, hparts, telemetryPayloadSize]
    omega
  rw [TelemetryReads, hwhole, parseUtf8_utf8, parse_telemetryText]

/-! ## Samples -/

section Steps

variable {values : SensorValues V}

/-- Samples are only added, and the mailbox has the newest. -/
theorem taskStep_samples (move : TaskMove V) {b : TaskBoard V} (hb : b.comm = b.samples.getLast?) :
    b.samples <+: (taskStep values b move).samples ∧
      (taskStep values b move).comm = (taskStep values b move).samples.getLast? := by
  cases move with
  | sensor answer =>
      simp only [taskStep, taskSensor]
      split
      next =>
        split
        · exact ⟨List.prefix_append _ _, by simp⟩
        · exact ⟨List.prefix_rfl, hb⟩
      next =>
        split <;> exact ⟨List.prefix_rfl, hb⟩
      next =>
        exact ⟨List.prefix_rfl, hb⟩
      next =>
        exact ⟨List.prefix_rfl, hb⟩
  | remote topic data =>
      exact ⟨List.prefix_rfl, hb⟩
  | ota text row =>
      exact ⟨List.prefix_rfl, hb⟩
  | actuator =>
      exact ⟨List.prefix_rfl, hb⟩
  | display =>
      exact ⟨List.prefix_rfl, hb⟩

/-- Commands concern neither. -/
theorem forwardCommands_samples (calls : List NetworkCall) (b : TaskBoard V) :
    (calls.foldl forwardCommand b).samples = b.samples ∧
      (calls.foldl forwardCommand b).comm = b.comm := by
  induction calls generalizing b with
  | nil =>
      exact ⟨rfl, rfl⟩
  | cons call calls ih =>
      rw [List.foldl_cons, (ih _).1, (ih _).2]
      cases call <;> exact ⟨rfl, rfl⟩

/-! ## What holds in every state -/

/-- Publish `i` is about the last sample it has seen. -/
def PublishedFrom (values : SensorValues V) (topic : CString) (samples : List (SensorReading V))
    (i : Nat) (m : TelemetryMessage) : Prop :=
  ∃ reading, 0 < m.seen ∧ samples[m.seen - 1]? = some reading ∧
    m.publication = ⟨topic, telemetryPayload values (UInt32.ofNat i) reading.value, 1, false⟩

structure TelemetryInv (values : SensorValues V) (topic : CString) (s : TelemetrySystem V) :
    Prop where
  topic_eq : s.net.topicTelemetry = topic
  mailbox : s.board.comm = s.board.samples.getLast?
  count_eq : s.txCount = UInt32.ofNat s.sent.length
  sorted : s.sent.Pairwise fun m m' => m.seen ≤ m'.seen
  seen_le : ∀ m ∈ s.sent, m.seen ≤ s.board.samples.length
  under_way : ∀ reading seen, s.pc = .publish reading seen →
    0 < seen ∧ s.board.samples[seen - 1]? = some reading ∧ ∀ m ∈ s.sent, m.seen ≤ seen
  sent_eq : ∀ (i : Nat) m, s.sent[i]? = some m →
    PublishedFrom values topic s.board.samples i m

variable {topic : CString} {s : TelemetrySystem V}

theorem telemetryInv_initial (values : SensorValues V) (net : NetworkModule) :
    TelemetryInv values net.topicTelemetry (.initial V net) where
  topic_eq := rfl
  mailbox := rfl
  count_eq := rfl
  sorted := List.Pairwise.nil
  seen_le := by simp [TelemetrySystem.initial]
  under_way := by simp [TelemetrySystem.initial]
  sent_eq := by simp [TelemetrySystem.initial]

theorem getElem?_of_prefix {α : Type*} {xs ys : List α} (h : xs <+: ys) {i : Nat} {x : α}
    (hx : xs[i]? = some x) : ys[i]? = some x := by
  rcases h with ⟨zs, rfl⟩
  rcases List.getElem?_eq_some_iff.1 hx with ⟨hi, -⟩
  rw [List.getElem?_append_left hi, hx]

/-- A step of another task or of an event handler. -/
theorem telemetryInv_others {b : TaskBoard V} {manager : NetworkManager}
    (hsamples : s.board.samples <+: b.samples) (hmailbox : b.comm = b.samples.getLast?)
    (hs : TelemetryInv values topic s) :
    TelemetryInv values topic { s with board := b, net := { s.net with manager } } where
  topic_eq := hs.topic_eq
  mailbox := hmailbox
  count_eq := hs.count_eq
  sorted := hs.sorted
  seen_le m hm := (hs.seen_le m hm).trans hsamples.length_le
  under_way reading seen hpc := by
    rcases hs.under_way reading seen hpc with ⟨hpos, hreading, hlate⟩
    exact ⟨hpos, getElem?_of_prefix hsamples hreading, hlate⟩
  sent_eq i m hm := by
    rcases hs.sent_eq i m hm with ⟨reading, hpos, hreading, heq⟩
    exact ⟨reading, hpos, getElem?_of_prefix hsamples hreading, heq⟩

theorem telemetryInv_pc (hs : TelemetryInv values topic s) {pc : TelemetryPc V}
    (hpc : ∀ reading seen, pc = .publish reading seen →
      0 < seen ∧ s.board.samples[seen - 1]? = some reading ∧ ∀ m ∈ s.sent, m.seen ≤ seen) :
    TelemetryInv values topic { s with pc } :=
  ⟨hs.topic_eq, hs.mailbox, hs.count_eq, hs.sorted, hs.seen_le, hpc, hs.sent_eq⟩

/-- The message that the client is asked for gets the next number. -/
theorem telemetryInv_publish {reading : SensorReading V} {seen : Nat} (msgId : Int)
    (hpc : s.pc = .publish reading seen) (hs : TelemetryInv values topic s) :
    TelemetryInv values topic (taskNetworkTelemetry values msgId s) := by
  rcases hs.under_way reading seen hpc with ⟨hpos, hreading, hlate⟩
  rcases List.getElem?_eq_some_iff.1 hreading with ⟨hseen, -⟩
  simp only [taskNetworkTelemetry, hpc]
  refine ⟨hs.topic_eq, hs.mailbox, ?_, ?_, ?_, by simp, ?_⟩
  · rw [hs.count_eq, List.length_append, List.length_singleton, UInt32.ofNat_add]
    rfl
  · rw [List.pairwise_append]
    exact ⟨hs.sorted, List.pairwise_singleton _ _, fun m hm m' hm' => by
      rw [List.mem_singleton.1 hm']
      exact hlate m hm⟩
  · intro m hm
    rcases List.mem_append.1 hm with hm | hm
    · exact hs.seen_le m hm
    · rw [List.mem_singleton.1 hm]
      simp only
      omega
  · intro i m hm
    by_cases hi : i < s.sent.length
    · rw [List.getElem?_append_left hi] at hm
      exact hs.sent_eq i m hm
    · -- the index of the last one is how many there were
      have hlast : i < (s.sent ++ _).length := (List.getElem?_eq_some_iff.1 hm).1
      rw [List.length_append, List.length_singleton] at hlast
      have hi' : i = s.sent.length := by omega
      subst hi'
      rw [List.getElem?_concat_length] at hm
      cases hm
      exact ⟨reading, hpos, hreading, by rw [hs.topic_eq, hs.count_eq]⟩

theorem taskNetworkTelemetry_inv (msgId : Int) (hs : TelemetryInv values topic s) :
    TelemetryInv values topic (taskNetworkTelemetry values msgId s) := by
  cases hpc : s.pc with
  | check =>
      simp only [taskNetworkTelemetry, hpc]
      split
      · exact telemetryInv_pc hs (by simp)
      · exact hs
  | peek =>
      simp only [taskNetworkTelemetry, hpc]
      split
      next =>
        exact telemetryInv_pc hs (by simp)
      next reading hcomm =>
        -- the newest sample is the last, and none published before is newer
        refine telemetryInv_pc hs fun reading' seen heq => ?_
        cases heq
        have hlast : s.board.samples.getLast? = some reading := hs.mailbox.symm.trans hcomm
        rw [List.getLast?_eq_getElem?] at hlast
        rcases List.getElem?_eq_some_iff.1 hlast with ⟨hpos, -⟩
        exact ⟨by omega, hlast, hs.seen_le⟩
  | publish reading seen =>
      exact telemetryInv_publish msgId hpc hs

theorem telemetryStep_inv (move : TelemetryMove V) (hs : TelemetryInv values topic s) :
    TelemetryInv values topic (telemetryStep values s move) := by
  cases move with
  | task move =>
      have hboard := @taskStep_samples V values move s.board hs.mailbox
      exact @telemetryInv_others V values topic s _ s.net.manager hboard.1 hboard.2 hs
  | wifi event =>
      exact telemetryInv_others List.prefix_rfl hs.mailbox hs
  | mqtt event =>
      rcases forwardCommands_samples (mqttEventHandler event s.net.manager).2 s.board with
        ⟨hsamples, hcomm⟩
      refine telemetryInv_others ?_ ?_ hs
      · rw [hsamples]
      · rw [hsamples, hcomm]
        exact hs.mailbox
  | telemetry msgId =>
      exact taskNetworkTelemetry_inv msgId hs

end Steps

/-! ## What a reader gets -/

/-- An element that a filter keeps stands behind those kept before it and those left out before it. -/
theorem exists_getElem?_of_filter {α : Type*} {p : α → Bool} {xs : List α} {j : Nat} {x : α}
    (hx : (xs.filter p)[j]? = some x) :
    ∃ i, xs[i]? = some x ∧ i = j + (xs.take i).countP fun y => !p y := by
  induction xs generalizing j with
  | nil =>
      simp at hx
  | cons y ys ih =>
      cases hy : p y with
      | false =>
          rw [List.filter_cons_of_neg (by simp [hy])] at hx
          rcases ih hx with ⟨i, hi, hcount⟩
          refine ⟨i + 1, hi, ?_⟩
          rw [List.take_succ_cons, List.countP_cons_of_pos (by simp [hy])]
          omega
      | true =>
          rw [List.filter_cons_of_pos hy] at hx
          cases j with
          | zero =>
              exact ⟨0, hx, rfl⟩
          | succ j =>
              rcases ih hx with ⟨i, hi, hcount⟩
              refine ⟨i + 1, hi, ?_⟩
              rw [List.take_succ_cons, List.countP_cons_of_neg (by simp [hy])]
              omega

/-- For every interleaving of the tasks and the event handlers and every answer of the MQTT client, with
values that print as decimals: the numbers on the telemetry topic count the publishes that were tried.
Message `j` on it is a JSON text whose number, modulo 2^32, is `j` and one more for each publish refused
before it, with the value of the sample that was the newest when it was peeked, and no message has an
older sample than the one before it. -/
theorem telemetry_of_every_run (values : SensorValues V) (fixed2 : V → Fixed2)
    (hvalues : ∀ value, values.fixed2 value = (fixed2 value).text) (net : NetworkModule)
    (as : List (TelemetryMove V)) :
    let s := run (telemetryStep values) (.initial V net) as
    (s.taken.Pairwise fun m m' => m.seen ≤ m'.seen) ∧
      ∀ (j : Nat) m, s.taken[j]? = some m →
        ∃ i, s.sent[i]? = some m ∧ i = j + ((s.sent.take i).countP fun m' => !m'.taken) ∧
          m.publication.topic = net.topicTelemetry ∧ 0 < m.seen ∧ ∃ reading,
            s.board.samples[m.seen - 1]? = some reading ∧
              TelemetryReads (i % 2 ^ 32) (fixed2 reading.value).value m.publication.payload := by
  intro s
  have hstep : ∀ (t : TelemetrySystem V) move, TelemetryInv values net.topicTelemetry t →
      TelemetryInv values net.topicTelemetry (telemetryStep values t move) := fun _ move ht =>
    telemetryStep_inv move ht
  have hs : TelemetryInv values net.topicTelemetry s :=
    inv_run hstep (telemetryInv_initial values net) as
  refine ⟨hs.sorted.sublist List.filter_sublist, fun j m hm => ?_⟩
  rcases exists_getElem?_of_filter hm with ⟨i, hi, hcount⟩
  rcases hs.sent_eq i m hi with ⟨reading, hpos, hreading, heq⟩
  have hreads := telemetryPayload_reads (hvalues reading.value) (UInt32.ofNat i)
  rw [UInt32.toNat_ofNat'] at hreads
  refine ⟨i, hi, hcount, ?_, hpos, reading, hreading, ?_⟩
  · rw [heq]
  · rw [heq]
    exact hreads

/-- The voltage 3.30, as the only value. -/
def threeThirty : Fixed2 :=
  ⟨false, 3, 30, by decide, by decide⟩

/-- A sample, a session and three publishes, of which the client refuses the second: the second message
on the topic has the number 2. -/
theorem telemetry_of_every_run_gap :
    let values : SensorValues Unit := ⟨fun _ => true, fun _ => ascii "3.30"⟩
    let as : List (TelemetryMove Unit) := [.task (.sensor (espOk, ⟨0, (), 200⟩)), .mqtt .connected,
      .telemetry 0, .telemetry 0, .telemetry 1, .telemetry 0, .telemetry 0, .telemetry (-1),
      .telemetry 0, .telemetry 0, .telemetry 2]
    let s := run (telemetryStep values) (.initial Unit .static) as
    s.sent.length = 3 ∧ s.taken.length = 2 ∧ ∀ m, s.taken[1]? = some m →
      TelemetryReads 2 threeThirty.value m.publication.payload := by
  intro values as s
  have hvalues : ∀ value, values.fixed2 value = threeThirty.text := fun _ => by
    change ascii "3.30" = threeThirty.text
    decide
  have hrun := telemetry_of_every_run values (fun _ => threeThirty) hvalues .static as
  refine ⟨by decide, by decide, fun m hm => ?_⟩
  rcases hrun.2 1 m hm with ⟨i, hi, hcount, -, -, -, -, hreads⟩
  have hshort : i < 3 := (List.getElem?_eq_some_iff.1 hi).1
  have htaken : s.sent[i]?.map TelemetryMessage.taken = some true := by
    rw [hi, Option.map_some, (List.mem_filter.1 (List.mem_of_getElem? hm)).2]
  have hplaces : ∀ i < 3, s.sent[i]?.map TelemetryMessage.taken = some true →
      i = 1 + ((s.sent.take i).countP fun m' => !m'.taken) → i = 2 := by
    decide
  have htwo : i = 2 := hplaces i hshort htaken hcount
  subst htwo
  exact hreads

/-! ## After the connection is lost -/

/-- How many messages are under way. -/
def TelemetryPc.underWay : TelemetryPc V → Nat
  | .check => 0
  | .peek => 1
  | .publish _ _ => 1

/-- The events that say that the connection is lost. -/
def TelemetryMove.Drops : TelemetryMove V → Prop
  | .wifi .staDisconnected => True
  | .mqtt .disconnected => True
  | _ => False

/-- Since `start` the connection has been down, and only what was under way was published. -/
structure DownSince (start s : TelemetrySystem V) : Prop where
  down : s.net.manager.mqttConnected = false
  sent_prefix : start.sent <+: s.sent
  bounded : s.sent.length + s.pc.underWay ≤ start.sent.length + start.pc.underWay

theorem drop_downSince (values : SensorValues V) (s : TelemetrySystem V) {drop : TelemetryMove V}
    (hdrop : drop.Drops) : DownSince s (telemetryStep values s drop) := by
  cases drop with
  | wifi event =>
      cases event with
      | staDisconnected =>
          exact ⟨rfl, List.prefix_rfl, le_rfl⟩
      | _ =>
          exact hdrop.elim
  | mqtt event =>
      cases event with
      | disconnected =>
          exact ⟨rfl, List.prefix_rfl, le_rfl⟩
      | _ =>
          exact hdrop.elim
  | task move =>
      exact hdrop.elim
  | telemetry msgId =>
      exact hdrop.elim

/-- Every step but a new session keeps it. -/
theorem telemetryStep_downSince {values : SensorValues V} {start s : TelemetrySystem V}
    {move : TelemetryMove V} (hs : DownSince start s) (hmove : move ≠ .mqtt .connected) :
    DownSince start (telemetryStep values s move) := by
  cases move with
  | task move =>
      exact ⟨hs.down, hs.sent_prefix, hs.bounded⟩
  | wifi event =>
      cases event with
      | staDisconnected =>
          exact ⟨rfl, hs.sent_prefix, hs.bounded⟩
      | _ =>
          exact ⟨hs.down, hs.sent_prefix, hs.bounded⟩
  | mqtt event =>
      cases event with
      | connected =>
          exact absurd rfl hmove
      | disconnected =>
          exact ⟨rfl, hs.sent_prefix, hs.bounded⟩
      | _ =>
          exact ⟨hs.down, hs.sent_prefix, hs.bounded⟩
  | telemetry msgId =>
      have hbounded := hs.bounded
      cases hpc : s.pc with
      | check =>
          -- the flag is down, so the task stays where it is
          simpa [telemetryStep, taskNetworkTelemetry, hpc, hs.down] using hs
      | peek =>
          simp only [hpc, TelemetryPc.underWay] at hbounded
          simp only [telemetryStep, taskNetworkTelemetry, hpc]
          split
          · exact ⟨hs.down, hs.sent_prefix, by simp only [TelemetryPc.underWay]; omega⟩
          · exact ⟨hs.down, hs.sent_prefix, hbounded⟩
      | publish reading seen =>
          simp only [hpc, TelemetryPc.underWay] at hbounded
          simp only [telemetryStep, taskNetworkTelemetry, hpc]
          exact ⟨hs.down, hs.sent_prefix.trans (List.prefix_append _ _),
            by simpa [TelemetryPc.underWay] using hbounded⟩

/-- For every interleaving: from the event that the connection is lost to the next session, whatever
else happens, the task asks the client for at most the one message that was under way. -/
theorem telemetry_stops_with_link (values : SensorValues V) (net : NetworkModule)
    (as bs : List (TelemetryMove V)) (drop : TelemetryMove V) (hdrop : drop.Drops)
    (hbs : ∀ b ∈ bs, b ≠ .mqtt .connected) :
    let t := run (telemetryStep values) (.initial V net) as
    let s := run (telemetryStep values) (.initial V net) (as ++ drop :: bs)
    t.sent <+: s.sent ∧ s.sent.length ≤ t.sent.length + t.pc.underWay ∧ t.pc.underWay ≤ 1 := by
  intro t s
  have hstep : ∀ (u : TelemetrySystem V) (move : TelemetryMove V), DownSince t u →
      move ≠ .mqtt .connected → DownSince t (telemetryStep values u move) := fun _ _ hu hmove =>
    telemetryStep_downSince hu hmove
  have hs : DownSince t s := by
    have heq : s = run (telemetryStep values) (telemetryStep values t drop) bs := by
      rw [← run_cons, ← run_append]
    rw [heq]
    exact inv_run_of_labels hstep (drop_downSince values t hdrop) hbs
  have hone : t.pc.underWay ≤ 1 := by
    cases t.pc <;> simp [TelemetryPc.underWay]
  exact ⟨hs.sent_prefix, (Nat.le_add_right _ _).trans hs.bounded, hone⟩

/-- WiFi drops between the peek and the publish: one message goes out, and no second one. -/
theorem telemetry_stops_with_link_one :
    let values : SensorValues Unit := ⟨fun _ => true, fun _ => ascii "3.30"⟩
    let as : List (TelemetryMove Unit) := [.task (.sensor (espOk, ⟨0, (), 200⟩)), .mqtt .connected,
      .telemetry 0, .telemetry 0]
    let bs : List (TelemetryMove Unit) := [.telemetry 1, .telemetry 0, .telemetry 0, .wifi .gotIp,
      .telemetry 0]
    let s := run (telemetryStep values) (.initial Unit .static)
      (as ++ .wifi .staDisconnected :: bs)
    s.sent.length = 1 ∧ s.sent.length ≤
      (run (telemetryStep values) (.initial Unit .static) as).sent.length + 1 := by
  intro values as bs s
  have hstop := telemetry_stops_with_link values .static as bs (.wifi .staDisconnected) trivial
    (by decide)
  exact ⟨by decide, hstop.2.1.trans (Nat.add_le_add_left hstop.2.2 _)⟩

end MainboardFirmware
