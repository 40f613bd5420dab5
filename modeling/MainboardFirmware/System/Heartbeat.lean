import Mathlib.Data.Bool.AllAny
import MainboardFirmware.Library.Json
import MainboardFirmware.System.Supervisor

/-!
# Heartbeat — what a reader of a heartbeat gets

`build_heartbeat` prints its payload into a buffer that is large enough for all of them. It puts the
device id between quotes as it is, so the payload is the JSON text it is meant to be only for an id
without quotes, backslashes and control characters.
-/

namespace MainboardFirmware

open Json

/-! ## The length of a payload -/

theorem decimal_length_le {n k : Nat} (hk : 0 < k) (hn : n < 10 ^ k) : (decimal n).length ≤ k := by
  by_cases hzero : n = 0
  · rw [decimal, if_pos hzero]
    exact hk
  · rw [decimal, if_neg hzero, List.length_map, List.length_reverse]
    exact (Nat.digits_length_le_iff (by decide) n).2 hn

theorem heartbeatJson_length (sup : Supervisor) (stats : HealthStats) :
    (heartbeatJson sup stats).length = 58 + sup.deviceId.length +
      (decimal (stats.timerUs / 1000000).toUInt64.toNat).length +
      (decimal stats.freeHeap.toNat).length + (decimal stats.minFreeHeap.toNat).length := by
  have hdevice : (ascii "\x7b\"device_id\":\"").length = 14 := by
    decide
  have huptime : (ascii "\",\"uptime_s\":").length = 13 := by
    decide
  have hfree : (ascii ",\"free_heap\":").length = 13 := by
    decide
  have hmin : (ascii ",\"min_free_heap\":").length = 17 := by
    decide
  have hend : (ascii "\x7d").length = 1 := by
    decide
  simp only [heartbeatJson, List.length_append, hdevice, huptime, hfree, hmin, hend]
  omega

/-- Every payload fits, whatever the uptime and the heap. -/
theorem buildHeartbeat_fits {sup : Supervisor} (hid : sup.deviceId.length < systemSupDeviceIdMax)
    (stats : HealthStats) :
    buildHeartbeat sup stats systemSupHeartbeatMax =
      (((heartbeatJson sup stats).length : Int), heartbeatJson sup stats) := by
  have hlength := heartbeatJson_length sup stats
  have huptime : (decimal (stats.timerUs / 1000000).toUInt64.toNat).length ≤ 20 :=
    decimal_length_le (by decide) ((stats.timerUs / 1000000).toUInt64.toNat_lt.trans (by decide))
  have hfree : (decimal stats.freeHeap.toNat).length ≤ 10 :=
    decimal_length_le (by decide) (stats.freeHeap.toNat_lt.trans (by decide))
  have hmin : (decimal stats.minFreeHeap.toNat).length ≤ 10 :=
    decimal_length_le (by decide) (stats.minFreeHeap.toNat_lt.trans (by decide))
  rw [systemSupDeviceIdMax] at hid
  have hfits : 0 < (heartbeatJson sup stats).length ∧
      (heartbeatJson sup stats).length < systemSupHeartbeatMax := by
    rw [systemSupHeartbeatMax]
    omega
  simp only [buildHeartbeat, if_pos hfits, List.take_of_length_le (Nat.le_sub_one_of_lt hfits.2)]

/-! ## The text of a payload -/

/-- The payload for a device id that is the text `name`. -/
def heartbeatText (name : List Char) (uptime freeHeap minFreeHeap : Nat) : List Char :=
  "\x7b\"device_id\":\"".toList ++ name ++ "\",\"uptime_s\":".toList ++ numeral uptime ++
    ",\"free_heap\":".toList ++ numeral freeHeap ++ ",\"min_free_heap\":".toList ++
    numeral minFreeHeap ++ "\x7d".toList

theorem ascii_eq_utf8 {s : String} (hascii : s.toList.all (fun c => c.toNat < 0x80) = true) :
    ascii s = utf8 s.toList := by
  have hs : ∀ c ∈ s.toList, c.toNat < 0x80 := List.all_iff_forall_prop.1 hascii
  unfold ascii utf8
  generalize s.toList = cs at hs
  induction cs with
  | nil =>
      rfl
  | cons c cs ih =>
      rcases List.forall_mem_cons.1 hs with ⟨hc, hcs⟩
      have hsize : c.utf8Size = 1 := by
        rw [Char.utf8Size_eq_one_iff, UInt32.le_iff_toNat_le]
        exact Nat.le_of_lt_succ hc
      rw [List.map_cons, List.flatMap_cons, String.utf8EncodeChar_eq_singleton hsize, ih hcs]
      rfl

theorem digits_eq_utf8 {ds : List Nat} (hds : ∀ d ∈ ds, d < 10) :
    (ds.map fun d => 0x30 + d.toUInt8) = utf8 (ds.map Nat.digitChar) := by
  have hdigit : ∀ d < 10, String.utf8EncodeChar (Nat.digitChar d) = [0x30 + d.toUInt8] := by
    decide
  induction ds with
  | nil =>
      rfl
  | cons d ds ih =>
      rcases List.forall_mem_cons.1 hds with ⟨hd, hrest⟩
      rw [List.map_cons, List.map_cons, utf8, List.flatMap_cons, hdigit d hd, ← utf8, ← ih hrest]
      rfl

theorem decimal_eq_utf8 (n : Nat) : decimal n = utf8 (numeral n) := by
  by_cases hn : n = 0
  · rw [decimal, if_pos hn, numeral, if_pos hn]
    rfl
  · rw [decimal, if_neg hn, numeral, if_neg hn]
    apply digits_eq_utf8
    intro d hd
    exact Nat.digits_lt_base (by decide) (List.mem_reverse.1 hd)

theorem heartbeatJson_eq_utf8 {sup : Supervisor} {name : List Char} (hname : sup.deviceId = utf8 name)
    (stats : HealthStats) :
    heartbeatJson sup stats = utf8 (heartbeatText name (stats.timerUs / 1000000).toUInt64.toNat
      stats.freeHeap.toNat stats.minFreeHeap.toNat) := by
  unfold heartbeatJson heartbeatText
  rw [utf8_append, utf8_append, utf8_append, utf8_append, utf8_append, utf8_append, utf8_append,
    utf8_append, hname]
  rw [ascii_eq_utf8 (by decide), ascii_eq_utf8 (by decide), ascii_eq_utf8 (by decide),
    ascii_eq_utf8 (by decide), ascii_eq_utf8 (by decide)]
  rw [decimal_eq_utf8, decimal_eq_utf8, decimal_eq_utf8]

/-! ## Reading it -/

/-- A reader gets the device id and the three numbers. -/
def HeartbeatReads (id : CString) (stats : HealthStats) (json : CString) : Prop :=
  ∃ name, id = utf8 name ∧
    parseUtf8 json = some (.object [
      ("device_id".toList, .string name),
      ("uptime_s".toList, .number (stats.timerUs / 1000000).toUInt64.toNat),
      ("free_heap".toList, .number stats.freeHeap.toNat),
      ("min_free_heap".toList, .number stats.minFreeHeap.toNat)])

/-- Text without quotes, backslashes and control characters. -/
def PlainText (id : CString) : Prop :=
  ∃ name, id = utf8 name ∧ ∀ c ∈ name, Verbatim c

theorem endsNumber_comma : EndsNumber ',' := by
  unfold EndsNumber
  decide

theorem endsNumber_brace : EndsNumber '\x7d' := by
  unfold EndsNumber
  decide

/-- Behind the quote that closes the device id. -/
def heartbeatNumbers (uptime freeHeap minFreeHeap : Nat) : List Char :=
  ',' :: '"' :: ("uptime_s".toList ++ '"' :: ':' :: (numeral uptime ++
    ',' :: '"' :: ("free_heap".toList ++ '"' :: ':' :: (numeral freeHeap ++
      ',' :: '"' :: ("min_free_heap".toList ++ '"' :: ':' :: (numeral minFreeHeap ++ ['\x7d']))))))

/-- Behind the brace and the quote in front. -/
def heartbeatMembers (name : List Char) (uptime freeHeap minFreeHeap : Nat) : List Char :=
  "device_id".toList ++ '"' :: ':' :: '"' ::
    (name ++ '"' :: heartbeatNumbers uptime freeHeap minFreeHeap)

theorem heartbeatText_eq (name : List Char) (uptime freeHeap minFreeHeap : Nat) :
    heartbeatText name uptime freeHeap minFreeHeap =
      '\x7b' :: '"' :: heartbeatMembers name uptime freeHeap minFreeHeap := by
  unfold heartbeatText
  rw [List.append_assoc, List.append_assoc, List.append_assoc, List.append_assoc, List.append_assoc,
    List.append_assoc, List.append_assoc]
  rfl

/-- There are rounds for all four members. -/
theorem heartbeat_rounds (name : List Char) (uptime freeHeap minFreeHeap : Nat) :
    ∃ n, 2 * ((heartbeatMembers name uptime freeHeap minFreeHeap).length + 2) = n + 5 := by
  have hlength : 3 ≤ (heartbeatMembers name uptime freeHeap minFreeHeap).length := by
    unfold heartbeatMembers
    rw [List.length_append, List.length_cons, List.length_cons, List.length_cons]
    exact Nat.le_add_left_of_le (Nat.le_add_left 3 _)
  exact ⟨2 * ((heartbeatMembers name uptime freeHeap minFreeHeap).length + 2) - 5, by omega⟩

theorem readMembers_heartbeat {name : List Char} (hname : ∀ c ∈ name, Verbatim c)
    (uptime freeHeap minFreeHeap n : Nat) :
    readMembers (n + 5) ('"' :: heartbeatMembers name uptime freeHeap minFreeHeap) = some ([
      ("device_id".toList, .string name), ("uptime_s".toList, .number uptime),
      ("free_heap".toList, .number freeHeap),
      ("min_free_heap".toList, .number minFreeHeap)], []) := by
  have hdevice : ∀ c ∈ "device_id".toList, Verbatim c := List.all_iff_forall_prop.1 (by decide)
  have huptime : ∀ c ∈ "uptime_s".toList, Verbatim c := List.all_iff_forall_prop.1 (by decide)
  have hfree : ∀ c ∈ "free_heap".toList, Verbatim c := List.all_iff_forall_prop.1 (by decide)
  have hmin : ∀ c ∈ "min_free_heap".toList, Verbatim c := List.all_iff_forall_prop.1 (by decide)
  have hstring : ∀ rest,
      readValue (n + 4) ('"' :: (name ++ '"' :: rest)) = some (.string name, rest) := by
    intro rest
    rw [readValue_string, readString_verbatim hname]
    rfl
  unfold heartbeatMembers heartbeatNumbers
  rw [readMembers_cons hdevice rfl (hstring _),
    readMembers_cons huptime (skipSpace_numeral _ _) (readValue_numeral _ _ endsNumber_comma _),
    readMembers_cons hfree (skipSpace_numeral _ _) (readValue_numeral _ _ endsNumber_comma _),
    readMembers_last hmin (skipSpace_numeral _ _) (readValue_numeral _ _ endsNumber_brace _)]
  rfl

theorem parse_heartbeatText {name : List Char} (hname : ∀ c ∈ name, Verbatim c)
    (uptime freeHeap minFreeHeap : Nat) :
    parse (heartbeatText name uptime freeHeap minFreeHeap) = some (.object [
      ("device_id".toList, .string name), ("uptime_s".toList, .number uptime),
      ("free_heap".toList, .number freeHeap), ("min_free_heap".toList, .number minFreeHeap)]) := by
  rcases heartbeat_rounds name uptime freeHeap minFreeHeap with ⟨n, hn⟩
  rw [heartbeatText_eq, parse_object, hn, readMembers_heartbeat hname]
  rfl

/-- A reader who gets the device id as it is found no character in it to stumble over. -/
theorem verbatim_of_parse {name : List Char} {uptime freeHeap minFreeHeap : Nat}
    {ms : List (List Char × Json)}
    (h : parse (heartbeatText name uptime freeHeap minFreeHeap) =
      some (.object (("device_id".toList, .string name) :: ms))) :
    ∀ c ∈ name, Verbatim c := by
  have hkey : ∀ c ∈ "device_id".toList, Verbatim c := List.all_iff_forall_prop.1 (by decide)
  rcases heartbeat_rounds name uptime freeHeap minFreeHeap with ⟨n, hn⟩
  rw [heartbeatText_eq, parse_object, hn] at h
  cases hmembers : readMembers (n + 5) ('"' :: heartbeatMembers name uptime freeHeap minFreeHeap) with
  | none =>
      rw [hmembers] at h
      exact absurd h (by simp)
  | some p =>
      rcases p with ⟨ms', rest⟩
      simp only [hmembers] at h
      have hms : ms' = ("device_id".toList, .string name) :: ms := by
        split at h
        · simpa using h
        · exact absurd h (by simp)
      rw [hms] at hmembers
      rcases readMembers_string hkey hmembers with ⟨rest', hread, hnext⟩
      rcases readString_eq_self hread with hplain | ⟨inside, hclose⟩
      · exact hplain
      · -- a string that runs on is closed by the next quote, and a letter comes behind it
        have hbehind : ∃ cs, closeString (heartbeatNumbers uptime freeHeap minFreeHeap) =
            some ([','], 'u' :: cs) := ⟨_, rfl⟩
        rcases hbehind with ⟨cs, hcs⟩
        rw [hcs] at hclose
        simp only [Option.some.injEq, Prod.mk.injEq] at hclose
        rw [← hclose.2] at hnext
        have hletter : (skipSpace ('u' :: cs)).head? = some 'u' := rfl
        rw [hletter] at hnext
        exact absurd hnext (by decide)

/-! ## From a configuration -/

/-- For every device id that fits, and whatever the uptime and the heap: the payload is built whole,
its length returned, and its reader gets the id and the numbers, exactly if the id is plain text. -/
theorem heartbeat_reads_back_iff {cfg : SupervisorConfig} {init reconfigure : EspErr}
    {w : SupervisorWorld} {id : CString}
    (hok : (systemSupervisorInit (some cfg) init reconfigure w).1 = espOk)
    (hid : cfg.deviceId = some id) (hfits : id.length < systemSupDeviceIdMax) (stats : HealthStats) :
    let built := buildHeartbeat (systemSupervisorInit (some cfg) init reconfigure w).2.sup stats
      systemSupHeartbeatMax
    (built.1 ≠ -1 ∧ built.1 = built.2.length ∧ HeartbeatReads id stats built.2) ↔ PlainText id := by
  have hdevice : (systemSupervisorInit (some cfg) init reconfigure w).2.sup.deviceId =
      strlcpy (cfg.deviceId.getD (ascii "unknown")) systemSupDeviceIdMax :=
    congrArg (fun w => w.sup.deviceId) (init_accepted hok)
  rw [hid, Option.getD_some, strlcpy, List.take_of_length_le (Nat.le_sub_one_of_lt hfits)] at hdevice
  generalize (systemSupervisorInit (some cfg) init reconfigure w).2.sup = sup at hdevice
  intro built
  have hbuilt : built = (((heartbeatJson sup stats).length : Int), heartbeatJson sup stats) :=
    buildHeartbeat_fits (hdevice ▸ hfits) stats
  rw [hbuilt]
  constructor
  · rintro ⟨-, -, name, hname, hparse⟩
    rw [heartbeatJson_eq_utf8 (hdevice.trans hname), parseUtf8_utf8] at hparse
    exact ⟨name, hname, verbatim_of_parse hparse⟩
  · rintro ⟨name, hname, hplain⟩
    refine ⟨?_, rfl, name, hname, ?_⟩
    · have hlength : (0 : Int) ≤ (heartbeatJson sup stats).length := Int.natCast_nonneg _
      simp only
      omega
    · rw [heartbeatJson_eq_utf8 (hdevice.trans hname), parseUtf8_utf8, parse_heartbeatText hplain]

/-- Two minutes after the start. -/
def someStats : HealthStats :=
  ⟨123456789, 200000, 150000⟩

theorem heartbeat_reads_back_iff_main :
    let cfg := mainSupervisorConfig (ascii "mainboard-07")
    let built := buildHeartbeat (systemSupervisorInit (some cfg) espErrInvalidState espOk
      ⟨Supervisor.static, none⟩).2.sup someStats systemSupHeartbeatMax
    (built.1 ≠ -1 ∧ built.1 = built.2.length ∧
      HeartbeatReads (ascii "mainboard-07") someStats built.2) ↔ PlainText (ascii "mainboard-07") :=
  @heartbeat_reads_back_iff (mainSupervisorConfig (ascii "mainboard-07")) espErrInvalidState espOk
    ⟨Supervisor.static, none⟩ (ascii "mainboard-07") (by decide) rfl (by decide) someStats

/-- A device id with quotes in it is accepted and sent, and no reader gets it. -/
theorem quoted_device_id_unreadable :
    let id := ascii "lab \"7\""
    let inited := systemSupervisorInit (some (mainSupervisorConfig id)) espErrInvalidState espOk
      ⟨Supervisor.static, none⟩
    let built := buildHeartbeat inited.2.sup someStats systemSupHeartbeatMax
    inited.1 = espOk ∧ id.length < systemSupDeviceIdMax ∧ built.1 = built.2.length ∧
      ¬HeartbeatReads id someStats built.2 := by
  intro id inited built
  have hok : inited.1 = espOk := by
    decide
  have hid : id = utf8 "lab \"7\"".toList := ascii_eq_utf8 (by decide)
  have hdevice : inited.2.sup.deviceId = id := by
    decide
  have hfits : inited.2.sup.deviceId.length < systemSupDeviceIdMax := by
    decide
  have hbuilt : built = (((heartbeatJson inited.2.sup someStats).length : Int),
      heartbeatJson inited.2.sup someStats) := buildHeartbeat_fits hfits someStats
  refine ⟨hok, by decide, by rw [hbuilt], ?_⟩
  rintro ⟨name, hname, hparse⟩
  rw [hbuilt, heartbeatJson_eq_utf8 (hdevice.trans hname), parseUtf8_utf8] at hparse
  have hsame : some name = some "lab \"7\"".toList := by
    rw [← ofUtf8_utf8, ← hname, hid, ofUtf8_utf8]
  have hquote : '"' ∈ name := by
    rw [Option.some.inj hsame]
    decide
  exact absurd (verbatim_of_parse hparse '"' hquote) (by decide)

end MainboardFirmware
