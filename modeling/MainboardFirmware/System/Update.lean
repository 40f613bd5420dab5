import MainboardFirmware.System.Supervisor
import MainboardFirmware.Tasks.Sensor

/-!
# Update — `firmware/main/system/system_ota.c`, the update operation

One stepped update: begin a session with the server, perform it in steps until a step answers
something else than "in progress", finish it. The session is a handle that ESP-IDF hands out; what
ESP-IDF answers is an argument, and every call is recorded with its answer.

The certificate of the server is a constant of the source and is left out, and with it the `cert_pem`
of the configuration, which nothing reads. So is log output.
-/

namespace MainboardFirmware

/-! ## Data -/

def espErrHttpsOtaInProgress : EspErr := 0x9001

def otaDefaultTimeoutMs : UInt32 := 5000
def otaLoopDelayMs : Nat := 20
def otaRebootDelayMs : Nat := 2000

/-- `system_ota_config_t` -/
structure SystemOtaConfig where
  url : Option CString
  timeoutMs : UInt32
  rebootOnSuccess : Bool
  skipCertCheck : Bool
  deriving DecidableEq, Repr

/-- `esp_http_client_config_t`, the fields the firmware fills in. -/
structure HttpClientConfig where
  url : CString
  timeoutMs : Int32
  keepAliveEnable : Bool
  skipCertCommonNameCheck : Bool
  deriving DecidableEq, Repr

/-- What `esp_https_ota_perform` answers, and the two lengths that can be asked for after it. -/
structure OtaStep where
  ret : EspErr
  imageLenRead : Int32
  imageSize : Int32
  deriving DecidableEq, Repr

/-- What the `esp_https_ota_*` calls answer: the result of the beginning and the handle it leaves
(`none` is `NULL`), the steps so far, and the result of finishing. -/
structure OtaSession where
  beginRet : EspErr
  handle : Option Nat
  steps : List OtaStep
  finishRet : EspErr
  deriving DecidableEq, Repr

/-- A call of `system_ota_perform` to ESP-IDF, FreeRTOS or the display task. -/
inductive OtaCall
  | begin (http : HttpClientConfig) (ret : EspErr) (handle : Option Nat)
  | perform (handle : Nat) (ret : EspErr)
  | getImageLenRead (handle : Nat) (len : Int32)
  | getImageSize (handle : Nat) (size : Int32)
  | finish (handle : Nat) (ret : EspErr)
  | display (msg : DisplayMsg)
  | delay (ms : Nat)
  | restart
  deriving DecidableEq, Repr

/-- How far a call of `system_ota_perform` got. -/
inductive OtaOutcome
  | returned (ret : EspErr)
  /-- `esp_restart` does not return -/
  | restarted
  /-- all steps so far have answered that there are more -/
  | downloading
  deriving DecidableEq, Repr

/-! ## The update -/

/-- `update_display_status`, of which `updateDisplayStatus` is the effect on the display queue; `queue`
is whether that queue exists. -/
def displayStatus (queue : Bool) (text : CString) (row : UInt8) : List OtaCall :=
  if queue then [.display (displayMsg row text)] else []

/-- `%d` -/
def signedDecimal (n : Int32) : CString :=
  if n < 0 then 0x2d :: decimal n.toInt.natAbs else decimal n.toInt.natAbs

/-- `snprintf(progress_str, sizeof(progress_str), "OTA: Down %d%%", progress)` -/
def progressStr (progress : Int32) : CString :=
  strlcpy (ascii "OTA: Down " ++ signedDecimal progress ++ ascii "%") 17

/-- The report of a step that is not the last: the new `last_progress`, and what is displayed. The
product is taken to wrap, as `int` does on the target. -/
def showProgress (queue : Bool) (step : OtaStep) (lastProgress : Int32) : Int32 × List OtaCall :=
  if 0 < step.imageSize then
    let progress := step.imageLenRead * 100 / step.imageSize
    if progress ≠ lastProgress then
      (progress, displayStatus queue (progressStr progress) 2)
    else
      (lastProgress, [])
  else
    (lastProgress, [])

/-- The download loop: the answer that ended it, if one did, and the calls it makes. -/
def downloadLoop (queue : Bool) (handle : Nat) : List OtaStep → Int32 → Option EspErr × List OtaCall
  | [], _ => (none, [])
  | step :: steps, lastProgress =>
      if step.ret ≠ espErrHttpsOtaInProgress then
        (some step.ret, [.perform handle step.ret])
      else
        let (lastProgress, shown) := showProgress queue step lastProgress
        let (ended, calls) := downloadLoop queue handle steps lastProgress
        (ended,
          [.perform handle step.ret, .getImageLenRead handle step.imageLenRead,
            .getImageSize handle step.imageSize] ++ shown ++ [.delay otaLoopDelayMs] ++ calls)

/-- What follows the download: a download that failed is finished for the release of the session
alone, one that did not for the verdict on the image. -/
def finishUpdate (queue : Bool) (cfg : SystemOtaConfig) (handle : Nat) (finishRet : EspErr)
    (loopErr : EspErr) : OtaOutcome × List OtaCall :=
  if loopErr ≠ espOk then
    (.returned loopErr,
      displayStatus queue (ascii "OTA: Conn Lost") 2 ++ [.finish handle finishRet])
  else
    let verified := displayStatus queue (ascii "OTA: Verifying") 2 ++ [.finish handle finishRet]
    if finishRet ≠ espOk then
      (.returned finishRet, verified ++ displayStatus queue (ascii "OTA: Bad Image") 2)
    else
      let calls := verified ++ displayStatus queue (ascii "OTA: Success!") 2
      if cfg.rebootOnSuccess then
        (.restarted, calls ++ [.delay otaRebootDelayMs, .restart])
      else
        (.returned espOk, calls)

/-- The configuration of the HTTP client. -/
def httpClientConfig (cfg : SystemOtaConfig) (url : CString) : HttpClientConfig where
  url := url
  timeoutMs := (if cfg.timeoutMs ≠ 0 then cfg.timeoutMs else otaDefaultTimeoutMs).toInt32
  keepAliveEnable := true
  skipCertCommonNameCheck := cfg.skipCertCheck

/-- `system_ota_perform` -/
def systemOtaPerform (cfg : Option SystemOtaConfig) (queue : Bool) (env : OtaSession) :
    OtaOutcome × List OtaCall :=
  match cfg with
  | none => (.returned espErrInvalidArg, [])
  | some cfg =>
      match cfg.url with
      | none => (.returned espErrInvalidArg, [])
      | some url =>
          let begun := OtaCall.begin (httpClientConfig cfg url) env.beginRet env.handle
          match env.handle with
          | none =>
              -- the guard catches a `NULL` handle, but the result it returns may be `ESP_OK`
              (.returned env.beginRet,
                begun :: displayStatus queue (ascii "OTA: Init Failed") 2)
          | some handle =>
              if env.beginRet ≠ espOk then
                (.returned env.beginRet,
                  begun :: displayStatus queue (ascii "OTA: Init Failed") 2)
              else
                let connecting := begun :: displayStatus queue (ascii "OTA: Connecting") 2
                match downloadLoop queue handle env.steps (-1) with
                | (none, calls) => (.downloading, connecting ++ calls)
                | (some loopErr, calls) =>
                    let (outcome, rest) := finishUpdate queue cfg handle env.finishRet loopErr
                    (outcome, connecting ++ calls ++ rest)

/-! ## Reading a record of calls -/

def OtaCall.performed : OtaCall → Option EspErr
  | .perform _ ret => some ret
  | _ => none

def OtaCall.finished : OtaCall → Option EspErr
  | .finish _ ret => some ret
  | _ => none

/-- The session a call works on. -/
def OtaCall.uses : OtaCall → Option Nat
  | .perform handle _ | .getImageLenRead handle _ | .getImageSize handle _ | .finish handle _ =>
      some handle
  | _ => none

/-- What the steps answered, in order. -/
def performResults (calls : List OtaCall) : List EspErr :=
  calls.filterMap OtaCall.performed

/-- What the finishing of sessions answered, in order. -/
def finishResults (calls : List OtaCall) : List EspErr :=
  calls.filterMap OtaCall.finished

/-- A successful beginning handed the session out. -/
def Obtained (handle : Nat) (calls : List OtaCall) : Prop :=
  ∃ http, .begin http espOk (some handle) ∈ calls

/-- The session is finished once, no other is, and none is used afterwards. -/
def FinishedOnce (handle : Nat) (calls : List OtaCall) : Prop :=
  ∃ before ret after, calls = before ++ .finish handle ret :: after ∧
    finishResults before = [] ∧ finishResults after = [] ∧ ∀ call ∈ after, call.uses = none

def OtaOutcome.Success (outcome : OtaOutcome) : Prop :=
  outcome = .returned espOk ∨ outcome = .restarted

/-- What is asked of an update: success only for an image that was downloaded and verified, and every
session it obtains is finished once, at its end. -/
structure OtaContract (outcome : OtaOutcome) (calls : List OtaCall) : Prop where
  success : outcome.Success →
    (performResults calls).getLast? = some espOk ∧ finishResults calls = [espOk]
  released : ∀ handle, Obtained handle calls → outcome ≠ .downloading → FinishedOnce handle calls
  unobtained : (∀ handle, ¬ Obtained handle calls) → finishResults calls = []

@[simp] theorem performResults_append (xs ys : List OtaCall) :
    performResults (xs ++ ys) = performResults xs ++ performResults ys := by
  simp [performResults]

@[simp] theorem finishResults_append (xs ys : List OtaCall) :
    finishResults (xs ++ ys) = finishResults xs ++ finishResults ys := by
  simp [finishResults]

theorem obtained_append {handle : Nat} {xs ys : List OtaCall} :
    Obtained handle (xs ++ ys) ↔ Obtained handle xs ∨ Obtained handle ys := by
  simp only [Obtained, List.mem_append, exists_or]

/-! ## Calls beside the session -/

/-- The calls have nothing to do with a session. -/
def BesideSession (calls : List OtaCall) : Prop :=
  ∀ call ∈ calls, call.uses = none ∧ ∀ http ret handle, call ≠ .begin http ret handle

theorem displayStatus_beside (queue : Bool) (text : CString) (row : UInt8) :
    BesideSession (displayStatus queue text row) := by
  cases queue <;> simp [BesideSession, displayStatus, OtaCall.uses]

namespace BesideSession

variable {calls calls' : List OtaCall}

theorem append (h : BesideSession calls) (h' : BesideSession calls') :
    BesideSession (calls ++ calls') := by
  intro call hcall
  exact (List.mem_append.1 hcall).elim (h call) (h' call)

theorem performResults_eq (h : BesideSession calls) : performResults calls = [] := by
  apply List.filterMap_eq_nil_iff.2
  intro call hcall
  have huses := (h call hcall).1
  cases call <;> simp_all [OtaCall.uses, OtaCall.performed]

theorem finishResults_eq (h : BesideSession calls) : finishResults calls = [] := by
  apply List.filterMap_eq_nil_iff.2
  intro call hcall
  have huses := (h call hcall).1
  cases call <;> simp_all [OtaCall.uses, OtaCall.finished]

theorem not_obtained (h : BesideSession calls) (handle : Nat) : ¬ Obtained handle calls := by
  rintro ⟨http, hmem⟩
  exact (h _ hmem).2 http espOk (some handle) rfl

end BesideSession

/-! ## The stages -/

/-- The download loop works on its session only: it neither begins nor finishes one, and the answer
it ends with is that of its last step. -/
theorem downloadLoop_calls (queue : Bool) (handle : Nat) (steps : List OtaStep)
    (lastProgress : Int32) :
    finishResults (downloadLoop queue handle steps lastProgress).2 = [] ∧
      (∀ h, ¬ Obtained h (downloadLoop queue handle steps lastProgress).2) ∧
      ∀ loopErr, (downloadLoop queue handle steps lastProgress).1 = some loopErr →
        (performResults (downloadLoop queue handle steps lastProgress).2).getLast? = some loopErr := by
  induction steps generalizing lastProgress with
  | nil =>
      simp [downloadLoop, finishResults, Obtained]
  | cons step steps ih =>
      by_cases hlast : step.ret ≠ espErrHttpsOtaInProgress
      · simp [downloadLoop, hlast, finishResults, performResults, Obtained, OtaCall.finished,
          OtaCall.performed]
      · -- more to come: the report of this step, and the rest by the induction hypothesis
        rcases ih (showProgress queue step lastProgress).1 with ⟨hfinish, hobtained, hresult⟩
        have hshown : BesideSession (showProgress queue step lastProgress).2 := by
          unfold showProgress
          dsimp only
          split
          · split
            · exact displayStatus_beside queue _ _
            · simp [BesideSession]
          · simp [BesideSession]
        simp only [downloadLoop, hlast, if_false]
        refine ⟨?_, ?_, ?_⟩
        · rw [finishResults_append, finishResults_append, finishResults_append, hfinish,
            hshown.finishResults_eq]
          rfl
        · intro h
          simp only [obtained_append, hobtained h, hshown.not_obtained h]
          simp [Obtained]
        · intro loopErr hended
          rw [performResults_append, List.getLast?_append, hresult loopErr hended]
          rfl

/-- The end of an update finishes the session, once, and uses it no more. -/
theorem finishUpdate_calls (queue : Bool) (cfg : SystemOtaConfig) (handle : Nat) (finishRet : EspErr)
    (loopErr : EspErr) :
    ∃ before after, (finishUpdate queue cfg handle finishRet loopErr).2 =
        before ++ .finish handle finishRet :: after ∧ BesideSession before ∧ BesideSession after := by
  have hshown := displayStatus_beside queue
  have hrestart : BesideSession [.delay otaRebootDelayMs, .restart] := by
    simp [BesideSession, OtaCall.uses]
  unfold finishUpdate
  dsimp only
  split
  · exact ⟨displayStatus queue (ascii "OTA: Conn Lost") 2, [], rfl, hshown _ _, by simp [BesideSession]⟩
  -- the other three ways out begin alike
  refine ⟨displayStatus queue (ascii "OTA: Verifying") 2, ?_⟩
  split
  · exact ⟨displayStatus queue (ascii "OTA: Bad Image") 2, by simp, hshown _ _, hshown _ _⟩
  split
  · exact ⟨displayStatus queue (ascii "OTA: Success!") 2 ++ [.delay otaRebootDelayMs, .restart],
      by simp, hshown _ _, (hshown _ _).append hrestart⟩
  · exact ⟨displayStatus queue (ascii "OTA: Success!") 2, by simp, hshown _ _, hshown _ _⟩

/-- It succeeds exactly if both the download and the finishing did. -/
theorem finishUpdate_success_iff (queue : Bool) (cfg : SystemOtaConfig) (handle : Nat)
    (finishRet : EspErr) (loopErr : EspErr) :
    (finishUpdate queue cfg handle finishRet loopErr).1.Success ↔
      loopErr = espOk ∧ finishRet = espOk := by
  by_cases hloop : loopErr = espOk
  · by_cases hfinish : finishRet = espOk
    · cases hreboot : cfg.rebootOnSuccess <;>
        simp [finishUpdate, hloop, hfinish, hreboot, OtaOutcome.Success]
    · simp [finishUpdate, hloop, hfinish, OtaOutcome.Success]
  · simp [finishUpdate, hloop, OtaOutcome.Success]

/-! ## The whole update -/

section Update

variable {queue : Bool} {env : OtaSession}

/-- An update that obtains no session makes no call on one. -/
theorem otaContract_of_unobtained {ret : EspErr} {calls : List OtaCall}
    (hobtained : ∀ handle, ¬ Obtained handle calls) (hfinish : finishResults calls = [])
    (hret : ret ≠ espOk) : OtaContract (.returned ret) calls where
  success h := by
    rcases h with h | h
    · exact absurd (OtaOutcome.returned.inj h) hret
    · exact absurd h (by simp)
  released handle h := absurd h (hobtained handle)
  unobtained _ := hfinish

/-- What is recorded when no session could be begun. -/
theorem initFailed_calls {http : HttpClientConfig} {ret : EspErr} {handle : Option Nat}
    (hbegin : ret ≠ espOk ∨ handle = none) (calls : List OtaCall)
    (hcalls : BesideSession calls) :
    (∀ h, ¬ Obtained h (.begin http ret handle :: calls)) ∧
      finishResults (.begin http ret handle :: calls) = [] ∧
      performResults (.begin http ret handle :: calls) = [] := by
  refine ⟨?_, hcalls.finishResults_eq, hcalls.performResults_eq⟩
  rintro h ⟨http', hmem⟩
  rcases List.mem_cons.1 hmem with heq | hmem
  · simp only [OtaCall.begin.injEq] at heq
    rcases hbegin with hret | hnull
    · exact hret heq.2.1.symm
    · exact absurd (heq.2.2.trans hnull) (by simp)
  · exact hcalls.not_obtained h ⟨http', hmem⟩

/-- A call beside the sessions obtains none, nor does the finishing of one. -/
theorem not_obtained_finish {handle : Nat} {ret : EspErr} {after : List OtaCall}
    (hafter : BesideSession after) (h : Nat) : ¬ Obtained h (.finish handle ret :: after) := by
  rintro ⟨http, hmem⟩
  rcases List.mem_cons.1 hmem with heq | hmem
  · exact absurd heq (by simp)
  · exact hafter.not_obtained h ⟨http, hmem⟩

/-- The beginning obtains its own session and no other. -/
theorem obtained_begin_iff {http : HttpClientConfig} {handle : Nat} {connecting : List OtaCall}
    (hconnecting : BesideSession connecting) (h : Nat) :
    Obtained h (.begin http espOk (some handle) :: connecting) ↔ h = handle := by
  constructor
  · rintro ⟨http', hmem⟩
    rcases List.mem_cons.1 hmem with heq | hmem
    · simpa using (OtaCall.begin.inj heq).2.2
    · exact absurd ⟨http', hmem⟩ (hconnecting.not_obtained h)
  · intro heq
    exact ⟨http, by simp [heq]⟩

/-- The record of an update with a session: nothing is finished before the one finishing, which
stands after every step, and what follows it has nothing to do with a session. -/
theorem session_record (cfg : SystemOtaConfig) (http : HttpClientConfig) (handle : Nat)
    (loopErr : EspErr) {connecting : List OtaCall} (hconnecting : BesideSession connecting) :
    ∃ start after,
      (.begin http espOk (some handle) :: connecting) ++
          (downloadLoop queue handle env.steps (-1)).2 ++
          (finishUpdate queue cfg handle env.finishRet loopErr).2 =
        start ++ .finish handle env.finishRet :: after ∧
      BesideSession after ∧ finishResults start = [] ∧
      performResults start = performResults (downloadLoop queue handle env.steps (-1)).2 ∧
      ∀ h, Obtained h start ↔ h = handle := by
  rcases downloadLoop_calls queue handle env.steps (-1) with ⟨hfinish, hobtained, -⟩
  rcases finishUpdate_calls queue cfg handle env.finishRet loopErr with
    ⟨before, after, hcalls, hbefore, hafter⟩
  have hbegun : finishResults (.begin http espOk (some handle) :: connecting) = [] ∧
      performResults (.begin http espOk (some handle) :: connecting) = [] :=
    ⟨hconnecting.finishResults_eq, hconnecting.performResults_eq⟩
  refine ⟨(.begin http espOk (some handle) :: connecting) ++
    (downloadLoop queue handle env.steps (-1)).2 ++ before, after, ?_, hafter, ?_, ?_, ?_⟩
  · rw [hcalls]
    simp
  · simp only [finishResults_append, hbegun.1, hfinish, hbefore.finishResults_eq, List.append_nil]
  · simp only [performResults_append, hbegun.2, hbefore.performResults_eq, List.nil_append,
      List.append_nil]
  · intro h
    simp only [obtained_append, obtained_begin_iff hconnecting h, hobtained h,
      hbefore.not_obtained h, or_false]

/-- An update with a session keeps the contract, whatever happens in it. -/
theorem otaContract_of_session {cfg : SystemOtaConfig} {http : HttpClientConfig} {handle : Nat}
    {loopErr : EspErr} {connecting : List OtaCall} (hconnecting : BesideSession connecting)
    (hended : (downloadLoop queue handle env.steps (-1)).1 = some loopErr) :
    OtaContract (finishUpdate queue cfg handle env.finishRet loopErr).1
      ((.begin http espOk (some handle) :: connecting) ++
        (downloadLoop queue handle env.steps (-1)).2 ++
        (finishUpdate queue cfg handle env.finishRet loopErr).2) := by
  rcases @session_record queue env cfg http handle loopErr _ hconnecting with
    ⟨start, after, hrecord, hafter, hfinish, hperform, hobtained⟩
  have hfinishes : finishResults (start ++ .finish handle env.finishRet :: after) =
      [env.finishRet] := by
    calc
      finishResults (start ++ .finish handle env.finishRet :: after)
          = finishResults start ++ env.finishRet :: finishResults after := by
            rw [finishResults_append]
            rfl
      _ = [env.finishRet] := by rw [hfinish, hafter.finishResults_eq, List.nil_append]
  have hperforms : performResults (start ++ .finish handle env.finishRet :: after) =
      performResults (downloadLoop queue handle env.steps (-1)).2 := by
    have htail : performResults (.finish handle env.finishRet :: after) = [] :=
      hafter.performResults_eq
    rw [performResults_append, hperform, htail, List.append_nil]
  rw [hrecord]
  refine ⟨?_, ?_, ?_⟩
  · intro hsuccess
    rcases (finishUpdate_success_iff queue cfg handle env.finishRet loopErr).1 hsuccess with
      ⟨hloop, hok⟩
    -- the last step is the last one of the download loop
    have hlast := (downloadLoop_calls queue handle env.steps (-1)).2.2 loopErr hended
    exact ⟨by rw [hperforms, hlast, hloop], by rw [hfinishes, hok]⟩
  · intro h hcalls _
    -- the one session begun is this one
    have hhandle : h = handle := by
      rcases obtained_append.1 hcalls with hstart | hrest
      · exact (hobtained h).1 hstart
      · exact absurd hrest (not_obtained_finish hafter h)
    rw [hhandle]
    exact ⟨start, env.finishRet, after, rfl, hfinish, hafter.finishResults_eq,
      fun call hcall => (hafter call hcall).1⟩
  · intro hnone
    exact absurd (obtained_append.2 (.inl ((hobtained handle).2 rfl))) (hnone handle)

/-- An update that is still going on has finished nothing. -/
theorem otaContract_of_downloading {http : HttpClientConfig} {handle : Nat}
    {connecting : List OtaCall} (hconnecting : BesideSession connecting) :
    OtaContract .downloading ((.begin http espOk (some handle) :: connecting) ++
      (downloadLoop queue handle env.steps (-1)).2) where
  success h := by
    rcases h with h | h
    · exact absurd h (by simp)
    · exact absurd h (by simp)
  released _ _ h := absurd rfl h
  unobtained _ := by
    have hbegun : finishResults (.begin http espOk (some handle) :: connecting) = [] :=
      hconnecting.finishResults_eq
    rw [finishResults_append, hbegun, (downloadLoop_calls queue handle env.steps (-1)).1,
      List.nil_append]

end Update

/-- The server answers well and ESP-IDF hands no session out. -/
def NullSession (cfg : Option SystemOtaConfig) (env : OtaSession) : Prop :=
  (∃ c, cfg = some c ∧ c.url ≠ none) ∧ env.beginRet = espOk ∧ env.handle = none

/-- `system_ota_perform` keeps the contract for every configuration and all answers of ESP-IDF, unless
the beginning of the session succeeds with a `NULL` handle. -/
theorem ota_contract_iff (cfg : Option SystemOtaConfig) (queue : Bool) (env : OtaSession) :
    OtaContract (systemOtaPerform cfg queue env).1 (systemOtaPerform cfg queue env).2 ↔
      ¬ NullSession cfg env := by
  have hnothing : OtaContract (.returned espErrInvalidArg) [] :=
    otaContract_of_unobtained (by simp [Obtained]) rfl espErrInvalidArg_ne_ok
  cases cfg with
  | none =>
      exact ⟨fun _ h => by simp [NullSession] at h, fun _ => hnothing⟩
  | some cfg =>
      cases hurl : cfg.url with
      | none =>
          simp only [systemOtaPerform, hurl]
          exact ⟨fun _ h => by simp [NullSession, hurl] at h, fun _ => hnothing⟩
      | some url =>
          have hshown := displayStatus_beside queue
          cases hhandle : env.handle with
          | none =>
              simp only [systemOtaPerform, hurl, hhandle]
              rcases @initFailed_calls (httpClientConfig cfg url) env.beginRet _
                (Or.inr rfl) _ (hshown (ascii "OTA: Init Failed") 2) with
                ⟨hobtained, hfinish, hperform⟩
              constructor
              · rintro hcontract ⟨_, hok, _⟩
                -- reported as a success, and nothing was downloaded
                have hresult := (hcontract.success (Or.inl (by rw [hok]))).1
                rw [hperform] at hresult
                exact absurd hresult (by simp)
              · intro hnull
                have hfail : env.beginRet ≠ espOk := by
                  intro hok
                  exact hnull ⟨⟨cfg, rfl, by simp [hurl]⟩, hok, hhandle⟩
                exact otaContract_of_unobtained hobtained hfinish hfail
          | some handle =>
              refine ⟨fun _ hnull => by simp [NullSession, hhandle] at hnull, fun _ => ?_⟩
              by_cases hbegin : env.beginRet = espOk
              · simp only [systemOtaPerform, hurl, hhandle, hbegin, ne_eq, not_true_eq_false,
                  if_false]
                have hconnecting := hshown (ascii "OTA: Connecting") 2
                split
                · rename_i calls hloop
                  have hcontract := @otaContract_of_downloading queue env
                    (httpClientConfig cfg url) handle _ hconnecting
                  rw [hloop] at hcontract
                  exact hcontract
                · rename_i loopErr calls hloop
                  have hcontract := @otaContract_of_session queue env cfg
                    (httpClientConfig cfg url) handle loopErr _ hconnecting (by rw [hloop])
                  rw [hloop] at hcontract
                  exact hcontract
              · simp only [systemOtaPerform, hurl, hhandle, hbegin, ne_eq, not_false_eq_true, if_true]
                rcases @initFailed_calls (httpClientConfig cfg url) _ (some handle)
                  (Or.inl hbegin) _ (hshown (ascii "OTA: Init Failed") 2) with
                  ⟨hobtained, hfinish, _⟩
                exact otaContract_of_unobtained hobtained hfinish hbegin

/-- A server that answers, with no session. -/
def nullSession : OtaSession :=
  ⟨espOk, none, [⟨espOk, 0, 0⟩], espOk⟩

/-- Then `system_ota_perform` returns `ESP_OK` and has downloaded nothing. -/
theorem null_session_reported_ok :
    let cfg : SystemOtaConfig := ⟨some (ascii "https://ota"), 0, true, false⟩
    (systemOtaPerform (some cfg) true nullSession).1 = .returned espOk ∧
      performResults (systemOtaPerform (some cfg) true nullSession).2 = [] ∧
      ¬ OtaContract (systemOtaPerform (some cfg) true nullSession).1
        (systemOtaPerform (some cfg) true nullSession).2 := by
  refine ⟨by decide, by decide, fun hcontract => ?_⟩
  exact absurd (hcontract.success (Or.inl (by decide))).1 (by decide)

end MainboardFirmware
