import Culprit.Proofs.Oracle.CommandMessages
import Culprit.Proofs.Search.Crashes
import Culprit.Proofs.Service.FrontEnds

/-!
# What a verifier command fails with

Running a command may time out or not start at all, and then the oracle has no verdict. The service
and the API expect just that. They do not expect the two failures that come before the command is
run: there may be no word to run, and a word may hold a zero character. The second one is never
looked for. The first one is, but only before a text is cut into words, so a text of separators
passes; all its runs break off. The theorem says that no other command does so, and what comes of
those that do.
-/

namespace Culprit

variable {σ : Type}

namespace Command

/-! ### Commands that can be run -/

/-- The words name a program and its arguments, and no zero character is in them. -/
def Startable (words : List Text) : Prop := words ≠ [] ∧ '\x00' ∉ words.flatten

/-- The words of an accepted command can be run: no zero character is in them, and a text that they
are still to be cut from holds more than separators. -/
def Spelling.Runnable : Spelling → Prop
  | .text command => '\x00' ∉ command ∧ ¬command.all isSeparator
  | .words given => ∀ word ∈ given, '\x00' ∉ word

instance (spelling : Spelling) : Decidable spelling.Runnable :=
  match spelling with
  | .text command => inferInstanceAs (Decidable ('\x00' ∉ command ∧ ¬command.all isSeparator))
  | .words given => inferInstanceAs (Decidable (∀ word ∈ given, '\x00' ∉ word))

/-- Reading ends without any word only if it begins between words and meets none. -/
theorem readWords_eq_nil_iff (state : WordState) (word text : Text) :
    readWords state word text = .ok [] ↔ state = .between ∧ text.all isSeparator = true := by
  fun_induction readWords state word text with
  -- A word ends and is in front of all others.
  | case9 word c rest hblank ih => cases readWords .between [] rest <;> simp [Except.map]
  | _ => simp_all

theorem mem_flatten_of_readWords {state : WordState} {word text : Text} {words : List Text}
    (hstate : state ≠ .quoted '\x00') (h : readWords state word text = .ok words) :
    '\x00' ∈ words.flatten ↔ (state ≠ .between ∧ '\x00' ∈ word) ∨ '\x00' ∈ text := by
  fun_induction readWords state word text generalizing words with
  -- A word ends, and the rest is read between words, where no zero character is pending.
  | case9 word c rest hblank ih =>
    cases hrest : readWords .between [] rest with
    | error failure =>
      rw [hrest] at h
      cases h
    | ok more =>
      rw [hrest] at h
      cases h
      grind [isSeparator]
  | _ => grind [isSeparator]

theorem Spelling.runnable_iff {spelling : Spelling} {words : List Text}
    (haccepted : spelling.words? = .ok words) :
    spelling.Runnable ↔ Startable words := by
  rcases spelling with (_ | ⟨c, rest⟩) | (_ | ⟨word, more⟩)
  · cases haccepted
  · have hzero := mem_flatten_of_readWords (by simp) haccepted
    have hnil := readWords_eq_nil_iff .between [] (c :: rest)
    rw [show readWords .between [] (c :: rest) = .ok words from haccepted, Except.ok.injEq,
      eq_self, true_and] at hnil
    rw [Startable, ne_eq, hnil, hzero, Runnable, and_comm]
    simp only [ne_eq, not_true_eq_false, false_and, false_or]
  · cases haccepted
  · cases haccepted
    simp [Runnable, Startable]

/-! ### The answers of a command -/

/-- If there is no answer, then the oracle itself says that it has no verdict. -/
def Reported {α : Type} (reply : Except Failure α) : Prop :=
  ∀ failure, reply = .error failure → ∃ reason, failure = .noVerdict reason

section Reported

variable {α β : Type}

theorem reported_ok (answer : α) : Reported (.ok answer : Except Failure α) := by
  intro failure hfailure
  cases hfailure

theorem reported_error_iff {failure : Failure} :
    Reported (.error failure : Except Failure α) ↔ ∃ reason, failure = .noVerdict reason := by
  refine ⟨fun h => h failure rfl, fun h other hother => ?_⟩
  cases hother
  exact h

theorem reported_map_iff {reply : Except Failure α} (read : α → β) :
    Reported (reply.map read) ↔ Reported reply := by
  cases reply with
  | error failure => exact reported_error_iff.trans reported_error_iff.symm
  | ok answer => exact iff_of_true (reported_ok _) (reported_ok _)

end Reported

/-- The failure of every run of words that cannot be run. -/
def startFailure (words : List Text) : Failure :=
  if words = [] then .emptyCommand else zeroCharacter

theorem startFailure_ne (words : List Text) (reason : NoVerdict) :
    startFailure words ≠ .noVerdict reason := by
  unfold startFailure zeroCharacter
  split <;> simp

/-- A run ends, takes too long or is not started, and raises no other exception. -/
def Outcome.IsExpected (outcome : Outcome) : Prop := ∀ exception, outcome ≠ .raised exception

theorem reported_answer_iff {outcome : Outcome} {name : Text} {limit : Number.Seconds} :
    Reported (outcome.answer name limit) ↔ outcome.IsExpected := by
  cases outcome with
  | ended status errors output => simp [Outcome.answer, Outcome.IsExpected, reported_ok]
  | timedOut => simp [Outcome.answer, Outcome.IsExpected, reported_error_iff]
  | notStarted error => simp [Outcome.answer, Outcome.IsExpected, reported_error_iff]
  | raised exception => simp [Outcome.answer, Outcome.IsExpected, reported_error_iff]

/-- Whatever is run, and in whatever state, comes out as expected. -/
def Runner.IsExpected (run : Runner σ) : Prop :=
  ∀ name arguments input limit state, ((run name arguments input limit).run state).1.IsExpected

variable {run : Runner σ} {setup : Setup} {document : Text}

theorem reported_ask (hwords : Startable setup.words) (hrun : run.IsExpected) (state : σ) :
    Reported ((ask run setup document).run state).1 := by
  obtain ⟨hnil, hzero⟩ := hwords
  obtain ⟨name, arguments, hsplit⟩ := List.exists_cons_of_ne_nil hnil
  rw [run_ask_eq hsplit (hsplit ▸ hzero), reported_answer_iff]
  exact hrun _ _ _ _ _

theorem run_ask_eq_startFailure (hwords : ¬Startable setup.words) (state : σ) :
    ((ask run setup document).run state).1 = .error (startFailure setup.words) := by
  unfold ask startFailure
  split
  · rw [if_pos ‹_›]
    rfl
  · rename_i name arguments hsplit
    rw [hsplit] at hwords
    rw [hsplit, if_pos (by simpa [Startable, or_iff_not_imp_left] using hwords)]
    rfl

end Command

open Command

/-- The oracle runs the command anew for each question, and each run may come out in its own way,
as long as it is one that is expected. -/
structure Oracle.Runs (oracle : Oracle σ) (setup : Setup) : Prop where
  errors : ∀ document state, ∃ run : Runner σ, run.IsExpected ∧
    ((oracle.errors document).run state).1 =
      ((ask run setup document).run state).1.map Answer.messages
  isValid : ∀ document state, ∃ run : Runner σ, run.IsExpected ∧
    ((oracle.isValid document).run state).1 =
      ((ask run setup document).run state).1.map fun answer => answer.status == 0
  firstError : ∀ document state, ∃ run : Runner σ, run.IsExpected ∧
    ((oracle.firstError document).run state).1 =
      ((ask run setup document).run state).1.map fun answer => answer.messages.head?

def Oracle.EachReply (oracle : Oracle σ) (holds : ∀ {α : Type}, Except Failure α → Prop) : Prop :=
  ∀ document state, holds ((oracle.errors document).run state).1 ∧
    holds ((oracle.isValid document).run state).1 ∧
    holds ((oracle.firstError document).run state).1

namespace Oracle.Runs

variable {oracle : Oracle σ} {setup : Setup}

/-- What holds of all that can be read off a run of the command holds of each reply. -/
theorem eachReply (h : oracle.Runs setup) {holds : ∀ {α : Type}, Except Failure α → Prop}
    (hask : ∀ {α : Type} {run : Runner σ} (_ : run.IsExpected) (document : Text) (state : σ)
      (read : Answer → α), holds (((ask run setup document).run state).1.map read)) :
    oracle.EachReply holds := by
  intro document state
  obtain ⟨_, hexpected, herrors⟩ := h.errors document state
  obtain ⟨_, hexpected', hvalid⟩ := h.isValid document state
  obtain ⟨_, hexpected'', hfirst⟩ := h.firstError document state
  rw [herrors, hvalid, hfirst]
  exact ⟨hask hexpected _ _ _, hask hexpected' _ _ _, hask hexpected'' _ _ _⟩

theorem eachReply_reported (h : oracle.Runs setup) (hwords : Startable setup.words) :
    oracle.EachReply Reported :=
  h.eachReply fun hexpected _ state read =>
    (reported_map_iff read).mpr (reported_ask hwords hexpected state)

theorem eachReply_startFailure (h : oracle.Runs setup) (hwords : ¬Startable setup.words) :
    oracle.EachReply (· = .error (startFailure setup.words)) :=
  h.eachReply fun _ document state read => by
    rw [run_ask_eq_startFailure hwords]
    rfl

end Oracle.Runs

namespace Command

theorem oracle?_of_words? {spelling : Spelling} {words : List Text}
    (haccepted : spelling.words? = .ok words) (run : Runner σ) (limit : Number.Seconds) :
    oracle? run (some spelling) limit = .ok (oracle run ⟨words, limit⟩) := by
  rw [oracle?, haccepted]
  rfl

theorem runs_oracle {run : Runner σ} (hrun : run.IsExpected) (setup : Setup) :
    (oracle run setup).Runs setup :=
  ⟨fun _ _ => ⟨run, hrun, rfl⟩, fun _ _ => ⟨run, hrun, rfl⟩, fun _ _ => ⟨run, hrun, rfl⟩⟩

end Command

/-! ### The service and the API -/

namespace Service

variable {service : Service σ} {source : Text}

/-- A validation explains every failure that the oracle itself reports. -/
theorem run_validateStructure_of_reported
    (hreported : ∀ state, Reported ((service.oracle.errors source).run state).1)
    (session : Session σ) :
    ((service.validateStructure (some source)).run session).1 = .ok approval ∨
      ∃ rejection, ((service.validateStructure (some source)).run session).1 =
        .error (.rejected rejection) := by
  cases hblank : source.isBlankText with
  | true => exact .inr ⟨_, service.run_validateStructure_of_blank hblank session⟩
  | false =>
    -- The search after the listing of errors can fail too, but a validation looks over that.
    obtain ⟨asked, searched, hrun⟩ :=
      Locator.exists_run_validateStructure_eq service.locator hblank session
    have hverified : Reported ((service.locator.verify source).run asked).1 :=
      (reported_map_iff Report.ofErrors).mpr (hreported asked.oracle)
    rw [validateStructure, hrun]
    cases hanswer : ((service.locator.verify source).run asked).1 with
    | error failure =>
      obtain ⟨reason, rfl⟩ := hverified failure hanswer
      exact .inr ⟨_, rfl⟩
    | ok report =>
      by_cases hvalid : report.valid = true
      · exact .inl (if_pos hvalid)
      · exact .inr ⟨_, if_neg hvalid⟩

theorem exists_run_locate_of_shown (service : Service σ) (hshown : source.isBlankText = false)
    (session : Session σ) :
    ∃ found, ((service.locate source none).run session).1 = .ok found := by
  have hended := (Finder.locator service).ended (some source) session
  change Locator.Ended _ _ _ ((service.locate source none).run session) at hended
  generalize (service.locate source none).run session = run at hended
  cases hended with
  | unasked hblank => simp [hshown] at hblank
  | valid hshown hvalid hasked => exact ⟨none, rfl⟩
  | faulty hshown hmessage => exact ⟨some _, rfl⟩

theorem run_validateStructure_of_failure (hshown : source.isBlankText = false) {failure : Failure}
    (hother : ∀ reason, failure ≠ .noVerdict reason)
    (hfails : ∀ state, ((service.oracle.errors source).run state).1 = .error failure)
    (session : Session σ) :
    ((service.validateStructure (some source)).run session).1 = .error (.failed failure) := by
  obtain ⟨asked, searched, hrun⟩ :=
    Locator.exists_run_validateStructure_eq service.locator hshown session
  have hverified : ((service.locator.verify source).run asked).1 = .error failure :=
    congrArg (Except.map Report.ofErrors) (hfails asked.oracle)
  rw [validateStructure, hrun, hverified]
  cases failure with
  | noVerdict reason => exact absurd rfl (hother reason)
  | _ => rfl

end Service

namespace Api

variable {service : Service σ} {source : Text} {body : Bytes} {reading : Reading}

/-- The body of a request is read as the source that is to be validated. -/
def Reading.AsksToValidate (reading : Reading) (body : Bytes) (source : Text) : Prop :=
  ∃ value, reading.decode body = .ok value ∧ reading.validateBody value = .ok source

theorem asksToValidate_sourceBody (room : Nat) (source : Text) :
    (Api.reading (room + 1)).AsksToValidate (sourceBody source) source := by
  obtain ⟨value, hvalue, -, hcontent⟩ := gives_sourceBody room source
  exact ⟨value, hvalue, hcontent⟩

theorem run_serve_validate (hbody : reading.AsksToValidate body source) (session : Session σ) :
    ((serve reading (some service) (postTo .validate body)).run session).1 =
      ((validateAnswer service source).run session).1.map
        fun response => { response with timed := true } := by
  obtain ⟨value, hvalue, hcontent⟩ := hbody
  rw [run_serve_postTo rfl, Endpoint.answer, withBody_eq hvalue hcontent]

/-- A request to validate is answered if the oracle itself reports each failure. -/
theorem exists_run_serve_of_reported (hbody : reading.AsksToValidate body source)
    (hreported : ∀ state, Reported ((service.oracle.errors source).run state).1)
    (session : Session σ) :
    ∃ response,
      ((serve reading (some service) (postTo .validate body)).run session).1 = .ok response ∧
        response.status ∈ [200, 422, 502] := by
  rw [run_serve_validate hbody, validateAnswer]
  split
  · exact ⟨_, rfl, by simp [refusal, detail, respond]⟩
  · have hshown : source.isBlankText = false := by simpa using ‹¬source.isBlankText = true›
    have hverified : Reported ((service.verify source).run session).1 :=
      (reported_map_iff Report.ofErrors).mpr (hreported session.oracle)
    rw [Session.run_bind_eq]
    rcases hanswer : (service.verify source).run session with ⟨failure | report, verified⟩
    · rw [hanswer] at hverified
      obtain ⟨reason, rfl⟩ := hverified failure rfl
      exact ⟨_, rfl, by simp [refusal, detail, respond]⟩
    · by_cases hvalid : report.valid = true
      · simp only [if_pos hvalid]
        exact ⟨_, rfl, by simp [reportAnswer, respond]⟩
      · simp only [if_neg hvalid]
        rw [Session.run_bind_eq]
        obtain ⟨found, hlocated⟩ := Service.exists_run_locate_of_shown service hshown verified
        rw [hlocated]
        exact ⟨_, rfl, by simp [reportAnswer, respond]⟩

theorem run_serve_of_failure (hbody : reading.AsksToValidate body source)
    (hshown : source.isBlankText = false) {failure : Failure}
    (hother : ∀ reason, failure ≠ .noVerdict reason)
    (hfails : ∀ state, ((service.oracle.errors source).run state).1 = .error failure)
    (session : Session σ) :
    ((serve reading (some service) (postTo .validate body)).run session).1 =
      .error (.failed failure) := by
  have hverified : ((service.verify source).run session).1 = .error failure :=
    congrArg (Except.map Report.ofErrors) (hfails session.oracle)
  rw [run_serve_validate hbody, validateAnswer, if_neg (by simp [hshown]), Session.run_bind_eq,
    hverified]
  cases failure with
  | noVerdict reason => exact absurd rfl (hother reason)
  | _ => rfl

end Api

/-- **A command that can be run fails only for lack of a verdict.** Take a command that is accepted
and an oracle that runs it, where each run ends, takes too long or is not started. If the words can
be run, then each question is answered or the oracle reports that it has no verdict; so a validation
approves the source or rejects it, and a request to validate it is answered with status 200, 422 or
502. If they cannot, which an accepted command does not exclude, then each question fails in one way
that is no report of the oracle, and for a source that is not blank this failure ends the validation
and the request. -/
theorem Command.reported_of_runnable {spelling : Spelling} {words : List Text}
    (haccepted : spelling.words? = .ok words) {limit : Number.Seconds} {oracle : Oracle σ}
    (hruns : oracle.Runs ⟨words, limit⟩) (completion : Completion) :
    let service : Service σ := ⟨oracle, completion⟩
    (spelling.Runnable → oracle.EachReply Reported ∧ ∀ source session,
      (((service.validateStructure (some source)).run session).1 = .ok approval ∨
        ∃ rejection, ((service.validateStructure (some source)).run session).1 =
          .error (.rejected rejection)) ∧
      ∀ (reading : Api.Reading) body, reading.AsksToValidate body source →
        ∃ response, ((Api.serve reading (some service) (Api.postTo .validate body)).run session).1 =
          .ok response ∧ response.status ∈ [200, 422, 502]) ∧
    (¬spelling.Runnable →
      let failure := startFailure words
      (∀ reason, failure ≠ .noVerdict reason) ∧ oracle.EachReply (· = .error failure) ∧
      ∀ source session, source.isBlankText = false →
        ((service.validateStructure (some source)).run session).1 = .error (.failed failure) ∧
        ∀ (reading : Api.Reading) body, reading.AsksToValidate body source →
          ((Api.serve reading (some service) (Api.postTo .validate body)).run session).1 =
            .error (.failed failure)) := by
  intro service
  rw [Spelling.runnable_iff haccepted]
  refine ⟨fun hwords => ?_, fun hwords => ?_⟩
  · have hreported := hruns.eachReply_reported hwords
    refine ⟨hreported, fun source session => ⟨?_, fun reading body hbody => ?_⟩⟩
    · exact Service.run_validateStructure_of_reported (fun state => (hreported source state).1)
        session
    · exact Api.exists_run_serve_of_reported hbody (fun state => (hreported source state).1) session
  · have hfails := hruns.eachReply_startFailure hwords
    have hother := startFailure_ne words
    refine ⟨hother, hfails, fun source session hshown => ⟨?_, fun reading body hbody => ?_⟩⟩
    · exact Service.run_validateStructure_of_failure hshown hother
        (fun state => (hfails source state).1) session
    · exact Api.run_serve_of_failure hbody hshown hother (fun state => (hfails source state).1)
        session

namespace Command

/-- Every program writes a complaint and ends with status one. -/
def refuse : Runner Unit := fun _ _ _ _ => return .ended 1 (Utf8.encode "no".toList) []

theorem isExpected_refuse : refuse.IsExpected := by
  intro name arguments input limit state exception hraised
  cases hraised

/-- The command `verify -q` can be run, and a blank command cannot. -/
theorem reported_of_runnable_refuse :
    let source : Text := "package a;".toList
    let reading := Api.reading 100
    let request := Api.postTo .validate (Api.sourceBody source)
    (∃ oracle : Oracle Unit,
      oracle? refuse (some (.text "verify -q".toList)) (.whole 30) = .ok oracle ∧
      oracle.EachReply Reported ∧
      ∃ response,
        ((Api.serve reading (some ⟨oracle, .structural⟩) request).run (.start ())).1 =
            .ok response ∧
          response.status ∈ [200, 422, 502]) ∧
    ∃ oracle : Oracle Unit, oracle? refuse (some (.text " \t".toList)) (.whole 30) = .ok oracle ∧
      ((Api.serve reading (some ⟨oracle, .structural⟩) request).run (.start ())).1 =
        .error (.failed .emptyCommand) := by
  intro source reading request
  have hasks := Api.asksToValidate_sourceBody 99 source
  have hwords : Spelling.words? (.text "verify -q".toList) =
      .ok ["verify".toList, "-q".toList] := by decide +kernel
  have hnone : Spelling.words? (.text " \t".toList) = .ok [] := by decide +kernel
  refine ⟨⟨_, oracle?_of_words? hwords _ _, ?_⟩, _, oracle?_of_words? hnone _ _, ?_⟩
  · obtain ⟨hreported, hanswered⟩ :=
      (reported_of_runnable hwords (runs_oracle isExpected_refuse ⟨_, .whole 30⟩) .structural).1
        (by decide)
    exact ⟨hreported, (hanswered source (.start ())).2 _ _ hasks⟩
  · obtain ⟨-, -, hfails⟩ :=
      (reported_of_runnable hnone (runs_oracle isExpected_refuse ⟨_, .whole 30⟩) .structural).2
        (by decide)
    exact (hfails source (.start ()) (by decide)).2 _ _ hasks

/-- A text of one blank is accepted, although it holds no command. No question is answered then,
and none of the failures is reported. -/
theorem unreported_blankCommand :
    let source : Text := "package a;".toList
    let reading := Api.reading 100
    ∃ oracle : Oracle Unit, oracle? refuse (some (.text [' '])) (.whole 30) = .ok oracle ∧
      ((oracle.errors source).run ()).1 = .error .emptyCommand ∧
      ((oracle.isValid source).run ()).1 = .error .emptyCommand ∧
      ((Service.validateStructure ⟨oracle, .structural⟩ (some source)).run (.start ())).1 =
        .error (.failed .emptyCommand) ∧
      ((Api.serve reading (some ⟨oracle, .structural⟩)
          (Api.postTo .validate (Api.sourceBody source))).run (.start ())).1 =
        .error (.failed .emptyCommand) ∧
      ¬Reported ((oracle.errors source).run ()).1 := by
  intro source reading
  have hasks := Api.asksToValidate_sourceBody 99 source
  have hother : ∀ reason, Failure.emptyCommand ≠ .noVerdict reason := by simp
  refine ⟨_, rfl, rfl, rfl, ?_, ?_, fun hreported => ?_⟩
  · exact Service.run_validateStructure_of_failure (by decide) hother (fun _ => rfl) _
  · exact Api.run_serve_of_failure hasks (by decide) hother (fun _ => rfl) _
  · obtain ⟨reason, hreason⟩ := hreported .emptyCommand rfl
    exact hother reason hreason

end Command
end Culprit
