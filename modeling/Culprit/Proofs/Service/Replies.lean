import Culprit.Host.Oracle.Client
import Culprit.Proofs.Json.Depth
import Culprit.Proofs.Service.CommandFailures

/-!
# Replies that agree

A verifier can be asked for all errors of a document, for the verdict alone, and for the first
error. A remote verifier and a verifier command are asked anew each time, and the verdict is not
read off the errors. What they say may not fit together: a report may call a document valid and list
errors, or list none of a document that is not, and a command may fail with blank lines only. The
three replies still agree whenever the same is said each time.

If there is no reply, then the oracle reports that it has no verdict, unless it meets something that
it is not prepared for: an exception of the client that is neither an error of the transport nor an
objection to a value, a command without a word, a word with a zero character, or a run that raises
another exception.
-/

namespace Culprit

open Command (Reported Startable)

/-- The replies to the three questions about a document. -/
structure Replies where
  errors : Except Failure (List String)
  isValid : Except Failure Bool
  firstError : Except Failure (Option String)
  deriving DecidableEq

/-- The replies of an oracle, each in a state of its own. -/
def Oracle.replies {σ : Type} (oracle : Oracle σ) (document : Text) (first second third : σ) :
    Replies where
  errors := ((oracle.errors document).run first).1
  isValid := ((oracle.isValid document).run second).1
  firstError := ((oracle.firstError document).run third).1

/-- Either no question is answered, for the same reason, or the document is valid exactly when it
has no errors, and the first error is the first of them. -/
inductive Replies.Agree : Replies → Prop
  | failed (failure : Failure) : Agree ⟨.error failure, .error failure, .error failure⟩
  | answered {messages : List String} {valid : Bool} (hvalid : valid = true ↔ messages = []) :
      Agree ⟨.ok messages, .ok valid, .ok messages.head?⟩

/-- Replies that are read off the same answer agree if the verdict fits the errors. -/
theorem Replies.agree_of_map {α : Type} (reply : Except Failure α) {messages : α → List String}
    {valid : α → Bool} (hvalid : ∀ answer, valid answer = true ↔ messages answer = []) :
    Agree ⟨reply.map messages, reply.map valid,
      reply.map fun answer => (messages answer).head?⟩ := by
  cases reply with
  | error failure => exact .failed failure
  | ok answer => exact .answered (hvalid answer)

/-! ### A verifier command -/

namespace Command

theorem messages_ne_nil (errors output : Text) : messages errors output ≠ [] := by
  unfold messages
  dsimp only
  split
  · simp
  · rename_i hfound
    simpa using hfound

theorem Answer.messages_eq_nil_iff (answer : Answer) :
    (answer.status == 0) = true ↔ answer.messages = [] := by
  unfold Answer.messages
  by_cases hstatus : answer.status = 0 <;> simp [hstatus, messages_ne_nil]

variable {σ : Type} {run : Runner σ} {setup : Setup} {document : Text} {outcome : Outcome}

/-- In a state, running the words of the command on the document comes out like this, if there is
anything to run. -/
def Gives (run : Runner σ) (setup : Setup) (document : Text) (outcome : Outcome) (state : σ) :
    Prop :=
  ∀ name arguments, setup.words = name :: arguments →
    ((run name arguments (Utf8.encode document) setup.limit.value).run state).1 = outcome

/-- Runs that come out alike are answered alike. The answer is a failure that is not reported if
the words cannot be run or the outcome is not expected, and only then. -/
theorem exists_run_ask_eq (run : Runner σ) (setup : Setup) (document : Text) (outcome : Outcome) :
    ∃ reply : Except Failure Answer,
      (∀ state, Gives run setup document outcome state →
        ((ask run setup document).run state).1 = reply) ∧
      (Reported reply ↔ Startable setup.words ∧ outcome.IsExpected) := by
  by_cases hwords : Startable setup.words
  · obtain ⟨name, arguments, hsplit⟩ := List.exists_cons_of_ne_nil hwords.1
    refine ⟨outcome.answer name setup.limit, ?_, ?_⟩
    · intro state hgives
      rw [run_ask_eq hsplit (hsplit ▸ hwords.2), hgives name arguments hsplit]
    · rw [reported_answer_iff, and_iff_right hwords]
  · have hunreported : ¬Reported (.error (startFailure setup.words) : Except Failure Answer) := by
      intro hreported
      obtain ⟨reason, hreason⟩ := reported_error_iff.mp hreported
      exact startFailure_ne setup.words reason hreason
    exact ⟨.error (startFailure setup.words), fun state _ => run_ask_eq_startFailure hwords state,
      iff_of_false hunreported fun h => hwords h.1⟩

theorem replies_oracle {reply : Except Failure Answer} {first second third : σ}
    (hfirst : ((ask run setup document).run first).1 = reply)
    (hsecond : ((ask run setup document).run second).1 = reply)
    (hthird : ((ask run setup document).run third).1 = reply) :
    (oracle run setup).replies document first second third =
      ⟨reply.map Answer.messages, reply.map fun answer => answer.status == 0,
        reply.map fun answer => answer.messages.head?⟩ := by
  have herrors : (((oracle run setup).errors document).run first).1 =
      ((ask run setup document).run first).1.map Answer.messages := rfl
  have hvalid : (((oracle run setup).isValid document).run second).1 =
      ((ask run setup document).run second).1.map fun answer => answer.status == 0 := rfl
  have hhead : (((oracle run setup).firstError document).run third).1 =
      ((ask run setup document).run third).1.map fun answer => answer.messages.head? := rfl
  rw [Oracle.replies, herrors, hvalid, hhead, hfirst, hsecond, hthird]

end Command

/-! ### A remote verifier -/

namespace Http

variable {τ : Type} {url : Text} {client : Client τ} {document : Text}
  {answer : Except Trouble Response}

/-- The oracle is prepared for what the client makes of an answer: posting, judging the status and
reading the body may each fail as a request or as an answer that is malformed, and in no other
way. -/
structure Foreseen (url : Text) (client : Client τ) (answer : Except Trouble Response) : Prop where
  request : ∀ exception, answer ≠ .error (.other exception)
  status : ∀ response exception, answer = .ok response →
    client.checkStatus url response ≠ .error (.other exception)
  body : ∀ response exception, answer = .ok response → client.checkStatus url response = .ok () →
    client.readReport response.body ≠ .error (.other exception)

/-- The report that the oracle makes of the answer to its request. -/
def reply (url : Text) (client : Client τ) (answer : Except Trouble Response) :
    Except Failure Report :=
  (answer >>= client.read url).mapError (Trouble.failure url)

theorem run_report {state : τ} (h : ((client.post url document).run state).1 = answer) :
    ((report url client document).run state).1 = reply url client answer := by
  rw [reply, ← h]
  rfl

theorem errorsOf_eq_nil_iff (report : Report) : report.valid = true ↔ errorsOf report = [] := by
  unfold errorsOf
  cases report.valid <;> cases herrors : report.errors <;> simp

theorem foreseen_error_iff {trouble : Trouble} :
    Foreseen url client (.error trouble) ↔ ∀ exception, trouble ≠ .other exception := by
  constructor
  · intro h exception
    simpa using h.request exception
  · intro h
    exact ⟨by simpa using h, by simp, by simp⟩

theorem foreseen_ok_iff {response : Response} :
    Foreseen url client (.ok response) ↔
      (∀ exception, client.checkStatus url response ≠ .error (.other exception)) ∧
        (client.checkStatus url response = .ok () →
          ∀ exception, client.readReport response.body ≠ .error (.other exception)) := by
  constructor
  · intro h
    exact ⟨fun exception => h.status response exception rfl,
      fun hgood exception => h.body response exception rfl hgood⟩
  · rintro ⟨hstatus, hbody⟩
    refine ⟨by simp, ?_, ?_⟩
    · rintro response exception ⟨⟩
      exact hstatus exception
    · rintro response exception ⟨⟩ hgood
      exact hbody hgood exception

/-- Of the troubles with an answer, only another exception is not reported. -/
theorem reported_mapError_iff {α : Type} {reply : Except Trouble α} :
    Reported (reply.mapError (Trouble.failure url)) ↔
      ∀ exception, reply ≠ .error (.other exception) := by
  cases reply with
  | ok answer => exact iff_of_true (Command.reported_ok answer) (by simp)
  | error trouble =>
    have hfailure : (Except.error trouble : Except Trouble α).mapError (Trouble.failure url) =
        .error (trouble.failure url) := rfl
    rw [hfailure, Command.reported_error_iff]
    cases trouble <;> simp [Trouble.failure]

/-- The status of an answer is looked at before its body, and the body only if it is good. -/
theorem read_eq (url : Text) (client : Client τ) (response : Response) :
    client.read url response =
      match client.checkStatus url response with
      | .error trouble => .error trouble
      | .ok _ => client.readReport response.body := by
  rw [Client.read]
  cases client.checkStatus url response <;> rfl

theorem reported_reply_iff : Reported (reply url client answer) ↔ Foreseen url client answer := by
  rw [reply, reported_mapError_iff]
  cases answer with
  | error trouble =>
    have hread : (Except.error trouble >>= client.read url) = .error trouble := rfl
    rw [hread, foreseen_error_iff]
    simp
  | ok response =>
    have hread : (Except.ok response >>= client.read url) = client.read url response := rfl
    rw [hread, read_eq, foreseen_ok_iff]
    cases client.checkStatus url response with
    | error trouble => simp
    | ok good => simp

theorem replies_oracle {first second third : τ}
    (hfirst : ((client.post url document).run first).1 = answer)
    (hsecond : ((client.post url document).run second).1 = answer)
    (hthird : ((client.post url document).run third).1 = answer) :
    (oracle url client).replies document first second third =
      ⟨(reply url client answer).map errorsOf, (reply url client answer).map Report.valid,
        (reply url client answer).map fun report => (errorsOf report).head?⟩ := by
  have herrors : (((oracle url client).errors document).run first).1 =
      (reply url client answer).map errorsOf := congrArg (Except.map errorsOf) (run_report hfirst)
  have hvalid : (((oracle url client).isValid document).run second).1 =
      (reply url client answer).map Report.valid :=
    congrArg (Except.map Report.valid) (run_report hsecond)
  have hhead : (((oracle url client).firstError document).run third).1 =
      ((reply url client answer).map errorsOf).map List.head? :=
    congrArg (fun report => (report.map errorsOf).map List.head?) (run_report hthird)
  rw [Oracle.replies, herrors, hvalid, hhead]
  cases reply url client answer <;> rfl

end Http

/-- **The replies agree.** Let a remote verifier be asked three times about a document through any
client, and let the same become of each request; or let a command be run three times and come out in
the same way each time. Then the three questions fail alike, or their answers fit together. A
failure is always one that the oracle reports if what the client makes of the answer is foreseen,
and if the words of the command can be run and nothing unexpected comes of it, and otherwise it
never is. -/
theorem replies_agree (document : Text) :
    (∀ {τ : Type} (url : Text) (client : Http.Client τ) (answer : Except Http.Trouble Http.Response)
        (first second third : τ),
      (∀ state ∈ [first, second, third], ((client.post url document).run state).1 = answer) →
        let replies := (Http.oracle url client).replies document first second third
        replies.Agree ∧ (Reported replies.errors ↔ Http.Foreseen url client answer)) ∧
      ∀ {σ : Type} (run : Command.Runner σ) (setup : Command.Setup) (outcome : Command.Outcome)
        (first second third : σ),
      (∀ state ∈ [first, second, third], Command.Gives run setup document outcome state) →
        let replies := (Command.oracle run setup).replies document first second third
        replies.Agree ∧
          (Reported replies.errors ↔ Startable setup.words ∧ outcome.IsExpected) := by
  constructor
  · intro τ url client answer first second third hsame
    have hreplies := Http.replies_oracle (hsame first (by simp)) (hsame second (by simp))
      (hsame third (by simp))
    rw [hreplies]
    exact ⟨Replies.agree_of_map _ Http.errorsOf_eq_nil_iff,
      (Command.reported_map_iff _).trans Http.reported_reply_iff⟩
  · intro σ run setup outcome first second third hsame
    obtain ⟨reply, hasked, hreported⟩ := Command.exists_run_ask_eq run setup document outcome
    have hreplies := Command.replies_oracle (hasked first (hsame first (by simp)))
      (hasked second (hsame second (by simp))) (hasked third (hsame third (by simp)))
    rw [hreplies]
    exact ⟨Replies.agree_of_map reply Command.Answer.messages_eq_nil_iff,
      (Command.reported_map_iff _).trans hreported⟩

namespace Http

/-- A client of a verifier that gives every document an answer with a body and a good status. It
reads bodies as JSON, and these as reports, as long as no more than the given number of arrays and
objects stand in each other. -/
def always (room : Nat) (body : Bytes) : Client Unit where
  post _ _ := return .ok ⟨200, body⟩
  checkStatus _ _ := .ok ()
  readReport := readReport room
  close := return .ok ()

def verifierUrl : Text := "http://v.test/".toList

/-- A report on a document that is not valid, without an error in it, and a command that ends with
status one and writes a blank. -/
theorem replies_agree_silent :
    let body : Bytes := Utf8.encode "\x7b\"valid\": false, \"errors\": []\x7d".toList
    let remote := (oracle verifierUrl (always 100 body)).replies ['x'] () () ()
    let blank : Command.Runner Unit := fun _ _ _ _ => return .ended 1 [0x20] []
    let command := (Command.oracle blank ⟨["verify".toList], .whole 30⟩).replies ['x'] () () ()
    let silent : Replies := ⟨.ok [""], .ok false, .ok (some "")⟩
    remote.Agree ∧ remote = silent ∧ Foreseen verifierUrl (always 100 body) (.ok ⟨200, body⟩) ∧
      command.Agree ∧ command = silent := by
  intro body remote blank command silent
  have hsilent : remote = silent ∧ command = silent := by decide +kernel
  obtain ⟨hremote, hcommand⟩ := replies_agree ['x']
  obtain ⟨hagree, hforeseen⟩ := hremote verifierUrl (always 100 body) (.ok ⟨200, body⟩) () () ()
    fun _ _ => rfl
  have hagree' := hcommand blank ⟨["verify".toList], .whole 30⟩ (.ended 1 [0x20] []) () () ()
    fun _ _ _ _ _ => rfl
  have hreported : Reported remote.errors := by
    rw [hsilent.1]
    exact Command.reported_ok _
  exact ⟨hagree, hsilent.1, hforeseen.mp hreported, hagree'.1, hsilent.2⟩

/-- A body that is not read makes all three questions fail with what was wrong with it. -/
theorem replies_always_of_error {room : Nat} {body : Bytes} {trouble : Trouble}
    (hread : readReport room body = .error trouble) (url document : Text) :
    (oracle url (always room body)).replies document () () () =
      ⟨.error (trouble.failure url), .error (trouble.failure url),
        .error (trouble.failure url)⟩ := by
  have hpost : (((always room body).post url document).run ()).1 = .ok ⟨200, body⟩ := rfl
  have hreply : reply url (always room body) (.ok ⟨200, body⟩) = .error (trouble.failure url) := by
    change (readReport room body).mapError (Trouble.failure url) = _
    rw [hread]
    rfl
  rw [replies_oracle hpost hpost hpost, hreply]
  rfl

/-- An answer of five thousand arrays in each other, read with room for a thousand of them. No
question is answered then, and none of the failures is reported. -/
theorem unreported_overdeep :
    let client := always 1000 (Utf8.encode (List.replicate 5000 '['))
    let replies := (oracle verifierUrl client).replies ['x'] () () ()
    let failure : Failure := .raised ⟨"RecursionError",
      "maximum recursion depth exceeded while decoding a JSON array from a unicode string", []⟩
    replies = ⟨.error failure, .error failure, .error failure⟩ ∧ ¬Reported replies.errors := by
  intro client replies failure
  have hread : readReport 1000 (Utf8.encode (List.replicate 5000 '[')) =
      .error (.other ⟨"RecursionError",
        "maximum recursion depth exceeded while decoding a JSON array from a unicode string",
        []⟩) := by
    rw [readReport, Json.readDocument_replicate (by decide)]
    rfl
  have hreplies : replies = ⟨.error failure, .error failure, .error failure⟩ :=
    replies_always_of_error hread verifierUrl ['x']
  rw [hreplies]
  exact ⟨rfl, fun hreported => by simpa [failure] using Command.reported_error_iff.mp hreported⟩

end Http
end Culprit
