import Culprit.Api.Answer
import Culprit.Host.Api
import Culprit.Proofs.Cli.Endings
import Culprit.Proofs.Json.Strings
import Culprit.Proofs.Service.Agreement
import Culprit.Proofs.Text.Utf8
import Culprit.Tools

/-!
# Five ways to ask the same question

A source can be judged through two requests to the API, two tools and the command. They reach the
verdict by different routes: some search at once, others list the errors first and search only then,
and each looks for blank sources in a place of its own. With the built-in oracle the answers do not
depend on the session that a question is put in, so all five come down to one search, and what they
say differs in words only.
-/

namespace Culprit

variable {σ : Type} {completion : Completion} {source : Text}

/-! ### One search for all -/

namespace Service

/-- The service with the built-in oracle. -/
abbrev lexical (σ : Type) (completion : Completion) : Service σ := ⟨Oracle.lexical σ, completion⟩

theorem answers_lexical (σ : Type) (completion : Completion) :
    (Finder.locator (lexical σ completion)).oracle.Answers fun document =>
      .ok (lexicalErrors document) :=
  Oracle.answers_lexical σ

theorem run_locate_of_blank (service : Service σ) (hblank : source.isBlankText = true)
    (session : Session σ) :
    ((service.locate source none).run session).1 = .error .noSource := by
  have hsource : ((some source).getD []).isBlankText = true := hblank
  have hrun : (service.locate source none).run session = (.error .noSource, session) :=
    (Finder.locator service).run_locate_of_blank hsource session
  rw [hrun]

/-- A source that is not blank has one judgement, in whatever session it is asked for. It is the
verdict of the list of errors. -/
theorem exists_run_locate_lexical (completion : Completion)
    (hshown : source.isBlankText = false) :
    ∃ found : Option Fault, (lexicalErrors source = [] ↔ found = none) ∧
      ∀ (σ : Type) (session : Session σ),
        (((lexical σ completion).locate source none).run session).1 = .ok found := by
  let locator : Locator Unit := (lexical Unit completion).locator
  have hanswers := Oracle.answers_lexical Unit
  have hsame : ∀ (σ : Type) (session : Session σ),
      (((lexical σ completion).locate source none).run session).1 =
        ((locator.locate (some source)).run (.start ())).1 := fun σ session =>
    (((Oracle.answers_lexical σ).answerAlike hanswers).locate completion.complete (some source)
      session (.start ()) trivial).1
  by_cases hvalid : lexicalErrors source = []
  · have hlocated : ((locator.locate (some source)).run (.start ())).1 = .ok none :=
      hanswers.judges.run_locate_eq_none hshown (decide_eq_true (congrArg Except.ok hvalid)) _
    exact ⟨none, iff_of_true hvalid rfl, fun σ session => (hsame σ session).trans hlocated⟩
  · have hrejected : ¬(Except.ok (lexicalErrors source) : Except NoVerdict _) = .ok [] := by
      simpa using hvalid
    obtain ⟨fault, hlocated⟩ : ∃ fault,
        ((locator.locate (some source)).run (.start ())).1 = .ok (some fault) :=
      hanswers.judges.exists_run_locate_eq_fault hshown (decide_eq_false hrejected) _
    exact ⟨some fault, iff_of_false hvalid (by simp),
      fun σ session => (hsame σ session).trans hlocated⟩

theorem run_validateStructure_of_blank (service : Service σ) (hblank : source.isBlankText = true)
    (session : Session σ) :
    ((service.validateStructure (some source)).run session).1 = .error (.rejected .noSource) := by
  rw [validateStructure, Locator.validateStructure, Session.run_bind_eq, Option.getD_some,
    if_pos hblank]
  rfl

end Service

/-! ### Requests -/

namespace Api

/-- The body of a request is read as the source, and asks for nothing else. -/
def Reading.Gives (reading : Reading) (body : Bytes) (source : Text) : Prop :=
  ∃ value, reading.decode body = .ok value ∧ reading.locateBody value = .ok ⟨source, none⟩ ∧
    reading.validateBody value = .ok source

/-- The body with the source as its only field. -/
def sourceBody (source : Text) : Bytes := Utf8.encode (Json.writeField "source".toList source)

/-- Every source can be given, to whoever reads one object at least. -/
theorem gives_sourceBody (room : Nat) (source : Text) :
    (reading (room + 1)).Gives (sourceBody source) source := by
  have hread : readBody (room + 1) (sourceBody source) =
      .ok (.object [("source".toList, .string source)]) := by
    have hshown : ¬(sourceBody source).isEmpty = true := Bool.false_ne_true
    rw [readBody, if_neg hshown, sourceBody, Json.readDocument_encode_writeField]
  exact ⟨_, hread, rfl, rfl⟩

def postTo (endpoint : Endpoint) (body : Bytes) : Request :=
  ⟨"POST", endpoint.path.toList, body⟩

variable {reading : Reading}

/-- A request to an endpoint is answered by the endpoint, and the answer is timed. -/
theorem run_serve_postTo {endpoint : Endpoint} (hmethod : endpoint.method = "POST")
    (service : Service σ) (body : Bytes) (session : Session σ) :
    ((serve reading (some service) (postTo endpoint body)).run session).1 =
      ((endpoint.answer reading (some service) body).run session).1.map
        fun response => { response with timed := true } := by
  have hslashes : dropSlashes endpoint.path.toList = endpoint.path.toList := by
    cases endpoint <;> decide
  have hserve : serve reading (some service) (postTo endpoint body) =
      serveAt reading (some service) "POST" endpoint.path.toList body := by
    simp only [serve, postTo, hslashes, ne_eq, not_true_eq_false, false_and, if_false]
  have hroute : route reading (some service) "POST" endpoint.path.toList body =
      endpoint.answer reading (some service) body := by
    rw [route, Endpoint.ofPath?_path]
    simp only [hmethod, if_true]
  rw [hserve, serveAt, Session.run_bind_eq, hroute]
  rcases (endpoint.answer reading (some service) body).run session with ⟨_ | response, final⟩ <;>
    rfl

theorem withBody_eq {α : Type} {service : Service σ} {body : Bytes}
    {read : Json → Except BodyRefusal α} {value : Json}
    (hvalue : reading.decode body = .ok value) {content : α} (hcontent : read value = .ok content)
    (act : Service σ → α → StateM (Session σ) (Except Breakdown Response)) :
    withBody reading read (some service) body act = act service content := by
  simp only [withBody, hvalue, hcontent]

section

variable {body : Bytes}

end

end Api

/-! ### Tools -/

namespace Tools

end Tools

/-! ### The command -/

namespace Cli

variable {τ : Type}

section

variable {invocation : Invocation τ} {check : Check} {settings : Settings} {threshold : Nat}

end

end Cli

end Culprit
