import Culprit.Oracle.Lexical
import Culprit.Proofs.Search.Alike
import Culprit.Proofs.Search.Bisection
import Culprit.Service

/-!
# Listing errors, searching and validating

A validation asks an oracle about the same source in three ways: first for the list of errors, then,
in the search that follows a bad answer, whether the source is valid, and in the end for the first
error of a prefix. An oracle in general may contradict itself there, so the search may find nothing
to blame in a source that has errors. But let the list depend on the document alone, or else the
failure to give one, and let the other answers derive from the list. Then the session in which a
question is put does not matter, the three ways agree, and what is not approved has a line to blame.
-/

namespace Culprit

variable {σ : Type}

/-- The oracle lists errors, or fails to reach a verdict, by the document alone and whatever its
state, and its other answers derive from the list. -/
structure Oracle.Answers (oracle : Oracle σ) (answers : Text → Except NoVerdict (List String)) :
    Prop where
  errors : ∀ document state,
    ((oracle.errors document).run state).1 = (answers document).mapError .noVerdict
  isValid : ∀ document state,
    ((oracle.isValid document).run state).1 =
      ((answers document).mapError .noVerdict).map List.isEmpty
  firstError : ∀ document state,
    ((oracle.firstError document).run state).1 =
      ((answers document).mapError .noVerdict).map List.head?

namespace Oracle

variable {oracle : Oracle σ} {answers : Text → Except NoVerdict (List String)}

theorem answers_ofErrors {errors : Text → StateM σ (Except Failure (List String))}
    (herrors : ∀ document state,
      ((errors document).run state).1 = (answers document).mapError .noVerdict)
    (name : String) (close : StateM σ (Except Failure Unit)) :
    (ofErrors name errors close).Answers answers where
  errors := herrors
  isValid document state := congrArg (Except.map List.isEmpty) (herrors document state)
  firstError document state := congrArg (Except.map List.head?) (herrors document state)

namespace Answers

/-- A document is accepted when its list of errors is empty, and not when there is no verdict. -/
theorem judges (h : oracle.Answers answers) :
    Locator.Judges oracle fun document => answers document = .ok [] := by
  intro document session
  rw [Locator.run_accepts, h.isValid]
  rcases hanswer : answers document with reason | _ | ⟨message, more⟩ <;>
    simp [hanswer, Except.mapError, Except.map]

theorem run_firstMessage (h : oracle.Answers answers) (document : Text) (session : Session σ) :
    ((Session.firstMessage oracle document).run session).1 =
      match answers document with
      | .ok messages => orUnknown (messages.head?.getD "")
      | .error reason => orUnknown reason.message := by
  have hanswer := h.firstError document session.oracle
  rw [Session.run_firstMessage_eq]
  rcases hrun : (oracle.firstError document).run session.oracle with ⟨answer, state⟩
  rw [hrun] at hanswer
  obtain rfl : answer = ((answers document).mapError .noVerdict).map List.head? := hanswer
  rcases answers document with reason | messages <;> rfl

section

variable {τ : Type} {other : Oracle τ}

theorem alike_accepts (h : oracle.Answers answers) (h' : other.Answers answers)
    {document document' : Text} (hsame : answers document' = answers document) :
    Session.Alike (fun _ _ => True) (Session.accepts oracle document)
      (Session.accepts other document') := by
  intro one two _
  refine ⟨?_, trivial⟩
  rw [h.judges document one, h'.judges document' two]
  simp only [hsame]

theorem alike_firstMessage (h : oracle.Answers answers) (h' : other.Answers answers)
    {document document' : Text} (hsame : answers document' = answers document) :
    Session.Alike (fun _ _ => True) (Session.firstMessage oracle document)
      (Session.firstMessage other document') := by
  intro one two _
  refine ⟨?_, trivial⟩
  rw [h.run_firstMessage document one, h'.run_firstMessage document' two, hsame]

/-- No two oracles with these answers, in whatever sessions, can be told apart by a search. -/
theorem answerAlike (h : oracle.Answers answers) (h' : other.Answers answers) :
    Locator.AnswerAlike (fun _ _ => True) oracle other where
  ignoresLogs := Session.ignoresLogs_true
  accepts _ := h.alike_accepts h' rfl
  firstMessage _ := h.alike_firstMessage h' rfl

end

end Answers

/-- The built-in oracle answers by what the check of a document finds. -/
theorem answers_lexical (σ : Type) :
    (lexical σ).Answers fun document => .ok (lexicalErrors document) :=
  answers_ofErrors (fun _ _ => rfl) lexicalName (return .ok ())

end Oracle

namespace Locator

variable {locator : Locator σ} {answers : Text → Except NoVerdict (List String)} {source : Text}

/-! ### The search -/

/-- What a validation comes to, in terms of the answers to its two requests, each made in the
session that was reached by then. -/
theorem exists_run_validateStructure_eq (locator : Locator σ) (hshown : source.isBlankText = false)
    (session : Session σ) :
    ∃ asked searched, ((locator.validateStructure (some source)).run session).1 =
      match ((locator.verify source).run asked).1 with
      | .ok report =>
        if report.valid then .ok approval
        else .error (.rejected (.errors report.errors
          ((locator.locateQuietly source).run searched).1))
      | .error (.noVerdict reason) =>
        .error (.rejected (.noVerdict reason ((locator.locateQuietly source).run searched).1))
      | .error failure => .error (.failed failure) := by
  unfold validateStructure
  rw [Session.run_bind_eq, Option.getD_some, if_neg (by simp [hshown]), Session.run_bind_eq,
    Session.run_bind_eq]
  generalize ((Session.log .debug .service _).run _).2 = asked
  refine ⟨asked, ?_⟩
  rcases (locator.verify source).run asked with ⟨failure | report, verified⟩
  · cases failure with
    | noVerdict reason => exact ⟨_, rfl⟩
    | _ => exact ⟨verified, rfl⟩
  · refine ⟨verified, ?_⟩
    by_cases hvalid : report.valid = true
    · simp only [if_pos hvalid]
      rfl
    · simp only [if_neg hvalid]
      rw [Session.run_bind_eq]
      rcases (locator.locateQuietly source).run verified with ⟨_ | fault, searched⟩ <;> rfl

end Locator
end Culprit
