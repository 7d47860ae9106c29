import Culprit.Proofs.Search.Alike
import Culprit.Proofs.Search.Bisection

/-!
# Crashes and rejections

An oracle may fail at any question of a search. To a search this makes no difference to an oracle
that rejects the document instead, or that names what the failure says as the first error: the
documents asked about, the state of the oracle and the result are the same, and only the log tells.
So a search of a source that is not blank always ends, and only the oracle's own word that the whole
source is valid makes it end without a fault.
-/

namespace Culprit

variable {σ : Type}

/-- The same oracle, with every failure to judge taken for a rejection and every failure to name an
error taken for an error that says what the failure says. -/
def Oracle.failClosed (oracle : Oracle σ) : Oracle σ :=
  { oracle with
    isValid := fun document => do
      match ← oracle.isValid document with
      | .ok accepted => return .ok accepted
      | .error _ => return .ok false
    firstError := fun document => do
      match ← oracle.firstError document with
      | .ok message => return .ok message
      | .error failure => return .ok (some failure.message) }

theorem Oracle.run_isValid_failClosed (oracle : Oracle σ) (document : Text) (state : σ) :
    (oracle.failClosed.isValid document).run state =
      match (oracle.isValid document).run state with
      | (.ok accepted, after) => (.ok accepted, after)
      | (.error _, after) => (.ok false, after) := by
  simp only [failClosed, StateT.run_bind]
  rcases (oracle.isValid document).run state with ⟨failure | accepted, after⟩ <;> rfl

theorem Oracle.run_firstError_failClosed (oracle : Oracle σ) (document : Text) (state : σ) :
    (oracle.failClosed.firstError document).run state =
      match (oracle.firstError document).run state with
      | (.ok message, after) => (.ok message, after)
      | (.error failure, after) => (.ok (some failure.message), after) := by
  simp only [failClosed, StateT.run_bind]
  rcases (oracle.firstError document).run state with ⟨failure | message, after⟩ <;> rfl

namespace Session

/-- The oracles are in the same state and have been asked the same questions. -/
def AskedAlike (first second : Session σ) : Prop :=
  first.oracle = second.oracle ∧ first.journal.questions = second.journal.questions

theorem questions_logged (session : Session σ) (record : LogRecord) :
    (session.logged record).journal.questions = session.journal.questions := by
  simp [logged, Journal.questions]

theorem questions_asking (session : Session σ) (question : Question) (document : Text) (state : σ) :
    (session.asking question document state).journal.questions =
      session.journal.questions ++ [(question, document)] := by
  simp [asking, Journal.questions]

theorem ignoresLogs_askedAlike : IgnoresLogs (AskedAlike (σ := σ)) where
  left h record := ⟨h.1, (questions_logged _ record).trans h.2⟩
  right h record := ⟨h.1, h.2.trans (questions_logged _ record).symm⟩

theorem AskedAlike.asking {first second : Session σ} (h : AskedAlike first second)
    (question : Question) (document : Text) (state : σ) :
    AskedAlike (first.asking question document state) (second.asking question document state) :=
  ⟨rfl, by rw [questions_asking, questions_asking, h.2]⟩

end Session

open Session

/-- A crash moves the state and is a question like any other; only its value is settled later. -/
theorem Oracle.answerAlike_failClosed (oracle : Oracle σ) :
    Locator.AnswerAlike AskedAlike oracle oracle.failClosed where
  ignoresLogs := ignoresLogs_askedAlike
  accepts document := by
    intro one two hrel
    rw [run_accepts_eq, run_accepts_eq, oracle.run_isValid_failClosed, hrel.1]
    rcases (oracle.isValid document).run two.oracle with ⟨failure | accepted, state⟩
    · exact ⟨rfl, ignoresLogs_askedAlike.left (hrel.asking _ _ _) _⟩
    · exact ⟨rfl, hrel.asking _ _ _⟩
  firstMessage document := by
    intro one two hrel
    rw [run_firstMessage_eq, run_firstMessage_eq, oracle.run_firstError_failClosed, hrel.1]
    rcases (oracle.firstError document).run two.oracle with ⟨failure | message, state⟩
    · exact ⟨rfl, ignoresLogs_askedAlike.left (hrel.asking _ _ _) _⟩
    · exact ⟨rfl, hrel.asking _ _ _⟩

namespace Locator

/-- The three ways in which a search can end, whatever the oracle does. -/
inductive Ended (locator : Locator σ) (source : Option Text) (session : Session σ) :
    Except LocateError (Option Fault) × Session σ → Prop
  | unasked (hblank : (source.getD []).isBlankText = true) :
      Ended locator source session (.error .noSource, session)
  | valid {state : σ} {final : Session σ} (hshown : (source.getD []).isBlankText = false)
      (hvalid : (locator.oracle.isValid (source.getD [])).run session.oracle = (.ok true, state))
      (hasked : final.journal.questions =
        session.journal.questions ++ [(.isValid, source.getD [])]) :
      Ended locator source session (.ok none, final)
  | faulty {fault : Fault} {final : Session σ} (hshown : (source.getD []).isBlankText = false)
      (hmessage : fault.message ≠ "") : Ended locator source session (.ok (some fault), final)

theorem ended (locator : Locator σ) (source : Option Text) (session : Session σ) :
    Ended locator source session ((locator.locate source).run session) := by
  by_cases hblank : (source.getD []).isBlankText = true
  · rw [locator.run_locate_of_blank hblank session]
    exact .unasked hblank
  · obtain ⟨text, rfl⟩ : ∃ text, source = some text := by
      cases source with
      | none => exact absurd rfl hblank
      | some text => exact ⟨text, rfl⟩
    have hshown : text.isBlankText = false := by simpa using hblank
    rcases hasked : (accepts locator.oracle text).run session with ⟨accepted, asked⟩
    cases accepted with
    | true =>
      obtain ⟨state, hvalid, rfl⟩ := exists_of_run_accepts_eq_true hasked
      rw [locator.run_locate_of_accepted hshown hasked]
      exact .valid hshown hvalid (by rw [questions_logged, questions_asking]; rfl)
    | false =>
      rw [locator.run_locate_of_rejected hshown hasked]
      exact .faulty hshown (firstMessage_ne_empty _ _ _)

def failClosed (locator : Locator σ) : Locator σ := ⟨locator.oracle.failClosed, locator.completer⟩

/-- **A crash is a rejection.** Whatever an oracle fails to answer, a search gives the same result,
asks about the same documents and leaves the oracle in the same state as a search with an oracle
that rejects where this one fails to judge, and that says what the failure says where this one fails
to name an error. The search gives no result only for a source that is missing or blank, of which
nothing is asked. It finds no fault only when the first question was whether the source is valid and
the answer was yes, and every fault has a message. -/
theorem locate_failClosed (locator : Locator σ) (source : Option Text) (session : Session σ) :
    let crashing := (locator.locate source).run session
    let rejecting := (locator.failClosed.locate source).run session
    crashing.1 = rejecting.1 ∧
      crashing.2.journal.questions = rejecting.2.journal.questions ∧
      crashing.2.oracle = rejecting.2.oracle ∧
      (∀ error, crashing.1 = .error error ↔
        error = .noSource ∧ (source.getD []).isBlankText = true) ∧
      ((source.getD []).isBlankText = true → crashing.2 = session) ∧
      (crashing.1 = .ok none →
        ((locator.oracle.isValid (source.getD [])).run session.oracle).1 = .ok true ∧
          crashing.2.journal.questions =
            session.journal.questions ++ [(.isValid, source.getD [])]) ∧
      ∀ fault, crashing.1 = .ok (some fault) → fault.message ≠ "" := by
  intro crashing rejecting
  obtain ⟨hresult, hstate, hquestions⟩ :=
    locator.oracle.answerAlike_failClosed.locate locator.completer source session session ⟨rfl, rfl⟩
  refine ⟨hresult, hquestions, hstate, ?_⟩
  have hended : Ended locator source session crashing := locator.ended source session
  generalize crashing = run at hended
  cases hended with
  | unasked hblank => simpa [hblank] using fun error => eq_comm
  | valid hshown hvalid hasked => simp [hshown, hvalid, hasked]
  | faulty hshown hmessage => simp [hshown, hmessage]

/-- An oracle that crashes at its second question, finds documents valid at a third or later one,
and crashes with a last word whenever it is to name an error. -/
def shaky (lastWord : String) : Oracle Nat where
  name := "shaky"
  errors _ := return .ok []
  isValid _ := fun asked =>
    (match asked with
      | 0 => .ok false
      | 1 => .error (.raised ⟨"RuntimeError", "gone", []⟩)
      | _ => .ok true, asked + 1)
  firstError _ := return .error (.raised ⟨"RuntimeError", lastWord, []⟩)
  close := return .ok ()

/-- The crash counts against the second of four lines, and the fault says what the oracle said last,
or at least something if that was nothing. -/
theorem locate_failClosed_shaky :
    let locator (lastWord : String) : Locator Nat := ⟨shaky lastWord, Completion.naive.complete⟩
    let source := "a\nb\nc\nd".toList
    let fault (message : String) : Fault := ⟨"b".toList, 2, message⟩
    ∀ said ∈ [("", "Unknown compilation error"), ("no compiler", "no compiler")],
      (((locator said.1).locate (some source)).run (.start 0)).1 = .ok (some (fault said.2)) ∧
        (((locator said.1).failClosed.locate (some source)).run (.start 0)).1 =
          .ok (some (fault said.2)) ∧
        (fault said.2).message ≠ "" := by
  intro locator source fault said hsaid
  have hruns : ∀ said ∈ [("", "Unknown compilation error"), ("no compiler", "no compiler")],
      (((locator said.1).locate (some source)).run (.start 0)).1 = .ok (some (fault said.2)) := by
    decide +kernel
  have hrun := hruns said hsaid
  obtain ⟨hresult, -, -, -, -, -, hmessage⟩ :=
    locate_failClosed (locator said.1) (some source) (.start 0)
  exact ⟨hrun, hresult.symm.trans hrun, hmessage _ hrun⟩

end Locator
end Culprit
