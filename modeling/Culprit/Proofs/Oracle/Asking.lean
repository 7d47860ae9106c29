import Culprit.Oracle.Verdict

/-!
# What becomes of a question

An oracle answers in the state that it has reached, and the question is written down. What the
adapter makes of the answer is a value in every case: a failure to judge is no acceptance, and a
message always says something.
-/

namespace Culprit.Session

variable {σ α β : Type}

theorem run_bind_eq (action : StateM (Session σ) α) (next : α → StateM (Session σ) β)
    (session : Session σ) :
    (action >>= next).run session = (next (action.run session).1).run (action.run session).2 := rfl

/-- A session with one more log record. -/
def logged (session : Session σ) (record : LogRecord) : Session σ :=
  { session with journal := session.journal ++ [.logged record] }

/-- The session behind a question, with the state that the answer leaves the oracle in. -/
def asking (session : Session σ) (question : Question) (document : Text) (state : σ) : Session σ :=
  ⟨state, session.journal ++ [.asked question document]⟩

/-- The record of a crash that the adapter turns into a value. -/
def crashRecord (oracle : Oracle σ) (crash : String) (failure : Failure) : LogRecord :=
  ⟨.warning, .oracle, "Oracle '" ++ oracle.name ++ crash ++ failure.message⟩

theorem run_accepts_eq (oracle : Oracle σ) (document : Text) (session : Session σ) :
    (accepts oracle document).run session =
      match (oracle.isValid document).run session.oracle with
      | (.ok accepted, state) => (accepted, session.asking .isValid document state)
      | (.error failure, state) =>
        (false, (session.asking .isValid document state).logged
          (crashRecord oracle "' crashed during validity check: " failure)) := by
  have hask : (askValid oracle document).run session =
      (((oracle.isValid document).run session.oracle).1,
        session.asking .isValid document ((oracle.isValid document).run session.oracle).2) := rfl
  unfold accepts judge
  rw [run_bind_eq, run_bind_eq, hask]
  rcases (oracle.isValid document).run session.oracle with ⟨failure | accepted, state⟩
  · rfl
  · cases accepted <;> rfl

/-- Only the oracle's own word that a document is valid counts as acceptance. -/
theorem exists_of_run_accepts_eq_true {oracle : Oracle σ} {document : Text}
    {session asked : Session σ} (h : (accepts oracle document).run session = (true, asked)) :
    ∃ state, (oracle.isValid document).run session.oracle = (.ok true, state) ∧
      asked = session.asking .isValid document state := by
  rw [run_accepts_eq] at h
  rcases hanswer : (oracle.isValid document).run session.oracle with ⟨failure | accepted, state⟩
  · rw [hanswer] at h
    cases (Prod.mk.inj h).1
  · rw [hanswer] at h
    obtain ⟨rfl, rfl⟩ := Prod.mk.inj h
    exact ⟨state, rfl, rfl⟩

theorem run_firstMessage_eq (oracle : Oracle σ) (document : Text) (session : Session σ) :
    (firstMessage oracle document).run session =
      match (oracle.firstError document).run session.oracle with
      | (.ok message, state) =>
        (orUnknown (message.getD ""), session.asking .firstError document state)
      | (.error failure, state) =>
        (orUnknown failure.message, (session.asking .firstError document state).logged
          (crashRecord oracle "' crashed while reporting errors: " failure)) := by
  have hask : (askFirstError oracle document).run session =
      (((oracle.firstError document).run session.oracle).1,
        session.asking .firstError document ((oracle.firstError document).run session.oracle).2) :=
    rfl
  unfold firstMessage
  rw [run_bind_eq, hask]
  rcases (oracle.firstError document).run session.oracle with ⟨failure | message, state⟩
  · rfl
  · rfl

theorem firstMessage_ne_empty (oracle : Oracle σ) (document : Text) (session : Session σ) :
    ((firstMessage oracle document).run session).1 ≠ "" := by
  rw [run_firstMessage_eq]
  split <;> exact orUnknown_ne_empty _

end Culprit.Session
