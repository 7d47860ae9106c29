import Culprit.Oracle.Basic

/-!
# Verdicts

A search must not stop because its verifier fails. Here a failure becomes data: a document counts
as valid only if the oracle says so, and asking for the first error always gives a message that
says something.
-/

namespace Culprit

/-- What became of the question whether a document is valid. -/
inductive Verdict
  | valid
  | invalid
  | crashed
  deriving DecidableEq, Repr

def Verdict.name : Verdict → String
  | .valid => "valid"
  | .invalid => "invalid"
  | .crashed => "oracle_crashed"

def unknownError : String := "Unknown compilation error"

def orUnknown (message : String) : String := if message = "" then unknownError else message

theorem orUnknown_ne_empty (message : String) : orUnknown message ≠ "" := by
  unfold orUnknown
  split
  · simp [unknownError]
  · assumption

namespace Session

variable {σ : Type}

def judge (oracle : Oracle σ) (document : Text) : StateM (Session σ) Verdict := do
  match ← askValid oracle document with
  | .ok true => return .valid
  | .ok false => return .invalid
  | .error failure =>
    log .warning .oracle
      ("Oracle '" ++ oracle.name ++ "' crashed during validity check: " ++ failure.message)
    return .crashed

def accepts (oracle : Oracle σ) (document : Text) : StateM (Session σ) Bool := do
  return (← judge oracle document) == .valid

def firstMessage (oracle : Oracle σ) (document : Text) : StateM (Session σ) String := do
  match ← askFirstError oracle document with
  | .ok message => return orUnknown (message.getD "")
  | .error failure =>
    log .warning .oracle
      ("Oracle '" ++ oracle.name ++ "' crashed while reporting errors: " ++ failure.message)
    return orUnknown failure.message

end Session
end Culprit
