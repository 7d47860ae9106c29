import Culprit.Model.Violation
import Culprit.Text.Quoted

/-!
# Failures of a verifier

A verifier that is asked about a document may fail to answer. A failure carries its cause, and its
message is a function of that. Only some failures are the verifier's own way to say that it has no
verdict; the others are faults of whoever set it up or wrote it, or of what it relies on.
-/

namespace Culprit

/-- An error of the operating system: its number and what that means, and the file it is about. -/
structure SystemError where
  number : Option Nat
  meaning : String
  file : Option Text
  deriving DecidableEq, Repr

def SystemError.message (error : SystemError) : String :=
  (match error.number with
    | some number => "[Errno " ++ toString number ++ "] " ++ error.meaning
    | none => error.meaning)
    ++ match error.file with
      | some file => ": " ++ String.ofList (Text.quote file)
      | none => ""

/-- An exception of a library or of the language: the name of its class, its text, and what was
found wrong if it comes of checking a value. -/
structure Exception where
  kind : String
  message : String
  violations : List Violation
  deriving DecidableEq, Repr

inductive NoVerdict
  | missingUrl
  | missingCommand
  | requestFailed (url : Text) (reason : String)
  | malformedAnswer (url : Text) (exception : Exception)
  | timedOut (limit : String)
  | cannotRun (program : Text) (error : SystemError)
  | reported (message : String)
  deriving DecidableEq, Repr

def NoVerdict.message : NoVerdict → String
  | .missingUrl => "HTTP oracle requires a verifier URL (set ORACLE_URL)"
  | .missingCommand => "Command oracle requires a command (set ORACLE_COMMAND)"
  | .requestFailed url reason =>
    "Verifier request to " ++ String.ofList url ++ " failed: " ++ reason
  | .malformedAnswer url exception =>
    "Verifier at " ++ String.ofList url ++ " returned a malformed response: " ++ exception.message
  | .timedOut limit => "Verifier command timed out after " ++ limit ++ "s"
  | .cannotRun program error =>
    "Cannot run verifier command " ++ String.ofList (Text.quote program) ++ ": " ++ error.message
  | .reported message => message

/-- Why a question to a verifier was not answered. -/
inductive Failure
  | noVerdict (reason : NoVerdict)
  | unclosedQuotation
  | danglingEscape
  | emptyCommand
  | raised (exception : Exception)
  deriving DecidableEq, Repr

def Failure.message : Failure → String
  | .noVerdict reason => reason.message
  | .unclosedQuotation => "No closing quotation"
  | .danglingEscape => "No escaped character"
  | .emptyCommand => "list index out of range"
  | .raised exception => exception.message

end Culprit
