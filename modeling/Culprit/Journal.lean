import Culprit.Text.Blank

/-!
# The journal of a run

What happens while a document is judged or searched is written down in order: the questions put to
the verifier, its closing, and the log records. The journal is part of the result of a run, so that
statements about a run can speak of everything that was asked.
-/

namespace Culprit

inductive LogLevel
  | debug
  | info
  | warning
  | error
  deriving DecidableEq, Repr

namespace LogLevel

def name : LogLevel → String
  | .debug => "DEBUG"
  | .info => "INFO"
  | .warning => "WARNING"
  | .error => "ERROR"

/-- The number of a level; a record is shown if its number is at least the one asked for. -/
def severity : LogLevel → Nat
  | .debug => 10
  | .info => 20
  | .warning => 30
  | .error => 40

end LogLevel

/-- The part of the program that writes a log record. -/
inductive Component
  | locator
  | oracle
  | service
  | api
  | tools
  deriving DecidableEq, Repr

def Component.loggerName : Component → String
  | .locator => "faultline.locator"
  | .oracle => "faultline.oracle"
  | .service => "faultline.service"
  | .api => "faultline.api"
  | .tools => "faultline.mcp"

structure LogRecord where
  level : LogLevel
  component : Component
  message : String
  deriving DecidableEq, Repr

/-- A question that a verifier answers about a document. -/
inductive Question
  | isValid
  | firstError
  | errors
  deriving DecidableEq, Repr

def Question.name : Question → String
  | .isValid => "is_valid"
  | .firstError => "first_error"
  | .errors => "errors"

inductive Event
  | asked (question : Question) (document : Text)
  | closed
  | logged (record : LogRecord)
  deriving DecidableEq, Repr

abbrev Journal := List Event

namespace Journal

def records (journal : Journal) : List LogRecord :=
  journal.filterMap fun
    | .logged record => some record
    | _ => none

def questions (journal : Journal) : List (Question × Text) :=
  journal.filterMap fun
    | .asked question document => some (question, document)
    | _ => none

@[simp] theorem records_append (first second : Journal) :
    records (first ++ second) = records first ++ records second := by
  simp [records]

@[simp] theorem questions_append (first second : Journal) :
    questions (first ++ second) = questions first ++ questions second := by
  simp [questions]

end Journal
end Culprit
