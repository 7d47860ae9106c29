import Culprit.Command.Words
import Culprit.Number.FloatText
import Culprit.Oracle.Basic
import Culprit.Text.Lines
import Culprit.Text.Utf8

/-!
# The command oracle

A verifier that is a command: it gets the document as its input, and an exit status of zero means
that the document is valid. Otherwise every line it writes that is not blank is an error, those of
the error stream first. How programs are run is a parameter; here it is decided what their ends
mean. A program that takes too long or cannot be started means that there is no verdict.
-/

namespace Culprit.Command

/-- What a verifier command is and how long it may take. -/
structure Setup where
  words : List Text
  limit : Number.Seconds

/-- A command as it is given: as one text, or cut into words. -/
inductive Spelling
  | text (command : Text)
  | words (words : List Text)
  deriving DecidableEq, Repr

def Spelling.words? : Spelling → Except Failure (List Text)
  | .text [] => .error (.noVerdict .missingCommand)
  | .text command => Command.words command
  | .words [] => .error (.noVerdict .missingCommand)
  | .words given => .ok given

/-! ### Runs -/

/-- How the run of a program comes out. A status below zero stands for a signal. -/
inductive Outcome
  | ended (status : Int) (errors output : Bytes)
  | timedOut
  | notStarted (error : SystemError)
  | raised (exception : Exception)
  deriving DecidableEq, Repr

/-- A way to run programs in a world that each run may change: the name of the program, its
arguments, the input and the time limit. -/
abbrev Runner (σ : Type) := Text → List Text → Bytes → Float → StateM σ Outcome

def decodeOutput (bytes : Bytes) : Text := Text.unifyLineEnds (Utf8.decodeReplacing bytes)

/-- What a process that ended says about a document. -/
structure Answer where
  status : Int
  errors : Text
  output : Text
  deriving DecidableEq, Repr

def Outcome.answer (name : Text) (limit : Number.Seconds) : Outcome → Except Failure Answer
  | .ended status errors output => .ok ⟨status, decodeOutput errors, decodeOutput output⟩
  | .timedOut => .error (.noVerdict (.timedOut limit.text))
  | .notStarted error => .error (.noVerdict (.cannotRun name error))
  | .raised exception => .error (.raised exception)

def zeroCharacter : Failure := .raised ⟨"ValueError", "embedded null byte", []⟩

variable {σ : Type}

def ask (run : Runner σ) (setup : Setup) (document : Text) :
    StateM σ (Except Failure Answer) := do
  match setup.words with
  | [] => return .error .emptyCommand
  | name :: arguments =>
    if (name :: arguments).any (·.contains '\x00') then return .error zeroCharacter
    else
      let outcome ← run name arguments (Utf8.encode document) setup.limit.value
      return outcome.answer name setup.limit

/-! ### Answers -/

def messageLines (output : Text) : List String :=
  (((Text.outputLines output).map Text.trim).filter fun line => !line.isEmpty).map String.ofList

def messages (errors output : Text) : List String :=
  let found := messageLines (errors ++ ['\n'] ++ output)
  if found.isEmpty then [""] else found

def Answer.messages (answer : Answer) : List String :=
  if answer.status = 0 then [] else Command.messages answer.errors answer.output

def oracle (run : Runner σ) (setup : Setup) : Oracle σ where
  name := "command"
  errors document := do return (← ask run setup document).map Answer.messages
  isValid document := do return (← ask run setup document).map fun answer => answer.status == 0
  firstError document := do
    return (← ask run setup document).map fun answer => answer.messages.head?
  close := return .ok ()

def oracle? (run : Runner σ) (command : Option Spelling) (limit : Number.Seconds) :
    Except Failure (Oracle σ) :=
  match command with
  | none => .error (.noVerdict .missingCommand)
  | some spelling => spelling.words?.map fun words => oracle run ⟨words, limit⟩

end Culprit.Command
