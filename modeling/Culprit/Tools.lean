import Culprit.Oracle.Kind
import Culprit.Service

/-!
# Tools for assistants

The service as tools that an assistant calls with texts and that answer with texts. A tool refuses
with a message when there is no service or when the service objects; any other failure of the
oracle is passed on.
-/

namespace Culprit.Tools

inductive ToolError
  | refused (message : String)
  | failed (failure : Failure)
  deriving DecidableEq, Repr

def noService : ToolError := .refused "Validation service not initialised"

variable {σ : Type}

def faultText : Option Fault → String
  | none => "No fault found.  The DRL source validates."
  | some fault =>
    "Fault at line " ++ toString fault.line ++ ".\n  content: " ++ String.ofList fault.content
      ++ "\n  error:   " ++ fault.message

def locateFault (service : Option (Service σ)) (source : Text) (completion : Option String) :
    StateM (Session σ) (Except ToolError String) := do
  Session.log .info .tools
    ("locate_fault called (source length=" ++ toString source.length ++ ")")
  Session.log .debug .tools ("locate_fault source:\n" ++ String.ofList source)
  match service with
  | none => return .error noService
  | some service =>
    match ← service.locate source completion with
    | .error error => return .error (.refused error.message)
    | .ok fault => return .ok (faultText fault)

def validateRules (service : Option (Service σ)) (source : Text) :
    StateM (Session σ) (Except ToolError String) := do
  Session.log .info .tools
    ("validate_rules called (source length=" ++ toString source.length ++ ")")
  match service with
  | none => return .error noService
  | some service =>
    match ← service.validateStructure (some source) with
    | .ok approval => return .ok approval
    | .error (.rejected rejection) => return .error (.refused rejection.message)
    | .error (.failed failure) => return .error (.failed failure)

def oracleList (activeName : String) : String :=
  let oracles := OracleKind.names.map fun name =>
    "  - " ++ name ++ (if name = activeName then "  (active)" else "")
  let completions := Completion.names.map fun name => "  - " ++ name
  "\n".intercalate (["Oracles:"] ++ oracles ++ ["Completers:"] ++ completions)

def listOracles (service : Option (Service σ)) : Except ToolError String :=
  match service with
  | none => .error noService
  | some service => .ok (oracleList service.oracle.name)

def guideLines : List String := [
  "You are fixing a Drools DRL file that the rule compiler rejects.",
  "",
  "1. Call `validate_rules(source)`.  If it returns \"Code looks good\", stop.",
  "2. Otherwise call `locate_fault(source)`.  It reports the first line whose",
  "   inclusion makes the file invalid, plus the compiler message.",
  "3. Fix that line only.  Typical causes:",
  "   - unbalanced parentheses in a pattern, e.g. `Person(age > 18`",
  "   - a rule, query or declare block missing its `end`",
  "   - a declared field not of the form `name : Type`",
  "   - a malformed `package` header (it must come first)",
  "4. Re-run `locate_fault` on the edited source; repeat until no fault is found.",
  "",
  "Faults are reported one at a time.  A later line can still be broken after",
  "the first fix."]

def guide : String := String.join (guideLines.map (· ++ "\n"))

end Culprit.Tools
