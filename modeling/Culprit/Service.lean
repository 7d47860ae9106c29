import Culprit.Report
import Culprit.Search

/-!
# The validation service

What all front ends share: an oracle and the completion that documents are made with. The service
reports everything the oracle says about a source, locates its culprit line, or does both at once
and explains why a source is rejected. For these requests any way to make documents will do; a
service has one with a name, and a request to locate may name another.
-/

namespace Culprit

inductive Rejection
  /-- There is no source, or it is blank. -/
  | noSource
  | noVerdict (reason : NoVerdict) (fault : Option Fault)
  | errors (messages : List String) (fault : Option Fault)
  deriving DecidableEq, Repr

namespace Rejection

def fault : Rejection → Option Fault
  | .noSource => none
  | .noVerdict _ fault => fault
  | .errors _ fault => fault

def faultText (fault : Fault) : String :=
  "DRL syntax error at line " ++ toString fault.line ++ ": " ++ fault.message
    ++ "\nFaulty content: " ++ String.ofList fault.content

def errorList (messages : List String) : String :=
  "\n".intercalate (messages.map fun message => "ERROR: " ++ message)

def message : Rejection → String
  | .noSource => "DRL code cannot be null or empty"
  | .noVerdict reason (some fault) => faultText fault ++ "\nOriginal error: " ++ reason.message
  | .noVerdict reason none => "Failed to validate DRL code: " ++ reason.message
  | .errors messages (some fault) =>
    faultText fault ++ "\nVerifier result: " ++ errorList messages
  | .errors messages none => "Validation failed: " ++ errorList messages

end Rejection

inductive StructureError
  | rejected (rejection : Rejection)
  | failed (failure : Failure)
  deriving DecidableEq, Repr

def approval : String := "Code looks good"

def previewLength : Nat := 100

def preview (source : Text) : String :=
  String.ofList (source.take previewLength)
    ++ (if previewLength < source.length then "..." else "")

namespace Locator

variable {σ : Type}

def verify (locator : Locator σ) (source : Text) :
    StateM (Session σ) (Except Failure Report) := do
  return (← Session.askErrors locator.oracle source).map Report.ofErrors

def locateQuietly (locator : Locator σ) (source : Text) :
    StateM (Session σ) (Option Fault) := do
  match ← locator.locate (some source) with
  | .error _ => return none
  | .ok none => return none
  | .ok (some fault) =>
    Session.log .info .service
      ("Fault finder located fault at line " ++ toString fault.line ++ ": " ++ fault.message)
    return some fault

def validateStructure (locator : Locator σ) (source : Option Text) :
    StateM (Session σ) (Except StructureError String) := do
  Session.log .info .service
    ("Starting DRL validation for code with length: " ++ toString (source.getD []).length)
  let text := source.getD []
  if Text.isBlankText text then
    Session.log .warning .service "DRL validation failed: null or empty code provided"
    return .error (.rejected .noSource)
  else
    Session.log .debug .service ("DRL code to validate: " ++ preview text)
    match ← locator.verify text with
    | .error (.noVerdict reason) =>
      Session.log .error .service ("Oracle failed during validation: " ++ reason.message)
      return .error (.rejected (.noVerdict reason (← locator.locateQuietly text)))
    | .error failure => return .error (.failed failure)
    | .ok report =>
      if report.valid then
        Session.log .info .service "DRL validation completed successfully"
        return .ok approval
      else
        match ← locator.locateQuietly text with
        | some fault => return .error (.rejected (.errors report.errors (some fault)))
        | none =>
          Session.log .warning .service
            "Fault finder could not isolate a line, using verifier result only"
          return .error (.rejected (.errors report.errors none))

end Locator

abbrev Service (σ : Type) := Finder σ

namespace Service

variable {σ : Type}

def finder (service : Service σ) (completion : Option String) : Except LocateError (Finder σ) :=
  match completion with
  | none => .ok service
  | some name =>
    match Completion.ofName? name with
    | some completion => .ok { service with completion }
    | none => .error (.unknownCompletion name)

def locate (service : Service σ) (source : Text) (completion : Option String) :
    StateM (Session σ) (Except LocateError (Option Fault)) :=
  match service.finder completion with
  | .error error => return .error error
  | .ok finder => finder.locate (some source)

def verify (service : Service σ) (source : Text) :
    StateM (Session σ) (Except Failure Report) :=
  (Finder.locator service).verify source

def validateStructure (service : Service σ) (source : Option Text) :
    StateM (Session σ) (Except StructureError String) :=
  (Finder.locator service).validateStructure source

def close (service : Service σ) : StateM (Session σ) (Except Failure Unit) :=
  Session.close service.oracle

end Service
end Culprit
