import Culprit.Api.Request
import Culprit.Oracle.Kind
import Culprit.Release
import Culprit.Service

/-!
# Answers of the API

How requests are answered. A body that is no JSON is refused before the service is asked for, and
one that does not say what it should after that. What the service objects to becomes an answer with
a status of its own; other failures of the oracle, and the lack of a service, leave the request
without an answer. Every answer is logged with the time it took, which is written as `T`: a run is
a function and has no clock.
-/

namespace Culprit.Api

structure Response where
  status : Nat
  body : Option Json
  timed : Bool
  deriving Repr

/-- What ends a request without an answer. -/
inductive Breakdown
  | noService
  | failed (failure : Failure)
  | unlocated (error : LocateError)
  deriving DecidableEq, Repr

def Breakdown.message : Breakdown → String
  | .noService => "ValidationService not initialised, call init_validation_service() first"
  | .failed failure => failure.message
  | .unlocated error => error.message

/-! ### Bodies of answers -/

def textJson (text : String) : Json := .string text.toList

def listJson (texts : List String) : Json := .array (texts.map textJson)

def record (fields : List (String × Json)) : Json :=
  .object (fields.map fun (name, value) => (name.toList, value))

def faultJson : Option Fault → Json
  | none => .null
  | some fault =>
    record [("faulty_content", .string fault.content),
      ("line_number", .number (.whole fault.line)), ("error_message", textJson fault.message)]

def stepJson : PathStep → Json
  | .field name => textJson name
  | .item index => .number (.whole index)

def violationJson (violation : Violation) : Json :=
  record [("loc", .array (violation.path.map stepJson)), ("type", textJson violation.defect.name)]

def respond (status : Nat) (body : Json) : Response := ⟨status, some body, false⟩

def detail (status : Nat) (value : Json) : Response := respond status (record [("detail", value)])

def refusal (status : Nat) (error message : String) : Response :=
  detail status (record [("error", textJson error), ("message", textJson message)])

def refuseBody : BodyRefusal → Except Breakdown Response
  | .invalid found => .ok (detail 422 (.array (found.map violationJson)))
  | .raised exception => .error (.failed (.raised exception))

/-! ### Endpoints -/

variable {σ : Type}

def healthAnswer : Response :=
  respond 200 (record [("status", textJson "ok"), ("version", textJson Release.version)])

def oraclesAnswer (service : Service σ) : Response :=
  respond 200 (record [("oracles", listJson OracleKind.names),
    ("active", textJson service.oracle.name), ("completers", listJson Completion.names)])

def invalidSource : String := "INVALID_SOURCE"

def locateAnswer (service : Service σ) (body : LocateBody) : StateM (Session σ) Response := do
  match ← service.locate body.source body.completion with
  | .ok fault =>
    return respond 200 (record [("found", .bool fault.isSome), ("fault", faultJson fault)])
  | .error .noSource => return refusal 422 invalidSource (LocateError.message .noSource)
  | .error (.unknownCompletion name) =>
    return refusal 400 "UNSUPPORTED_COMPLETER" (LocateError.message (.unknownCompletion name))

def reportAnswer (report : Report) (fault : Option Fault) : Response :=
  respond 200 (record [("valid", .bool report.valid), ("errors", listJson report.errors),
    ("fault", faultJson fault)])

def validateAnswer (service : Service σ) (source : Text) :
    StateM (Session σ) (Except Breakdown Response) := do
  if Text.isBlankText source then
    return .ok (refusal 422 invalidSource Rejection.noSource.message)
  else
    match ← service.verify source with
    | .error (.noVerdict reason) => return .ok (refusal 502 "ORACLE_FAILED" reason.message)
    | .error failure => return .error (.failed failure)
    | .ok report =>
      if report.valid then return .ok (reportAnswer report none)
      else
        match ← service.locate source none with
        | .ok fault => return .ok (reportAnswer report fault)
        | .error error => return .error (.unlocated error)

def withBody {α : Type} (reading : Reading) (read : Json → Except BodyRefusal α)
    (service : Option (Service σ)) (body : Bytes)
    (act : Service σ → α → StateM (Session σ) (Except Breakdown Response)) :
    StateM (Session σ) (Except Breakdown Response) := do
  match reading.decode body with
  | .error (.malformed offset) =>
    return .ok (detail 422 (.array [violationJson (malformedBody offset)]))
  | .error .unreadable =>
    return .ok (detail 400 (textJson "There was an error parsing the body"))
  | .ok value =>
    match service with
    | none => return .error .noService
    | some service =>
      match read value with
      | .error refusal => return refuseBody refusal
      | .ok content => act service content

def Endpoint.answer (reading : Reading) (endpoint : Endpoint) (service : Option (Service σ))
    (body : Bytes) : StateM (Session σ) (Except Breakdown Response) :=
  match endpoint with
  | .health => return .ok healthAnswer
  | .oracles =>
    match service with
    | none => return .error .noService
    | some service => return .ok (oraclesAnswer service)
  | .faults => withBody reading reading.locateBody service body fun service content => do
    return .ok (← locateAnswer service content)
  | .validate => withBody reading reading.validateBody service body validateAnswer

/-! ### Serving -/

def route (reading : Reading) (service : Option (Service σ)) (method : String) (path : Text)
    (body : Bytes) : StateM (Session σ) (Except Breakdown Response) :=
  match Endpoint.ofPath? path with
  | none => return .ok (detail 404 (textJson "Not Found"))
  | some endpoint =>
    if method = endpoint.method then endpoint.answer reading service body
    else return .ok (detail 405 (textJson "Method Not Allowed"))

def logAnswer (method : String) (path : Text) (status : Nat) : StateM (Session σ) Unit :=
  Session.log .info .api
    (method ++ " " ++ String.ofList (shownPath path) ++ " -> " ++ toString status ++ " (T ms)")

def headMethod : String := "HEAD"

def serveAt (reading : Reading) (service : Option (Service σ)) (method : String) (path : Text)
    (body : Bytes) : StateM (Session σ) (Except Breakdown Response) := do
  match ← route reading service method path body with
  | .error breakdown => return .error breakdown
  | .ok response => do
    logAnswer method path response.status
    let body := if method = headMethod then none else response.body
    return .ok { response with body, timed := true }

def dropSlashes (path : Text) : Text := Text.dropBack (· == '/') path

/-- Answers a request. One to an endpoint with a slash too many is redirected first. -/
def serve (reading : Reading) (service : Option (Service σ)) (request : Request) :
    StateM (Session σ) (Except Breakdown Response) := do
  let shorter := dropSlashes request.path
  if shorter ≠ request.path ∧ (Endpoint.ofPath? shorter).isSome then
    logAnswer request.method request.path 307
    serveAt reading service request.method shorter request.body
  else serveAt reading service request.method request.path request.body

end Culprit.Api
