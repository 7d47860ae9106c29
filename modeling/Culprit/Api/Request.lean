import Culprit.Json.Value
import Culprit.Oracle.Failure
import Culprit.Text.Utf8

/-!
# Requests to the API

What a request asks for. Its path names an endpoint, and each endpoint takes requests of one method.
A request to locate or to validate has a body. How bodies are read is a parameter, in two steps:
first as JSON, and afterwards as what the endpoint expects.
-/

namespace Culprit.Api

structure Request where
  method : String
  path : Text
  body : Bytes
  deriving DecidableEq, Repr

def shownPath (path : Text) : Text :=
  (path.takeWhile fun c => c != '?' && c != '#').filter
    fun c => c != '\n' && c != '\r' && c != '\t'

inductive Endpoint
  | health
  | oracles
  | faults
  | validate
  deriving DecidableEq, Repr

namespace Endpoint

def all : List Endpoint := [.health, .oracles, .faults, .validate]

def path : Endpoint → String
  | .health => "/health"
  | .oracles => "/oracles"
  | .faults => "/faults"
  | .validate => "/validate"

def method : Endpoint → String
  | .health => "GET"
  | .oracles => "GET"
  | .faults => "POST"
  | .validate => "POST"

def ofPath? (path : Text) : Option Endpoint :=
  all.find? fun endpoint =>
    endpoint.path.toList == path || endpoint.path.toList ++ ['\n'] == path

theorem ofPath?_path (endpoint : Endpoint) : ofPath? endpoint.path.toList = some endpoint := by
  cases endpoint <;> decide

end Endpoint

/-! ### Bodies -/

inductive BodyError
  /-- The body is no JSON, from the place with this offset on. -/
  | malformed (offset : Nat)
  | unreadable
  deriving DecidableEq, Repr

structure LocateBody where
  source : Text
  completion : Option String
  deriving DecidableEq, Repr

/-- Why a body is not what an endpoint expects, or an exception that saying so comes to. -/
inductive BodyRefusal
  | invalid (violations : List Violation)
  | raised (exception : Exception)
  deriving DecidableEq, Repr

/-- A way to read bodies: as JSON, and this as what each of the two endpoints expects. -/
structure Reading where
  decode : Bytes → Except BodyError Json
  locateBody : Json → Except BodyRefusal LocateBody
  validateBody : Json → Except BodyRefusal Text

def malformedBody (offset : Nat) : Violation := ⟨[.field "body", .item offset], .jsonInvalid⟩

end Culprit.Api
