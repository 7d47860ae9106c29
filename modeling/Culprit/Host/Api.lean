import Culprit.Api.Request
import Culprit.Host.Json.Document
import Culprit.Host.Model.Reading
import Culprit.Host.Url.Read

/-!
# Bodies of requests

The way to read bodies that evaluated runs use: as JSON, within a number of arrays and objects in
each other, checked against the fields that an endpoint expects. The answer to a body that is not
what is expected quotes what is wrong with it, which cannot be done for a number that JSON does not
have.
-/

namespace Culprit.Api

/-- The path of the URL that a request goes to, without steps back and with its escapes replaced. -/
def requestPath (target : Text) : Except Url.ReadError Text := do
  let url ← (Url.read target).bind Url.requested
  let path := Url.straightPath url.path
  return if path.isEmpty then ['/'] else Url.unescape path

/-- Reads a body as JSON. No body is like null. -/
def readBody (room : Nat) (body : Bytes) : Except BodyError Json :=
  if body.isEmpty then .ok .null
  else
    match Json.readDocument room body with
    | .ok value => .ok value
    | .error (.unreadable _ (.malformed _ offset)) => .error (.malformed offset)
    | .error _ => .error .unreadable

/-! ### What answers can quote -/

def isWritableNumber : JsonNumber → Bool
  | .whole _ => true
  | .decimal digits exponent => !(Number.floatOfDecimal digits exponent).isInf
  | .infinite _ => false
  | .notANumber => false

mutual

def isWritable : Json → Bool
  | .number value => isWritableNumber value
  | .array items => areWritable items
  | .object fields => areFieldsWritable fields
  | _ => true

def areWritable : List Json → Bool
  | [] => true
  | item :: rest => isWritable item && areWritable rest

/-- Whether the values of all fields can be written; of two fields of one name, the last counts. -/
def areFieldsWritable : List (Text × Json) → Bool
  | [] => true
  | (name, value) :: rest =>
    (rest.any (fun entry => entry.1 == name) || isWritable value) && areFieldsWritable rest

end

/-- The part of a body that the report of a violation quotes: what is wrong, or the whole if
something is missing in it. -/
def quotedPart (body : Json) (violation : Violation) : Json :=
  match violation.defect, violation.path, body with
  | .missing, _, _ => body
  | _, [_, .field name], .object fields => (Json.field? name fields).getD .null
  | _, _, _ => body

def unwritable : Exception := ⟨"ValueError", "Out of range float values are not JSON compliant", []⟩

def refusalOf (body : Json) (found : List Violation) : BodyRefusal :=
  if found.all fun violation => isWritable (quotedPart body violation) then .invalid found
  else .raised unwritable

/-! ### What endpoints expect -/

def readFields {α : Type} (read : List (Text × Json) → Checked α) (body : Json) : Checked α :=
  Checked.inside (.field "body")
    (match body with
      | .null => .defect .missing
      | .object fields => read fields
      | _ => .defect .modelAttributesType)

def readLocateBody : Json → Checked LocateBody :=
  readFields fun fields =>
    (Checked.both (Model.required "source" Model.readText fields)
      (Model.defaulted "completer" (Model.readOptional Model.readString) none fields)).map
      fun (source, completion) => ⟨source, completion⟩

def readValidateBody : Json → Checked Text :=
  readFields (Model.required "source" Model.readText)

def reading (room : Nat) : Reading where
  decode := readBody room
  locateBody value := (readLocateBody value).mapError (refusalOf value)
  validateBody value := (readValidateBody value).mapError (refusalOf value)

end Culprit.Api
