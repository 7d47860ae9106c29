import Culprit.Fault
import Culprit.Json.Value
import Culprit.Model.Violation
import Culprit.Host.Number.Text
import Culprit.Report

/-!
# Reading values of a model

Values that come from outside are read leniently: a truth value may come as a number or a word, a
whole number as text, as a truth value or as a number without fraction. What cannot be read is
described by its violations. Fields that are not asked for are ignored, and all fields are checked
in the order in which the model declares them.
-/

namespace Culprit.Model

/-! ### Single values -/

def readText : Json → Checked Text
  | .string text => .ok text
  | .brokenString => .defect .stringUnicode
  | _ => .defect .stringType

def readString (value : Json) : Checked String := (readText value).map String.ofList

def trueWords : List String := ["1", "true", "t", "yes", "y", "on"]

def falseWords : List String := ["0", "false", "f", "no", "n", "off"]

def readBoolWord (word : Text) : Checked Bool :=
  let folded := String.ofList (word.map Char.toLower)
  if trueWords.contains folded then .ok true
  else if falseWords.contains folded then .ok false
  else .defect .boolParsing

def fitsWord (value : Int) : Bool := -(Nat.pow 2 63) ≤ value && value < Nat.pow 2 63

/-- The whole number that a floating-point number is, if it has no fraction and is finite. -/
def wholeValue? (value : Float) : Option Int :=
  if value.isInf || value.isNaN then none
  else
    -- Only the digits in front of the point count for a binary fraction that is whole.
    let (m, q, _) := Number.binaryOfBits value.toBits.toNat
    let sign : Int := if Number.signBit value then -1 else 1
    if 0 ≤ q then some (sign * (m * Nat.pow 2 q.toNat : Nat))
    else if m % Nat.pow 2 (-q).toNat = 0 then some (sign * (m / Nat.pow 2 (-q).toNat : Nat))
    else none

/-- The whole number that a floating-point number is, if both it and its negation fit a machine
word. -/
def wordValue? (value : Float) : Option Int :=
  (wholeValue? value).filter fun whole => fitsWord whole && fitsWord (-whole)

def floatValue : JsonNumber → Float
  | .whole value => Number.floatOfDecimal value 0
  | .decimal digits exponent => Number.floatOfDecimal digits exponent
  | .infinite negative =>
    let infinity := Float.ofScientific 1 false 400
    if negative then -infinity else infinity
  | .notANumber => 0.0 / 0.0

/-- The number that may stand for a truth value, none for one that no machine word holds. -/
def truthNumber? : JsonNumber → Option Int
  | .whole value => if fitsWord value then some value else none
  | number => wordValue? (floatValue number)

def readBool : Json → Checked Bool
  | .bool value => .ok value
  | .string word => readBoolWord word
  | .brokenString => .defect .stringUnicode
  | .number number =>
    match truthNumber? number with
    | some 0 => .ok false
    | some 1 => .ok true
    | some _ => .defect .boolParsing
    | none => .defect .boolType
  | _ => .defect .boolType

def readIntText (text : Text) : Checked Int :=
  match Number.readInt text with
  | .ok value => .ok value
  | .error .malformed => .defect .intParsing
  | .error .tooLong => .defect .intParsingSize

/-- Reads a whole number from a floating-point number, which has to fit a machine word. -/
def readWholeFloat (value : Float) : Checked Int :=
  if value.isInf || value.isNaN then .defect .finiteNumber
  else if (wholeValue? value).isNone then .defect .intFromFloat
  else
    match wordValue? value with
    | some whole => .ok whole
    | none => .defect .intParsingSize

def readInt : Json → Checked Int
  | .bool value => .ok (if value then 1 else 0)
  | .string text => readIntText text
  | .brokenString => .defect .stringUnicode
  | .number (.whole value) => .ok value
  | .number number => readWholeFloat (floatValue number)
  | _ => .defect .intType

def readFloat : Json → Checked Float
  | .bool value => .ok (if value then 1.0 else 0.0)
  | .string text =>
    match Number.parseFloat? text with
    | some value => .ok value
    | none => .defect .floatParsing
  | .brokenString => .defect .stringUnicode
  | .number (.whole value) =>
    let read := floatValue (.whole value)
    if read.isInf then .defect .floatType else .ok read
  | .number number => .ok (floatValue number)
  | _ => .defect .floatType

def readOptional {α : Type} (read : Json → Checked α) : Json → Checked (Option α)
  | .null => .ok none
  | value => (read value).map some

def readList {α : Type} (read : Json → Checked α) : Json → Checked (List α)
  | .array items => Checked.items 0 (items.map read)
  | _ => .defect .listType

/-! ### Fields -/

def required {α : Type} (name : String) (read : Json → Checked α)
    (fields : List (Text × Json)) : Checked α :=
  Checked.inside (.field name)
    (match Json.field? name fields with
      | some value => read value
      | none => .defect .missing)

def defaulted {α : Type} (name : String) (read : Json → Checked α) (default : α)
    (fields : List (Text × Json)) : Checked α :=
  Checked.inside (.field name)
    (match Json.field? name fields with
      | some value => read value
      | none => .ok default)

def readObject {α : Type} (read : List (Text × Json) → Checked α) : Json → Checked α
  | .object fields => read fields
  | _ => .defect .modelType

/-! ### The models -/

def readReport : Json → Checked Report :=
  readObject fun fields =>
    (Checked.both (required "valid" readBool fields)
      (defaulted "errors" (readList readString) [] fields)).map fun (valid, errors) =>
        ⟨valid, errors⟩

def readSpan : Json → Checked Span :=
  readObject fun fields =>
    (Checked.both (required "line" readInt fields)
      (Checked.both (required "column" readInt fields)
        (Checked.both (defaulted "end_line" (readOptional readInt) none fields)
          (defaulted "end_column" (readOptional readInt) none fields)))).map
      fun (line, column, endLine, endColumn) => ⟨line, column, endLine, endColumn⟩

def readIssue : Json → Checked Issue :=
  readObject fun fields =>
    (Checked.both (required "code" readString fields)
      (Checked.both (required "message" readString fields)
        (defaulted "span" (readOptional readSpan) none fields))).map
      fun (code, message, span) => ⟨code, message, span⟩

/-- Reads the number of a line, which is one at least. -/
def readLineNumber (value : Json) : Checked Nat :=
  match readInt value with
  | .ok line => if 1 ≤ line then .ok line.toNat else .defect .greaterThanEqual
  | .error found => .error found

def readFault : Json → Checked Fault :=
  readObject fun fields =>
    (Checked.both (required "faulty_content" readText fields)
      (Checked.both (required "line_number" readLineNumber fields)
        (required "error_message" readString fields))).map
      fun (content, line, message) => ⟨content, line, message⟩

def frozenField (name : String) : Violation := ⟨[.field name], .frozenInstance⟩

end Culprit.Model
