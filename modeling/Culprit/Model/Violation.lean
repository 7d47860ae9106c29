import Culprit.Text.Blank

/-!
# Violations of a schema

Why a value from outside does not have the shape that is asked of it: a defect and the path to the
part of the value that has it.
-/

namespace Culprit

inductive Defect
  | missing
  | boolType
  | boolParsing
  | listType
  | stringType
  | stringUnicode
  | modelType
  | modelAttributesType
  | jsonInvalid
  | intType
  | intParsing
  | intParsingSize
  | intFromFloat
  | finiteNumber
  | floatType
  | floatParsing
  | greaterThanEqual
  | frozenInstance
  deriving DecidableEq, Repr

def Defect.name : Defect → String
  | .missing => "missing"
  | .boolType => "bool_type"
  | .boolParsing => "bool_parsing"
  | .listType => "list_type"
  | .stringType => "string_type"
  | .stringUnicode => "string_unicode"
  | .modelType => "model_type"
  | .modelAttributesType => "model_attributes_type"
  | .jsonInvalid => "json_invalid"
  | .intType => "int_type"
  | .intParsing => "int_parsing"
  | .intParsingSize => "int_parsing_size"
  | .intFromFloat => "int_from_float"
  | .finiteNumber => "finite_number"
  | .floatType => "float_type"
  | .floatParsing => "float_parsing"
  | .greaterThanEqual => "greater_than_equal"
  | .frozenInstance => "frozen_instance"

inductive PathStep
  | field (name : String)
  | item (index : Nat)
  deriving DecidableEq, Repr

structure Violation where
  path : List PathStep
  defect : Defect
  deriving DecidableEq, Repr

/-- The same violation, seen from one step further out. -/
def Violation.inside (step : PathStep) (violation : Violation) : Violation :=
  { violation with path := step :: violation.path }

/-- A value that was checked: what it was read as, or everything that is wrong with it. -/
abbrev Checked (α : Type) := Except (List Violation) α

namespace Checked

def defect {α : Type} (defect : Defect) : Checked α := .error [⟨[], defect⟩]

/-- The same check, seen from one step further out. -/
def inside {α : Type} (step : PathStep) (checked : Checked α) : Checked α :=
  checked.mapError (·.map (Violation.inside step))

def both {α β : Type} (first : Checked α) (second : Checked β) : Checked (α × β) :=
  match first, second with
  | .ok a, .ok b => .ok (a, b)
  | .error found, .ok _ => .error found
  | .ok _, .error found => .error found
  | .error found, .error more => .error (found ++ more)

def items {α : Type} (index : Nat) : List (Checked α) → Checked (List α)
  | [] => .ok []
  | checked :: rest =>
    (both (checked.inside (.item index)) (items (index + 1) rest)).map fun (a, as) => a :: as

end Checked
end Culprit
