import Culprit.Host.Domain.Label
import Culprit.Host.Text.LowerCase

/-!
# Domain names

A domain name is a row of labels with dots between them and perhaps one behind the last. It has a
form in ASCII, label by label, which is what is sent over a network.
-/

namespace Culprit.Domain

inductive NameFault
  | tooLong
  | empty
  | badLabel (fault : LabelFault)
  deriving DecidableEq, Repr

def NameFault.message : NameFault → String
  | .tooLong => "Domain too long"
  | .empty => "Empty domain"
  | .badLabel fault => fault.message

def isDot (c : Char) : Bool := c == '.' || c == '\u3002' || c == '\uFF0E' || c == '\uFF61'

/-- The labels of a domain name, at least one. -/
def labels : Text → List Text
  | [] => [[]]
  | c :: rest =>
    if isDot c then [] :: labels rest
    else
      match labels rest with
      | first :: others => (c :: first) :: others
      | [] => [[c]]

def nameLimit (hasDot : Bool) : Nat := if hasDot then 254 else 253

/-- The labels of a domain name that is not too long, and whether a dot stands behind the last. -/
def splitName (name : Text) : Except NameFault (List Text × Bool) :=
  if nameLimit true < name.length then .error .tooLong
  else if name.isEmpty then .error .empty
  else
    let parts := labels name
    if parts.getLast? == some [] then .ok (parts.dropLast, true) else .ok (parts, false)

def joinLabels (parts : List Text) (hasDot : Bool) : Text :=
  List.intercalate ['.'] (if hasDot then parts ++ [[]] else parts)

def asciiName (name : Text) : Except NameFault Text := do
  let (parts, hasDot) ← splitName name
  let ascii := joinLabels (← (parts.mapM asciiLabel).mapError .badLabel) hasDot
  if nameLimit hasDot < ascii.length then .error .tooLong else .ok ascii

def readAsciiName (name : Text) : Except NameFault Text := do
  let (parts, hasDot) ← splitName name
  return joinLabels (← (parts.mapM readAsciiLabel).mapError .badLabel) hasDot

end Culprit.Domain
