import Culprit.Text.Blank

/-!
# JSON values

A document value as JSON writes it. Numbers keep the difference between those written as integers
and those written with a fraction or an exponent, and they are exact: a decimal is its digits and a
power of ten. A string that pairs no surrogates is kept apart from texts. The fields of an object
are listed in the order they are written, and the last of two with one name counts.
-/

namespace Culprit

inductive JsonNumber
  | whole (value : Int)
  | decimal (digits : Int) (exponent : Int)
  | infinite (negative : Bool)
  | notANumber
  deriving DecidableEq, Repr

inductive Json
  | null
  | bool (value : Bool)
  | number (value : JsonNumber)
  | string (value : Text)
  | brokenString
  | array (items : List Json)
  | object (fields : List (Text × Json))
  deriving Repr

namespace Json

def field? (name : String) (fields : List (Text × Json)) : Option Json :=
  (fields.reverse.find? fun entry => entry.1 == name.toList).map Prod.snd

end Json
end Culprit
