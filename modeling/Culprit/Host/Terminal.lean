import Culprit.Host.Number.Text
import Culprit.Text.DecimalDigit

/-!
# The width of a terminal

The width of the lines that a program explains itself in, as the environment asks for it: a variable
holds the number of columns, and without one, or with one that is no number, there are as many as
there mostly are.
-/

namespace Culprit.Cli

/-- A text without the blanks around it. The information separators count as blanks only if some
character of the text is beyond ASCII. -/
def withoutBlanks (text : Text) : Text :=
  if text.all (·.toNat < 128) then Number.stripSpace text else Text.trim text

/-- The whole number that a text writes with digits of any script. Single underscores may stand
between the digits. -/
def readWidth? (text : Text) : Option Int :=
  let (negative, digits) := Number.splitSign (withoutBlanks text)
  let values := (digits.filter (· != '_')).map Text.decimalValue?
  if values.isEmpty || Number.intTextLimit < values.length
      || !Number.hasOnlyInnerUnderscores digits then none
  else
    (values.foldl (fun size value => do return (← size) * 10 + (← value)) (some 0)).map
      fun (size : Nat) => if negative then -(size : Int) else size

def usualColumns : Int := 80

def lineWidth (environment : List (Text × Text)) : Int :=
  let asked := (environment.reverse.lookup "COLUMNS".toList).bind readWidth?
  (asked.filter (0 < ·)).getD usualColumns - 2

end Culprit.Cli
