import Culprit.Host.Number.Text

/-!
# Numbers of programs

Programs read a whole number from the front of a text: behind blanks and a sign stand digits, whose
base may be told by a mark in front of them. A zero marks octal digits, a zero and an x mark
hexadecimal ones. What stands behind the digits is left.
-/

namespace Culprit.Number

def isProgramBlank (c : Char) : Bool := c == ' ' || (9 ≤ c.toNat && c.toNat ≤ 13)

def digitIn? (base : Nat) (c : Char) : Option Nat :=
  let value :=
    if c.isDigit then some (c.toNat - '0'.toNat)
    else if 'a' ≤ c ∧ c ≤ 'f' then some (c.toNat - 'a'.toNat + 10)
    else if 'A' ≤ c ∧ c ≤ 'F' then some (c.toNat - 'A'.toNat + 10)
    else none
  value.filter (· < base)

def valueIn (base : Nat) (digits : Text) : Nat :=
  digits.foldl (fun value c => value * base + (digitIn? base c).getD 0) 0

def splitBase (text : Text) : Nat × Text :=
  match text with
  | '0' :: x :: c :: rest =>
    if (x == 'x' || x == 'X') && (digitIn? 16 c).isSome then (16, c :: rest) else (8, text)
  | '0' :: _ => (8, text)
  | _ => (10, text)

/-- The number at the front of a text and what stands behind it, none if there is no number. The
base is told by marks if so asked for, and ten otherwise. -/
def readInteger? (isMarked : Bool) (text : Text) : Option (Int × Text) :=
  let (negative, unsigned) := splitSign (text.dropWhile isProgramBlank)
  let (base, digits) := if isMarked then splitBase unsigned else (10, unsigned)
  let found := digits.takeWhile fun c => (digitIn? base c).isSome
  if found.isEmpty then none
  else
    let size : Int := valueIn base found
    some (if negative then -size else size, digits.drop found.length)

def isWord (value : Int) : Bool := -(Nat.pow 2 63) ≤ value && value < Nat.pow 2 63

def clampToWord (value : Int) : Int := max (-(Nat.pow 2 63)) (min (Nat.pow 2 63 - 1) value)

def wrapToWord (value : Int) : Int := Int.bmod value (Nat.pow 2 64)

/-- The word that a whole text writes, perhaps with blanks around it. A text of blanks is no
number. -/
def wholeWord? (isMarked : Bool) (text : Text) : Option Int :=
  match readInteger? isMarked text with
  | some (value, rest) => if rest.all isProgramBlank && isWord value then some value else none
  | none => none

end Culprit.Number
