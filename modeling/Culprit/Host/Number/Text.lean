import Culprit.Number.FloatText
import Culprit.Text.Blank

/-!
# Reading numbers from settings

Numbers that come as text, as variables of the environment do, may have blanks around them, a sign
and single underscores between digits. A whole number may have a fraction of zeros, and zeros in
front, behind which its sign may stand as well. A floating-point number may be written with a
point, an exponent, or as a word for infinity or for not a number; one with underscores has no
blanks around it.
-/

namespace Culprit.Number

def isSpace (c : Char) : Bool :=
  let code := c.toNat
  (9 ≤ code && code ≤ 13) || code == 32 || code == 0x85 || code == 0xA0 || code == 0x1680
    || (0x2000 ≤ code && code ≤ 0x200A) || code == 0x2028 || code == 0x2029 || code == 0x202F
    || code == 0x205F || code == 0x3000

def stripSpace (text : Text) : Text := Text.dropEnds isSpace text

def splitSign : Text → Bool × Text
  | '-' :: rest => (true, rest)
  | '+' :: rest => (false, rest)
  | text => (false, text)

def digitsValue (digits : Text) : Nat :=
  (digits.filter Char.isDigit).foldl
    (fun value digit => value * 10 + (digit.toNat - '0'.toNat)) 0

/-! ### Whole numbers -/

inductive IntFault
  | malformed
  | tooLong
  deriving DecidableEq, Repr

def intTextLimit : Nat := 4300

/-- The whole number that a text writes in its plain form: perhaps a minus sign, then digits without
a zero in front. -/
def readPlainInt (text : Text) : Except IntFault Int :=
  let (negative, unsigned) := match text with
    | '-' :: rest => (true, rest)
    | _ => (false, text)
  match unsigned with
  | ['0'] => .ok 0
  | '0' :: _ => .error .malformed
  | _ =>
    let digits := unsigned.takeWhile Char.isDigit
    if intTextLimit < digits.length + (if negative then 1 else 0) then .error .tooLong
    else if digits.isEmpty || digits.length < unsigned.length then .error .malformed
    else
      let value : Int := digitsValue digits
      .ok (if negative then -value else value)

def startsInt (c : Char) : Bool := c == '-' || (c.isDigit && c != '0')

/-- What is left of a number behind zeros and underscores. `last` is the one skipped last: it is
kept in front of a point and at the end. -/
def dropZeros (last : Char) : Text → Option Text
  | [] => some [last]
  | c :: rest =>
    if c == '0' || c == '_' then dropZeros c rest
    else if startsInt c then some (c :: rest)
    else if c == '.' then some (last :: c :: rest)
    else none

def dropLeadingZeros : Text → Option Text
  | [] => none
  | c :: rest =>
    if c == '0' then dropZeros c rest else if startsInt c then some (c :: rest) else none

/-- A number without a fraction of zeros at its end. A point with nothing behind it is kept. -/
def dropZeroFraction (text : Text) : Text :=
  let whole := text.takeWhile (· != '.')
  let fraction := text.drop (whole.length + 1)
  if !fraction.isEmpty && fraction.all (· == '0') then whole else text

def hasOnlyInnerUnderscores (text : Text) : Bool :=
  text.head? != some '_' && text.getLast? != some '_' && !Text.hasPart ['_', '_'] text

/-- The plain form of a number: without blanks, a plus sign, zeros in front, a fraction of zeros
and underscores. -/
def plainForm? (text : Text) : Option Text := do
  let unsigned ← match stripSpace text with
    | '+' :: '-' :: _ => none
    | '+' :: rest => some rest
    | stripped => some stripped
  let digits := dropZeroFraction (← dropLeadingZeros unsigned)
  return if hasOnlyInnerUnderscores digits then digits.filter (· != '_') else digits

def readInt (text : Text) : Except IntFault Int :=
  match readPlainInt text with
  | .error .malformed =>
    match plainForm? text with
    | some plain => readPlainInt plain
    | none => .error .malformed
  | result => result

/-! ### Floating-point numbers -/

def wordValue? (word : Text) : Option Float :=
  let word := String.ofList (word.map Char.toLower)
  if word = "inf" ∨ word = "infinity" then some (Float.ofScientific 1 false 400)
  else if word = "nan" then some (0.0 / 0.0)
  else none

/-- The power of ten that an exponent part writes, none for one that is not well written. -/
def parsePower? : Text → Option Int
  | [] => some 0
  | mark :: rest =>
    if mark == 'e' || mark == 'E' then
      let (negative, digits) := splitSign rest
      if !digits.isEmpty && digits.all Char.isDigit then
        let value : Int := digitsValue digits
        some (if negative then -value else value)
      else none
    else none

def parseUnsigned? (text : Text) : Option Float :=
  match wordValue? text with
  | some value => some value
  | none =>
    let whole := text.takeWhile Char.isDigit
    let behind := text.drop whole.length
    let fraction := match behind with
      | '.' :: rest => rest.takeWhile Char.isDigit
      | _ => []
    let rest := match behind with
      | '.' :: rest => rest.drop fraction.length
      | _ => behind
    if whole.isEmpty && fraction.isEmpty then none
    else
      (parsePower? rest).map fun power =>
        floatOfDecimal (digitsValue (whole ++ fraction)) (power - fraction.length)

def parseDecimal? (text : Text) : Option Float :=
  let (negative, unsigned) := splitSign text
  (parseUnsigned? unsigned).map fun value => if negative then -value else value

def parseFloat? (text : Text) : Option Float :=
  match parseDecimal? (stripSpace text) with
  | some value => some value
  | none =>
    if hasOnlyInnerUnderscores text then parseDecimal? (text.filter (· != '_')) else none

end Culprit.Number
