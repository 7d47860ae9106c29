import Culprit.Host.Number.Radix
import Culprit.Host.Number.Rounding

/-!
# Real numbers of programs

Programs read a number with a fraction from the front of a text: digits with a point and an
exponent, in base ten or behind a zero and an x in base sixteen, or a word for infinity or for not a
number. They write it with a given number of places, with an exponent, in whichever of the two forms
suits its size, or in base sixteen.
-/

namespace Culprit.Number

/-! ### Reading -/

inductive Magnitude
  | quotient (numerator denominator : Nat)
  | infinite
  | notANumber
  deriving DecidableEq, Repr

/-- A text behind some letters, which may be small or capital; none if it does not begin with
them. -/
def behindWord? (word : String) (text : Text) : Option Text :=
  let letters := word.toList
  if (text.take letters.length).map Char.toLower == letters then some (text.drop letters.length)
  else none

/-- What stands behind a remark in brackets, which may follow the word for not a number. -/
def behindRemark (text : Text) : Text :=
  match text with
  | '(' :: rest =>
    match rest.dropWhile fun c => c.isAlphanum || c == '_' with
    | ')' :: behind => behind
    | _ => text
  | _ => text

/-- Digits with a point among them: those in front of the point, those behind it, and what follows.
There is none without any digit. -/
def readPointed? (isDigit : Char → Bool) (text : Text) : Option (Text × Text × Text) :=
  let whole := text.takeWhile isDigit
  let behind := text.drop whole.length
  let fraction := match behind with
    | '.' :: rest => rest.takeWhile isDigit
    | _ => []
  if whole.isEmpty && fraction.isEmpty then none
  else
    let rest := match behind with
      | '.' :: rest => rest.drop fraction.length
      | _ => behind
    some (whole, fraction, rest)

/-- The exponent behind a mark, which is given as a small letter, and what follows; none is zero. -/
def readExponent (mark : Char) (text : Text) : Int × Text :=
  match text with
  | c :: rest =>
    let (negative, unsigned) := splitSign rest
    let digits := unsigned.takeWhile Char.isDigit
    if c.toLower == mark && !digits.isEmpty then
      let size : Int := digitsValue digits
      (if negative then -size else size, unsigned.drop digits.length)
    else (0, text)
  | [] => (0, [])

def exponentLimit : Nat := 20000

/-- `digits * base ^ power`. A power far outside of what can be told apart is cut. -/
def Magnitude.ofPower (digits base : Nat) (power : Int) : Magnitude :=
  let size : Int := digits.log2
  let power := max (-exponentLimit - size) (min exponentLimit power)
  .quotient (digits * Nat.pow base power.toNat) (Nat.pow base (-power).toNat)

def readMagnitude? (text : Text) : Option (Magnitude × Text) :=
  match behindWord? "infinity" text, behindWord? "inf" text, behindWord? "nan" text with
  | some rest, _, _ => some (.infinite, rest)
  | none, some rest, _ => some (.infinite, rest)
  | none, none, some rest => some (.notANumber, behindRemark rest)
  | none, none, none =>
    let isHexDigit (c : Char) : Bool := (digitIn? 16 c).isSome
    match (behindWord? "0x" text).bind (readPointed? isHexDigit) with
    | some (whole, fraction, rest) =>
      let (power, behind) := readExponent 'p' rest
      some (.ofPower (valueIn 16 (whole ++ fraction)) 2 (power - 4 * fraction.length), behind)
    | none => do
      let (whole, fraction, rest) ← readPointed? Char.isDigit text
      let (power, behind) := readExponent 'e' rest
      return (.ofPower (valueIn 10 (whole ++ fraction)) 10 (power - fraction.length), behind)

inductive MachineSize
  | finite (number : Binary)
  | infinite
  | notANumber
  deriving DecidableEq, Repr

/-- A number as a machine holds it, with its sign. -/
structure MachineReal where
  isNegative : Bool
  size : MachineSize
  deriving DecidableEq, Repr

/-- A quotient as a number of a width, and whether it is too large or too small for that. -/
def MachineReal.ofQuotient (width : BinaryWidth) (isNegative : Bool)
    (numerator denominator : Nat) : MachineReal × Bool :=
  match width.round numerator denominator with
  | .near number isLost => (⟨isNegative, .finite number⟩, isLost)
  | .beyond => (⟨isNegative, .infinite⟩, true)

def MachineReal.ofNat (width : BinaryWidth) (value : Nat) : MachineReal :=
  (ofQuotient width false value 1).1

/-- The number at the front of a text, whether it is too large or too small to be held, and what
stands behind it. -/
def readReal? (width : BinaryWidth) (text : Text) : Option (MachineReal × Bool × Text) := do
  let (isNegative, unsigned) := splitSign (text.dropWhile isProgramBlank)
  let (magnitude, rest) ← readMagnitude? unsigned
  return match magnitude with
    | .infinite => (⟨isNegative, .infinite⟩, false, rest)
    | .notANumber => (⟨isNegative, .notANumber⟩, false, rest)
    | .quotient numerator denominator =>
      let (real, isOutside) := MachineReal.ofQuotient width isNegative numerator denominator
      (real, isOutside, rest)

/-! ### Writing -/

inductive RealStyle
  | fixed
  | scientific
  | general
  | binary
  deriving DecidableEq, Repr

def usualPrecision : Nat := 6

/-- Digits with the given number of them behind a point, which is left out in front of none unless
it is asked for. -/
def placePoint (keepsPoint : Bool) (places : Nat) (digits : Text) : Text :=
  let digits := List.replicate (places + 1 - digits.length) '0' ++ digits
  let whole := digits.take (digits.length - places)
  let fraction := digits.drop (digits.length - places)
  whole ++ (if fraction.isEmpty && !keepsPoint then [] else '.' :: fraction)

def decimalDigits (value : Nat) : Text := (toString value).toList

/-- An exponent behind its mark, with its sign and at least the given number of digits. -/
def markExponent (mark : Char) (least : Nat) (exponent : Int) : Text :=
  let digits := decimalDigits exponent.natAbs
  mark :: (if exponent < 0 then '-' else '+')
    :: List.replicate (least - digits.length) '0' ++ digits

def dropLastZeros (digits : Text) : Text := (digits.reverse.dropWhile (· == '0')).reverse

def trimFraction (text : Text) : Text :=
  if text.contains '.' then
    let kept := dropLastZeros text
    if kept.getLast? == some '.' then kept.dropLast else kept
  else text

namespace Binary

def leadingTen (number : Binary) : Int :=
  if number.m = 0 then 0
  else if number.denominator ≤ number.numerator then
    (decimalDigits (number.numerator / number.denominator)).length - 1
  else
    let inverse := number.denominator / number.numerator
    let length := (decimalDigits inverse).length
    if number.numerator * Nat.pow 10 (length - 1) = number.denominator then -(length - 1)
    else -length

def fixed (number : Binary) (keepsPoint : Bool) (places : Nat) : Text :=
  placePoint keepsPoint places
    (decimalDigits (roundQuotient (number.numerator * Nat.pow 10 places) number.denominator))

/-- The digits of a number, of which the given number stand behind the first one, and the power of
ten that the first one stands for. -/
def firstDigits (number : Binary) (places : Nat) : Text × Int :=
  let power := number.leadingTen
  let shift := places - power
  let digits := decimalDigits
    (roundQuotient (number.numerator * Nat.pow 10 shift.toNat)
      (number.denominator * Nat.pow 10 (-shift).toNat))
  if places + 1 < digits.length then (digits.dropLast, power + 1)
  else (List.replicate (places + 1 - digits.length) '0' ++ digits, power)

/-- A number with the given number of places behind its first digit and an exponent. -/
def scientific (number : Binary) (keepsPoint : Bool) (places : Nat) : Text × Text :=
  let (digits, power) := number.firstDigits places
  (placePoint keepsPoint places digits, markExponent 'e' 2 power)

/-- A number with the given number of digits, in the form that suits its size. Zeros at the end of
the fraction are left out unless the point is to be kept. -/
def general (number : Binary) (keepsPoint : Bool) (digits : Nat) : Text :=
  let places := digits - 1
  let power := (number.firstDigits places).2
  let trim (text : Text) : Text := if keepsPoint then text else trimFraction text
  if power < -4 || (places : Int) < power then
    let (front, exponent) := number.scientific keepsPoint places
    trim front ++ exponent
  else trim (number.fixed keepsPoint (places - power).toNat)

/-- A number in base sixteen, with all its digits or with the given number of places. -/
def hexadecimal (width : BinaryWidth) (number : Binary) (keepsPoint : Bool)
    (precision : Option Nat) : Text :=
  let fractionBits := width.bits - width.leadingBits
  let available := fractionBits / 4
  let places := match precision with
    | some places => places
    | none =>
      let digits := (List.range available).map fun place => number.m / Nat.pow 16 place % 16
      available - (digits.takeWhile (· == 0)).length
  let digits :=
    if places < available then roundQuotient number.m (Nat.pow 16 (available - places))
    else number.m * Nat.pow 16 (places - available)
  let power := if number.m = 0 then 0 else number.q + fractionBits
  let (digits, power) :=
    if digits = Nat.pow 16 (places + 1) then (digits / 16, power + 4) else (digits, power)
  "0x".toList ++ placePoint keepsPoint places (Nat.toDigits 16 digits) ++ markExponent 'p' 1 power

end Binary

namespace MachineReal

/-- A number without its sign in a style, with the given number of places or digits. -/
def write (width : BinaryWidth) (style : RealStyle) (keepsPoint : Bool) (precision : Option Nat)
    (real : MachineReal) : Text :=
  match real.size with
  | .infinite => "inf".toList
  | .notANumber => "nan".toList
  | .finite number =>
    let places := precision.getD usualPrecision
    match style with
    | .fixed => number.fixed keepsPoint places
    | .scientific =>
      let (front, exponent) := number.scientific keepsPoint places
      front ++ exponent
    | .general => number.general keepsPoint (max 1 places)
    | .binary => number.hexadecimal width keepsPoint precision

def hasDigits (real : MachineReal) : Bool :=
  match real.size with
  | .finite _ => true
  | _ => false

end MachineReal
end Culprit.Number
