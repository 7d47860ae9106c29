import Culprit.Number.Shortest

/-!
# Numbers of seconds as text

A floating-point number is written with the fewest digits that read back, with a point and at least
one digit behind it. Values below `10 ^ -4` or from `10 ^ 16` on have an exponent of two digits or
more and its sign.
-/

namespace Culprit.Number

/-- The digits of a decimal without zeros at the end, and the power of ten of the first digit. -/
def Decimal.scientific (decimal : Decimal) : List Char × Int :=
  let digits := (toString decimal.digits).toList
  let kept := (digits.reverse.dropWhile (· == '0')).reverse
  (if kept.isEmpty then ['0'] else kept, decimal.exponent + digits.length - 1)

/-- The exponent behind the digits: its sign and at least two digits. -/
def exponentText (power : Int) : String :=
  let digits := toString power.natAbs
  "e" ++ (if power < 0 then "-" else "+") ++ (if digits.length < 2 then "0" else "") ++ digits

def Decimal.text (decimal : Decimal) : String :=
  let (digits, power) := decimal.scientific
  if power < -4 ∨ 16 ≤ power then
    let rest := digits.drop 1
    String.ofList (digits.take 1 ++ (if rest.isEmpty then [] else '.' :: rest))
      ++ exponentText power
  else if power < 0 then
    String.ofList ("0.".toList ++ List.replicate ((-power).toNat - 1) '0' ++ digits)
  else
    let whole := digits.take (power.toNat + 1)
    let fraction := digits.drop (power.toNat + 1)
    String.ofList (whole ++ List.replicate (power.toNat + 1 - whole.length) '0' ++ ['.']
      ++ (if fraction.isEmpty then ['0'] else fraction))

def signBit (x : Float) : Bool := x.toBits.toNat / Nat.pow 2 63 == 1

def floatText (x : Float) : String :=
  if x.isNaN then "nan"
  else
    let sign := if signBit x then "-" else ""
    if x.isInf then sign ++ "inf"
    else if x == 0.0 then sign ++ "0.0"
    else sign ++ (shortestDecimal x).text

/-- The floating-point number nearest to `digits * 10 ^ exponent`. Exponents far outside the range
are cut, since the digits no longer matter there. -/
def floatOfDecimal (digits : Int) (exponent : Int) : Float :=
  let size := (toString digits.natAbs).length
  let magnitude :=
    if digits = 0 then 0.0
    else if 320 < exponent + size then Float.ofScientific 1 false 400
    else if exponent + size < -340 then 0.0
    else Float.ofScientific digits.natAbs (exponent < 0) exponent.natAbs
  if digits < 0 then -magnitude else magnitude

/-- A number of seconds as it was given: a whole number or a floating-point one. -/
inductive Seconds
  | whole (count : Int)
  | fraction (value : Float)

namespace Seconds

def text : Seconds → String
  | .whole count => toString count
  | .fraction value => floatText value

def value : Seconds → Float
  | .whole count => floatOfDecimal count 0
  | .fraction value => value

end Seconds
end Culprit.Number
