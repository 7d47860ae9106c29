/-!
# Binary fractions of a given width

A machine holds a number as `m * 2 ^ q`, where `m` has a limited number of bits and `q` lies between
two bounds. A quotient of whole numbers is rounded to the nearest such number; of two that are
equally near it goes to the one whose `m` is even.
-/

namespace Culprit.Number

/-- The whole number nearest to a quotient, the even one of two that are equally near. -/
def roundQuotient (numerator denominator : Nat) : Nat :=
  let whole := numerator / denominator
  let rest := 2 * (numerator % denominator)
  if denominator < rest || (rest == denominator && whole % 2 == 1) then whole + 1 else whole

structure BinaryWidth where
  bits : Nat
  least : Int
  greatest : Int
  /-- How many of the bits stand in front of the point where a number is written in its own base. -/
  leadingBits : Nat

def BinaryWidth.double : BinaryWidth := ⟨53, -1074, 971, 1⟩

def BinaryWidth.extended : BinaryWidth := ⟨64, -16445, 16320, 4⟩

structure Binary where
  m : Nat
  q : Int
  deriving DecidableEq, Repr

namespace Binary

def numerator (number : Binary) : Nat := number.m * Nat.pow 2 number.q.toNat

def denominator (number : Binary) : Nat := Nat.pow 2 (-number.q).toNat

end Binary

def leadingPower (numerator denominator : Nat) : Int :=
  let estimate : Int := (numerator.log2 : Int) - denominator.log2
  let isReached :=
    denominator * Nat.pow 2 estimate.toNat ≤ numerator * Nat.pow 2 (-estimate).toNat
  if isReached then estimate else estimate - 1

inductive Rounded
  /-- The nearest number, and whether the quotient lies below those that have all their bits and is
  none of the numbers. -/
  | near (number : Binary) (isLost : Bool)
  | beyond
  deriving DecidableEq, Repr

def BinaryWidth.round (width : BinaryWidth) (numerator denominator : Nat) : Rounded :=
  if numerator = 0 then .near ⟨0, width.least⟩ false
  else
    let q := max width.least (leadingPower numerator denominator - (width.bits - 1))
    let scaled := numerator * Nat.pow 2 (-q).toNat
    let unit := denominator * Nat.pow 2 q.toNat
    let m := roundQuotient scaled unit
    let (m, q) := if m = Nat.pow 2 width.bits then (Nat.pow 2 (width.bits - 1), q + 1) else (m, q)
    if width.greatest < q then .beyond
    else .near ⟨m, q⟩ (m < Nat.pow 2 (width.bits - 1) && scaled % unit != 0)

end Culprit.Number
