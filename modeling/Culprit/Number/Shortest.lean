/-!
# The shortest decimal of a binary fraction

A finite positive double is `m * 2 ^ q`. The decimals that read back as it fill an interval around
it, whose ends belong to it when `m` is even. The shortest decimal is found on the coarsest decimal
grid that has a point in the interval; of two points the nearer one is taken. It is enough to look
at the two neighbours of the value on each grid.
-/

namespace Culprit.Number

structure Decimal where
  digits : Nat
  exponent : Int
  deriving DecidableEq, Repr

/-- A positive value and the interval around it, as numerators over one denominator. -/
structure Interval where
  denominator : Nat
  low : Nat
  value : Nat
  high : Nat
  closed : Bool
  deriving DecidableEq, Repr

/-- The interval of the values that round to `m * 2 ^ q`. Below a power of two the neighbours lie
closer, except at the bottom of the range. -/
def Interval.ofBinary (m : Nat) (q : Int) (lowest : Bool) : Interval :=
  let narrow := m == Nat.pow 2 52 && !lowest
  let scale := Nat.pow 2 q.toNat
  { denominator := 4 * Nat.pow 2 (-q).toNat
    low := (if narrow then 4 * m - 1 else 4 * m - 2) * scale
    value := 4 * m * scale
    high := (4 * m + 2) * scale
    closed := m % 2 == 0 }

namespace Interval

/-- `10 ^ n` for a number that is not negative, and one for a negative one. -/
def power (n : Int) : Nat := Nat.pow 10 n.toNat

/-- Whether `digits * 10 ^ exponent` lies in the interval. -/
def contains (interval : Interval) (decimal : Decimal) : Bool :=
  let point := decimal.digits * power decimal.exponent * interval.denominator
  let low := interval.low * power (-decimal.exponent)
  let high := interval.high * power (-decimal.exponent)
  if interval.closed then low ≤ point && point ≤ high else low < point && point < high

def distance (interval : Interval) (decimal : Decimal) : Nat :=
  let point := decimal.digits * power decimal.exponent * interval.denominator
  let value := interval.value * power (-decimal.exponent)
  (point - value) + (value - point)

def onGrid? (interval : Interval) (exponent : Int) : Option Decimal :=
  let below := interval.value * power (-exponent) / (power exponent * interval.denominator)
  let lower : Decimal := ⟨below, exponent⟩
  let upper : Decimal := ⟨below + 1, exponent⟩
  match interval.contains lower, interval.contains upper with
  | false, false => none
  | true, false => some lower
  | false, true => some upper
  | true, true =>
    if interval.distance upper < interval.distance lower then some upper
    else if interval.distance lower < interval.distance upper then some lower
    else if below % 2 == 0 then some lower else some upper

def leadingExponent (interval : Interval) : Int :=
  let whole := interval.value / interval.denominator
  if whole = 0 then
    let isReached (k : Nat) : Bool := interval.denominator ≤ interval.value * Nat.pow 10 (k + 1)
    Int.negOfNat (((List.range 330).find? isReached).getD 330 + 1)
  else ((toString whole).length - 1 : Nat)

/-- The shortest decimal in the interval, of at most seventeen digits. -/
def shortest (interval : Interval) : Decimal :=
  let first := interval.leadingExponent
  ((List.range 17).findSome? fun (digits : Nat) => interval.onGrid? (first - digits)).getD
    ⟨interval.value / interval.denominator, 0⟩

end Interval

/-- The finite double of some bits without its sign: `m`, `q` and whether it is at the bottom of
the range. -/
def binaryOfBits (bits : Nat) : Nat × Int × Bool :=
  let fraction : Nat := bits % Nat.pow 2 52
  let power : Nat := bits / Nat.pow 2 52 % Nat.pow 2 11
  if power = 0 then (fraction, (-1074 : Int), true)
  else (fraction + Nat.pow 2 52, Int.ofNat power - 1075, power == 1)

/-- The shortest decimal that reads back as a finite double that is not zero, without its sign. -/
def shortestDecimal (x : Float) : Decimal :=
  let (m, q, lowest) := binaryOfBits x.toBits.toNat
  (Interval.ofBinary m q lowest).shortest

end Culprit.Number
