import Culprit.Text.Blank

/-!
# Labels in ASCII

A label with characters beyond ASCII has a second form in ASCII alone: first its ASCII characters,
then a hyphen, then numbers that say which other characters are to be inserted where. The characters
are inserted in increasing order; a number counts the steps from one insertion to the next, where
all places of one character come before the next character. The digits of a number have a base
that depends on their place and on the numbers written so far, so that it is clear which digit is
the last.
-/

namespace Culprit.Domain.Punycode

def digitChar (value : Nat) : Char :=
  if value < 26 then Char.ofNat ('a'.toNat + value) else Char.ofNat ('0'.toNat + value - 26)

def digitValue? (c : Char) : Option Nat :=
  if 'a' ≤ c ∧ c ≤ 'z' then some (c.toNat - 'a'.toNat)
  else if 'A' ≤ c ∧ c ≤ 'Z' then some (c.toNat - 'A'.toNat)
  else if c.isDigit then some (c.toNat - '0'.toNat + 26)
  else none

/-- The value from which on a digit is not the last one of its number. `place` is 36 for the first
digit and grows by 36. -/
def threshold (bias place : Nat) : Nat := min 26 (max 1 (place - bias))

theorem one_le_threshold (bias place : Nat) : 1 ≤ threshold bias place := by
  unfold threshold; omega

def countDigits (steps : Nat) : Nat × Nat :=
  if 455 < steps then
    let (digits, rest) := countDigits (steps / 35)
    (digits + 1, rest)
  else (0, steps)
termination_by steps

/-- The bias after a number, which makes numbers of its size short. `inserted` counts the characters
of the label so far. -/
def adapt (steps inserted : Nat) (isFirst : Bool) : Nat :=
  let share := steps / (if isFirst then 700 else 2)
  let (digits, rest) := countDigits (share + share / inserted)
  36 * digits + 36 * rest / (rest + 38)

/-! ### Writing -/

def writeNumber (bias place value : Nat) : Text :=
  let last := threshold bias place
  if value < last then [digitChar value]
  else
    digitChar (last + (value - last) % (36 - last))
      :: writeNumber bias (place + 36) ((value - last) / (36 - last))
termination_by value
decreasing_by
  have := one_le_threshold bias place
  exact Nat.lt_of_le_of_lt (Nat.div_le_self _ _) (by omega)

/-- What has been written: the digits, the steps since the last insertion, the bias for the next
number, and how many characters of the label are there. -/
structure Writer where
  digits : Text
  steps : Nat
  bias : Nat
  inserted : Nat

/-- Passes a place of the label while one character is inserted. `isFirst` says whether no number is
written yet. -/
def Writer.pass (code basic : Nat) (writer : Writer) (c : Char) : Writer :=
  if c.toNat < code then { writer with steps := writer.steps + 1 }
  else if c.toNat = code then
    { digits := writer.digits ++ writeNumber writer.bias 36 writer.steps
      steps := 0
      bias := adapt writer.steps (writer.inserted + 1) (writer.inserted == basic)
      inserted := writer.inserted + 1 }
  else writer

/-- Inserts the characters of the given codes, which increase, one code after another. -/
def Writer.insertAll (label : Text) (basic : Nat) : Nat → List Nat → Writer → Writer
  | _, [], writer => writer
  | next, code :: codes, writer =>
    let start := { writer with steps := writer.steps + (code - next) * (writer.inserted + 1) }
    let passed := label.foldl (Writer.pass code basic) start
    insertAll label basic (code + 1) codes { passed with steps := passed.steps + 1 }

def encode (label : Text) : Text :=
  let basic := label.filter fun c => c.toNat < 0x80
  let codes := ((label.filter fun c => 0x80 ≤ c.toNat).map Char.toNat).eraseDups.mergeSort
  let writer := Writer.insertAll label basic.length 0x80 codes ⟨[], 0, 72, basic.length⟩
  (if basic.isEmpty then [] else basic ++ ['-']) ++ writer.digits

/-! ### Reading -/

def readNumber? (bias : Nat) : Nat → Nat → Nat → Text → Option (Nat × Text)
  | _, _, _, [] => none
  | place, weight, value, c :: rest =>
    match digitValue? c with
    | none => none
    | some digit =>
      let last := threshold bias place
      if digit < last then some (value + digit * weight, rest)
      else readNumber? bias (place + 36) (weight * (36 - last)) (value + digit * weight) rest

/-- Reading a number takes a digit at least. -/
theorem length_lt_of_readNumber? {bias place weight value : Nat} {text rest : Text} {number : Nat}
    (h : readNumber? bias place weight value text = some (number, rest)) :
    rest.length < text.length := by
  induction text generalizing place weight value with
  | nil => simp [readNumber?] at h
  | cons c text ih =>
    simp only [readNumber?] at h
    split at h
    · contradiction
    · split at h
      · simp only [Option.some.injEq, Prod.mk.injEq] at h
        simp [← h.2]
      · exact Nat.lt_succ_of_lt (ih h)

/-- Inserts the characters that some digits tell into a label. The next one may be inserted at
`position` with the given code, or later; there is none for numbers that lead beyond all
characters. -/
def insertCodes? (bias code position : Nat) (isFirst : Bool) (label digits : Text) : Option Text :=
  if digits.isEmpty then some label
  else
    match _h : readNumber? bias 36 1 0 digits with
    | none => none
    | some (steps, rest) =>
      let places := label.length + 1
      let next := code + (position + steps) / places
      let place := (position + steps) % places
      if next.isValidChar then
        insertCodes? (adapt steps places isFirst) next (place + 1) false
          (label.take place ++ Char.ofNat next :: label.drop place) rest
      else none
termination_by digits.length
decreasing_by exact length_lt_of_readNumber? (by assumption)

def decode? (text : Text) : Option Text :=
  let digits := (text.reverse.takeWhile (· != '-')).reverse
  insertCodes? 72 0x80 0 true (text.take (text.length - digits.length - 1)) digits

end Culprit.Domain.Punycode
