import Culprit.Host.Text.Composition

/-!
# Composed normal form

A text may write a letter and its marks as one character or as several. In the normal form as much
as possible is composed: the text is taken apart, its marks are put into order, and then every
letter is composed with the marks that stand behind it and are not blocked by others.
-/

namespace Culprit.Text

/-! ### Syllables -/

/-- The first composed syllable of the script whose syllables are composed by arithmetic. -/
def syllableBase : Nat := 0xAC00

/-- The number of composed syllables: 19 initials, 21 vowels, and 27 finals or none. -/
def syllableCount : Nat := 19 * 21 * 28

def syllableParts? (c : Char) : Option Text :=
  if syllableBase ≤ c.toNat && c.toNat < syllableBase + syllableCount then
    let index := c.toNat - syllableBase
    let front := [Char.ofNat (0x1100 + index / (21 * 28)), Char.ofNat (0x1161 + index / 28 % 21)]
    some (if index % 28 = 0 then front else front ++ [Char.ofNat (0x11A7 + index % 28)])
  else none

def composeSyllable? (first second : Char) : Option Char :=
  let initial := first.toNat - 0x1100
  let vowel := second.toNat - 0x1161
  let open_ := first.toNat - syllableBase
  let final := second.toNat - 0x11A7
  if 0x1100 ≤ first.toNat && initial < 19 && 0x1161 ≤ second.toNat && vowel < 21 then
    some (Char.ofNat (syllableBase + (initial * 21 + vowel) * 28))
  else if syllableBase ≤ first.toNat && open_ < syllableCount && open_ % 28 == 0
      && 0x11A7 < second.toNat && final < 28 then
    some (Char.ofNat (first.toNat + final))
  else none

/-! ### Taking apart and composing -/

/-- A character taken apart. A composed character starts with one that may be composed itself, in
at most as many steps as the fuel says. -/
def decompose : Nat → Char → Text
  | 0, c => [c]
  | fuel + 1, c =>
    match syllableParts? c with
    | some parts => parts
    | none =>
      match compositions.find? fun (_, _, composed) => composed == c.toNat with
      | some (first, mark, _) =>
        decompose fuel (Char.ofNat first) ++ decompose fuel (Char.ofNat mark)
      | none => [c]

/-- The number of steps that taking a character apart needs at most. -/
def decomposeSteps : Nat := 4

def insertMark (mark : Char) : Text → Text
  | [] => [mark]
  | c :: before =>
    if markClass mark < markClass c then c :: insertMark mark before else mark :: c :: before

/-- A text with its marks in order. The text in front of it comes in reverse, and so does the
result. -/
def orderMarks (before : Text) : Text → Text
  | [] => before
  | c :: rest =>
    orderMarks (if markClass c == 0 then c :: before else insertMark c before) rest

def composePair? (first second : Char) : Option Char :=
  match composeSyllable? first second with
  | some c => some c
  | none =>
    (compositions.find? fun (head, mark, _) => head == first.toNat && mark == second.toNat).map
      fun (_, _, composed) => Char.ofNat composed

/-- Composes a letter with what follows it. `kept` are the marks behind the letter that did not
compose, in reverse: a character composes with the letter unless a mark of no lower class, or a
character that is no mark, stands between them. -/
def composeFrom (letter : Char) (kept : Text) : Text → Text
  | [] => letter :: kept.reverse
  | c :: rest =>
    let isBlocked := match kept with
      | [] => false
      | last :: _ => markClass c ≤ markClass last
    match if isBlocked then none else composePair? letter c with
    | some composed => composeFrom composed kept rest
    | none =>
      if markClass c == 0 then letter :: kept.reverse ++ composeFrom c [] rest
      else composeFrom letter (c :: kept) rest

def compose : Text → Text
  | [] => []
  | c :: rest => if markClass c == 0 then composeFrom c [] rest else c :: compose rest

def isComposed (text : Text) : Bool :=
  !text.any isDecomposed
    && compose (orderMarks [] (text.flatMap (decompose decomposeSteps))).reverse == text

end Culprit.Text
