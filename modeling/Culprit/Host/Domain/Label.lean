import Culprit.Host.Domain.Alphabet
import Culprit.Host.Domain.Direction
import Culprit.Host.Domain.Punycode
import Culprit.Host.Text.NormalForm
import Culprit.Text.Quoted

/-!
# Labels of domain names

A label is what stands between two dots of a domain name. It is in composed normal form, it has no
hyphen where one would be taken for something else, all its characters belong to the alphabet, and
it reads in one direction. Some characters are allowed only beside certain others.
-/

namespace Culprit.Domain

inductive LabelFault
  | tooLong
  | empty
  | notComposed
  | innerHyphens
  | outerHyphen
  | leadingMark
  /-- The character at the index is never allowed. -/
  | forbidden (c : Char) (index : Nat) (label : Text)
  | loneJoiner (c : Char) (index : Nat) (label : Text)
  | misplaced (c : Char) (index : Nat) (label : Text)
  | unknownDirection (index : Nat) (label : Text)
  | startsUndirected (label : Text)
  | wrongDirection (index : Nat) (isRightToLeft : Bool)
  | mixedNumbers
  | endsUndirected
  | nothingEncoded
  | encodedHyphen
  | badEncoding
  deriving DecidableEq, Repr

/-- The code of a character in hexadecimal, with four digits at least. -/
def codeText (c : Char) : String :=
  let digits := (Nat.toDigits 16 c.toNat).map Char.toUpper
  "U+" ++ String.ofList (List.replicate (4 - digits.length) '0' ++ digits)

def LabelFault.message : LabelFault → String
  | .tooLong => "Label too long"
  | .empty => "Empty Label"
  | .notComposed => "Label must be in Normalization Form C"
  | .innerHyphens => "Label has disallowed hyphens in 3rd and 4th position"
  | .outerHyphen => "Label must not start or end with a hyphen"
  | .leadingMark => "Label begins with an illegal combining character"
  | .forbidden c index label =>
    "Codepoint " ++ codeText c ++ " at position " ++ toString (index + 1) ++ " of "
      ++ String.ofList (Text.quote label) ++ " not allowed"
  | .loneJoiner c index label =>
    "Unknown codepoint adjacent to joiner " ++ codeText c ++ " at position "
      ++ toString (index + 1) ++ " in " ++ String.ofList (Text.quote label)
  | .misplaced c index label =>
    "Codepoint " ++ codeText c ++ " not allowed at position " ++ toString (index + 1) ++ " in "
      ++ String.ofList (Text.quote label)
  | .unknownDirection index label =>
    "Unknown directionality in label " ++ String.ofList (Text.quote label) ++ " at position "
      ++ toString (index + 1)
  | .startsUndirected label =>
    "First codepoint in label " ++ String.ofList (Text.quote label)
      ++ " must be directionality L, R or AL"
  | .wrongDirection index isRightToLeft =>
    "Invalid direction for codepoint at position " ++ toString (index + 1)
      ++ (if isRightToLeft then " in a right-to-left label" else " in a left-to-right label")
  | .mixedNumbers => "Can not mix numeral types in a right-to-left label"
  | .endsUndirected => "Label ends with illegal codepoint directionality"
  | .nothingEncoded => "Malformed A-label, no Punycode eligible content found"
  | .encodedHyphen => "A-label must not end with a hyphen"
  | .badEncoding => "Invalid A-label"

def require (condition : Bool) (fault : LabelFault) : Except LabelFault Unit :=
  if condition then .ok () else .error fault

/-! ### Characters beside others -/

def joiningMarkClass : Nat := 9

/-- Whether the nearest character that joining does not look through has a property. -/
def nearestJoins (joins : Char → Bool) (text : Text) : Bool :=
  (text.find? fun c => !isTransparent c).any joins

/-- Checks a joiner. The characters before it come in reverse. A joiner may stand behind a mark that
joins consonants; the joiner that keeps letters apart may also stand between letters that would
join. -/
def checkJoiner (label before after : Text) (c : Char) : Except LabelFault Unit :=
  let joinsBefore := before.head?.any fun last => Text.markClass last == joiningMarkClass
  let isBetween := c == '\u200C' && nearestJoins joinsForward before
    && nearestJoins joinsBackward after
  require (joinsBefore || isBetween) (.loneJoiner c before.length label)

/-- Whether a character is a digit of the Arabic script, in its common or its eastern form. -/
def isArabicDigit (isEastern : Bool) (c : Char) : Bool :=
  if isEastern then '\u06F0' ≤ c && c ≤ '\u06F9' else '\u0660' ≤ c && c ≤ '\u0669'

/-- Whether a character that is allowed only beside others may stand where it does; there is no
answer for a character of another kind. The characters before it come in reverse. -/
def mayStand? (label before after : Text) (c : Char) : Option Bool :=
  if c == '\u00B7' then some (before.head? == some 'l' && after.head? == some 'l')
  else if c == '\u0375' then some (after.head?.any Script.greek.holds)
  else if c == '\u05F3' || c == '\u05F4' then some (before.head?.any Script.hebrew.holds)
  else if c == '\u30FB' then
    some (label.any fun other =>
      Script.hiragana.holds other || Script.katakana.holds other || Script.han.holds other)
  else if isArabicDigit false c then some (!label.any (isArabicDigit true))
  else if isArabicDigit true c then some (!label.any (isArabicDigit false))
  else none

/-- Checks the characters of a label, the first of which are checked already and come in reverse. -/
def checkCharacters (label before : Text) : Text → Except LabelFault Unit
  | [] => .ok ()
  | c :: after => do
    if !isLetter c then
      if c == '\u200C' || c == '\u200D' then checkJoiner label before after c
      else
        match mayStand? label before after c with
        | some allowed => require allowed (.misplaced c before.length label)
        | none => .error (.forbidden c before.length label)
    checkCharacters label (c :: before) after

/-! ### Direction -/

def Direction.isRightToLeft (direction : Direction) : Bool :=
  direction == .rightToLeft || direction == .arabicNumber

/-- Checks that the last character that is no mark of a label from right to left is written in that
direction or is a number. -/
def checkEnd (directions : List Direction) : Except LabelFault Unit :=
  let ends (direction : Direction) : Bool :=
    direction.isRightToLeft || direction == .europeanNumber
  require ((directions.reverse.find? (· != .nonspacing)).any ends) .endsUndirected

/-- Checks the characters of a label from right to left in order: none is written from left to
right, and its numbers are all of one kind. -/
def checkRightToLeft (number : Option Direction) (index : Nat) :
    List Direction → Except LabelFault Unit
  | [] => .ok ()
  | direction :: rest => do
    require (direction != .leftToRight) (.wrongDirection index true)
    if direction == .arabicNumber || direction == .europeanNumber then
      require (number.all (· == direction)) .mixedNumbers
      checkRightToLeft (some direction) (index + 1) rest
    else checkRightToLeft number (index + 1) rest

def checkDirection (label : Text) : Except LabelFault Unit := do
  let directions := label.map direction
  match directions.findIdx? (· == .unknown) with
  | some index => .error (.unknownDirection index label)
  | none =>
    match directions.findIdx? Direction.isRightToLeft with
    | none => .ok ()
    | some index =>
      match directions.head? with
      | some .rightToLeft => do
        checkRightToLeft none 0 directions
        checkEnd directions
      | some .leftToRight => .error (.wrongDirection index false)
      | _ => .error (.startsUndirected label)

/-! ### Labels -/

def labelLimit : Nat := 254

def asciiLabelLimit : Nat := 63

def checkLabel (label : Text) : Except LabelFault Unit := do
  require (!label.isEmpty) .empty
  require (label.length ≤ labelLimit) .tooLong
  require (Text.isComposed label) .notComposed
  require ((label.drop 2).take 2 != ['-', '-']) .innerHyphens
  require (label.head? != some '-' && label.getLast? != some '-') .outerHyphen
  require (!label.head?.any Text.isCombining) .leadingMark
  checkCharacters label [] label
  checkDirection label

def asciiMark : Text := "xn--".toList

def readAsciiLabel (text : Text) : Except LabelFault Text := do
  let folded := text.map Char.toLower
  if asciiMark.isPrefixOf folded then
    let encoded := folded.drop asciiMark.length
    require (!encoded.isEmpty) .nothingEncoded
    require (encoded.getLast? != some '-') .encodedHyphen
    match Punycode.decode? encoded with
    | none => .error .badEncoding
    | some label =>
      checkLabel label
      return label
  else
    checkLabel folded
    return folded

def asciiLabel (label : Text) : Except LabelFault Text := do
  let ascii ←
    if label.all fun c => c.toNat < 0x80 then do
      let _ ← readAsciiLabel label
      pure label
    else do
      checkLabel label
      pure (asciiMark ++ Punycode.encode label)
  require (ascii.length ≤ asciiLabelLimit) .tooLong
  return ascii

end Culprit.Domain
