/-!
# Texts and blank characters

A text is a list of characters, so that columns, lengths and cuts count characters. This module
says which characters are blank and how a text is trimmed of them. Blank is the property of Unicode
that marks separators and the control characters used for layout; zero-width marks are not blank.
-/

namespace Culprit

abbrev Text := List Char

namespace Text

/-- The blank characters: layout controls, the four information separators, and the spaces. -/
def isBlank (c : Char) : Bool :=
  let code := c.toNat
  (9 ≤ code && code ≤ 13) || (28 ≤ code && code ≤ 32) || code == 0x85 || code == 0xA0
    || code == 0x1680 || (0x2000 ≤ code && code ≤ 0x200A) || code == 0x2028 || code == 0x2029
    || code == 0x202F || code == 0x205F || code == 0x3000

def isBlankText (text : Text) : Bool := text.all isBlank

def dropFront (property : Char → Bool) (text : Text) : Text := text.dropWhile property

def dropBack (property : Char → Bool) (text : Text) : Text :=
  (text.reverse.dropWhile property).reverse

def dropEnds (property : Char → Bool) (text : Text) : Text :=
  dropBack property (dropFront property text)

def trim (text : Text) : Text := dropEnds isBlank text

def firstWord (text : Text) : Text :=
  (dropFront isBlank text).takeWhile fun c => !isBlank c

def afterFirstWord (text : Text) : Text :=
  dropFront isBlank ((dropFront isBlank text).dropWhile fun c => !isBlank c)

def hasPart (part : Text) : Text → Bool
  | [] => part.isEmpty
  | c :: rest => part.isPrefixOf (c :: rest) || hasPart part rest

/-! ### Small laws of trimming -/

@[simp] theorem isBlankText_nil : isBlankText [] = true := rfl

@[simp] theorem isBlankText_cons (c : Char) (text : Text) :
    isBlankText (c :: text) = (isBlank c && isBlankText text) := rfl

@[simp] theorem dropFront_nil (property : Char → Bool) : dropFront property [] = [] := rfl

@[simp] theorem dropBack_nil (property : Char → Bool) : dropBack property [] = [] := rfl

@[simp] theorem trim_nil : trim [] = [] := rfl

end Text
end Culprit
