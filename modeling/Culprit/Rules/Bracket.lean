import Culprit.Text.Position

/-!
# Brackets and their nesting

The delimiters of a rule document are three kinds of bracket. A sequence of delimiters either
breaks at a closing one that does not fit the innermost open bracket, or it ends with some brackets
still open; it is well nested when none is.
-/

namespace Culprit

inductive Bracket
  | round
  | square
  | curly
  deriving DecidableEq, Repr

def Bracket.opener : Bracket → Char
  | .round => '('
  | .square => '['
  | .curly => '{'

def Bracket.closer : Bracket → Char
  | .round => ')'
  | .square => ']'
  | .curly => '}'

inductive Delimiter
  | opening (bracket : Bracket)
  | closing (bracket : Bracket)
  deriving DecidableEq, Repr

def Delimiter.ofChar? : Char → Option Delimiter
  | '(' => some (.opening .round)
  | '[' => some (.opening .square)
  | '{' => some (.opening .curly)
  | ')' => some (.closing .round)
  | ']' => some (.closing .square)
  | '}' => some (.closing .curly)
  | _ => none

def Delimiter.toChar : Delimiter → Char
  | .opening bracket => bracket.opener
  | .closing bracket => bracket.closer

theorem Delimiter.ofChar?_toChar (delimiter : Delimiter) :
    ofChar? delimiter.toChar = some delimiter := by
  cases delimiter with
  | opening bracket => cases bracket <;> rfl
  | closing bracket => cases bracket <;> rfl

/-- How reading a sequence of delimiters ends. -/
inductive Nesting
  /-- At this closing delimiter, which does not fit what is open. -/
  | broken (closer : Located Bracket)
  /-- At the end, with these brackets open, the innermost first. -/
  | pending (openers : List (Located Bracket))
  deriving DecidableEq, Repr

/-- Reads delimiters with the given brackets already open, the innermost first. -/
def Nesting.read : List (Located Bracket) → List (Located Delimiter) → Nesting
  | openers, [] => .pending openers
  | openers, ⟨.opening bracket, position⟩ :: rest => read (⟨bracket, position⟩ :: openers) rest
  | [], ⟨.closing bracket, position⟩ :: _ => .broken ⟨bracket, position⟩
  | innermost :: openers, ⟨.closing bracket, position⟩ :: rest =>
    if innermost.value = bracket then read openers rest else .broken ⟨bracket, position⟩

def Nesting.of (delimiters : List (Located Delimiter)) : Nesting := read [] delimiters

end Culprit
