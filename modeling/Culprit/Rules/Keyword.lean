import Culprit.Text.Blank

/-!
# Keywords

The words that give a rule document its structure are spelled in small ASCII letters, and read
without regard to case. Reading a text this way replaces each capital by its small letter; the
Kelvin sign is the one character outside ASCII whose small letter is an ASCII letter, so it is the
only one that a keyword can be written with.
-/

namespace Culprit

/-- The small letter of a character, as far as keywords can tell. -/
def smallLetter (c : Char) : Char := if c == '\u212A' then 'k' else c.toLower

/-- A text as it is compared with keywords. -/
def Text.fold (text : Text) : Text := text.map smallLetter

/-- A line as it is compared with keywords: without blank ends and in small letters. -/
def Text.key (line : Text) : Text := line.trim.fold

inductive Keyword
  | rule
  | query
  | declare
  | function
  deriving DecidableEq, Repr

namespace Keyword

def all : List Keyword := [.rule, .query, .declare, .function]

def spelling : Keyword → String
  | .rule => "rule"
  | .query => "query"
  | .declare => "declare"
  | .function => "function"

def capitalized : Keyword → String
  | .rule => "Rule"
  | .query => "Query"
  | .declare => "Declare"
  | .function => "Function"

def ofWord? (word : Text) : Option Keyword :=
  all.find? fun keyword => keyword.spelling.toList == word

theorem ofWord?_spelling (keyword : Keyword) : ofWord? keyword.spelling.toList = some keyword := by
  cases keyword <;> rfl

end Keyword

def endKey : Text := "end".toList

def whenKey : Text := "when".toList

def thenKey : Text := "then".toList

end Culprit
