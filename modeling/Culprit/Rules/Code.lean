import Culprit.Rules.Bracket

/-!
# Code lines

Comments and the bodies of string literals say nothing about the structure of a rule document, so
they are removed before it is judged. A line comment runs to the end of its line, a block comment
to the next `*/` on any later line. A string literal lies on one line, its quotes are kept as an
empty literal, and a backslash in it takes the next character along. A literal that is not closed
on its line ends the code of the line and is remembered by the column of its quote.
-/

namespace Culprit

/-- The number of characters between an opening quote and the quote that closes the literal, read
from the characters after the opening quote. -/
def Text.literalLength? (quote : Char) : Text → Option Nat
  | [] => none
  | '\\' :: [] => none
  | '\\' :: _ :: rest => (literalLength? quote rest).map (· + 2)
  | c :: rest => if c = quote then some 0 else (literalLength? quote rest).map (· + 1)

/-- The index of the quote that closes the literal opened by the quote at the given index. -/
def Text.literalEnd? (line : Text) (start : Nat) : Option Nat :=
  match line.drop start with
  | [] => none
  | quote :: rest => (literalLength? quote rest).map (start + 1 + ·)

/-- A character of code and the column that it stands at in the source line. -/
structure CodeChar where
  char : Char
  column : Nat
  deriving DecidableEq, Repr

/-- What is left of a line, or of its rest, once comments and literal bodies are removed. -/
structure StrippedText where
  code : List CodeChar
  /-- The column of the quote whose literal is not closed on the line. -/
  unclosedQuote : Option Nat
  /-- The block comment that is open behind the line. -/
  openComment : Option Position
  deriving DecidableEq, Repr

namespace StrippedText

def nothing (openComment : Option Position) : StrippedText := ⟨[], none, openComment⟩

def push (char : Char) (column : Nat) (stripped : StrippedText) : StrippedText :=
  { stripped with code := ⟨char, column⟩ :: stripped.code }

def text (stripped : StrippedText) : Text := stripped.code.map CodeChar.char

end StrippedText

def isQuote (c : Char) : Bool := c == '"' || c == '\''

/-- Strips the rest of a line, from the given column on, where a comment opened at the given place
may still be open. -/
def Text.strip (lineNumber : Nat) (column : Nat) (openComment : Option Position) (line : Text) :
    StrippedText :=
  match line, openComment with
  | [], _ => .nothing openComment
  | '*' :: '/' :: rest, some _ => strip lineNumber (column + 2) none rest
  | _ :: rest, some opened => strip lineNumber (column + 1) (some opened) rest
  | '/' :: '/' :: _, none => .nothing none
  | '/' :: '*' :: rest, none => strip lineNumber (column + 2) (some ⟨lineNumber, column⟩) rest
  | c :: rest, none =>
    if isQuote c then
      match literalLength? c rest with
      | none => { code := [], unclosedQuote := some column, openComment := none }
      | some length =>
        ((strip lineNumber (column + length + 2) none (rest.drop (length + 1))).push
          c (column + length + 1)).push c column
    else
      (strip lineNumber (column + 1) none rest).push c column
termination_by line.length

/-- A line of a source together with its code. -/
structure CodeLine where
  /-- The number of the line, counted from one. -/
  number : Nat
  source : Text
  stripped : StrippedText
  deriving DecidableEq, Repr

namespace CodeLine

/-- The code of the line as a text, without blank characters at its ends. -/
def text (line : CodeLine) : Text := line.stripped.text.trim

def raw (line : CodeLine) : Text := line.source.trim

/-- The delimiters in the code of the line, with their places in the source. -/
def delimiters (line : CodeLine) : List (Located Delimiter) :=
  line.stripped.code.filterMap fun c =>
    (Delimiter.ofChar? c.char).map fun delimiter => ⟨delimiter, ⟨line.number, c.column⟩⟩

end CodeLine

def stripLinesFrom : Nat → Option Position → List Text → List CodeLine
  | _, _, [] => []
  | number, openComment, line :: rest =>
    let stripped := line.strip number 1 openComment
    ⟨number, line, stripped⟩ :: stripLinesFrom (number + 1) stripped.openComment rest

def stripLines (lines : List Text) : List CodeLine := stripLinesFrom 1 none lines

def openCommentAfter (lines : List CodeLine) : Option Position :=
  lines.getLast?.bind fun line => line.stripped.openComment

end Culprit
