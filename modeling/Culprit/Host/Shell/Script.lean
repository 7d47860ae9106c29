import Culprit.Host.Text.Octets

/-!
# Scripts

Verifier commands are often small scripts: programs with their arguments, joined by sequence, pipes,
conditions, choices and loops, with their inputs and outputs redirected. This module holds the form
of a script. A word is kept in pieces until it is expanded, so that what stands in quotes stays
apart from what does not.
-/

namespace Culprit.Shell

/-- Something that a word can ask for the value of. -/
inductive Parameter
  | named (name : Octets)
  /-- A parameter of the script, counted from one; zero is the name of the script. -/
  | position (number : Nat)
  | all
  | joined
  | count
  | status
  | process
  | background
  | options
  deriving DecidableEq, Repr

def Parameter.ofSpecial? (c : Char) : Option Parameter :=
  match c with
  | '@' => some .all
  | '*' => some .joined
  | '#' => some .count
  | '?' => some .status
  | '$' => some .process
  | '!' => some .background
  | '-' => some .options
  | _ => if c.isDigit then some (.position (c.toNat - '0'.toNat)) else none

/-- What is done with the word that stands beside a parameter. -/
inductive Substitution
  | fallback
  | assignment
  | complaint
  | replacement
  deriving DecidableEq, Repr

inductive OpenMode
  | read
  | write
  /-- Writing that replaces a file even where that is not allowed otherwise. -/
  | overwrite
  | append
  | readWrite
  deriving DecidableEq, Repr

mutual

inductive Piece
  | plain (characters : Octets)
  | literal (characters : Octets)
  | quoted (pieces : List Piece)
  | value (parameter : Parameter) (change : Change)
  | output (script : Script)
  | sum (expression : List Piece)

inductive Change
  | none
  | size
  /-- A word may take its place. An empty value counts as missing if so marked. -/
  | substitute (kind : Substitution) (whenEmpty : Bool) (word : List Piece)
  | trim (atEnd isLongest : Bool) (pattern : List Piece)
  | invalid

/-- A change of where a stream comes from or goes to. -/
inductive Redirection
  | opened (stream : Nat) (mode : OpenMode) (file : List Piece)
  | copied (stream : Nat) (other : List Piece)
  | document (stream : Nat) (number : Nat)

inductive Alternative
  | fitting (patterns : List (List Piece)) (body : Script)

/-- A script. A line is that on which a command starts. -/
inductive Script
  | nothing
  | simple (line : Nat) (assignments words : List (List Piece))
      (redirections : List Redirection)
  | redirected (line : Nat) (body : Script) (redirections : List Redirection)
  | subshell (line : Nat) (body : Script) (redirections : List Redirection)
  | background (body : Script)
  | pipe (parts : List Script)
  | negated (body : Script)
  | onSuccess (first second : Script)
  | onFailure (first second : Script)
  | sequence (parts : List Script)
  | branch (condition thenPart elsePart : Script)
  | loop (isUntil : Bool) (condition body : Script)
  /-- The body runs once for each field of the words, to which the name is bound. -/
  | each (line : Nat) (name : Octets) (words : List (List Piece)) (body : Script)
  | choice (line : Nat) (subject : List Piece) (alternatives : List Alternative)
  | function (line : Nat) (name : Octets) (body : Script)

end

abbrev Word := List Piece

namespace Word

def plainText? : Word → Option Octets
  | [.plain characters] => some characters
  | _ => none

end Word

def allParameters : Word := [.quoted [.value .all .none]]

/-! ### Names -/

def startsName (c : Char) : Bool := c.isAlpha || c == '_'

def isNameChar (c : Char) : Bool := c.isAlphanum || c == '_'

def isName : Octets → Bool
  | [] => false
  | c :: rest => startsName c && rest.all isNameChar

def splitAssignment? (octets : Octets) : Option (Octets × Octets) :=
  let name := octets.takeWhile isNameChar
  match octets.drop name.length with
  | '=' :: value => if isName name then some (name, value) else none
  | _ => none

def Word.isAssignment : Word → Bool
  | .plain characters :: _ => (splitAssignment? characters).isSome
  | _ => false

end Culprit.Shell
