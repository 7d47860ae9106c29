import Culprit.Host.Shell.Token

/-!
# The source of a script

What a reader of scripts has in front of it. A backslash in front of a line end joins two lines,
nearly everywhere. A text in the script, such as the input of a command, begins on the line behind
the one that asks for it; until then it is pending.
-/

namespace Culprit.Shell

/-- A text in the script that has been asked for and not been read yet. -/
structure PendingDocument where
  number : Nat
  delimiter : Octets
  dropsTabs : Bool
  isExpanded : Bool

/-- What is left to read of a script, and what has been read besides commands. -/
structure Source where
  ahead : Octets
  line : Nat
  putBack : Option Token
  pending : List PendingDocument
  documents : List (Nat × Word)
  documentCount : Nat

def Source.start (octets : Octets) (documents : List (Nat × Word)) : Source where
  ahead := octets
  line := 1
  putBack := none
  pending := []
  documents
  documentCount := documents.length

abbrev Reading := StateT Source (Except SyntaxError)

namespace Reading

def fail {α : Type} (problem : SyntaxProblem) : Reading α := do
  throw ⟨(← get).line, problem⟩

/-- Gives up because of a token. -/
def unexpected {α : Type} (token : Token) (expected : Option Token) : Reading α :=
  fail (.unexpected token.name (expected.map Token.name))

def unread (token : Token) : Reading Unit :=
  modify fun source => { source with putBack := some token }

/-- Octets without the joined line ends in front, and the number of their first line. -/
def skipJoins : Octets → Nat → Octets × Nat
  | '\\' :: '\n' :: rest, line => skipJoins rest (line + 1)
  | octets, line => (octets, line)

/-- The next character, none at the end; joined line ends in front of it are skipped. -/
def peek : Reading (Option Char) := do
  let source ← get
  let (ahead, line) := skipJoins source.ahead source.line
  set { source with ahead, line }
  return ahead.head?

def advance : Reading Unit :=
  modify fun source =>
    match source.ahead with
    | [] => source
    | c :: rest =>
      { source with ahead := rest, line := if c == '\n' then source.line + 1 else source.line }

/-- Takes the characters in front that have a property; no joined line ends are skipped. -/
def takeRun (property : Char → Bool) : Reading Octets := do
  let source ← get
  let run := source.ahead.takeWhile property
  set { source with
    ahead := source.ahead.drop run.length
    line := source.line + run.count '\n' }
  return run

/-- Takes the characters in front that have a property. Fuel as for the characters is enough. -/
def takeJoined (property : Char → Bool) : Nat → Reading Octets
  | 0 => return []
  | fuel + 1 => do
    match ← peek with
    | some c =>
      if property c then do
        advance
        return c :: (← takeJoined property fuel)
      else return []
    | none => return []

/-- Reads from other octets, which begin on the given line, and goes on where it was. -/
def within {α : Type} (octets : Octets) (line : Nat) (reading : Reading α) : Reading α := do
  let outer ← get
  set { outer with ahead := octets, line, putBack := none, pending := [] }
  let result ← reading
  modify fun inner =>
    { outer with documents := inner.documents, documentCount := inner.documentCount }
  return result

/-! ### Texts in a script -/

def isJoined (line : Octets) : Bool := (line.reverse.takeWhile (· == '\\')).length % 2 = 1

/-- The lines of a text up to the one that ends it, and the rest with the number of its first line.
`isWhole` says that the first line is not joined with one before it. Fuel as for the characters is
enough. -/
def takeDocument (document : PendingDocument) (isWhole : Bool) :
    Nat → Octets → Nat → Octets × Octets × Nat
  | 0, ahead, number => ([], ahead, number)
  | _, [], number => ([], [], number)
  | fuel + 1, ahead, number =>
    let first := ahead.takeWhile (· != '\n')
    let behind := ahead.drop first.length
    let line := if document.dropsTabs then first.dropWhile (· == '\t') else first
    if isWhole && line == document.delimiter then ([], behind.drop 1, number + 1)
    else
      let (text, rest, last) := takeDocument document (!(document.isExpanded && isJoined line))
        fuel (behind.drop 1) (number + (behind.take 1).length)
      (line ++ behind.take 1 ++ text, rest, last)

def characters : Nat → Word → Octets
  | 0, _ => []
  | fuel + 1, word =>
    word.flatMap fun
      | .plain characters => characters
      | .literal characters => characters
      | .quoted pieces => characters fuel pieces
      | _ => []

def askForDocument (delimiter : Word) (dropsTabs : Bool) : Reading Nat := do
  let source ← get
  let isExpanded := delimiter.all fun
    | .plain _ => true
    | _ => false
  let document : PendingDocument :=
    ⟨source.documentCount, characters 4 delimiter, dropsTabs, isExpanded⟩
  set { source with
    pending := source.pending ++ [document]
    documentCount := source.documentCount + 1 }
  return source.documentCount

end Reading
end Culprit.Shell
