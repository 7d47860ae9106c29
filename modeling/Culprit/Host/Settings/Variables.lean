import Culprit.Text.Blank

/-!
# Files of variables

A file of variables has one assignment on a line: a name, an equals sign and a value, perhaps with
`export` in front. Comments start with a number sign. A value in quotes may run over several lines
and has escapes; one without quotes ends at its line or at a comment. A line that is none of this
is skipped. Afterwards `${NAME}` in a value stands for the variable of that name.
-/

namespace Culprit.Settings

def isInlineBlank (c : Char) : Bool := Text.isBlank c && c != '\n' && c != '\r'

def isLineEnd (c : Char) : Bool := c == '\n' || c == '\r'

/-- What stands in a file of variables at some place. -/
structure Statement where
  name : Option Text
  value : Option Text
  deriving DecidableEq, Repr

/-- A reading step: what was read and the rest, or the rest from which the line is skipped. -/
abbrev Step (α : Type) := Except Text (α × Text)

/-- Skips `export` with blank characters behind it. -/
def skipExport (text : Text) : Text :=
  if "export".toList.isPrefixOf text then
    let behind := text.drop 6
    let rest := behind.dropWhile isInlineBlank
    if rest.length < behind.length then rest else text
  else text

def readName (text : Text) : Step (Option Text) :=
  match text with
  | '#' :: _ => .ok (none, text)
  | '\'' :: rest =>
    let name := rest.takeWhile (· != '\'')
    match rest.drop name.length with
    | _ :: behind => if name.isEmpty then .error text else .ok (some name, behind)
    | [] => .error text
  | _ =>
    let name := text.takeWhile fun c => c != '=' && c != '#' && !Text.isBlank c
    if name.isEmpty then .error text else .ok (some name, text.drop name.length)

/-- The inside of a quoted value and the rest behind the closing quote. A backslash takes the next
character with it, so a quote behind one does not close the value. -/
def quotedValue? (quote : Char) : Text → Option (Text × Text)
  | [] => none
  | '\\' :: c :: rest =>
    (quotedValue? quote rest).map fun (inside, behind) => ('\\' :: c :: inside, behind)
  | '\\' :: [] => none
  | c :: rest =>
    if c = quote then some ([], rest)
    else (quotedValue? quote rest).map fun (inside, behind) => (c :: inside, behind)

def singleEscape? : Char → Option Char
  | '\\' => some '\\'
  | '\'' => some '\''
  | _ => none

def doubleEscape? : Char → Option Char
  | '\\' => some '\\'
  | '\'' => some '\''
  | '"' => some '"'
  | 'a' => some '\x07'
  | 'b' => some '\x08'
  | 'f' => some '\x0c'
  | 'n' => some '\n'
  | 'r' => some '\r'
  | 't' => some '\t'
  | 'v' => some '\x0b'
  | _ => none

def replaceEscapes (escape? : Char → Option Char) : Text → Text
  | [] => []
  | '\\' :: c :: rest =>
    match escape? c with
    | some replaced => replaced :: replaceEscapes escape? rest
    | none => '\\' :: replaceEscapes escape? (c :: rest)
  | c :: rest => c :: replaceEscapes escape? rest

/-- A value without quotes up to a comment: a number sign with a blank character in front. -/
def dropComment (behindBlank : Bool) : Text → Text
  | [] => []
  | c :: rest =>
    if c == '#' && behindBlank then [] else c :: dropComment (Text.isBlank c) rest

/-- Reads a value. `behindBlank` says whether a blank character stands in front of it. -/
def readSetting (behindBlank : Bool) (text : Text) : Step Text :=
  match text with
  | '\'' :: rest =>
    match quotedValue? '\'' rest with
    | some (inside, behind) => .ok (replaceEscapes singleEscape? inside, behind)
    | none => .error text
  | '"' :: rest =>
    match quotedValue? '"' rest with
    | some (inside, behind) => .ok (replaceEscapes doubleEscape? inside, behind)
    | none => .error text
  | _ =>
    let part := text.takeWhile fun c => !isLineEnd c
    .ok (Text.dropBack Text.isBlank (dropComment behindBlank part), text.drop part.length)

/-- Skips a comment, blank characters and the end of the line; nothing else may be left on it. -/
def skipLineTail (text : Text) : Except Text Text :=
  let behindBlank := text.dropWhile isInlineBlank
  let behind := match behindBlank with
    | '#' :: _ => behindBlank.dropWhile fun c => !isLineEnd c
    | _ => text
  match behind.dropWhile isInlineBlank with
  | [] => .ok []
  | '\r' :: '\n' :: rest => .ok rest
  | c :: rest => if isLineEnd c then .ok rest else .error behind

def readStatement (text : Text) : Except Text (Statement × Text) := do
  let (name, behindName) ← readName (skipExport text)
  let next := behindName.dropWhile isInlineBlank
  match next with
  | '=' :: rest =>
    let start := rest.dropWhile isInlineBlank
    let (value, behind) ← readSetting (start.length < rest.length) start
    return (⟨name, some value⟩, ← skipLineTail behind)
  | _ => return (⟨name, none⟩, ← skipLineTail next)

def skipLine (text : Text) : Text := (text.dropWhile fun c => !isLineEnd c).drop 1

/-- The assignments of a file, in order; a name without an equals sign has no value. -/
abbrev Variables := List (Text × Option Text)

/-- Reads the statements of a file. Every statement takes a character, so as much fuel as there are
characters is enough. -/
def readStatements : Nat → Text → Variables
  | 0, _ => []
  | fuel + 1, text =>
    let start := text.dropWhile Text.isBlank
    if start.isEmpty then []
    else
      match readStatement start with
      | .ok (⟨some name, value⟩, rest) => (name, value) :: readStatements fuel rest
      | .ok (⟨none, _⟩, rest) => readStatements fuel rest
      | .error stuck => readStatements fuel (skipLine stuck)

def readVariables (text : Text) : Variables := readStatements text.length.succ text

/-- Gives a name a value. A name that is there keeps its place. -/
def assign (name : Text) (value : Option Text) : Variables → Variables
  | [] => [(name, value)]
  | entry :: rest =>
    if entry.1 = name then (name, value) :: rest else entry :: assign name value rest

/-- The assignments with every name once: at the place of its first one, with the value of its
last. -/
def distinct (entries : Variables) : Variables :=
  entries.foldl (fun known entry => assign entry.1 entry.2 known) []

/-! ### Variables inside of values -/

def lastValue? (name : Text) (known : Variables) : Option Text :=
  ((known.reverse.find? fun entry => entry.1 == name).map Prod.snd).join

/-- A reference to a variable behind `${`: its name, what stands for it when it is not set, and
what follows the closing brace. -/
def reference? (text : Text) : Option (Text × Option Text × Text) :=
  let name := text.takeWhile fun c => c != '}' && c != ':'
  match text.drop name.length with
  | '}' :: rest => some (name, none, rest)
  | ':' :: '-' :: more =>
    let fallback := more.takeWhile (· != '}')
    match more.drop fallback.length with
    | _ :: rest => some (name, some fallback, rest)
    | [] => none
  | _ => none

/-- A value with its references replaced. Fuel as for the characters is enough. -/
def expandReferences (known : Variables) : Nat → Text → Text
  | 0, _ => []
  | _, [] => []
  | fuel + 1, '$' :: '{' :: rest =>
    match reference? rest with
    | some (name, fallback, behind) =>
      let isSet := known.any fun entry => entry.1 == name
      let value := if isSet then (lastValue? name known).getD [] else fallback.getD []
      value ++ expandReferences known fuel behind
    | none => '$' :: '{' :: expandReferences known fuel rest
  | fuel + 1, c :: rest => c :: expandReferences known fuel rest

/-- The entries with the references in their values replaced, by the entries before them or by the
given variables. -/
def expandEntries (known : Variables) : Variables → Variables
  | [] => []
  | (name, value) :: rest =>
    let expanded := value.map fun value => expandReferences known value.length.succ value
    (name, expanded) :: expandEntries (known ++ [(name, expanded)]) rest

end Culprit.Settings
