import Culprit.Host.Command.Expression.Reader
import Culprit.Host.Command.Standard

/-!
# Searching lines

The program that writes the lines of its input or of files that fit an expression. Each line of the
expressions that it is given is an alternative. What it shows of a line that fits, and of the lines
around it, its options say.
-/

namespace Culprit.Command

/-! ### Options -/

/-- The letter of the option that asks for colors. It has none of its own, and neither have those
below. -/
def colorLetter : Char := 'α'

def binaryLetter : Char := 'β'

def labelLetter : Char := 'γ'

def separatorLetter : Char := 'δ'

def noSeparatorLetter : Char := 'ε'

/-- The letter of the option that takes back that letters of both sizes are the same. -/
def exactLetter : Char := 'ζ'

def idleLetter : Char := 'η'

def digitLetters : List Char := "0123456789".toList

def searchRules : List OptionRule :=
  [⟨'G', .none, ["basic-regexp"]⟩, ⟨'E', .none, ["extended-regexp"]⟩,
    ⟨'F', .none, ["fixed-regexp", "fixed-strings"]⟩, ⟨'P', .none, ["perl-regexp"]⟩,
    ⟨'A', .required, ["after-context"]⟩, ⟨'B', .required, ["before-context"]⟩,
    ⟨binaryLetter, .required, ["binary-files"]⟩, ⟨'U', .none, ["binary"]⟩,
    ⟨'b', .none, ["byte-offset"]⟩, ⟨'C', .required, ["context"]⟩,
    ⟨colorLetter, .optional, ["color", "colour"]⟩, ⟨'c', .none, ["count"]⟩,
    ⟨'D', .required, ["devices"]⟩, ⟨'d', .required, ["directories"]⟩,
    ⟨idleLetter, .required, ["exclude", "exclude-from", "exclude-dir", "include"]⟩,
    ⟨'f', .required, ["file"]⟩, ⟨'l', .none, ["files-with-matches"]⟩,
    ⟨'L', .none, ["files-without-match"]⟩, ⟨separatorLetter, .required, ["group-separator"]⟩,
    ⟨noSeparatorLetter, .none, ["no-group-separator"]⟩, ⟨'i', .none, ["ignore-case"]⟩,
    ⟨exactLetter, .none, ["no-ignore-case"]⟩, ⟨'T', .none, ["initial-tab"]⟩,
    ⟨labelLetter, .required, ["label"]⟩, ⟨'θ', .none, ["line-buffered"]⟩,
    ⟨'n', .none, ["line-number"]⟩, ⟨'x', .none, ["line-regexp"]⟩,
    ⟨'m', .required, ["max-count"]⟩, ⟨'h', .none, ["no-filename"]⟩,
    ⟨'s', .none, ["no-messages"]⟩, ⟨'Z', .none, ["null"]⟩, ⟨'z', .none, ["null-data"]⟩,
    ⟨'o', .none, ["only-matching"]⟩, ⟨'q', .none, ["quiet", "silent"]⟩,
    ⟨'r', .none, ["recursive"]⟩, ⟨'R', .none, ["dereference-recursive"]⟩,
    ⟨'e', .required, ["regexp"]⟩, ⟨'v', .none, ["invert-match"]⟩, ⟨'a', .none, ["text"]⟩,
    ⟨'u', .none, ["unix-byte-offsets"]⟩, ⟨'H', .none, ["with-filename"]⟩,
    ⟨'w', .none, ["word-regexp"]⟩, ⟨'y', .none, []⟩, ⟨'I', .none, []⟩, ⟨'X', .required, []⟩]
    ++ digitLetters.map fun digit => ⟨digit, .none, []⟩

inductive ExpressionForm
  | basic
  | extended
  | literal
  deriving DecidableEq, Repr

inductive Extent
  | part
  | word
  | line
  deriving DecidableEq, Repr

inductive BinaryRule
  | notice
  | asText
  | never
  deriving DecidableEq, Repr

inductive Display
  | lines
  | parts
  | count
  | nameIfFound
  | nameIfNot
  | nothing
  deriving DecidableEq, Repr

structure LineSearch where
  comparison : Comparison
  extent : Extent
  isInverted : Bool
  expression : Expression
  display : Display
  binary : BinaryRule
  lineEnd : Char
  /-- How many lines are selected at most. -/
  limit : Option Nat
  before : Option Nat
  after : Option Nat
  separator : Option Octets
  showsName : Bool
  showsNumber : Bool
  showsOffset : Bool
  endsNames : Bool
  isSilent : Bool
  isQuiet : Bool
  label : Octets
  skipsDirectories : Bool

inductive SearchError
  | usage (error : Option OptionError)
  | refused (reason : Octets)
  | vain
  deriving DecidableEq, Repr

def SearchError.message : SearchError → Octets
  | .usage error =>
    (match error with
      | some reason => "grep: ".toList ++ reason.message ++ ['\n']
      | none => [])
      ++ ("Usage: grep [OPTION]... PATTERNS [FILE]...\n"
        ++ "Try 'grep --help' for more information.").toList
  | .refused reason => "grep: ".toList ++ reason
  | .vain => []

def lastOf (arguments : Arguments) (letters : String) : Option GivenOption :=
  arguments.options.reverse.find? fun option => letters.toList.contains option.letter

def readCount? (argument : Octets) : Option Nat :=
  if !argument.isEmpty && argument.all Char.isDigit then
    some (argument.foldl (fun value d => value * 10 + (d.toNat - '0'.toNat)) 0)
  else none

def readContext (arguments : Arguments) (letter : Char) : Option Nat :=
  let digits := (arguments.options.filter fun option => digitLetters.contains option.letter).map
    GivenOption.letter
  match lastOf arguments (String.ofList [letter]), lastOf arguments "C" with
  | some option, _ => readCount? option.argument
  | none, some option => readCount? option.argument
  | none, none => readCount? digits

def unreadable (file : Octets) (error : FileFault) : Octets :=
  file ++ (": " ++ error.meaning).toList

def readKeys (supply : Supply) (arguments : Arguments) :
    Except SearchError (List Octets × List Octets) := do
  let given := arguments.options.filter fun option => option.letter == 'e' || option.letter == 'f'
  if given.isEmpty then
    match arguments.operands with
    | [] => throw (.usage none)
    | expression :: files => return ((expression.splitOn '\n').eraseDups, files)
  else do
    let mut keys : List Octets := []
    for option in given do
      if option.letter == 'e' then keys := keys ++ option.argument.splitOn '\n'
      else
        match supply.take option.argument with
        | (.ok content, _) =>
          let lines := content.splitOn '\n'
          keys := keys ++ (if content.isEmpty || content.getLast? == some '\n' then lines.dropLast
            else lines)
        | (.error _, _) => pure ()
    return (keys.eraseDups, arguments.operands)

/-- Whether there are brackets in a text that look as if another pair was meant. Fuel as for the
characters is enough. -/
def hasLooseName : Nat → Text → Bool
  | 0, _ => false
  | _, [] => false
  | fuel + 1, c :: rest =>
    if c == '\\' then hasLooseName fuel (rest.drop 1)
    else if c == '[' then
      looksNamed rest || match readSet .single rest with
        | .ok (_, behind) => hasLooseName fuel behind
        | .error _ => false
    else hasLooseName fuel rest

def readKeyExpression (charset : Charset) (written : ExpressionForm) (keys : List Octets) :
    Except SearchError (Expression × List Octets) := do
  let texts := keys.map charset.read
  let read (text : Text) : Except ExpressionError (Expression × List String) :=
    match written with
    | .literal => .ok (.literal text, [])
    | .basic => readExpression charset false text
    | .extended => readExpression charset true text
  let results := texts.map read
  let errors := results.filterMap fun
    | .error error => some error.message.toList
    | .ok _ => none
  if !errors.isEmpty then throw (.refused ("\ngrep: ".toList.intercalate errors))
  else if written != .literal && texts.any fun text => hasLooseName text.length.succ text then
    throw (.refused "character class syntax is [[:space:]], not [:space:]".toList)
  else
    let found := results.filterMap Except.toOption
    let expressions := found.map Prod.fst
    let warnings := found.flatMap Prod.snd
    let whole := match expressions with
      | [] => Expression.one ⟨[], false⟩
      | first :: rest => rest.foldl .either first
    return (if whole.refersBack then whole else whole.forgetful,
      warnings.map fun sign => ("grep: warning: " ++ sign ++ " at start of expression\n").toList)

def refusal? (supply : Supply) (before : List GivenOption) (option : GivenOption) :
    Option Octets :=
  let argument := option.argument
  let isAmong (choices : List String) : Bool := choices.contains (String.ofList argument)
  let isCount := (readCount? argument).isSome
  let forms := "EFGP".toList
  if forms.contains option.letter then
    if before.any fun other => forms.contains other.letter && other.letter != option.letter then
      some "conflicting matchers specified".toList
    else none
  else if option.letter == binaryLetter then
    if isAmong ["binary", "text", "without-match"] then none
    else some "unknown binary-files type".toList
  else if option.letter == 'D' then
    if isAmong ["read", "skip"] then none else some "unknown devices method".toList
  else if option.letter == 'm' then
    let isNegative := argument.head? == some '-' && (readCount? (argument.drop 1)).isSome
    if isCount || isNegative then none else some "invalid max count".toList
  else if "ABC".toList.contains option.letter then
    if isCount then none else some (argument ++ ": invalid context length argument".toList)
  else if option.letter == 'f' then
    match supply.take argument with
    | (.error error, _) => some (unreadable argument error)
    | _ => none
  else none

def firstRefusal? (supply : Supply) (before : List GivenOption) :
    List GivenOption → Option Octets
  | [] => none
  | option :: rest =>
    match refusal? supply before option with
    | some reason => some reason
    | none => firstRefusal? supply (option :: before) rest

/-- What the arguments of a search ask for, with the warnings about them and the files. -/
def LineSearch.ofArguments (supply : Supply) (given : List Octets) :
    Except SearchError (LineSearch × List Octets × List Octets) := do
  let (arguments, error) := Arguments.readStart searchRules given
  if let some reason := firstRefusal? supply [] arguments.options then throw (.refused reason)
  if error.isSome then throw (.usage error)
  let before := readContext arguments 'B'
  let after := readContext arguments 'A'
  let (keys, operands) ← readKeys supply arguments
  let isVain := (arguments.last? 'm').bind readCount? == some 0
    || (keys == [[]] && arguments.has 'v' && !arguments.has 'w' && !arguments.has 'x')
    || (keys.isEmpty && !arguments.has 'v')
  if isVain && (arguments.has 'q' || (lastOf arguments "lL").all fun option => option.letter != 'L')
  then throw .vain
  let written : ExpressionForm := match lastOf arguments "EFGP" with
    | some ⟨'F', _⟩ => .literal
    | some ⟨'E', _⟩ => .extended
    | some ⟨'P', _⟩ => .extended
    | _ => .basic
  let (expression, warnings) ← readKeyExpression supply.charset written keys
  let ignoresCase := (lastOf arguments ("iy" ++ String.ofList [exactLetter])).any fun option =>
    option.letter != exactLetter
  let binary := match lastOf arguments ("aI" ++ String.ofList [binaryLetter]) with
    | some ⟨'a', _⟩ => BinaryRule.asText
    | some ⟨'I', _⟩ => .never
    | some ⟨_, argument⟩ =>
      if argument == "text".toList then .asText
      else if argument == "binary".toList then .notice else .never
    | none => .notice
  let display :=
    if arguments.has 'q' then Display.nothing
    else match lastOf arguments "lL" with
      | some ⟨'l', _⟩ => .nameIfFound
      | some _ => .nameIfNot
      | none => if arguments.has 'c' then .count else if arguments.has 'o' then .parts else .lines
  let separator :=
    if (lastOf arguments (String.ofList [separatorLetter, noSeparatorLetter])).any fun option =>
      option.letter == noSeparatorLetter then none
    else some ((arguments.last? separatorLetter).getD ['-', '-'])
  let search : LineSearch := {
    comparison := ⟨supply.charset, ignoresCase⟩
    extent := if arguments.has 'x' then .line else if arguments.has 'w' then .word else .part
    isInverted := arguments.has 'v'
    expression, display, binary, before, after, separator
    lineEnd := if arguments.has 'z' then '\x00' else '\n'
    limit := (arguments.last? 'm').bind readCount?
    showsName := match lastOf arguments "hH" with
      | some option => option.letter == 'H'
      | none => 1 < operands.length
    showsNumber := arguments.has 'n'
    showsOffset := arguments.has 'b'
    endsNames := arguments.has 'Z'
    isSilent := arguments.has 's'
    isQuiet := arguments.has 'q'
    label := (arguments.last? labelLetter).getD "(standard input)".toList
    skipsDirectories := arguments.has 'r' || arguments.has 'R'
      || (arguments.last? 'd').any fun action => action != "read".toList }
  return (search, warnings, operands)

/-! ### Fitting lines -/

namespace LineSearch

def endsAt (search : LineSearch) (spot : Spot) : List Spot :=
  let charset := search.comparison.charset
  let isFree (c : Option Char) : Bool := !c.any charset.isWord
  match search.extent with
  | .part => search.expression.ends search.comparison spot
  | .line =>
    if spot.before.isSome then []
    else (search.expression.ends search.comparison spot).filter fun later => later.ahead.isEmpty
  | .word =>
    if isFree spot.before then
      (search.expression.ends search.comparison spot).filter fun later => isFree later.ahead.head?
    else []

def selects (search : LineSearch) (line : Octets) : Bool :=
  let text := search.comparison.charset.read line
  let fits := (Spot.onward text.length (.start text)).any fun spot =>
    !(search.endsAt spot).isEmpty
  fits != search.isInverted

def longestAt (search : LineSearch) (spot : Spot) : Option Spot :=
  (search.endsAt spot).foldl (fun best later =>
    if best.any fun known => later.position ≤ known.position then best else some later) none

/-- The parts of a line that fit, each as long as it can be, with their offsets. Fuel as for the
characters is enough. -/
def partsFrom (search : LineSearch) : Nat → Nat → Spot → List (Nat × Octets)
  | 0, _, _ => []
  | fuel + 1, offset, spot =>
    let charset := search.comparison.charset
    match spot.next? with
    | none => []
    | some (c, next) =>
      let width := (charset.write [c]).length
      let step := search.partsFrom fuel (offset + width) { next with kept := [] }
      match search.longestAt spot with
      | some later =>
        if later.position = spot.position then step
        else
          let part := charset.write (spot.textTo later)
          (offset, part)
            :: search.partsFrom fuel (offset + part.length) { later with kept := [] }
      | none => step

def partsOf (search : LineSearch) (line : Octets) : List (Nat × Octets) :=
  if search.isInverted then []
  else
    let text := search.comparison.charset.read line
    search.partsFrom text.length.succ 0 (.start text)

end LineSearch

/-! ### Showing lines -/

structure FileLine where
  number : Nat
  offset : Nat
  content : Octets
  isSelected : Bool

/-- The lines of a file. What stands behind the last line end is a line if it is not empty. -/
def fileLines (search : LineSearch) (content : Octets) : List FileLine :=
  let pieces := content.splitOn search.lineEnd
  let pieces := if pieces.getLast? == some [] then pieces.dropLast else pieces
  let (lines, _) := pieces.foldl (fun (lines, number, offset) piece =>
    (⟨number, offset, piece, search.selects piece⟩ :: lines, number + 1, offset + piece.length + 1))
    (([] : List FileLine), 1, 0)
  lines.reverse

def LineSearch.front (search : LineSearch) (name : Octets) (sign : Char) (number offset : Nat) :
    Octets :=
  (if search.showsName then name ++ [if search.endsNames then '\x00' else sign] else [])
    ++ (if search.showsNumber then (toString number).toList ++ [sign] else [])
    ++ (if search.showsOffset then (toString offset).toList ++ [sign] else [])

def LineSearch.showLine (search : LineSearch) (name : Octets) (line : FileLine) : Octets :=
  let sign := if line.isSelected then ':' else '-'
  match search.display with
  | .parts =>
    if line.isSelected then
      (search.partsOf line.content).flatMap fun (offset, part) =>
        search.front name sign line.number (line.offset + offset) ++ part ++ [search.lineEnd]
    else []
  | _ => search.front name sign line.number line.offset ++ line.content ++ [search.lineEnd]

/-- The lines that are shown, and how many lines are selected. Behind the last line that may be
selected, lines are only shown for being near. -/
def LineSearch.shownLines (search : LineSearch) (lines : List FileLine) : List FileLine × Nat :=
  let selected := lines.filter FileLine.isSelected
  let taken := match search.limit with
    | some limit => selected.take limit
    | none => selected
  let numbers := taken.map FileLine.number
  let isNear (line : FileLine) : Bool := numbers.any fun number =>
    number ≤ line.number + search.before.getD 0 && line.number ≤ number + search.after.getD 0
  let shown := (lines.filter isNear).map fun line =>
    { line with isSelected := numbers.contains line.number }
  (shown, taken.length)

/-- Lines as they are shown, with what stands between groups of them. `mayBegin` is the number of
the line that could come first without being apart from what has been shown, if anything has. -/
def LineSearch.showLines (search : LineSearch) (name : Octets) (mayBegin : Option Nat) :
    List FileLine → Octets
  | [] => []
  | line :: rest =>
    let hasContext := search.before.isSome || search.after.isSome
    let isApart := mayBegin.any fun number => number != line.number
    let gap := if hasContext && isApart then
        (search.separator.map fun separator => separator ++ ['\n']).getD []
      else []
    gap ++ search.showLine name line ++ search.showLines name (some (line.number + 1)) rest

def LineSearch.showName (search : LineSearch) (name : Octets) : Octets :=
  name ++ [if search.endsNames then '\x00' else '\n']

/-- What a search writes about a file, and how many lines of it are selected. `isFirst` says that no
lines have been shown before. -/
def LineSearch.writeFile (search : LineSearch) (isFirst : Bool) (name content : Octets) :
    List (Stream × Octets) × Nat :=
  let isText := search.binary == .asText
  let hasNull := !isText && search.lineEnd != '\x00' && content.contains '\x00'
  let content := if hasNull then content.map fun c => if c == '\x00' then '\n' else c else content
  let lines := if hasNull && search.binary == .never then [] else fileLines search content
  let (shown, count) := search.shownLines lines
  let label := if search.showsName then name ++ [if search.endsNames then '\x00' else ':'] else []
  let notice := [(Stream.errors, "grep: ".toList ++ name ++ ": binary file matches\n".toList)]
  let writes := match search.display with
    | .nothing => []
    | .count => [(.output, label ++ (toString count).toList ++ ['\n'])]
    | .nameIfFound => if count = 0 then [] else [(.output, search.showName name)]
    | .nameIfNot => if count = 0 then [(.output, search.showName name)] else []
    | _ =>
      if hasNull then if count = 0 then [] else notice
      else
        let isWhole (line : FileLine) : Bool :=
          isText || search.comparison.charset.reads line.content
        let readable := shown.takeWhile isWhole
        (.output, search.showLines name (if isFirst then none else some 0) readable)
          :: if readable.length < shown.length then notice else []
  (writes, count)

/-- What a search writes about files, whether any line is selected and whether a file could not be
read. -/
def LineSearch.writeFiles (search : LineSearch) (isFirst : Bool) (supply : Supply) :
    List Octets → List (Stream × Octets) × Bool × Bool
  | [] => ([], false, false)
  | operand :: rest =>
    match supply.take operand with
    | (.ok content, next) =>
      let name := if operand == ['-'] then search.label else operand
      let (writes, count) := search.writeFile isFirst name content
      if search.isQuiet && 0 < count then (writes, true, false)
      else
        let hasShown := writes.any fun entry => entry.1 == .output && !entry.2.isEmpty
        let (more, isFound, hasFailed) := search.writeFiles (isFirst && !hasShown) next rest
        (writes ++ more, isFound || 0 < count, hasFailed)
    | (.error error, next) =>
      let (more, isFound, hasFailed) := search.writeFiles isFirst next rest
      if error == .isADirectory && search.skipsDirectories then (more, isFound, hasFailed)
      else
        let message := if search.isSilent then [] else
          [(Stream.errors, "grep: ".toList ++ unreadable operand error ++ ['\n'])]
        -- A directory is opened like a file without lines.
        let writes := if error == .isADirectory then (search.writeFile isFirst operand []).1 else []
        (message ++ writes ++ more, isFound, !(search.isQuiet && isFound))

def runGrep (supply : Supply) (given : List Octets) : Effect :=
  match LineSearch.ofArguments supply given with
  | .error .vain => .quiet 1
  | .error error => .failing 2 error.message
  | .ok (search, warnings, operands) =>
    let files := if operands.isEmpty then [['-']] else operands
    let (writes, isFound, hasFailed) := search.writeFiles true supply files
    ⟨if hasFailed then 2 else if isFound then 0 else 1, (.errors, warnings.flatten) :: writes, 0.0,
      supply.isAskedFor files⟩

end Culprit.Command
