import Culprit.Host.Command.Charset
import Culprit.Host.Command.Options
import Culprit.Host.Command.Quotation
import Culprit.Host.Command.Tree
import Culprit.Host.Number.MachineReal

/-!
# Standard programs

The programs that pass on and count what they read, and the one that takes time.
-/

namespace Culprit.Command

structure Supply where
  charset : Charset
  input : Octets
  isFile : Bool
  read : Octets → Except FileFault (Option Octets)

def Supply.find (supply : Supply) (operand : Octets) : Except FileFault (Option Octets) :=
  if operand == ['-'] then .ok none else supply.read operand

/-- What is read for an operand, and what is left of the supply: the input can be read once. -/
def Supply.take (supply : Supply) (operand : Octets) : Except FileFault Octets × Supply :=
  match supply.find operand with
  | .ok none => (.ok supply.input, { supply with input := [] })
  | .ok (some content) => (.ok content, supply)
  | .error error => (.error error, supply)

def Supply.isAskedFor (supply : Supply) (operands : List Octets) : Bool :=
  operands.any fun operand =>
    match supply.find operand with
    | .ok none => true
    | _ => false

def complaint (program : String) (charset : Charset) (operand : Octets) (error : FileFault) :
    Octets :=
  (program ++ ": ").toList ++ quoteName charset operand ++ ": ".toList ++ error.meaning.toList
    ++ ['\n']

def misunderstood (program : String) (error : OptionError) : Effect :=
  .failing 1 ((program ++ ": ").toList ++ error.message
    ++ ("\nTry '" ++ program ++ " --help' for more information.").toList)

/-! ### Passing on -/

def catRules : List OptionRule :=
  [⟨'b', .none, ["number-nonblank"]⟩, ⟨'n', .none, ["number"]⟩, ⟨'s', .none, ["squeeze-blank"]⟩,
    ⟨'v', .none, ["show-nonprinting"]⟩, ⟨'E', .none, ["show-ends"]⟩, ⟨'T', .none, ["show-tabs"]⟩,
    ⟨'A', .none, ["show-all"]⟩, ⟨'e', .none, []⟩, ⟨'t', .none, []⟩, ⟨'u', .none, []⟩]

structure LineDisplay where
  numbersAll : Bool
  numbersFilled : Bool
  marksEnds : Bool
  marksTabs : Bool
  marksControls : Bool
  squeezes : Bool
  deriving DecidableEq, Repr

def LineDisplay.ofArguments (arguments : Arguments) : LineDisplay :=
  let hasAny (letters : String) : Bool := letters.toList.any arguments.has
  { numbersAll := arguments.has 'n' && !arguments.has 'b'
    numbersFilled := hasAny "nb"
    marksEnds := hasAny "AeE"
    marksTabs := hasAny "AtT"
    marksControls := hasAny "Aetv"
    squeezes := arguments.has 's' }

structure DisplayState where
  lineNumber : Nat
  isAtStart : Bool
  blanks : Nat

def markControl (c : Char) : Octets :=
  let (front, code) := if 128 ≤ c.toNat then (['M', '-'], c.toNat - 128) else ([], c.toNat)
  front ++
    if code < 32 then ['^', Char.ofNat (code + 64)]
    else if code = 127 then ['^', '?']
    else [Char.ofNat code]

def LineDisplay.show (display : LineDisplay) (c : Char) : Octets :=
  if c == '\t' then if display.marksTabs then ['^', 'I'] else [c]
  else if display.marksControls then markControl c
  else [c]

def LineDisplay.write (display : LineDisplay) (state : DisplayState) :
    Octets → Octets × DisplayState
  | [] => ([], state)
  | c :: rest =>
    let label : Octets :=
      let digits := (toString state.lineNumber).toList
      List.replicate (6 - digits.length) ' ' ++ digits ++ ['\t']
    let ending : Octets := if display.marksEnds then ['$', '\n'] else ['\n']
    let continueWith (shown : Octets) (next : DisplayState) : Octets × DisplayState :=
      let (more, last) := display.write next rest
      (shown ++ more, last)
    if c == '\n' then
      if !state.isAtStart then
        continueWith ending { state with isAtStart := true, blanks := 0 }
      else if display.squeezes && 0 < state.blanks then continueWith [] state
      else if display.numbersAll then
        continueWith (label ++ ending) ⟨state.lineNumber + 1, true, state.blanks + 1⟩
      else continueWith ending { state with blanks := state.blanks + 1 }
    else
      let shown :=
        if c == '\r' && rest.head? == some '\n' && display.marksEnds then ['^', 'M']
        else display.show c
      if state.isAtStart && display.numbersFilled then
        continueWith (label ++ shown) ⟨state.lineNumber + 1, false, 0⟩
      else continueWith shown ⟨state.lineNumber, false, 0⟩

def passOn (display : LineDisplay) (isPlain : Bool) :
    Supply → DisplayState → List Octets → List (Stream × Octets) × Bool
  | _, _, [] => ([], true)
  | supply, state, operand :: rest =>
    match supply.take operand with
    | (.ok content, next) =>
      let (shown, last) := if isPlain then (content, state) else display.write state content
      let (more, succeeds) := passOn display isPlain next last rest
      ((.output, shown) :: more, succeeds)
    | (.error error, next) =>
      ((.errors, complaint "cat" supply.charset operand error)
        :: (passOn display isPlain next state rest).1, false)

def runCat (supply : Supply) (arguments : List Octets) : Effect :=
  match Arguments.read catRules arguments with
  | .error error => misunderstood "cat" error
  | .ok arguments =>
    let operands := if arguments.operands.isEmpty then [['-']] else arguments.operands
    let isPlain := arguments.options.all fun option => option.letter == 'u'
    let (writes, succeeds) :=
      passOn (.ofArguments arguments) isPlain supply ⟨1, true, 0⟩ operands
    ⟨if succeeds then 0 else 1, writes, 0.0, supply.isAskedFor operands⟩

/-! ### Counting -/

def wcRules : List OptionRule :=
  [⟨'c', .none, ["bytes"]⟩, ⟨'l', .none, ["lines"]⟩, ⟨'L', .none, ["max-line-length"]⟩,
    ⟨'m', .none, ["chars"]⟩, ⟨'w', .none, ["words"]⟩]

def joiningBlanks : List Nat := [0xa0, 0x2007, 0x202f, 0x2060]

/-- The number of words in a text. A word begins with a character that can be seen. -/
def countWords (charset : Charset) (text : Text) : Nat :=
  (text.foldl (fun (inside, count) c =>
    let isBetween := charset.isBlank c || (charset == .unicode && joiningBlanks.contains c.toNat)
    if isBetween then (false, count)
    else if inside || !charset.isShown c then (inside, count)
    else (true, count + 1)) (false, 0)).2

def wideRanges : List (Nat × Nat) :=
  [(0x1100, 0x115f), (0x2e80, 0x303e), (0x3041, 0xa4cf), (0xac00, 0xd7a3), (0xf900, 0xfaff),
    (0xfe30, 0xfe6f), (0xff00, 0xff60), (0xffe0, 0xffe6), (0x1f300, 0x1f64f), (0x1f900, 0x1f9ff),
    (0x20000, 0x3fffd)]

def columnsOf (charset : Charset) (c : Char) : Nat :=
  if !charset.isShown c then 0
  else if wideRanges.any fun (first, last) => first ≤ c.toNat && c.toNat ≤ last then 2
  else 1

/-- The width of the widest line of a text, where tabulators lead to every eighth column. -/
def widestLine (charset : Charset) (text : Text) : Nat :=
  let (widest, last) := text.foldl (fun (widest, width) c =>
    if c == '\n' || c == '\r' || c == '\x0c' then (max widest width, 0)
    else if c == '\t' then (widest, width + 8 - width % 8)
    else (widest, width + columnsOf charset c)) (0, 0)
  max widest last

/-- The counts of an input by the letters that ask for them, in the order in which they are
shown. -/
def countsOf (charset : Charset) (input : Octets) : List (Char × Nat) :=
  let text := charset.readWhole input
  [('l', input.count '\n'), ('w', countWords charset text), ('m', text.length),
    ('c', input.length), ('L', widestLine charset text)]

def countLine (width : Nat) (counts : List Nat) (label : Octets) : Octets :=
  let column (count : Nat) : Octets :=
    let digits := (toString count).toList
    List.replicate (width - digits.length) ' ' ++ digits
  [' '].intercalate (counts.map column) ++ (if label.isEmpty then [] else ' ' :: label) ++ ['\n']

/-- How wide a column of counts is: the digits of all sizes, or wider if a size is not known. -/
def columnWidth (supply : Supply) (operands : List Octets) (isSingle : Bool) : Nat :=
  if isSingle && operands.length = 1 then 1
  else
    let (total, isKnown) := operands.foldl (fun (total, isKnown) operand =>
      match supply.find operand with
      | .ok none =>
        if supply.isFile then (total + supply.input.length, isKnown) else (total, false)
      | .ok (some content) => (total + content.length, isKnown)
      | .error .isADirectory => (total, false)
      | .error _ => (total, isKnown)) (0, true)
    let width := (toString total).length
    if isKnown then width else max width 7

/-- Counts what operands name, one after the other: what is written, the sums of the counts, and
whether all could be read. -/
def countAll (width : Nat) (isAsked : Char → Bool) :
    Supply → List Nat → List (Octets × Octets) → List (Stream × Octets) × List Nat × Bool
  | _, sums, [] => ([], sums, true)
  | supply, sums, (operand, label) :: rest =>
    let select (counts : List (Char × Nat)) : List Nat :=
      (counts.filter fun (letter, _) => isAsked letter).map Prod.snd
    match supply.take operand with
    | (.ok content, next) =>
      let counts := select (countsOf supply.charset content)
      let letters := "lwmcL".toList.filter isAsked
      let sums := if sums.isEmpty then counts
        else (letters.zip (sums.zip counts)).map fun (letter, sum, count) =>
          if letter == 'L' then max sum count else sum + count
      let (more, last, succeeds) := countAll width isAsked next sums rest
      ((.output, countLine width counts label) :: more, last, succeeds)
    | (.error error, next) =>
      let (more, last, _) := countAll width isAsked next sums rest
      let line := if error == .isADirectory then
        [(.output, countLine width (select (countsOf supply.charset [])) label)] else []
      let message := if operand.isEmpty then "wc: invalid zero-length file name\n".toList
        else complaint "wc" supply.charset operand error
      ((.errors, message) :: line ++ more, last, false)

def runWc (supply : Supply) (arguments : List Octets) : Effect :=
  match Arguments.read wcRules arguments with
  | .error error => misunderstood "wc" error
  | .ok arguments =>
    let isAsked (letter : Char) : Bool :=
      if arguments.options.isEmpty then ['l', 'w', 'c'].contains letter else arguments.has letter
    let operands := match arguments.operands with
      | [] => [(['-'], [])]
      | operands => operands.map fun operand =>
        (operand, if operand.contains '\n' then quoteName supply.charset operand else operand)
    let isSingle := ("lwmcL".toList.filter isAsked).length = 1
    let width := columnWidth supply (operands.map Prod.fst) isSingle
    let (writes, sums, succeeds) := countAll width isAsked supply [] operands
    let sums := if sums.isEmpty then ("lwmcL".toList.filter isAsked).map fun _ => 0 else sums
    let total := if operands.length < 2 then []
      else [(Stream.output, countLine width sums "total".toList)]
    let complaints := (writes.filter fun entry => entry.1 == .errors)
    let lines := (writes ++ total).filter fun entry => entry.1 == .output
    ⟨if succeeds then 0 else 1, complaints ++ lines, 0.0,
      supply.isAskedFor (operands.map Prod.fst)⟩

/-! ### Taking time -/

def secondsIn? : Char → Option Float
  | 's' => some 1.0
  | 'm' => some 60.0
  | 'h' => some 3600.0
  | 'd' => some 86400.0
  | _ => none

def secondsOf (real : Number.MachineReal) : Float :=
  let size := match real.size with
    | .finite number => Float.scaleB (Float.ofNat number.m) number.q
    | .infinite => Float.ofScientific 1 false 400
    | .notANumber => 0.0 / 0.0
  if real.isNegative then -size else size

/-- The seconds that an argument writes: a number that is not negative, perhaps with a unit. -/
def readInterval? (argument : Octets) : Option Float := do
  let (real, _, rest) ← Number.readReal? .double argument
  let seconds := secondsOf real
  let factor ← match rest with
    | [] => some 1.0
    | [unit] => secondsIn? unit
    | _ => none
  if 0.0 ≤ seconds then some (seconds * factor) else none

def runSleep (charset : Charset) (arguments : List Octets) : Effect :=
  let advice := "Try 'sleep --help' for more information.".toList
  match Arguments.read [] arguments with
  | .error error => misunderstood "sleep" error
  | .ok ⟨_, []⟩ => .failing 1 ("sleep: missing operand\n".toList ++ advice)
  | .ok ⟨_, operands⟩ =>
    match operands.filter fun operand => (readInterval? operand).isNone with
    | [] =>
      { Effect.quiet 0 with
        seconds := operands.foldl
          (fun sum operand => sum + (readInterval? operand).getD 0.0) 0.0 }
    | wrong =>
      let complaints := wrong.flatMap fun operand =>
        "sleep: invalid time interval ".toList ++ quoteArgument charset operand ++ ['\n']
      .failing 1 (complaints ++ advice)

end Culprit.Command
