import Culprit.Host.Command.Effect
import Culprit.Host.Command.Escape
import Culprit.Host.Number.MachineReal

/-!
# Formats

A format is a text with pieces to be filled in from arguments. It is read once into its pieces and
written as often as the arguments last. Escapes stand for bytes, so a format can write any output,
also one that is no text.
-/

namespace Culprit.Command

/-! ### Pieces -/

inductive ConversionKind
  | text
  | unescaped
  | quoted
  | firstByte
  | signed
  | unsigned (base : Nat) (isUpper : Bool)
  | real (style : Number.RealStyle) (isUpper : Bool)
  | invalid (message : Octets)
  deriving DecidableEq, Repr

inductive Measure
  | absent
  | given (size : Nat)
  | argument
  deriving DecidableEq, Repr

structure Conversion where
  kind : ConversionKind
  flags : Octets
  width : Measure
  precision : Measure
  deriving DecidableEq, Repr

inductive FormatPiece
  | octets (octets : Octets)
  | conversion (conversion : Conversion)
  | stop
  | flawed (message : String)
  deriving DecidableEq, Repr

def conversionKind? : Char → Option ConversionKind
  | 's' => some .text
  | 'c' => some .firstByte
  | 'd' => some .signed
  | 'i' => some .signed
  | 'u' => some (.unsigned 10 false)
  | 'o' => some (.unsigned 8 false)
  | 'x' => some (.unsigned 16 false)
  | 'X' => some (.unsigned 16 true)
  | 'f' => some (.real .fixed false)
  | 'F' => some (.real .fixed true)
  | 'e' => some (.real .scientific false)
  | 'E' => some (.real .scientific true)
  | 'g' => some (.real .general false)
  | 'G' => some (.real .general true)
  | 'a' => some (.real .binary false)
  | 'A' => some (.real .binary true)
  | _ => none

def Writer.flags : Writer → List Char
  | .shell _ => "#-+ 0".toList
  | .program _ => "I'-+ #0".toList

/-- The characters that may tell the size of a number in front of the letter of a conversion. -/
def Writer.sizeMarks : Writer → List Char
  | .shell _ => []
  | .program _ => "lLhjtz".toList

def allowsFlag (letter flag : Char) : Bool :=
  match flag with
  | '\'' | 'I' => "dfFgGiu".toList.contains letter
  | '#' => !"cdisu".toList.contains letter
  | '0' => !"cs".toList.contains letter
  | _ => true

def Writer.kind? (writer : Writer) (flags : Octets) (hasPrecision : Bool) (letter : Char) :
    Option ConversionKind :=
  match writer with
  | .shell _ => if letter == 'b' then some .unescaped else conversionKind? letter
  | .program _ =>
    if flags.all (allowsFlag letter) && !(hasPrecision && letter == 'c') then conversionKind? letter
    else none

def readMeasure : Octets → Measure × Nat
  | '*' :: _ => (.argument, 1)
  | text =>
    let digits := text.takeWhile Char.isDigit
    (if digits.isEmpty then .absent else .given (Number.digitsValue digits), digits.length)

def readConversion (writer : Writer) (text : Octets) : Conversion × Octets :=
  let flags := text.takeWhile writer.flags.contains
  let behindFlags := text.drop flags.length
  let (width, length) := readMeasure behindFlags
  let behindWidth := behindFlags.drop length
  let (precision, behindPrecision) : Measure × Octets := match behindWidth with
    | '.' :: rest =>
      match readMeasure rest with
      | (.absent, _) => (.given 0, rest)
      | (precision, length) => (precision, rest.drop length)
    | rest => (.absent, rest)
  let behind := behindPrecision.dropWhile writer.sizeMarks.contains
  let conversion (kind : ConversionKind) : Conversion := ⟨kind, flags, width, precision⟩
  let spelling := '%' :: text.take (text.length - (behind.drop 1).length)
  let reason :=
    if writer.isShell then ": invalid directive" else ": invalid conversion specification"
  match behind with
  | [] =>
    (conversion (.invalid (if writer.isShell then "missing format character".toList
      else spelling ++ reason.toList)), [])
  | letter :: rest =>
    match writer.kind? flags (precision != .absent) letter with
    | some kind => (conversion kind, rest)
    | none => (conversion (.invalid (spelling ++ reason.toList)), rest)

def Conversion.plain (kind : ConversionKind) : Conversion := ⟨kind, [], .absent, .absent⟩

def Writer.formatEscape : Writer → EscapeReader
  | .shell _ => readShellEscape
  | .program charset => readProgramEscape charset false

def Writer.textEscape : Writer → EscapeReader
  | .shell _ => readShellTextEscape
  | .program charset => readProgramEscape charset true

/-- The pieces of a format. Fuel as for the characters is enough. -/
def readFormat (writer : Writer) : Nat → Octets → List FormatPiece
  | 0, _ => []
  | _, [] => []
  | fuel + 1, '\\' :: rest =>
    match writer.formatEscape rest with
    | .octets octets length => .octets octets :: readFormat writer fuel (rest.drop length)
    | .stop => [.stop]
    | .flawed message => [.flawed message]
  | fuel + 1, '%' :: rest =>
    match rest, writer with
    | '%' :: behind, _ => .octets ['%'] :: readFormat writer fuel behind
    | 'b' :: behind, .program _ => .conversion (.plain .unescaped) :: readFormat writer fuel behind
    | 'q' :: behind, .program _ => .conversion (.plain .quoted) :: readFormat writer fuel behind
    | rest, _ =>
      let (conversion, behind) := readConversion writer rest
      .conversion conversion :: readFormat writer fuel behind
  | fuel + 1, c :: rest => .octets [c] :: readFormat writer fuel rest

/-! ### Numbers -/

/-- What is wrong with an argument that should be a number. -/
inductive NumberFault
  | notNumeric
  | notAll
  | outOfRange
  | ignores (rest : Octets)
  deriving DecidableEq, Repr

def NumberFault.message (writer : Writer) (argument : Octets) (fault : NumberFault) : Octets :=
  let (quoted, isShell) := match writer with
    | .shell _ => (argument, true)
    | .program charset => (quoteArgument charset argument, false)
  match fault with
  | .notNumeric =>
    quoted ++ (if isShell then ": expected numeric value" else ": expected a numeric value").toList
  | .notAll =>
    let meaning :=
      if isShell then ": not completely converted" else ": value not completely converted"
    quoted ++ meaning.toList
  | .outOfRange => quoted ++ ": Numerical result out of range".toList
  | .ignores rest =>
    "warning: ".toList ++ rest
      ++ ": character(s) following character constant have been ignored".toList

def NumberFault.fails : NumberFault → Bool
  | .ignores _ => false
  | _ => true

/-- The fault of an argument of which a number has been read, perhaps none. Where a number ends too
early and is out of range, a shell minds the first and a program the second. -/
def numberFault? (writer : Writer) (isNumeric : Bool) (rest : Octets) (isOutside : Bool) :
    Option NumberFault :=
  let unread : Option NumberFault :=
    if rest.isEmpty then none else some (if isNumeric then .notAll else .notNumeric)
  let outside : Option NumberFault := if isOutside then some .outOfRange else none
  if writer.isShell then unread <|> outside else outside <|> unread

/-- The code of the character behind a quote at the front of an argument, and the fault of what
stands behind that; none if there is no quote. -/
def quotedCode? (writer : Writer) (argument : Octets) : Option (Nat × Option NumberFault) :=
  let behind? := match argument with
    | '"' :: rest | '\'' :: rest => some rest
    | _ => none
  match behind?, writer with
  | none, _ => none
  | some behind, .shell _ => some ((behind.head?.map Char.toNat).getD 0, none)
  | some behind, .program charset =>
    (charset.signs behind).head?.map fun sign =>
      let code := (sign.char?.getD (sign.octets.headD '\x00')).toNat
      let rest := behind.drop sign.octets.length
      (code, if rest.isEmpty then none else some (.ignores rest))

/-- The whole number that an argument writes, within the bounds that it is cut to, and its fault. -/
def readWhole (writer : Writer) (cut : Int → Int) (argument : Octets) : Int × Option NumberFault :=
  match quotedCode? writer argument with
  | some (code, fault) => (code, fault)
  | none =>
    match Number.readInteger? true argument with
    | none => (0, numberFault? writer false argument false)
    | some (value, rest) =>
      (cut value, numberFault? writer true rest (cut value != value))

/-- A number within the bounds of a machine word without a sign, in which a negative one is
counted from the end. -/
def cutToUnsigned (value : Int) : Int :=
  if Nat.pow 2 64 ≤ value.natAbs then Nat.pow 2 64 - 1 else value

def Writer.realWidth : Writer → Number.BinaryWidth
  | .shell _ => .double
  | .program _ => .extended

def readFraction (writer : Writer) (argument : Octets) :
    Number.MachineReal × Option NumberFault :=
  let ofNat (value : Nat) : Number.MachineReal := .ofNat writer.realWidth value
  match quotedCode? writer argument with
  | some (code, fault) => (ofNat code, fault)
  | none =>
    match Number.readReal? writer.realWidth argument with
    | none => (ofNat 0, numberFault? writer false argument false)
    | some (real, isOutside, rest) => (real, numberFault? writer true rest isOutside)

def digitsIn (base : Nat) (isUpper : Bool) (value : Nat) : Octets :=
  let digits := Nat.toDigits base value
  if isUpper then digits.map Char.toUpper else digits

/-! ### Filling in -/

structure Layout where
  flags : Octets
  width : Nat
  precision : Option Nat

namespace Layout

def has (layout : Layout) (flag : Char) : Bool := layout.flags.contains flag

def pad (layout : Layout) (octets : Octets) : Octets :=
  let filling := List.replicate (layout.width - octets.length) ' '
  if layout.has '-' then octets ++ filling else filling ++ octets

def padDigits (layout : Layout) (front digits : Octets) : Octets :=
  let zeros := if layout.has '0' && !layout.has '-' then
    layout.width - front.length - digits.length else 0
  layout.pad (front ++ List.replicate zeros '0' ++ digits)

def writeWhole (layout : Layout) (front digits : Octets) : Octets :=
  match layout.precision with
  | none => layout.padDigits front digits
  | some least =>
    let digits := if least = 0 && digits == ['0'] then [] else digits
    layout.pad (front ++ List.replicate (least - digits.length) '0' ++ digits)

def signOf (layout : Layout) (isNegative : Bool) : Octets :=
  if isNegative then ['-'] else if layout.has '+' then ['+']
  else if layout.has ' ' then [' '] else []

def writeSigned (layout : Layout) (value : Int) : Octets :=
  layout.writeWhole (layout.signOf (value < 0)) (digitsIn 10 false value.natAbs)

/-- Writes a whole number without a sign. Its base may be marked. -/
def writeUnsigned (layout : Layout) (base : Nat) (isUpper : Bool) (value : Nat) : Octets :=
  let digits := digitsIn base isUpper value
  if !layout.has '#' then layout.writeWhole [] digits
  else if base = 8 && 0 < value then
    layout.writeWhole [] (if layout.precision.getD 0 ≤ digits.length then '0' :: digits else digits)
  else if base = 8 && layout.precision = some 0 then layout.pad digits
  else if base = 16 && 0 < value then
    layout.writeWhole (if isUpper then ['0', 'X'] else ['0', 'x']) digits
  else layout.writeWhole [] digits

def writeReal (layout : Layout) (width : Number.BinaryWidth) (style : Number.RealStyle)
    (isUpper : Bool) (real : Number.MachineReal) : Octets :=
  let text := real.write width style (layout.has '#') layout.precision
  let text := if isUpper then text.map Char.toUpper else text
  let front := layout.signOf real.isNegative
  if !real.hasDigits then layout.pad (front ++ text)
  else if style == .binary then layout.padDigits (front ++ text.take 2) (text.drop 2)
  else layout.padDigits front text

end Layout

def fillIn (writer : Writer) (layout : Layout) (kind : ConversionKind) (argument : Octets) :
    Octets × Option NumberFault × Ending :=
  let cut (octets : Octets) : Octets :=
    match layout.precision with
    | some precision => octets.take precision
    | none => octets
  match kind with
  | .text => (layout.pad (cut argument), none, .complete)
  | .unescaped =>
    let (octets, ending) := unescape writer.textEscape argument.length.succ argument
    (layout.pad (cut octets), none, ending)
  | .quoted =>
    match writer with
    | .shell _ => (argument, none, .complete)
    | .program charset => (quoteForShell charset (fun _ => false) argument, none, .complete)
  | .firstByte => (layout.pad [argument.headD '\x00'], none, .complete)
  | .signed =>
    let (value, fault) := readWhole writer Number.clampToWord argument
    (layout.writeSigned value, fault, .complete)
  | .unsigned base isUpper =>
    let (value, fault) := readWhole writer cutToUnsigned argument
    (layout.writeUnsigned base isUpper (value % Nat.pow 2 64).toNat, fault, .complete)
  | .real style isUpper =>
    let (real, fault) := readFraction writer argument
    (layout.writeReal writer.realWidth style isUpper real, fault, .complete)
  | .invalid message => ([], none, .failed message)

/-! ### Writing -/

/-- What has been written, the messages about it, the arguments that are left, whether any was
asked for, how writing goes on, and the exit status. -/
structure Written where
  output : Octets
  messages : List Octets
  left : List Octets
  asked : Bool
  ending : Ending
  status : Nat

namespace Written

def take {α : Type} (writer : Writer) (written : Written)
    (read : Octets → α × Option NumberFault) : α × Written :=
  let argument := written.left.headD []
  let (value, fault) := read argument
  (value,
    { written with
      messages := written.messages ++ (fault.map (NumberFault.message writer argument)).toList
      left := written.left.drop 1
      asked := true
      status := if fault.any NumberFault.fails then 1 else written.status })

def measureLimit : Int := Nat.pow 2 31 - 1

/-- A measure of a conversion, none if there is none. What it is called tells the error about one
that is too large. A shell counts in numbers of four bytes. -/
def measure (writer : Writer) (name : String) (written : Written) : Measure → Option Int × Written
  | .absent => (none, written)
  | .given size =>
    if writer.isShell && measureLimit < size then
      (none, { written with ending := .failed "xvsnprintf failed".toList })
    else (some size, written)
  | .argument =>
    let argument := written.left.headD []
    let (value, next) := written.take writer (readWhole writer Number.clampToWord)
    match writer with
    | .shell _ => (some (value.bmod (Nat.pow 2 32)), next)
    | .program charset =>
      let isLow := name == "field width" && value < -measureLimit - 1
      if isLow || measureLimit < value then
        let message := ("invalid " ++ name ++ ": ").toList ++ quoteArgument charset argument
        (none, { next with ending := .failed message })
      else (some value, next)

/-- Writes a conversion. A negative width asks for the left side, and a negative precision is
none. -/
def addConversion (writer : Writer) (written : Written) (conversion : Conversion) : Written :=
  let (width, behindWidth) := written.measure writer "field width" conversion.width
  let (precision, ready) :=
    if behindWidth.ending == .complete then
      behindWidth.measure writer "precision" conversion.precision
    else (none, behindWidth)
  if ready.ending != .complete then ready
  else
    let width := width.getD 0
    let layout : Layout :=
      { flags := if width < 0 then '-' :: conversion.flags else conversion.flags
        width := width.natAbs
        precision := (precision.filter (0 ≤ ·)).map Int.toNat }
    if conversion.kind == .quoted && ready.left.isEmpty then ready
    else
      let ((octets, ending), next) := ready.take writer fun argument =>
        let (octets, fault, ending) := fillIn writer layout conversion.kind argument
        ((octets, ending), fault)
      { next with output := next.output ++ octets, ending }

def add (writer : Writer) (written : Written) (piece : FormatPiece) : Written :=
  if written.ending != .complete then written
  else
    match piece with
    | .octets octets => { written with output := written.output ++ octets }
    | .conversion conversion => written.addConversion writer conversion
    | .stop => { written with ending := .stopped }
    | .flawed message => { written with ending := .failed message.toList }

/-- Writes a format as often as there are arguments for it, at least once. Fuel for as many times
as there are arguments is enough. -/
def addAll (writer : Writer) (pieces : List FormatPiece) : Nat → Written → Written
  | 0, written => written
  | fuel + 1, written =>
    let next := pieces.foldl (add writer) { written with asked := false }
    if next.left.isEmpty || !next.asked || next.ending != .complete then next
    else addAll writer pieces fuel next

def close (writer : Writer) (written : Written) : List Octets × Nat :=
  match written.ending, writer, written.left with
  | .failed message, _, _ =>
    (written.messages ++ [message], if writer.isShell then 2 else 1)
  | .stopped, .program _, _ => (written.messages, 0)
  | .complete, .program charset, argument :: _ =>
    (written.messages
      ++ ["warning: ignoring excess arguments, starting with ".toList
        ++ quoteArgument charset argument],
      written.status)
  | _, _, _ => (written.messages, written.status)

end Written

def runPrintf (writer : Writer) (arguments : List Octets) : Effect :=
  let label := "printf: ".toList
  let label := match writer with
    | .shell front => front ++ label
    | .program _ => label
  let isMarked := arguments.head? == some ['-', '-']
  let isShell := writer.isShell
  match if isMarked then arguments.drop 1 else arguments with
  | [] =>
    if isShell then .failing 2 (label ++ "usage: printf format [arg ...]".toList)
    else .failing 1 "printf: missing operand\nTry 'printf --help' for more information.".toList
  | format :: arguments =>
    if isShell && !isMarked && isOption format then
      .failing 2 (label ++ "Illegal option -".toList ++ (format.drop 1).take 1)
    else
      let pieces := readFormat writer format.length.succ format
      let written := Written.addAll writer pieces arguments.length.succ
        ⟨[], [], arguments, false, .complete, 0⟩
      let (messages, status) := written.close writer
      let complaints := messages.flatMap fun message => label ++ message ++ ['\n']
      ⟨status, [(.errors, complaints), (.output, written.output)], 0.0, false⟩

end Culprit.Command
