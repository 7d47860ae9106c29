import Culprit.Host.Command.Effect
import Culprit.Host.Command.Quotation
import Culprit.Host.Number.Radix

/-!
# Escapes

A backslash and what stands behind it stand for bytes. Which escapes there are differs between a
shell and the programs of their own that write texts, and between a format and the texts that are
put into it.
-/

namespace Culprit.Command

/-- Who writes: a shell itself, which begins its messages with a label, or a program of its own in a
character set. -/
inductive Writer
  | shell (label : Octets)
  | program (charset : Charset)

def Writer.isShell : Writer → Bool
  | .shell _ => true
  | .program _ => false

/-- What the characters behind a backslash stand for. -/
inductive Escaped
  | octets (octets : Octets) (length : Nat)
  | stop
  | flawed (message : String)
  deriving DecidableEq, Repr

def octalDigit? (c : Char) : Option Nat :=
  if '0' ≤ c ∧ c ≤ '7' then some (c.toNat - '0'.toNat) else none

/-- The octal number of at most the given number of digits in front, and how many there are. -/
def readOctal : Nat → Octets → Nat × Nat
  | 0, _ => (0, 0)
  | _, [] => (0, 0)
  | left + 1, c :: rest =>
    match octalDigit? c with
    | none => (0, 0)
    | some digit =>
      let (value, length) := readOctal left rest
      (digit * Nat.pow 8 length + value, length + 1)

def Escaped.ofOctal (behind : Nat) (octal : Nat × Nat) : Escaped :=
  .octets [Char.ofNat (octal.1 % 256)] (behind + octal.2)

def controlEscape? : Char → Option Char
  | 'a' => some '\x07'
  | 'b' => some '\x08'
  | 'e' => some '\x1b'
  | 'f' => some '\x0c'
  | 'n' => some '\n'
  | 'r' => some '\r'
  | 't' => some '\t'
  | 'v' => some '\x0b'
  | '\\' => some '\\'
  | _ => none

abbrev EscapeReader := Octets → Escaped

def readShellEscape : EscapeReader
  | [] => .octets ['\\'] 0
  | c :: rest =>
    match controlEscape? c with
    | some control => .octets [control] 1
    | none =>
      let octal := readOctal 3 (c :: rest)
      if octal.2 = 0 then .octets ['\\'] 0 else .ofOctal 0 octal

/-- An escape in a text that a shell writes. A zero may stand in front of the three digits of a
byte. -/
def readShellTextEscape : EscapeReader
  | 'c' :: _ => .stop
  | '0' :: rest => .ofOctal 1 (readOctal 3 rest)
  | text => readShellEscape text

/-- A hexadecimal number of at most the given number of digits. -/
def readHexadecimal (most : Nat) (text : Octets) : Nat × Nat :=
  let digits := (text.take most).takeWhile fun c => (Number.digitIn? 16 c).isSome
  (Number.valueIn 16 digits, digits.length)

def writeCharacter (charset : Charset) (code : Nat) : Octets :=
  match charset with
  | .unicode => Octets.ofText [Char.ofNat code]
  | .single =>
    if code < 0x80 then [Char.ofNat code]
    else
      let (letter, least) := if code < 0x10000 then ('u', 4) else ('U', 8)
      let digits := (Nat.toDigits 16 code).map Char.toUpper
      ['\\', letter] ++ List.replicate (least - digits.length) '0' ++ digits

def readCharacterEscape (charset : Charset) (letter : Char) (length : Nat) (text : Octets) :
    Escaped :=
  let (code, found) := readHexadecimal length text
  let isMeantOtherwise := (code < 0xa0 && !(['$', '@', '\x60'].contains (Char.ofNat code)))
    || (0xd800 ≤ code && code < 0xe000)
  if found < length then .flawed "missing hexadecimal number in escape"
  else if isMeantOtherwise then
    let digits := Nat.toDigits 16 code
    .flawed ("invalid universal character name \\"
      ++ String.ofList (letter :: List.replicate (length - digits.length) '0' ++ digits))
  else .octets (writeCharacter charset code) (length + 1)

/-- An escape in what the program for formats writes. In a text, but not in a format, a zero may
stand in front of the three digits of a byte. -/
def readProgramEscape (charset : Charset) (isText : Bool) : EscapeReader
  | [] => .octets ['\\'] 0
  | c :: rest =>
    match controlEscape? c with
    | some control => .octets [control] 1
    | none =>
      if c == '"' then .octets [c] 1
      else if c == 'c' then .stop
      else if c == 'x' then
        let (value, length) := readHexadecimal 2 rest
        if length = 0 then .flawed "missing hexadecimal number in escape"
        else .octets [Char.ofNat value] (length + 1)
      else if c == 'u' then readCharacterEscape charset c 4 rest
      else if c == 'U' then readCharacterEscape charset c 8 rest
      else if (octalDigit? c).isNone then .octets ['\\', c] 1
      else if isText && c == '0' then .ofOctal 1 (readOctal 3 rest)
      else .ofOctal 0 (readOctal 3 (c :: rest))

def readLineEscape : EscapeReader
  | [] => .octets ['\\'] 0
  | c :: rest =>
    match controlEscape? c with
    | some control => .octets [control] 1
    | none =>
      if c == 'c' then .stop
      else if c == 'x' then
        let (value, length) := readHexadecimal 2 rest
        if length = 0 then .octets ['\\', c] 1 else .octets [Char.ofNat value] (length + 1)
      else if c == '0' then .ofOctal 1 (readOctal 3 rest)
      else if (octalDigit? c).isNone then .octets ['\\', c] 1
      else .ofOctal 0 (readOctal 3 (c :: rest))

inductive Ending
  | complete
  | stopped
  | failed (message : Octets)
  deriving DecidableEq, Repr

/-- A text with its escapes replaced, and how it ends. Fuel as for the characters is enough. -/
def unescape (readEscape : EscapeReader) : Nat → Octets → Octets × Ending
  | 0, _ => ([], .complete)
  | _, [] => ([], .complete)
  | fuel + 1, '\\' :: rest =>
    match readEscape rest with
    | .stop => ([], .stopped)
    | .flawed message => ([], .failed message.toList)
    | .octets octets length =>
      let (more, ending) := unescape readEscape fuel (rest.drop length)
      (octets ++ more, ending)
  | fuel + 1, c :: rest =>
    let (more, ending) := unescape readEscape fuel rest
    (c :: more, ending)

/-- Writes its arguments on one line. A shell replaces the escapes in them, the program of its own
only if it is asked to. -/
def runEcho (writer : Writer) (arguments : List Octets) : Effect :=
  let isOwnOption (argument : Octets) : Bool :=
    if writer.isShell then argument == ['-', 'n']
    else isOption argument && (argument.drop 1).all fun c => ['e', 'E', 'n'].contains c
  let options := if writer.isShell then (arguments.take 1).takeWhile isOwnOption
    else arguments.takeWhile isOwnOption
  let letters := options.flatten
  let endsLine := !letters.contains 'n'
  let line := [' '].intercalate (arguments.drop options.length)
  let last := (letters.reverse.find? fun c => c == 'e' || c == 'E').getD 'E'
  let (octets, ending) :=
    if writer.isShell then unescape readShellTextEscape line.length.succ line
    else if last == 'e' then unescape readLineEscape line.length.succ line
    else (line, .complete)
  .writing (octets ++ if endsLine && ending == .complete then ['\n'] else [])

end Culprit.Command
