import Culprit.Json.Value

/-!
# Reading JSON

A reader for JSON texts that reports where and why a text is none. Besides the standard it reads
`NaN`, `Infinity` and `-Infinity`, and it takes an object with two fields of one name. The offset
of an error counts characters from the start of the text. How deep arrays and objects may stand in
each other is a parameter.
-/

namespace Culprit.Json

inductive Complaint
  | expectingValue
  | expectingName
  | expectingColon
  | expectingComma
  | extraData
  | unterminatedString
  | controlCharacter
  | invalidEscape
  | invalidUnicodeEscape
  deriving DecidableEq, Repr

def Complaint.message : Complaint → String
  | .expectingValue => "Expecting value"
  | .expectingName => "Expecting property name enclosed in double quotes"
  | .expectingColon => "Expecting ':' delimiter"
  | .expectingComma => "Expecting ',' delimiter"
  | .extraData => "Extra data"
  | .unterminatedString => "Unterminated string starting at"
  | .controlCharacter => "Invalid control character at"
  | .invalidEscape => "Invalid \\escape"
  | .invalidUnicodeEscape => "Invalid \\uXXXX escape"

inductive ReadError
  | malformed (complaint : Complaint) (offset : Nat)
  | tooManyDigits (digits : Nat)
  | tooDeep (isArray : Bool)
  deriving DecidableEq, Repr

def digitLimit : Nat := 4300

/-- What a reading error of the given text is reported as: the complaint and its line, column and
offset. -/
def ReadError.message (text : Text) : ReadError → String
  | .malformed complaint offset =>
    let before := text.take offset
    let line := before.count '\n' + 1
    let column := (before.reverse.takeWhile (· != '\n')).length + 1
    complaint.message ++ ": line " ++ toString line ++ " column " ++ toString column
      ++ " (char " ++ toString offset ++ ")"
  | .tooManyDigits digits =>
    "Exceeds the limit (" ++ toString digitLimit
      ++ " digits) for integer string conversion: value has " ++ toString digits
      ++ " digits; use sys.set_int_max_str_digits() to increase the limit"
  | .tooDeep isArray =>
    "maximum recursion depth exceeded while decoding a JSON "
      ++ (if isArray then "array" else "object") ++ " from a unicode string"

/-- A place in a text: how many characters are behind it and which are ahead. -/
structure Cursor where
  offset : Nat
  ahead : Text

namespace Cursor

def advance (cursor : Cursor) (count : Nat) : Cursor :=
  ⟨cursor.offset + count, cursor.ahead.drop count⟩

def skipBlank (cursor : Cursor) : Cursor :=
  cursor.advance
    (cursor.ahead.takeWhile fun c => c == ' ' || c == '\t' || c == '\n' || c == '\r').length

def complain {α : Type} (cursor : Cursor) (complaint : Complaint) : Except ReadError α :=
  .error (.malformed complaint cursor.offset)

end Cursor

/-! ### Strings -/

def hexDigit? (c : Char) : Option Nat :=
  if c.isDigit then some (c.toNat - '0'.toNat)
  else if 'a' ≤ c ∧ c ≤ 'f' then some (c.toNat - 'a'.toNat + 10)
  else if 'A' ≤ c ∧ c ≤ 'F' then some (c.toNat - 'A'.toNat + 10)
  else none

def hexUnit? : Text → Option Nat
  | [a, b, c, d] => do
    return (((← hexDigit? a) * 16 + (← hexDigit? b)) * 16 + (← hexDigit? c)) * 16 + (← hexDigit? d)
  | _ => none

def simpleEscape? : Char → Option Char
  | '"' => some '"'
  | '\\' => some '\\'
  | '/' => some '/'
  | 'b' => some '\x08'
  | 'f' => some '\x0c'
  | 'n' => some '\n'
  | 'r' => some '\r'
  | 't' => some '\t'
  | _ => none

def isHighSurrogate (unit : Nat) : Bool := 0xD800 ≤ unit && unit < 0xDC00

def isLowSurrogate (unit : Nat) : Bool := 0xDC00 ≤ unit && unit < 0xE000

/-- Reads what follows `\u`: one code unit, or a surrogate pair. -/
def readUnicodeEscape (cursor : Cursor) : Except ReadError (Nat × Cursor) :=
  -- A string has a closing quote behind the four digits, so fewer than five characters are a fault.
  if cursor.ahead.length < 5 then
    .error (.malformed .invalidUnicodeEscape (cursor.offset - 1))
  else
    match hexUnit? (cursor.ahead.take 4) with
    | none => .error (.malformed .invalidUnicodeEscape (cursor.offset - 1))
    | some unit =>
      let next := cursor.advance 4
      match isHighSurrogate unit, next.ahead with
      | true, '\\' :: 'u' :: more =>
        if more.length < 5 then .ok (unit, next)
        else
          match hexUnit? (more.take 4) with
          | none => .error (.malformed .invalidUnicodeEscape (next.offset + 1))
          | some second =>
            if isLowSurrogate second then
              .ok (0x10000 + (unit - 0xD800) * 0x400 + (second - 0xDC00), next.advance 6)
            else .ok (unit, next)
      | _, _ => .ok (unit, next)

/-- Reads the characters of a string up to its closing quote. `opened` is the offset of the opening
quote; every step takes a character, so as much fuel as there are characters is enough. -/
def readStringCodes (opened : Nat) : Nat → List Nat → Cursor → Except ReadError (List Nat × Cursor)
  | 0, _, _ => .error (.malformed .unterminatedString opened)
  | fuel + 1, codes, cursor =>
    match cursor.ahead with
    | [] => .error (.malformed .unterminatedString opened)
    | '"' :: _ => .ok (codes.reverse, cursor.advance 1)
    | '\\' :: [] => .error (.malformed .unterminatedString opened)
    | '\\' :: 'u' :: _ => do
      let (code, next) ← readUnicodeEscape (cursor.advance 2)
      readStringCodes opened fuel (code :: codes) next
    | '\\' :: escape :: _ =>
      match simpleEscape? escape with
      | some c => readStringCodes opened fuel (c.toNat :: codes) (cursor.advance 2)
      | none => cursor.complain .invalidEscape
    | c :: _ =>
      if c.toNat < 0x20 then cursor.complain .controlCharacter
      else readStringCodes opened fuel (c.toNat :: codes) (cursor.advance 1)

def textOfCodes? (codes : List Nat) : Option Text :=
  if codes.any fun code => 0xD800 ≤ code && code < 0xE000 then none
  else some (codes.map Char.ofNat)

def readString (cursor : Cursor) : Except ReadError (Option Text × Cursor) := do
  let (codes, next) ←
    readStringCodes cursor.offset cursor.ahead.length [] (cursor.advance 1)
  return (textOfCodes? codes, next)

/-! ### Numbers and words -/

def digitsValue (digits : Text) : Nat :=
  digits.foldl (fun value digit => value * 10 + (digit.toNat - '0'.toNat)) 0

/-- The parts of a number at the front of a text. -/
structure NumberParts where
  negative : Bool
  whole : Text
  fraction : Option Text
  exponent : Option Int
  length : Nat

def exponent? : Text → Option (Int × Nat)
  | mark :: rest =>
    if mark == 'e' || mark == 'E' then
      let (sign, digits, before) :=
        match rest with
        | '-' :: more => (true, more.takeWhile Char.isDigit, 2)
        | '+' :: more => (false, more.takeWhile Char.isDigit, 2)
        | _ => (false, rest.takeWhile Char.isDigit, 1)
      if digits.isEmpty then none
      else
        let value : Int := digitsValue digits
        some (if sign then -value else value, before + digits.length)
    else none
  | [] => none

/-- The number at the front of a text, if there is one. A number has no leading zeros. -/
def numberParts? (text : Text) : Option NumberParts :=
  let (negative, unsigned) := match text with
    | '-' :: rest => (true, rest)
    | _ => (false, text)
  let whole := match unsigned with
    | '0' :: _ => ['0']
    | _ => unsigned.takeWhile Char.isDigit
  if whole.isEmpty then none
  else
    let behind := unsigned.drop whole.length
    let fraction := match behind with
      | '.' :: rest => rest.takeWhile Char.isDigit
      | _ => []
    let behindFraction := if fraction.isEmpty then behind else behind.drop (fraction.length + 1)
    let power := exponent? behindFraction
    some {
      negative
      whole
      fraction := if fraction.isEmpty then none else some fraction
      exponent := power.map Prod.fst
      length := (if negative then 1 else 0) + whole.length
        + (if fraction.isEmpty then 0 else fraction.length + 1) + (power.map Prod.snd).getD 0 }

def NumberParts.number (parts : NumberParts) : Except ReadError JsonNumber :=
  let sign (value : Nat) : Int := if parts.negative then -value else value
  match parts.fraction, parts.exponent with
  | none, none =>
    if digitLimit < parts.whole.length then .error (.tooManyDigits parts.whole.length)
    else .ok (.whole (sign (digitsValue parts.whole)))
  | fraction, exponent =>
    let fraction := fraction.getD []
    .ok (.decimal (sign (digitsValue (parts.whole ++ fraction)))
      (exponent.getD 0 - fraction.length))

def words : List (Text × Json) :=
  [("null".toList, .null), ("true".toList, .bool true), ("false".toList, .bool false),
    ("NaN".toList, .number .notANumber), ("Infinity".toList, .number (.infinite false)),
    ("-Infinity".toList, .number (.infinite true))]

def readAtom (cursor : Cursor) : Except ReadError (Json × Cursor) :=
  match words.find? fun entry => entry.1.isPrefixOf cursor.ahead with
  | some (word, value) => .ok (value, cursor.advance word.length)
  | none =>
    match numberParts? cursor.ahead with
    | some parts => parts.number.map fun value => (.number value, cursor.advance parts.length)
    | none => cursor.complain .expectingValue

/-! ### Values -/

mutual

/-- Reads a value at the place. `room` says how deep arrays and objects may stand in it. A nested
value takes two calls and at least one character, so twice as much fuel as there are characters is
enough. -/
def readValue (room : Nat) : Nat → Cursor → Except ReadError (Json × Cursor)
  | 0, cursor => cursor.complain .expectingValue
  | fuel + 1, cursor =>
    match cursor.ahead, room with
    | '"' :: _, _ => do
      let (text, next) ← readString cursor
      return (match text with
        | some text => .string text
        | none => .brokenString, next)
    | '[' :: _, 0 => .error (.tooDeep true)
    | '{' :: _, 0 => .error (.tooDeep false)
    | '[' :: _, inner + 1 =>
      let start := (cursor.advance 1).skipBlank
      match start.ahead with
      | ']' :: _ => .ok (.array [], start.advance 1)
      | _ => do
        let (items, next) ← readItems inner fuel start
        return (.array items, next)
    | '{' :: _, inner + 1 =>
      let start := (cursor.advance 1).skipBlank
      match start.ahead with
      | '}' :: _ => .ok (.object [], start.advance 1)
      | _ => do
        let (fields, next) ← readFields inner fuel start
        return (.object fields, next)
    | _, _ => readAtom cursor

/-- Reads the items of an array, at least one, and its closing bracket. -/
def readItems (room : Nat) : Nat → Cursor → Except ReadError (List Json × Cursor)
  | 0, cursor => cursor.complain .expectingValue
  | fuel + 1, cursor => do
    let (item, next) ← readValue room fuel cursor
    let next := next.skipBlank
    match next.ahead with
    | ']' :: _ => return ([item], next.advance 1)
    | ',' :: _ =>
      let (items, last) ← readItems room fuel (next.advance 1).skipBlank
      return (item :: items, last)
    | _ => next.complain .expectingComma

/-- Reads the fields of an object, at least one, and its closing brace. -/
def readFields (room : Nat) : Nat → Cursor → Except ReadError (List (Text × Json) × Cursor)
  | 0, cursor => cursor.complain .expectingName
  | fuel + 1, cursor =>
    match cursor.ahead with
    | '"' :: _ => do
      let (name, behindName) ← readString cursor
      let colon := behindName.skipBlank
      match colon.ahead with
      | ':' :: _ =>
        let (value, next) ← readValue room fuel (colon.advance 1).skipBlank
        let field := name.toList.map fun name => (name, value)
        let next := next.skipBlank
        match next.ahead with
        | '}' :: _ => return (field, next.advance 1)
        | ',' :: _ =>
          let (fields, last) ← readFields room fuel (next.advance 1).skipBlank
          return (field ++ fields, last)
        | _ => next.complain .expectingComma
      | _ => colon.complain .expectingColon
    | _ => cursor.complain .expectingName

end

/-- Reads a text that is one JSON value with blank characters around it, with no more than the given
number of arrays and objects in each other. -/
def readWithin (room : Nat) (text : Text) : Except ReadError Json := do
  let (value, next) ← readValue room (2 * text.length + 2) (Cursor.mk 0 text).skipBlank
  let last := next.skipBlank
  if last.ahead.isEmpty then return value else last.complain .extraData

/-- Reads a text that is one JSON value with blank characters around it, however deep it is. -/
def read (text : Text) : Except ReadError Json := readWithin text.length text

end Culprit.Json
