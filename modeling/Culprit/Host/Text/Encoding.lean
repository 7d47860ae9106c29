import Culprit.Text.Utf8

/-!
# Texts in wide units

A text may also be written in units of two or of four bytes, the most significant byte first or
last. Which way some bytes are meant shows in their first bytes: a mark in front, or, as long as the
text starts with characters of ASCII, the places of the bytes that are zero. Half of a pair of units
that writes one character together is let pass alone, and is a replacement character then.
-/

namespace Culprit

inductive Encoding
  | bytes
  | pairs (isBigFirst : Bool)
  | quads (isBigFirst : Bool)
  deriving DecidableEq, Repr

namespace Encoding

def name : Encoding → String
  | .bytes => "utf-8"
  | .pairs true => "utf-16-be"
  | .pairs false => "utf-16-le"
  | .quads true => "utf-32-be"
  | .quads false => "utf-32-le"

/-- The encoding that a mark in front tells, and the length of the mark. -/
def ofMark? : Bytes → Option (Encoding × Nat)
  | 0x00 :: 0x00 :: 0xFE :: 0xFF :: _ => some (.quads true, 4)
  | 0xFF :: 0xFE :: 0x00 :: 0x00 :: _ => some (.quads false, 4)
  | 0xFE :: 0xFF :: _ => some (.pairs true, 2)
  | 0xFF :: 0xFE :: _ => some (.pairs false, 2)
  | 0xEF :: 0xBB :: 0xBF :: _ => some (.bytes, 3)
  | _ => none

/-- The encoding of bytes without a mark. -/
def ofStart : Bytes → Encoding
  | 0 :: 0 :: _ :: _ :: _ => .quads true
  | 0 :: _ :: _ :: _ :: _ => .pairs true
  | _ :: 0 :: 0 :: 0 :: _ => .quads false
  | _ :: 0 :: _ :: _ :: _ => .pairs false
  | [0, _] => .pairs true
  | [_, 0] => .pairs false
  | _ => .bytes

inductive Flaw
  | cut
  | noCharacter
  deriving DecidableEq, Repr

def Flaw.message : Flaw → String
  | .cut => "truncated data"
  | .noCharacter => "code point not in range(0x110000)"

inductive DecodeError
  | bytes (error : Utf8.DecodeError)
  | wide (encoding : Encoding) (flaw : Flaw) (offset : Nat) (part : Bytes)
  deriving DecidableEq, Repr

def DecodeError.message : DecodeError → String
  | .bytes error => error.message
  | .wide encoding flaw offset part =>
    Utf8.undecodable encoding.name offset part ++ ": " ++ flaw.message

def unitValue (isBigFirst : Bool) (unit : Bytes) : Nat :=
  (if isBigFirst then unit else unit.reverse).foldl (fun value byte => value * 256 + byte.toNat) 0

def readPairs (isBigFirst : Bool) (offset : Nat) : Bytes → Except DecodeError (List Nat)
  | [] => .ok []
  | [byte] => .error (.wide (.pairs isBigFirst) .cut offset [byte])
  | first :: second :: rest =>
    (readPairs isBigFirst (offset + 2) rest).map (unitValue isBigFirst [first, second] :: ·)

/-- The characters that units of two bytes write, two units for one beyond U+FFFF. -/
def joinPairs : List Nat → Text
  | [] => []
  | [unit] => [if unit.isValidChar then Char.ofNat unit else '\uFFFD']
  | first :: second :: rest =>
    if 0xD800 ≤ first ∧ first < 0xDC00 ∧ 0xDC00 ≤ second ∧ second < 0xE000 then
      Char.ofNat (0x10000 + (first - 0xD800) * 0x400 + (second - 0xDC00)) :: joinPairs rest
    else
      (if first.isValidChar then Char.ofNat first else '\uFFFD') :: joinPairs (second :: rest)

/-- The characters that units of four bytes write, with the given number of bytes before them. -/
def readQuads (isBigFirst : Bool) (offset : Nat) : Bytes → Except DecodeError Text
  | [] => .ok []
  | first :: second :: third :: fourth :: rest =>
    let unit := [first, second, third, fourth]
    let code := unitValue isBigFirst unit
    if code < 0x110000 then
      (readQuads isBigFirst (offset + 4) rest).map
        ((if code.isValidChar then Char.ofNat code else '\uFFFD') :: ·)
    else .error (.wide (.quads isBigFirst) .noCharacter offset unit)
  | part => .error (.wide (.quads isBigFirst) .cut offset part)

/-- Bytes in which the forms of halves of pairs, which are no characters, are made replacement
characters. -/
def maskHalves : Bytes → Bytes
  | first :: second :: third :: rest =>
    if first = 0xED ∧ 0xA0 ≤ second ∧ second ≤ 0xBF ∧ 0x80 ≤ third ∧ third ≤ 0xBF then
      0xEF :: 0xBF :: 0xBD :: maskHalves rest
    else first :: maskHalves (second :: third :: rest)
  | rest => rest

def decodeBytes (bytes : Bytes) : Except Utf8.DecodeError Text :=
  match Utf8.decode bytes with
  | .ok text => .ok text
  | .error _ => Utf8.decode (maskHalves bytes)

/-- Reads bytes as a text. A mark in front is no part of it. -/
def decode (bytes : Bytes) : Except DecodeError Text :=
  let (encoding, length) := (ofMark? bytes).getD (ofStart bytes, 0)
  let unmarked := bytes.drop length
  match encoding with
  | .bytes => (decodeBytes unmarked).mapError .bytes
  | .pairs isBigFirst => (readPairs isBigFirst length unmarked).map joinPairs
  | .quads isBigFirst => readQuads isBigFirst length unmarked

end Encoding
end Culprit
