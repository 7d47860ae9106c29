import Culprit.Text.Blank

/-!
# Texts as bytes

The UTF-8 form of a text, and reading bytes as a text. Bytes that are no text are cut into
ill-formed parts: a byte that starts nothing, or the longest beginning of a character that is not
continued. Reading either stops at the first such part or puts a replacement character in its
place.
-/

namespace Culprit

abbrev Bytes := List UInt8

namespace Utf8

def byte (value : Nat) : UInt8 := UInt8.ofNat value

def encodeChar (c : Char) : Bytes :=
  let code := c.toNat
  if code < 0x80 then [byte code]
  else if code < 0x800 then [byte (0xC0 + code / 64), byte (0x80 + code % 64)]
  else if code < 0x10000 then
    [byte (0xE0 + code / 4096), byte (0x80 + code / 64 % 64), byte (0x80 + code % 64)]
  else
    [byte (0xF0 + code / 262144), byte (0x80 + code / 4096 % 64), byte (0x80 + code / 64 % 64),
      byte (0x80 + code % 64)]

def encode (text : Text) : Bytes := text.flatMap encodeChar

def dropMark : Text → Text
  | '\uFEFF' :: rest => rest
  | text => text

inductive Flaw
  | invalidStart
  | invalidContinuation
  | unexpectedEnd
  deriving DecidableEq, Repr

def Flaw.message : Flaw → String
  | .invalidStart => "invalid start byte"
  | .invalidContinuation => "invalid continuation byte"
  | .unexpectedEnd => "unexpected end of data"

/-- What stands at the front of some bytes: a character or an ill-formed part, and how many bytes
it takes. -/
inductive Piece
  | char (c : Char) (length : Nat)
  | flawed (flaw : Flaw) (length : Nat)
  deriving DecidableEq, Repr

def Piece.length : Piece → Nat
  | .char _ length => length
  | .flawed _ length => length

/-- The first byte of a character of several bytes: how many bytes follow, the bits it gives, and
the range of the second byte. -/
structure Lead where
  following : Nat
  bits : Nat
  low : Nat
  high : Nat

def lead? (first : Nat) : Option Lead :=
  if 0xC2 ≤ first ∧ first ≤ 0xDF then some ⟨1, first - 0xC0, 0x80, 0xBF⟩
  else if first = 0xE0 then some ⟨2, 0, 0xA0, 0xBF⟩
  else if first = 0xED then some ⟨2, 0xD, 0x80, 0x9F⟩
  else if 0xE1 ≤ first ∧ first ≤ 0xEF then some ⟨2, first - 0xE0, 0x80, 0xBF⟩
  else if first = 0xF0 then some ⟨3, 0, 0x90, 0xBF⟩
  else if first = 0xF4 then some ⟨3, 4, 0x80, 0x8F⟩
  else if 0xF1 ≤ first ∧ first ≤ 0xF3 then some ⟨3, first - 0xF0, 0x80, 0xBF⟩
  else none

/-- Reads the bytes that follow the first one of a character. `taken` bytes are read already, and
the next one has to lie between the two bounds. -/
def readFollowing (bits taken low high : Nat) : Nat → Bytes → Piece
  | 0, _ => .char (Char.ofNat bits) taken
  | _ + 1, [] => .flawed .unexpectedEnd taken
  | left + 1, next :: rest =>
    let value := next.toNat
    if low ≤ value ∧ value ≤ high then
      readFollowing (bits * 64 + (value - 0x80)) (taken + 1) 0x80 0xBF left rest
    else .flawed .invalidContinuation taken

def readPiece (first : UInt8) (rest : Bytes) : Piece :=
  if first.toNat < 0x80 then .char (Char.ofNat first.toNat) 1
  else
    match lead? first.toNat with
    | none => .flawed .invalidStart 1
    | some lead => readFollowing lead.bits 1 lead.low lead.high lead.following rest

def decodeReplacing (bytes : Bytes) : Text :=
  match bytes with
  | [] => []
  | first :: rest =>
    let piece := readPiece first rest
    let c := match piece with
      | .char c _ => c
      | .flawed _ _ => '\uFFFD'
    c :: decodeReplacing (rest.drop (piece.length - 1))
termination_by bytes.length

structure DecodeError where
  flaw : Flaw
  offset : Nat
  part : Bytes
  deriving DecidableEq, Repr

def decodeFrom (offset : Nat) (bytes : Bytes) : Except DecodeError Text :=
  match bytes with
  | [] => .ok []
  | first :: rest =>
    let piece := readPiece first rest
    match piece with
    | .flawed flaw length => .error ⟨flaw, offset, (first :: rest).take length⟩
    | .char c _ =>
      (decodeFrom (offset + piece.length) (rest.drop (piece.length - 1))).map (c :: ·)
termination_by bytes.length

def decode (bytes : Bytes) : Except DecodeError Text := decodeFrom 0 bytes

def undecodable (encoding : String) (offset : Nat) (part : Bytes) : String :=
  "'" ++ encoding ++ "' codec can't decode "
    ++ (match part with
      | [single] =>
        "byte 0x" ++ String.ofList ((Nat.toDigits 16 (256 + single.toNat)).drop 1)
          ++ " in position " ++ toString offset
      | _ =>
        "bytes in position " ++ toString offset ++ "-" ++ toString (offset + part.length - 1))

def DecodeError.message (error : DecodeError) : String :=
  undecodable "utf-8" error.offset error.part ++ ": " ++ error.flaw.message

end Utf8
end Culprit
