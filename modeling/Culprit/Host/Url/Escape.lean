import Culprit.Text.Quoted
import Culprit.Text.Utf8

/-!
# Escapes in URLs

A character that a part of a URL may not hold is written as its bytes, each in hexadecimal behind a
percent sign. Which characters a part may hold differs from part to part. What is written like an
escape already stays as it is, so that escaping twice changes nothing more.
-/

namespace Culprit.Url

inductive Part
  | userinfo
  | host
  | path
  | query
  | fragment
  deriving DecidableEq, Repr

def isUnreserved (c : Char) : Bool := c.isAlphanum || "-._~".toList.contains c

/-- The visible characters of ASCII that a part may not hold as they are. The host is treated by the
characters that it may hold. -/
def Part.excluded : Part → Text
  | .userinfo => "\"#<>?`\x7b\x7d/;=@[\\]^|".toList
  | .host => []
  | .path => "\"#<>?`\x7b\x7d".toList
  | .query => "\"#<>".toList
  | .fragment => "\"<>`".toList

def hostCharacters : Text := "!$&'()*+,;=\"`\x7b\x7d%|\\".toList

def Part.keeps (part : Part) (c : Char) : Bool :=
  isUnreserved c
    || (match part with
      | .host => hostCharacters.contains c
      | _ => 0x20 < c.toNat && c.toNat < 0x7F && !part.excluded.contains c)

def escapeByte (byte : UInt8) : Text :=
  '%' :: (Text.hexDigits 2 byte.toNat).map Char.toUpper

def escapeChar (part : Part) (c : Char) : Text :=
  if part.keeps c then [c] else (Utf8.encodeChar c).flatMap escapeByte

def isHexDigit (c : Char) : Bool :=
  c.isDigit || ('a' ≤ c && c ≤ 'f') || ('A' ≤ c && c ≤ 'F')

def escape (part : Part) : Text → Text
  | '%' :: high :: low :: rest =>
    if isHexDigit high && isHexDigit low then '%' :: high :: low :: escape part rest
    else escapeChar part '%' ++ escape part (high :: low :: rest)
  | c :: rest => escapeChar part c ++ escape part rest
  | [] => []

def hexValue (c : Char) : Nat :=
  if c.isDigit then c.toNat - '0'.toNat else c.toLower.toNat - 'a'.toNat + 10

def unescapeBytes : Text → Bytes
  | '%' :: high :: low :: rest =>
    if isHexDigit high && isHexDigit low then
      UInt8.ofNat (hexValue high * 16 + hexValue low) :: unescapeBytes rest
    else Utf8.encodeChar '%' ++ unescapeBytes (high :: low :: rest)
  | c :: rest => Utf8.encodeChar c ++ unescapeBytes rest
  | [] => []

def unescape (text : Text) : Text := Utf8.decodeReplacing (unescapeBytes text)

end Culprit.Url
