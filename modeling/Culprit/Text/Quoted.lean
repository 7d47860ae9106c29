import Culprit.Text.Printable

/-!
# Quoted texts

A text is quoted in messages so that it can be told apart from the words around it: between
apostrophes, or between double quotes when it holds an apostrophe and no double quote. The
delimiter in use, backslashes and characters that cannot be shown are escaped.
-/

namespace Culprit.Text

def hexDigit (value : Nat) : Char :=
  if value < 10 then Char.ofNat ('0'.toNat + value) else Char.ofNat ('a'.toNat + value - 10)

def hexDigits : Nat → Nat → Text
  | 0, _ => []
  | count + 1, value => hexDigits count (value / 16) ++ [hexDigit (value % 16)]

def quoteChar (delimiter c : Char) : Text :=
  if c == delimiter || c == '\\' then ['\\', c]
  else if c == '\t' then "\\t".toList
  else if c == '\n' then "\\n".toList
  else if c == '\r' then "\\r".toList
  else if isPrintable c then [c]
  else if c.toNat < 0x100 then "\\x".toList ++ hexDigits 2 c.toNat
  else if c.toNat < 0x10000 then "\\u".toList ++ hexDigits 4 c.toNat
  else "\\U".toList ++ hexDigits 8 c.toNat

def quoteDelimiter (text : Text) : Char :=
  if text.contains '\'' && !text.contains '"' then '"' else '\''

def quote (text : Text) : Text :=
  let delimiter := quoteDelimiter text
  delimiter :: text.flatMap (quoteChar delimiter) ++ [delimiter]

end Culprit.Text
