import Culprit.Host.Text.LowerCase
import Culprit.Host.Text.Octets
import Culprit.Text.Printable
import Culprit.Text.UpperCase
import Culprit.Text.Word

/-!
# Character sets

Programs that look at characters read octets in the character set that their environment asks for:
either each octet is a character, of which only the ASCII ones have properties, or the octets are
UTF-8.
-/

namespace Culprit.Command

inductive Charset
  | single
  | unicode
  deriving DecidableEq, Repr

namespace Charset

/-- The names of the variables that choose a character set; the first one with a value counts. -/
def variableNames : List String := ["LC_ALL", "LC_CTYPE", "LANG"]

def ofEnvironment (environment : List (Octets × Octets)) : Charset :=
  let values := variableNames.filterMap fun name =>
    (environment.lookup name.toList).filter fun value => !value.isEmpty
  match values with
  | ('C' :: '.' :: coding) :: _ =>
    if (coding.map Char.toLower).filter (· != '-') == "utf8".toList then .unicode else .single
  | _ => .single

def read : Charset → Octets → Text
  | .single, octets => octets
  | .unicode, octets => Octets.toText octets

def readWhole (charset : Charset) (octets : Octets) : Text :=
  match charset with
  | .single => octets
  | .unicode => (Octets.toText octets).filter (· != '\uFFFD')

def write : Charset → Text → Octets
  | .single, text => text
  | .unicode, text => Octets.ofText text

def reads : Charset → Octets → Bool
  | .single, _ => true
  | .unicode, octets => (Utf8.decode (Octets.toBytes octets)).toOption.isSome

def knows (charset : Charset) (c : Char) : Bool := charset == .unicode || c.toNat < 128

def isBlank (charset : Charset) (c : Char) : Bool :=
  let isSpecial := (28 ≤ c.toNat && c.toNat ≤ 31) || [0x85, 0xa0, 0x2007, 0x202f].contains c.toNat
  charset.knows c && Text.isBlank c && !isSpecial

def isWord (charset : Charset) (c : Char) : Bool := charset.knows c && Text.isWord c

def isShown (charset : Charset) (c : Char) : Bool :=
  charset.knows c && !(c.toNat < 32 || (127 ≤ c.toNat && c.toNat < 160))

def small (charset : Charset) (c : Char) : Char :=
  if charset.knows c then
    match Text.smallLetter c with
    | [small] => small
    | _ => c
  else c

def capital (charset : Charset) (c : Char) : Char :=
  if charset.knows c then
    match Text.capital c with
    | [capital] => capital
    | _ => c
  else c

def sameLetter (charset : Charset) (c d : Char) : Bool :=
  charset.small c == charset.small d || charset.capital c == charset.capital d

end Charset
end Culprit.Command
