import Culprit.Host.Command.Charset

/-!
# Names in messages

Programs show names and arguments in their messages so that they can be told apart from the words
around them. A name is shown as a shell would read it, and as it is if a shell would read it so. Any
other argument stands between quotation marks. What cannot be seen is escaped.
-/

namespace Culprit.Command

/-! ### Signs -/

/-- A sign as it stands in octets: a character of a character set, or an octet that belongs to
none. -/
structure Sign where
  octets : Octets
  char? : Option Char
  deriving DecidableEq, Repr

/-- The signs of octets in UTF-8. Fuel as for the octets is enough. -/
def signsOf : Nat → Octets → List Sign
  | 0, _ => []
  | _, [] => []
  | fuel + 1, c :: rest =>
    match Utf8.readPiece (Utf8.byte c.toNat) (Octets.toBytes rest) with
    | .char char length =>
      ⟨c :: rest.take (length - 1), some char⟩ :: signsOf fuel (rest.drop (length - 1))
    | .flawed _ _ => ⟨[c], none⟩ :: signsOf fuel rest

def Charset.signs (charset : Charset) (octets : Octets) : List Sign :=
  match charset with
  | .single => octets.map fun c => ⟨[c], some c⟩
  | .unicode => signsOf octets.length octets

def Sign.isShown (sign : Sign) (charset : Charset) : Bool := sign.char?.any charset.isShown

/-! ### Escapes -/

def controlLetter? : Char → Option Char
  | '\x07' => some 'a'
  | '\x08' => some 'b'
  | '\x0c' => some 'f'
  | '\n' => some 'n'
  | '\r' => some 'r'
  | '\t' => some 't'
  | '\x0b' => some 'v'
  | _ => none

def Sign.escaped (sign : Sign) : Octets :=
  match sign.octets with
  | [c] =>
    match controlLetter? c with
    | some letter => ['\\', letter]
    | none => octal c
  | octets => octets.flatMap octal
where
  octal (c : Char) : Octets :=
    '\\' :: (Nat.toDigits 8 (512 + c.toNat)).drop 1

/-! ### Quotation marks -/

def quoteArgument (charset : Charset) (argument : Octets) : Octets :=
  let (opening, closing) : Octets × Octets := match charset with
    | .single => (['\''], ['\''])
    | .unicode => (Octets.ofText ['‘'], Octets.ofText ['’'])
  let shown (sign : Sign) : Octets :=
    if sign.octets == ['\\'] || sign.octets == closing then '\\' :: sign.octets
    else if sign.isShown charset then sign.octets
    else sign.escaped
  opening ++ (charset.signs argument).flatMap shown ++ closing

/-! ### As a shell would read it -/

def shellCharacters : List Char := " !\"$&()*;<=>?[\\^'|".toList ++ ['\x60']

def needsQuoting (charset : Charset) (isSpecial : Char → Bool) (name : Octets) : Bool :=
  match name with
  | [] => true
  | first :: rest =>
    first == '#' || first == '~' || (rest.isEmpty && (first == '\x7b' || first == '\x7d'))
      || name.any (fun c => shellCharacters.contains c || isSpecial c)
      || (charset.signs name).any fun sign => !sign.isShown charset

def isPlainInQuotes (c : Char) : Bool :=
  c.isAlphanum || 128 ≤ c.toNat || " %+,-./:]_'@".toList.contains c

def suitsDoubleQuotes (charset : Charset) (name : Octets) : Bool :=
  let behind := match name with
    | '#' :: rest | '~' :: rest => rest
    | _ => name
  behind.all isPlainInQuotes && (charset.signs name).all fun sign => sign.isShown charset

/-- What stands between the quotes of a name: signs as they are, escapes in quotes of their own.
`inEscape` tells that such quotes are open. -/
def shellQuoted (charset : Charset) (inEscape : Bool) : List Sign → Octets
  | [] => ['\'']
  | sign :: rest =>
    if sign.octets == ['\''] then "'\\''".toList ++ shellQuoted charset false rest
    else if sign.isShown charset then
      (if inEscape then "''".toList else []) ++ sign.octets ++ shellQuoted charset false rest
    else
      (if inEscape then [] else "'$'".toList) ++ sign.escaped ++ shellQuoted charset true rest

/-- A name as a shell would read it. The given characters are special besides those of a shell. -/
def quoteForShell (charset : Charset) (isSpecial : Char → Bool) (name : Octets) : Octets :=
  if !needsQuoting charset isSpecial name then name
  else if name.contains '\'' && suitsDoubleQuotes charset name then
    ['"'] ++ name ++ ['"']
  else '\'' :: shellQuoted charset false (charset.signs name)

def quoteName (charset : Charset) (name : Octets) : Octets :=
  quoteForShell charset (· == ':') name

end Culprit.Command
