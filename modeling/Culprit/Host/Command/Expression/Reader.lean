import Culprit.Host.Command.Expression

/-!
# Reading search expressions

The signs of a search expression are `.`, `[…]`, `*`, `^`, `$` and, in the extended form, `|`, `+`,
`?`, parentheses and braces; in the basic form those stand behind a backslash. A sign that repeats
what stands in front of it stands for itself in the basic form where nothing does; the extended form
takes it, and warns.
-/

namespace Culprit.Command

inductive ExpressionError
  | trailingBackslash
  | emptyClass
  | unclosedClass
  | unmatchedOpening
  | unmatchedClosing
  | unmatchedBrace
  | invalidCount
  | tooBig
  | invalidRange
  | unknownClass
  | unknownElement
  | invalidReference
  deriving DecidableEq, Repr

def ExpressionError.message : ExpressionError → String
  | .trailingBackslash => "Trailing backslash"
  | .emptyClass => "Invalid regular expression"
  | .unclosedClass => "Unmatched [, [^, [:, [., or [="
  | .unmatchedOpening => "Unmatched ( or \\("
  | .unmatchedClosing => "Unmatched ) or \\)"
  | .unmatchedBrace => "Unmatched \\\x7b"
  | .invalidCount => "Invalid content of \\\x7b\\\x7d"
  | .tooBig => "Regular expression too big"
  | .invalidRange => "Invalid range end"
  | .unknownClass => "Invalid character class name"
  | .unknownElement => "Invalid collation character"
  | .invalidReference => "Invalid back reference"

/-! ### Sets of characters -/

/-- An element of a set: a character or a named set. -/
inductive SetElement
  | char (c : Char)
  | named (name : String)
  deriving DecidableEq, Repr

inductive SetToken
  | close
  | hyphen
  | element (element : SetElement)
  deriving DecidableEq, Repr

/-- The name between an opening bracket with a sign and the sign with a closing bracket, and what
stands behind that. -/
def takeName (sign : Char) : Text → Option (Text × Text)
  | [] => none
  | [_] => none
  | c :: d :: rest =>
    if c == sign && d == ']' then some ([], rest)
    else (takeName sign (d :: rest)).map fun (name, behind) => (c :: name, behind)

def takeSetToken (text : Text) : Except ExpressionError (SetToken × Text) :=
  match text with
  | [] => .error .unclosedClass
  | ']' :: rest => .ok (.close, rest)
  | '-' :: rest => .ok (.hyphen, rest)
  | '[' :: sign :: rest =>
    if sign == ':' || sign == '.' || sign == '=' then
      match takeName sign rest with
      | none => .error .unclosedClass
      | some (name, behind) =>
        if sign == ':' then
          let name := String.ofList name
          if (namedRanges? name).isSome then .ok (.element (.named name), behind)
          else .error .unknownClass
        else
          match name with
          | [c] => .ok (.element (.char c), behind)
          | _ => .error .unknownElement
    else .ok (.element (.char '['), sign :: rest)
  | c :: rest => .ok (.element (.char c), rest)

def SetToken.toElement : SetToken → SetElement
  | .close => .char ']'
  | .hyphen => .char '-'
  | .element single => single

/-- The members of a set up to the bracket that closes it, and what stands behind that. A bracket or
a hyphen at the start stands for itself, as does a hyphen at the end. Only octets have an order, so
no other characters bound a range. Fuel as for the characters is enough. -/
def readMembers (charset : Charset) (isFirst : Bool) :
    Nat → Text → Except ExpressionError (List SetMember × Text)
  | 0, _ => .error .unclosedClass
  | fuel + 1, text => do
    let (token, rest) ← takeSetToken text
    if token == .close && !isFirst then return ([], rest)
    else
      let continueWith (member : SetMember) (behind : Text) :
          Except ExpressionError (List SetMember × Text) := do
        let (members, last) ← readMembers charset false fuel behind
        return (member :: members, last)
      let isLoneHyphen := token == .hyphen && !isFirst
      if isLoneHyphen && rest.head? != some ']' then
        throw (if rest.isEmpty then .unclosedClass else .invalidRange)
      else
        match token.toElement with
        | .named name => continueWith (.named name) rest
        | .char first => do
          let (sign, behind) ← takeSetToken rest
          if sign != .hyphen then continueWith (.range first first) rest
          else do
            let (final, last) ← takeSetToken behind
            if final == .close then continueWith (.range first first) rest
            else
              match final.toElement with
              | .named _ => throw .invalidRange
              | .char bound =>
                if charset == .unicode && (128 ≤ first.toNat || 128 ≤ bound.toNat) then
                  throw .unknownElement
                else if bound < first then throw .invalidRange
                else continueWith (.range first bound) last

def readSet (charset : Charset) (text : Text) : Except ExpressionError (CharacterSet × Text) := do
  let isNegated := text.head? == some '^'
  let inside := if isNegated then text.drop 1 else text
  if inside.isEmpty then throw .emptyClass
  else do
    let (members, rest) ← readMembers charset true inside.length.succ inside
    return (⟨members, isNegated⟩, rest)

/-- Whether the inside of brackets looks as if another pair of brackets was meant: it begins and
ends with a colon. -/
def looksNamed (inside : Text) : Bool :=
  let inside := if inside.head? == some '^' then inside.drop 1 else inside
  let content := (inside.take 1) ++ (inside.drop 1).takeWhile (· != ']')
  2 < content.length && content.head? == some ':' && content.getLast? == some ':'
    && !content.contains '['

/-! ### Signs -/

inductive ExpressionSign
  | set (set : CharacterSet)
  | anchor (anchor : Anchor)
  | repeated (least : Nat) (most : Option Nat) (spelling : String)
  | bar
  | opening
  | closing
  | reference (number : Nat)
  deriving DecidableEq, Repr

def countLimit : Nat := 32767

/-- The numbers between braces and what stands behind the closing brace, none if there is nothing
like that. Without a second number there is no limit. -/
def readCounts (isExtended : Bool) (text : Text) :
    Except ExpressionError (Option ((Nat × Option Nat) × Text)) :=
  let takeNumber (text : Text) : Option Nat × Text :=
    let digits := text.takeWhile Char.isDigit
    (if digits.isEmpty then none
      else some (digits.foldl (fun n d => min (countLimit + 1) (n * 10 + (d.toNat - 48))) 0),
      text.drop digits.length)
  let closing : Text := if isExtended then ['\x7d'] else ['\\', '\x7d']
  let ends (text : Text) : Bool := closing.isPrefixOf text
  let isComma (text : Text) : Bool := text.head? == some ','
  let refuse (rest : Text) : Except ExpressionError (Option ((Nat × Option Nat) × Text)) :=
    if isExtended then .ok none
    else
      let hasEnd := (List.range (rest.length + 1)).any fun size =>
        ends (rest.drop size) || isComma (rest.drop size)
      .error (if hasEnd then .invalidCount else .unmatchedBrace)
  let (least, behind) := takeNumber text
  if ends behind then
    match least with
    | none => .error .invalidCount
    | some count =>
      if countLimit < count then .error .tooBig
      else .ok (some ((count, some count), behind.drop closing.length))
  else if isComma behind then
    let (most, rest) := takeNumber (behind.drop 1)
    let least := least.getD 0
    if ends rest then
      if most.any (· < least) then .error .invalidCount
      else if countLimit < most.getD least then .error .tooBig
      else .ok (some ((least, most), rest.drop closing.length))
    else if isComma rest then .error .invalidCount
    else refuse rest
  else refuse behind

def specialSign? : Char → Option ExpressionSign
  | '+' => some (.repeated 1 none "+")
  | '?' => some (.repeated 0 (some 1) "?")
  | '|' => some .bar
  | '(' => some .opening
  | ')' => some .closing
  | _ => none

def escapedSign? (c : Char) : Option ExpressionSign :=
  let word : SetMember := .named "alnum"
  let underscore : SetMember := .range '_' '_'
  match c with
  | 'w' => some (.set ⟨[word, underscore], false⟩)
  | 'W' => some (.set ⟨[word, underscore], true⟩)
  | 's' => some (.set ⟨[.named "space"], false⟩)
  | 'S' => some (.set ⟨[.named "space"], true⟩)
  | 'b' => some (.anchor .wordBound)
  | 'B' => some (.anchor .noWordBound)
  | '<' => some (.anchor .wordStart)
  | '>' => some (.anchor .wordEnd)
  | '\'' => some (.anchor .lineEnd)
  | c =>
    if c.toNat = 0x60 then some (.anchor .lineStart)
    else if '1' ≤ c && c ≤ '9' then some (.reference (c.toNat - '0'.toNat))
    else none

def charSign (c : Char) : ExpressionSign := .set ⟨[.range c c], false⟩

def endsAlternative (text : Text) : Bool :=
  text.isEmpty || ['\\', '|'].isPrefixOf text || ['\\', ')'].isPrefixOf text

/-- The first sign of an expression that is not empty, and what stands behind it. `isStart` says
that there is nothing in front that could be repeated, `mayAnchor` that an alternative begins
here. -/
def takeSign (charset : Charset) (isExtended isStart mayAnchor : Bool) (text : Text) :
    Except ExpressionError (ExpressionSign × Text) :=
  let special (c : Char) (rest : Text) : Except ExpressionError (ExpressionSign × Text) :=
    let stands := isStart && !isExtended
    if c == '\x7b' then
      if stands then .ok (charSign c, rest)
      else do
        match ← readCounts isExtended rest with
        | some ((least, most), behind) => return (.repeated least most "\x7b...\x7d", behind)
        | none => return (charSign c, rest)
    else
      match specialSign? c with
      | some (.repeated least most spelling) =>
        .ok (if stands then charSign c else .repeated least most spelling, rest)
      | some sign => .ok (sign, rest)
      | none => .ok (charSign c, rest)
  match text with
  | [] => .error .trailingBackslash
  | ['\\'] => .error .trailingBackslash
  | '\\' :: c :: rest =>
    match escapedSign? c with
    | some sign => .ok (sign, rest)
    | none => if isExtended then .ok (charSign c, rest) else special c rest
  | '[' :: rest => do
    let (set, behind) ← readSet charset rest
    return (.set set, behind)
  | c :: rest =>
    if c == '.' then .ok (.set ⟨[], true⟩, rest)
    else if c == '*' then
      .ok (if isStart && !isExtended then charSign c else .repeated 0 none "*", rest)
    else if c == '^' && (isExtended || mayAnchor) then .ok (.anchor .lineStart, rest)
    else if c == '$' && (isExtended || endsAlternative rest) then .ok (.anchor .lineEnd, rest)
    else if isExtended then special c rest
    else .ok (charSign c, rest)

/-! ### Structure -/

/-- What is left of an expression, and what is known of the part that has been read. -/
structure ExpressionSource where
  ahead : Text
  groups : Nat
  complete : List Nat
  depth : Nat
  /-- The signs that have nothing to repeat, the last one first. -/
  stray : List String

abbrev ExpressionReading := StateT ExpressionSource (Except ExpressionError)

def readSign (charset : Charset) (isExtended isStart mayAnchor : Bool) :
    ExpressionReading (Option ExpressionSign) := do
  let source ← get
  if source.ahead.isEmpty then return none
  else do
    let (sign, rest) ← takeSign charset isExtended isStart mayAnchor source.ahead
    set { source with ahead := rest }
    return some sign

mutual

/-- Reads alternatives up to what closes them. Fuel in proportion to the characters is enough. -/
def readAlternatives (charset : Charset) (isExtended : Bool) : Nat → ExpressionReading Expression
  | 0 => return .nothing
  | fuel + 1 => do
    let first ← readAlternative charset isExtended fuel true true .nothing
    let source ← get
    match ← readSign charset isExtended false false with
    | some .bar => return .either first (← readAlternatives charset isExtended fuel)
    | _ => do
      set source
      return first

def readAlternative (charset : Charset) (isExtended : Bool) :
    Nat → Bool → Bool → Expression → ExpressionReading Expression
  | 0, _, _, before => return before
  | fuel + 1, isStart, mayAnchor, before => do
    let source ← get
    let continueWith (isStart : Bool) (part : Expression) : ExpressionReading Expression := do
      let whole ← readRepetitions charset isExtended fuel isStart part
      readAlternative charset isExtended fuel isStart false (.both before whole)
    match ← readSign charset isExtended isStart mayAnchor with
    | none => return before
    | some .bar => do
      set source
      return before
    | some .closing =>
      if 0 < source.depth then do
        set source
        return before
      else if isExtended then continueWith false (.one ⟨[.range ')' ')'], false⟩)
      else throw .unmatchedClosing
    | some (.repeated _ _ _) => do
      set source
      let whole ← readRepetitions charset isExtended fuel true .nothing
      let rest := (← get).ahead
      if rest.head? == some ')' && 0 < source.depth then throw .unmatchedOpening
      else readAlternative charset isExtended fuel true false (.both before whole)
    | some (.set set) => continueWith false (.one set)
    | some (.anchor anchor) =>
      let isBound := anchor != .lineStart && anchor != .lineEnd
      if isBound && !isExtended then
        readAlternative charset isExtended fuel true false (.both before (.anchor anchor))
      else continueWith isStart (.anchor anchor)
    | some (.reference number) =>
      if source.complete.contains number then continueWith false (.reference number)
      else throw .invalidReference
    | some .opening => do
      let number := source.groups + 1
      modify fun source => { source with groups := number, depth := source.depth + 1 }
      let body ← readAlternatives charset isExtended fuel
      match ← readSign charset isExtended false false with
      | some .closing => do
        modify fun source => { source with
          complete := number :: source.complete
          depth := source.depth - 1 }
        continueWith false (.group number body)
      | _ => throw .unmatchedOpening

def readRepetitions (charset : Charset) (isExtended : Bool) :
    Nat → Bool → Expression → ExpressionReading Expression
  | 0, _, part => return part
  | fuel + 1, isStart, part => do
    let source ← get
    match ← readSign charset isExtended isStart false with
    | some (.repeated least most spelling) => do
      if isStart then modify fun source => { source with stray := spelling :: source.stray }
      let staysStart := isStart && !spelling.contains '\x7b'
      readRepetitions charset isExtended fuel staysStart (.repeated least most part)
    | _ => do
      set source
      return part

end

def readExpression (charset : Charset) (isExtended : Bool) (text : Text) :
    Except ExpressionError (Expression × List String) := do
  let (expression, source) ←
    (readAlternatives charset isExtended (4 * text.length + 4)).run ⟨text, 0, [], 0, []⟩
  if source.ahead.isEmpty then return (expression, source.stray.reverse)
  else throw .unmatchedClosing

end Culprit.Command
