import Culprit.Host.Shell.Source

/-!
# Reading scripts

The reader of scripts. Words, values in them and the commands of a script contain each other, so
they are read by functions that call each other; each call takes a unit of fuel, and fuel in
proportion to the characters is enough. A script is read in units, each up to the end of a line that
ends a command, since what stands on one line may change how the next one is understood.
-/

namespace Culprit.Shell

open Reading

def backtick : Char := Char.ofNat 0x60

inductive Place
  | word
  | delimiter
  | braces
  | quotes
  | quotedBraces (isToggled inDocument : Bool)
  | sum (depth : Nat)
  | document
  deriving DecidableEq, Repr

namespace Place

def isQuoted : Place → Bool
  | .word | .delimiter | .braces => false
  | _ => true

def inBraces : Place → Place
  | .word | .delimiter | .braces => .braces
  | .document => .quotedBraces false true
  | .quotedBraces _ inDocument => .quotedBraces false inDocument
  | _ => .quotedBraces false false

def problemAtEnd? : Place → Option SyntaxProblem
  | .word | .delimiter | .document => none
  | .braces => some .missingBrace
  | .quotes => some .unterminatedQuote
  | .quotedBraces _ inDocument => some (if inDocument then .missingBrace else .unterminatedQuote)
  | .sum _ => some .missingParentheses

/-- Whether a backslash in front of a character here stands only for that character. -/
def escapes (place : Place) (c : Char) : Bool :=
  if !place.isQuoted then true
  else if c == '\\' || c == '$' || c == backtick then true
  else
    match place with
    | .document => false
    | .quotedBraces _ _ => c == '"' || c == '\x7d'
    | _ => c == '"'

end Place

def endsWord (c : Char) : Bool :=
  c == ' ' || c == '\t' || c == '\n' || c == ';' || c == '&' || c == '|' || c == '(' || c == ')'
    || c == '<' || c == '>'

def isOrdinary (c : Char) : Bool :=
  !(endsWord c || c == '\\' || c == '$' || c == '"' || c == '\'' || c == backtick || c == '\x7d')

def prependPlain (characters : Octets) : Word → Word
  | .plain more :: rest => .plain (characters ++ more) :: rest
  | word => .plain characters :: word

def prepend (piece : Piece) (word : Word) : Word :=
  match piece with
  | .plain characters => prependPlain characters word
  | piece => piece :: word

def readApostrophes : Reading Piece := do
  let characters ← takeRun (· != '\'')
  if (← get).ahead.isEmpty then fail .unterminatedQuote
  else do
    advance
    return .quoted [.plain characters]

/-- What a backslash that has been read stands for together with the next character. -/
def readEscape (place : Place) : Reading Piece := do
  match (← get).ahead with
  | [] => return .literal ['\\']
  | c :: _ => do
    advance
    return .literal (if place.escapes c then [c] else ['\\', c])

/-- The script between backticks, behind the first one. Fuel as for the characters is enough. -/
def takeBackquoted (isQuoted : Bool) : Nat → Reading Octets
  | 0 => fail .unterminatedBackquote
  | fuel + 1 => do
    match ← peek with
    | none => fail .unterminatedBackquote
    | some c => do
      advance
      if c == backtick then return []
      else if c == '\\' then
        match (← get).ahead with
        | [] => fail .unterminatedBackquote
        | d :: _ => do
          advance
          let kept :=
            if d == '\\' || d == backtick || d == '$' || (isQuoted && d == '"') then [d]
            else ['\\', d]
          return kept ++ (← takeBackquoted isQuoted fuel)
      else return c :: (← takeBackquoted isQuoted fuel)

/-- The parameter behind an opening brace and whether its size is asked for, none if there is no
parameter. -/
def readParameter : Reading (Option (Parameter × Bool)) := do
  let readName : Reading Parameter := do
    return .named (← takeJoined isNameChar (← get).ahead.length)
  match ← peek with
  | none => return none
  | some '\x7d' => return none
  | some '#' => do
    advance
    match ← peek with
    | none => return some (.count, false)
    | some c =>
      if startsName c then return some (← readName, true)
      else if c.isDigit then do
        advance
        return some (.position (c.toNat - '0'.toNat), true)
      else do
        let behind ← get
        advance
        if c != '\x7d' && (← peek) == some '\x7d' then
          return (Parameter.ofSpecial? c).map fun parameter => (parameter, true)
        else do
          set behind
          return some (.count, false)
  | some c =>
    if startsName c then return some (← readName, false)
    else if c.isDigit then do
      let digits ← takeJoined Char.isDigit (← get).ahead.length
      return some (.position (digits.foldl (fun value d => value * 10 + (d.toNat - 48)) 0), false)
    else do
      advance
      return (Parameter.ofSpecial? c).map fun parameter => (parameter, false)

def Substitution.ofChar? : Char → Option Substitution
  | '-' => some .fallback
  | '=' => some .assignment
  | '?' => some .complaint
  | '+' => some .replacement
  | _ => none

inductive ListKind
  | line
  /-- With a token that belongs to the command around it; there is at least one command. -/
  | body
  | optional
  deriving DecidableEq, Repr

def specialNames : List String :=
  [".", ":", "break", "continue", "eval", "exec", "exit", "export", "readonly", "return", "set",
    "shift", "times", "trap", "unset"]

mutual

def readPieces : Nat → Place → Reading Word
  | 0, _ => fail .unterminatedQuote
  | fuel + 1, place => do
    match ← peek with
    | none =>
      match place.problemAtEnd? with
      | some problem => fail problem
      | none => return []
    | some c =>
      let more (piece : Piece) : Reading Word := do
        return prepend piece (← readPieces fuel place)
      let skip (piece : Piece) : Reading Word := do
        advance
        more piece
      match place with
      | .sum depth =>
        if c == '(' then do
          advance
          return prependPlain [c] (← readPieces fuel (.sum (depth + 1)))
        else if c == ')' then do
          advance
          if 0 < depth then return prependPlain [c] (← readPieces fuel (.sum (depth - 1)))
          else if (← peek) == some ')' then do
            advance
            return []
          else return prependPlain [c] (← readPieces fuel place)
        else if c == '"' || c == '\'' then skip (.plain [c])
        else readPiece fuel place c
      | .quotedBraces isToggled inDocument =>
        if c == '\x7d' && !isToggled then do
          advance
          return []
        else if c == '"' then do
          advance
          readPieces fuel (.quotedBraces (!isToggled) inDocument)
        else if c == '\'' then skip (.plain [c])
        else readPiece fuel place c
      | .document => if c == '"' || c == '\'' then skip (.plain [c]) else readPiece fuel place c
      | .quotes =>
        if c == '"' then do
          advance
          return []
        else if c == '\'' then skip (.plain [c])
        else readPiece fuel place c
      | .braces =>
        if c == '\x7d' then do
          advance
          return []
        else readPiece fuel place c
      | .delimiter =>
        if endsWord c then return []
        else if c == '$' || c == backtick then skip (.plain [c])
        else readPiece fuel place c
      | .word => if endsWord c then return [] else readPiece fuel place c

/-- Reads a piece that begins with the given character, which is still ahead, and the pieces behind
it. -/
def readPiece : Nat → Place → Char → Reading Word
  | 0, _, _ => fail .unterminatedQuote
  | fuel + 1, place, c => do
    if isOrdinary c then
      let run ← takeRun isOrdinary
      return prependPlain run (← readPieces fuel place)
    else do
      advance
      let piece ←
        if c == '\\' then readEscape place
        else if c == '\'' then readApostrophes
        else if c == '"' then do
          let inside ← readPieces fuel .quotes
          pure (.quoted inside)
        else if c == '$' then readValue fuel place
        else if c == backtick then do
          let script ← takeBackquoted place.isQuoted (← get).ahead.length.succ
          let body ← within script 1 (readList fuel .optional [])
          pure (.output body)
        else pure (.plain [c])
      return prepend piece (← readPieces fuel place)

def readValue : Nat → Place → Reading Piece
  | 0, _ => fail .unterminatedQuote
  | fuel + 1, place => do
    match ← peek with
    | some '(' => do
      advance
      if (← peek) == some '(' then do
        advance
        return .sum (← readPieces fuel (.sum 0))
      else return .output (← readOutput fuel)
    | some '\x7b' => do
      advance
      readBraces fuel place
    | some c =>
      if startsName c then
        return .value (.named (← takeJoined isNameChar (← get).ahead.length)) .none
      else
        match Parameter.ofSpecial? c with
        | some parameter => do
          advance
          return .value parameter .none
        | none => return .plain ['$']
    | none => return .plain ['$']

def readBraces : Nat → Place → Reading Piece
  | 0, _ => fail .missingBrace
  | fuel + 1, place => do
    let invalid : Reading Piece := do
      let _ ← readPieces fuel place.inBraces
      return .value .status .invalid
    match ← readParameter with
    | none => invalid
    | some (parameter, true) =>
      if (← peek) == some '\x7d' then do
        advance
        return .value parameter .size
      else invalid
    | some (parameter, false) =>
      match ← peek with
      | none => invalid
      | some c => do
        let line := (← get).line
        advance
        if c == '\x7d' then return .value parameter .none
        else if c == '%' || c == '#' then do
          let isLongest := (← peek) == some c
          if isLongest then advance
          return .value parameter (.trim (c == '%') isLongest (← readPieces fuel .braces))
        else do
          let whenEmpty := c == ':'
          let sign ← if whenEmpty then peek else pure (some c)
          match sign.bind Substitution.ofChar? with
          | some kind => do
            if whenEmpty then advance
            return .value parameter
              (.substitute kind whenEmpty (← readPieces fuel place.inBraces))
          | none => do
            -- A line end here does not count as one.
            if whenEmpty then advance
            else modify fun source => { source with line }
            invalid

def readOutput : Nat → Reading Script
  | 0 => fail .unterminatedQuote
  | fuel + 1 => do
    let pending := (← get).pending
    modify fun source => { source with pending := [] }
    let body ← readList fuel .optional []
    match ← readToken fuel false false with
    | .closing => do
      modify fun source => { source with pending }
      return body
    | token => unexpected token (some .closing)

def readRawToken : Nat → Place → Reading Token
  | 0, _ => return .endOfScript
  | fuel + 1, place => do
    match (← get).putBack with
    | some token => do
      modify fun source => { source with putBack := none }
      return token
    | none =>
      let either (second : Char) (both one : Token) : Reading Token := do
        advance
        if (← peek) == some second then do
          advance
          return both
        else return one
      match ← peek with
      | none => return .endOfScript
      | some ' ' | some '\t' => do
        advance
        readRawToken fuel place
      | some '#' => do
        let _ ← takeRun (· != '\n')
        readRawToken fuel place
      | some '\n' => do
        advance
        return .lineEnd
      | some '&' => either '&' .onSuccess .background
      | some '|' => either '|' .onFailure .pipe
      | some ';' => either ';' .endOfAlternative .semicolon
      | some '(' => do
        advance
        return .opening
      | some ')' => do
        advance
        return .closing
      | some _ => do
        let word ← readPieces fuel place
        let stream? : Option (Option Nat) := match word with
          | [] => some none
          | [.plain [d]] => if d.isDigit then some (some (d.toNat - '0'.toNat)) else none
          | _ => none
        match stream?, ← peek with
        | some stream, some '>' => do
          advance
          let kind ← match ← peek with
            | some '>' => do advance; pure (.opened .append)
            | some '|' => do advance; pure (.opened .overwrite)
            | some '&' => do advance; pure .copied
            | _ => pure (.opened .write)
          return .redirection (stream.getD 1) kind
        | some stream, some '<' => do
          advance
          let kind ← match ← peek with
            | some '<' => do
              advance
              if (← peek) == some '-' then do
                advance
                pure (.document true)
              else pure (.document false)
            | some '&' => do advance; pure .copied
            | some '>' => do advance; pure (.opened .readWrite)
            | _ => pure (.opened .read)
          return .redirection (stream.getD 0) kind
        | _, _ => return .word word

def readDocuments : Nat → Reading Unit
  | 0 => return ()
  | fuel + 1 => do
    let source ← get
    match source.pending with
    | [] => return ()
    | document :: pending => do
      let (text, ahead, line) := takeDocument document true source.ahead.length.succ
        source.ahead source.line
      let atEnd (error : SyntaxError) : SyntaxError :=
        if error.problem == .missingBrace || error.problem == .missingParentheses then
          { error with line }
        else error
      let word ←
        if document.isExpanded then
          tryCatch (within text source.line (readPieces fuel .document)) (throw <| atEnd ·)
        else pure [.literal text]
      modify fun current => { source with
        ahead, line, pending
        documents := (document.number, word) :: current.documents
        documentCount := current.documentCount }
      readDocuments fuel

/-- Reads a token. Line ends are skipped and reserved words are recognised if so asked for. -/
def readToken : Nat → Bool → Bool → Reading Token
  | 0, _, _ => return .endOfScript
  | fuel + 1, skipsLineEnds, findsKeywords => do
    match ← readRawToken fuel .word with
    | .lineEnd =>
      if skipsLineEnds then do
        readDocuments fuel
        readToken fuel true findsKeywords
      else return .lineEnd
    | .word word =>
      if findsKeywords then
        return ((word.plainText?.bind Keyword.ofOctets?).map Token.keyword).getD (.word word)
      else return .word word
    | token => return token

/-- Reads a list of commands behind those that have been read, the last one of which comes first. -/
def readList : Nat → ListKind → List Script → Reading Script
  | 0, _, before => return .sequence before.reverse
  | fuel + 1, kind, before => do
    let token ← readToken fuel (kind != .line) true
    let finish (commands : List Script) : Reading Script := do
      readDocuments fuel
      unread .endOfScript
      return .sequence commands.reverse
    match token with
    | .lineEnd => do
      readDocuments fuel
      return .sequence before.reverse
    | .endOfScript => finish before
    | _ => do
      unread token
      let mayEnd := kind == .optional || (kind == .body && !before.isEmpty)
      if mayEnd && token.endsList then return .sequence before.reverse
      else do
        let command ← readConditional fuel
        let next ← readToken fuel false false
        let commands := (match next with
          | .background => Script.background command
          | _ => command) :: before
        match next with
        | .endOfScript => finish commands
        | .lineEnd => do
          unread .lineEnd
          readList fuel kind commands
        | .background | .semicolon => readList fuel kind commands
        | _ =>
          if kind == .line then unexpected next none
          else do
            unread next
            return .sequence commands.reverse

def readConditional : Nat → Reading Script
  | 0 => return .nothing
  | fuel + 1 => do
    let first ← readPipe fuel false
    readConditions fuel first

def readConditions : Nat → Script → Reading Script
  | 0, first => return first
  | fuel + 1, first => do
    match ← readToken fuel false false with
    | .onSuccess => do
      let second ← readPipe fuel true
      readConditions fuel (.onSuccess first second)
    | .onFailure => do
      let second ← readPipe fuel true
      readConditions fuel (.onFailure first second)
    | token => do
      unread token
      return first

def readPipe : Nat → Bool → Reading Script
  | 0, _ => return .nothing
  | fuel + 1, isContinued => do
    let token ← readToken fuel isContinued isContinued
    let isNegated := token.isKeyword .not
    if !isNegated then unread token
    let first ← readCommand fuel false isNegated
    let parts ← readParts fuel
    let whole := if parts.isEmpty then first else Script.pipe (first :: parts)
    return if isNegated then .negated whole else whole

def readParts : Nat → Reading (List Script)
  | 0 => return []
  | fuel + 1 => do
    match ← readToken fuel false false with
    | .pipe => do
      let part ← readCommand fuel true true
      return part :: (← readParts fuel)
    | token => do
      unread token
      return []

def expectKeyword : Nat → Bool → Bool → Keyword → Reading Unit
  | 0, _, _, _ => return ()
  | fuel + 1, skipsLineEnds, findsKeywords, expected => do
    let token ← readToken fuel skipsLineEnds findsKeywords
    if token.isKeyword expected then return ()
    else unexpected token (some (.keyword expected))

def readBody : Nat → Reading Script
  | 0 => return .nothing
  | fuel + 1 => readList fuel .body []

def readBranch : Nat → Reading Script
  | 0 => return .nothing
  | fuel + 1 => do
    let condition ← readBody fuel
    expectKeyword fuel false false .then
    let thenPart ← readBody fuel
    let token ← readToken fuel false false
    if token.isKeyword .elif then return .branch condition thenPart (← readBranch fuel)
    else if token.isKeyword .else then do
      let elsePart ← readBody fuel
      expectKeyword fuel false false .fi
      return .branch condition thenPart elsePart
    else if token.isKeyword .fi then return .branch condition thenPart .nothing
    else unexpected token (some (.keyword .fi))

def readLoopWords : Nat → Reading (List Word)
  | 0 => return []
  | fuel + 1 => do
    match ← readToken fuel false false with
    | .word word => return word :: (← readLoopWords fuel)
    | .lineEnd => return []
    | .semicolon => return []
    | token => unexpected token none

def readEach : Nat → Nat → Reading Script
  | 0, _ => return .nothing
  | fuel + 1, line => do
    match ← readToken fuel false false with
    | .word word =>
      match word.plainText?.filter isName with
      | none => fail .badLoopVariable
      | some name => do
        let token ← readToken fuel true true
        let words ←
          if token.isKeyword .in then readLoopWords fuel
          else do
            match token with
            | .semicolon => pure ()
            | token => unread token
            pure [allParameters]
        expectKeyword fuel true true .do
        let body ← readBody fuel
        expectKeyword fuel false false .done
        return .each line name words body
    | _ => fail .badLoopVariable

/-- Reads the patterns of an alternative, the first of which begins with the given token. -/
def readPatterns : Nat → Token → Reading (List Word)
  | 0, _ => return []
  | fuel + 1, token => do
    let pattern : Word := match token with
      | .word word => word
      | .keyword reserved => [.plain reserved.spelling.toList]
      | _ => []
    match ← readToken fuel false false with
    | .pipe => do
      let next ← readToken fuel false false
      return pattern :: (← readPatterns fuel next)
    | .closing => return [pattern]
    | next => unexpected next (some .closing)

def readAlternatives : Nat → Reading (List Alternative)
  | 0 => return []
  | fuel + 1 => do
    let token ← readToken fuel true true
    if token.isKeyword .esac then return []
    else do
      let first ← match token with
        | .opening => readToken fuel false false
        | token => pure token
      let patterns ← readPatterns fuel first
      let body ← readList fuel .optional []
      let next ← readToken fuel true true
      if next.isKeyword .esac then return [.fitting patterns body]
      else
        match next with
        | .endOfAlternative => return .fitting patterns body :: (← readAlternatives fuel)
        | next => unexpected next (some .endOfAlternative)

def readChoice : Nat → Nat → Reading Script
  | 0, _ => return .nothing
  | fuel + 1, line => do
    match ← readToken fuel false false with
    | .word subject => do
      expectKeyword fuel true true .in
      return .choice line subject (← readAlternatives fuel)
    | token => unexpected token (some (.word []))

def readRedirection : Nat → Nat → RedirectionKind → Reading Redirection
  | 0, stream, _ => return .copied stream []
  | fuel + 1, stream, kind => do
    match kind with
    | .document dropsTabs =>
      match ← readRawToken fuel .delimiter with
      | .word delimiter => return .document stream (← askForDocument delimiter dropsTabs)
      | token => unexpected token none
    | .opened mode =>
      match ← readToken fuel false false with
      | .word file => return .opened stream mode file
      | token => unexpected token none
    | .copied =>
      match ← readToken fuel false false with
      | .word other => return .copied stream other
      | token => unexpected token none

def readRedirections : Nat → Bool → Reading (List Redirection)
  | 0, _ => return []
  | fuel + 1, findsKeywords => do
    match ← readToken fuel false findsKeywords with
    | .redirection stream kind => do
      let redirection ← readRedirection fuel stream kind
      return redirection :: (← readRedirections fuel false)
    | token => do
      unread token
      return []

def readCommand : Nat → Bool → Bool → Reading Script
  | 0, _, _ => return .nothing
  | fuel + 1, skipsLineEnds, findsKeywords => do
    let line := (← get).line
    let token ← readToken fuel skipsLineEnds findsKeywords
    let redirect (body : Script) : Reading Script := do
      match ← readRedirections fuel true with
      | [] => return body
      | redirections => return .redirected line body redirections
    match token with
    | .keyword .if => redirect (← readBranch fuel)
    | .keyword .while => do
      let condition ← readBody fuel
      expectKeyword fuel false false .do
      let body ← readBody fuel
      expectKeyword fuel false false .done
      redirect (.loop false condition body)
    | .keyword .until => do
      let condition ← readBody fuel
      expectKeyword fuel false false .do
      let body ← readBody fuel
      expectKeyword fuel false false .done
      redirect (.loop true condition body)
    | .keyword .for => redirect (← readEach fuel line)
    | .keyword .case => redirect (← readChoice fuel line)
    | .keyword .openBrace => do
      let body ← readBody fuel
      expectKeyword fuel false false .closeBrace
      redirect body
    | .opening => do
      let body ← readBody fuel
      match ← readToken fuel false false with
      | .closing => return .subshell line body (← readRedirections fuel true)
      | next => unexpected next (some .closing)
    | .word _ | .redirection _ _ => do
      unread token
      readSimple fuel (← get).line true [] [] []
    | _ => unexpected token none

/-- Reads a simple command behind what has been read of it, or a function. `mayAssign` says that no
word but assignments has been read. -/
def readSimple : Nat → Nat → Bool → List Word → List Word → List Redirection → Reading Script
  | 0, line, _, assignments, words, redirections =>
    return .simple line assignments words redirections
  | fuel + 1, line, mayAssign, assignments, words, redirections => do
    let token ← readToken fuel false false
    let finish : Reading Script := do
      unread token
      return .simple line assignments words redirections
    match token with
    | .word word =>
      if mayAssign && word.isAssignment then
        readSimple fuel line true (assignments ++ [word]) words redirections
      else readSimple fuel line false assignments (words ++ [word]) redirections
    | .redirection stream kind => do
      let redirection ← readRedirection fuel stream kind
      readSimple fuel line mayAssign assignments words (redirections ++ [redirection])
    | .opening =>
      match words, assignments, redirections with
      | [name], [], [] =>
        match ← readToken fuel false false with
        | .closing =>
          match name.plainText?.filter fun name =>
              isName name && !specialNames.contains (String.ofList name) with
          | some name => do
            let start := (← get).line
            return .function start name (← readCommand fuel true true)
          | none => fail .badFunctionName
        | next => unexpected next (some .closing)
      | _, _, _ => finish
    | _ => finish

end

def Source.fuel (source : Source) : Nat := 24 * (source.ahead.length + 8)

def readUnit : Reading (Option Script) := do
  let fuel := (← get).fuel
  match ← readToken fuel false true with
  | .endOfScript => return none
  | token => do
    unread token
    return some (← readList fuel .line [])

end Culprit.Shell
