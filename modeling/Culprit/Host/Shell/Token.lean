import Culprit.Host.Shell.Script

/-!
# Tokens of scripts

What a script is cut into, and why a text is no script. Reserved words are only recognised where
the grammar expects them, so a reader first sees them as words.
-/

namespace Culprit.Shell

/-- A word that has a meaning of its own in the grammar. -/
inductive Keyword
  | not
  | case
  | do
  | done
  | elif
  | else
  | esac
  | fi
  | for
  | if
  | in
  | then
  | until
  | while
  | openBrace
  | closeBrace
  deriving DecidableEq, Repr

namespace Keyword

def spelling : Keyword → String
  | .not => "!"
  | .case => "case"
  | .do => "do"
  | .done => "done"
  | .elif => "elif"
  | .else => "else"
  | .esac => "esac"
  | .fi => "fi"
  | .for => "for"
  | .if => "if"
  | .in => "in"
  | .then => "then"
  | .until => "until"
  | .while => "while"
  | .openBrace => "\x7b"
  | .closeBrace => "\x7d"

def all : List Keyword :=
  [.not, .case, .do, .done, .elif, .else, .esac, .fi, .for, .if, .in, .then, .until, .while,
    .openBrace, .closeBrace]

def ofOctets? (octets : Octets) : Option Keyword :=
  all.find? fun keyword => keyword.spelling.toList == octets

def endsList : Keyword → Bool
  | .do | .done | .elif | .else | .esac | .fi | .then | .closeBrace => true
  | _ => false

end Keyword

/-- The kind of a redirection, before it is known what it leads to. -/
inductive RedirectionKind
  | opened (mode : OpenMode)
  | copied
  | document (dropsTabs : Bool)
  deriving DecidableEq, Repr

inductive Token
  | endOfScript
  | lineEnd
  | semicolon
  | background
  | onSuccess
  | onFailure
  | pipe
  | opening
  | closing
  | endOfAlternative
  | redirection (stream : Nat) (kind : RedirectionKind)
  | word (word : Word)
  | keyword (keyword : Keyword)

namespace Token

def name : Token → String
  | .endOfScript => "end of file"
  | .lineEnd => "newline"
  | .semicolon => "\";\""
  | .background => "\"&\""
  | .onSuccess => "\"&&\""
  | .onFailure => "\"||\""
  | .pipe => "\"|\""
  | .opening => "\"(\""
  | .closing => "\")\""
  | .endOfAlternative => "\";;\""
  | .redirection _ _ => "redirection"
  | .word _ => "word"
  | .keyword reserved => "\"" ++ reserved.spelling ++ "\""

def endsList : Token → Bool
  | .endOfScript | .closing | .endOfAlternative => true
  | .keyword reserved => reserved.endsList
  | _ => false

def isKeyword (expected : Keyword) : Token → Bool
  | .keyword reserved => reserved == expected
  | _ => false

end Token

inductive SyntaxProblem
  | unterminatedQuote
  | unterminatedBackquote
  | missingBrace
  | missingParentheses
  | badLoopVariable
  | badFunctionName
  | badStreamNumber
  | unexpected (token : String) (expected : Option String)
  deriving DecidableEq, Repr

def SyntaxProblem.message (problem : SyntaxProblem) : String :=
  "Syntax error: " ++ match problem with
    | .unterminatedQuote => "Unterminated quoted string"
    | .unterminatedBackquote => "EOF in backquote substitution"
    | .missingBrace => "Missing '\x7d'"
    | .missingParentheses => "Missing '))'"
    | .badLoopVariable => "Bad for loop variable"
    | .badFunctionName => "Bad function name"
    | .badStreamNumber => "Bad fd number"
    | .unexpected token none => token ++ " unexpected"
    | .unexpected token (some expected) =>
      token ++ " unexpected (expecting " ++ expected ++ ")"

/-- A syntax error and the line on which the reader stood. -/
structure SyntaxError where
  line : Nat
  problem : SyntaxProblem
  deriving DecidableEq, Repr

end Culprit.Shell
