import Culprit.Rules.Bracket
import Culprit.Rules.Keyword

/-!
# Diagnostics

What can be wrong with a rule document. A problem carries what its message speaks of; its code and
its message are functions of it. A diagnostic is a problem at a place.
-/

namespace Culprit

/-- A statement that stands on a line of its own outside of blocks. -/
inductive StatementKind
  | package
  | importing
  | global
  | dialect
  | declaration
  | functionSignature
  deriving DecidableEq, Repr

/-- Something that is wrong with a rule document. -/
inductive Problem
  | unterminatedString
  | unterminatedComment
  | unexpectedCloser (bracket : Bracket)
  | unclosedOpener (bracket : Bracket)
  | functionWithoutBody (label : Text)
  /-- A block that the document ends in, or that another block starts in. -/
  | missingEnd (block : Keyword) (label : Text) (before : Option Keyword)
  | ruleWithoutThen (label : Text)
  | invalidField (line : Text) (typeLabel : Text)
  | whenAfterThen
  | duplicateWhen
  | duplicateThen
  | misplacedPackage
  /-- A statement that does not have the form its first word asks for. -/
  | malformed (kind : StatementKind) (line : Text)
  | blockWithoutName (block : Keyword)
  | endWithoutBlock
  | unexpectedInput (line : Text)
  deriving DecidableEq, Repr

namespace Problem

def malformedCode : StatementKind → String
  | .package => "INVALID_PACKAGE"
  | .importing => "INVALID_IMPORT"
  | .global => "INVALID_GLOBAL"
  | .dialect => "INVALID_DIALECT"
  | .declaration => "INVALID_DECLARE"
  | .functionSignature => "INVALID_FUNCTION"

def malformedNoun : StatementKind → String
  | .package => "package declaration"
  | .importing => "import"
  | .global => "global"
  | .dialect => "dialect"
  | .declaration => "type declaration"
  | .functionSignature => "function signature"

def code : Problem → String
  | .unterminatedString => "UNTERMINATED_STRING"
  | .unterminatedComment => "UNTERMINATED_COMMENT"
  | .unexpectedCloser _ => "UNEXPECTED_DELIMITER"
  | .unclosedOpener _ => "UNCLOSED_DELIMITER"
  | .functionWithoutBody _ => "MISSING_BODY"
  | .missingEnd _ _ _ => "MISSING_END"
  | .ruleWithoutThen _ => "MISSING_THEN"
  | .invalidField _ _ => "INVALID_FIELD"
  | .whenAfterThen => "MISPLACED_WHEN"
  | .duplicateWhen => "DUPLICATE_WHEN"
  | .duplicateThen => "DUPLICATE_THEN"
  | .misplacedPackage => "MISPLACED_PACKAGE"
  | .malformed kind _ => malformedCode kind
  | .blockWithoutName _ => "MISSING_NAME"
  | .endWithoutBlock => "UNEXPECTED_END"
  | .unexpectedInput _ => "UNEXPECTED_INPUT"

def quoted (text : Text) : String := "'" ++ String.ofList text ++ "'"

def message : Problem → String
  | .unterminatedString => "Unterminated string literal"
  | .unterminatedComment => "Unterminated block comment"
  | .unexpectedCloser bracket => "Unexpected " ++ quoted [bracket.closer]
  | .unclosedOpener bracket =>
    "Unclosed " ++ quoted [bracket.opener] ++ " (expected " ++ quoted [bracket.closer]
      ++ " before end of input)"
  | .functionWithoutBody label => "Function " ++ quoted label ++ " has no body"
  | .missingEnd block label none =>
    "Missing 'end' for " ++ block.spelling ++ " " ++ quoted label
  | .missingEnd block label (some next) =>
    "Missing 'end' for " ++ block.spelling ++ " " ++ quoted label
      ++ " before " ++ quoted next.spelling.toList
  | .ruleWithoutThen label => "Rule " ++ quoted label ++ " has no 'then' section"
  | .invalidField line typeLabel =>
    "Invalid field declaration " ++ quoted line ++ " in type " ++ quoted typeLabel
  | .whenAfterThen => "'when' after 'then'"
  | .duplicateWhen => "Duplicate 'when'"
  | .duplicateThen => "Duplicate 'then'"
  | .misplacedPackage => "Package declaration must come first"
  | .malformed kind line => "Malformed " ++ malformedNoun kind ++ " " ++ quoted line
  | .blockWithoutName block => block.capitalized ++ " declaration without a name"
  | .endWithoutBlock => "'end' without an open block"
  | .unexpectedInput line => "Unexpected input " ++ quoted line

end Problem

structure Diagnostic where
  problem : Problem
  position : Position
  deriving DecidableEq, Repr

namespace Diagnostic

def atLine (number : Nat) (problem : Problem) : Diagnostic := ⟨problem, ⟨number, 1⟩⟩

def render (diagnostic : Diagnostic) : String :=
  "[line " ++ toString diagnostic.position.line ++ ":" ++ toString diagnostic.position.column
    ++ "] " ++ diagnostic.problem.message

end Diagnostic
end Culprit
