import Culprit.Oracle.Failure

/-!
# The words of a command

A command is written as one text and cut into words the way a shell cuts them: at blanks, except
inside quotes and behind backslashes. Between apostrophes everything stands for itself; between
double quotes a backslash escapes only itself and the double quote. Quotes make a word even of
nothing. Nothing is expanded and nothing is a comment.
-/

namespace Culprit.Command

def isSeparator (c : Char) : Bool := c == ' ' || c == '\t' || c == '\r' || c == '\n'

inductive WordState
  | between
  | inWord
  | quoted (quote : Char)
  | escaped (inQuotes : Bool)
  deriving DecidableEq, Repr

def readWords (state : WordState) (word : Text) : Text → Except Failure (List Text)
  | [] =>
    match state with
    | .between => .ok []
    | .inWord => .ok [word]
    | .quoted _ => .error .unclosedQuotation
    | .escaped _ => .error .danglingEscape
  | c :: rest =>
    match state with
    | .between =>
      if isSeparator c then readWords .between [] rest
      else if c == '\\' then readWords (.escaped false) [] rest
      else if c == '"' || c == '\'' then readWords (.quoted c) [] rest
      else readWords .inWord [c] rest
    | .inWord =>
      if isSeparator c then (readWords .between [] rest).map (word :: ·)
      else if c == '\\' then readWords (.escaped false) word rest
      else if c == '"' || c == '\'' then readWords (.quoted c) word rest
      else readWords .inWord (word ++ [c]) rest
    | .quoted quote =>
      if c == quote then readWords .inWord word rest
      else if c == '\\' && quote == '"' then readWords (.escaped true) word rest
      else readWords (.quoted quote) (word ++ [c]) rest
    | .escaped false => readWords .inWord (word ++ [c]) rest
    | .escaped true =>
      let kept := if c == '\\' || c == '"' then [c] else ['\\', c]
      readWords (.quoted '"') (word ++ kept) rest

def words (command : Text) : Except Failure (List Text) := readWords .between [] command

end Culprit.Command
