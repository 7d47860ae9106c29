import Culprit.Cli.Arguments

/-!
# Help

How the command explains its usage. The explanation is filled into lines of a given width: the usage
into lines that begin below each other, the explanations of the arguments into a column beside them.
-/

namespace Culprit.Cli

/-! ### Lines -/

/-- Cuts words into lines of a width behind a margin. The current line has the given words and
reaches up to an end; a word that does not fit begins a line, and every line has a word. -/
def cutLines (width : Int) (margin : Nat) (line : List String) (lineEnd : Int) :
    List String → List (List String)
  | [] => if line.isEmpty then [] else [line]
  | word :: rest =>
    let behind : Int := lineEnd + 1 + word.length
    if width < behind && !line.isEmpty then
      line :: cutLines width margin [word] (margin + word.length) rest
    else cutLines width margin (line ++ [word]) behind rest

/-- Words in lines of a width behind a margin, the first of which continues the given words. -/
def fillLines (width : Int) (margin : Nat) (line : List String) (lineEnd : Int)
    (words : List String) : List String :=
  (cutLines width margin line lineEnd words).map (" ".intercalate)

def fillText (width : Int) (words : List String) : List String := fillLines width 0 [] (-1) words

def blanks (count : Nat) : String := "".pushn ' ' count

def indented (margin : Nat) (lines : List String) : String :=
  String.join (lines.map fun line => blanks margin ++ line ++ "\n")

/-! ### The usage -/

def choiceText (option : Switch) : String :=
  "\x7b" ++ ",".intercalate option.choices ++ "\x7d"

def Switch.short : Switch → String
  | .help => "-h"
  | option => if option.takesValue then option.long ++ " " ++ choiceText option else option.long

def Switch.heading : Switch → String
  | .help => "-h, " ++ Switch.long .help
  | option => option.short

def inputName : String := "input"

def usage (width : Int) : String :=
  let opening := "usage: "
  let options := Switch.all.map fun option => "[" ++ option.short ++ "]"
  let whole := " ".intercalate (Release.command :: options ++ [inputName])
  if (opening.length + whole.length : Int) ≤ width then opening ++ whole ++ "\n"
  else if (4 * (opening.length + Release.command.length) : Int) ≤ 3 * width then
    let margin := opening.length + Release.command.length + 1
    let lines := fillLines width margin [Release.command] (margin - 1) options
    opening ++ String.join (lines.take 1) ++ "\n"
      ++ indented margin (lines.drop 1 ++ [inputName])
  else
    let margin := opening.length
    let fill (words : List String) : List String := fillLines width margin [] (margin - 1) words
    let joined := fill (options ++ [inputName])
    let lines := if joined.length = 1 then joined else fill options ++ [inputName]
    opening ++ Release.command ++ "\n" ++ indented margin lines

/-! ### The explanation -/

def purpose : List String :=
  ["Locate", "the", "line", "that", "makes", "a", "Drools", "DRL", "file", "fail", "to", "compile"]

def inputHelp : List String := ["DRL", "file", "to", "check", "('-'", "reads", "stdin)"]

def Switch.explanation : Switch → List String
  | .help => ["show", "this", "help", "message", "and", "exit"]
  | .oracle => ["Verifier", "oracle", "(default:", "ORACLE", "setting)"]
  | .completer => ["Prefix", "completion", "strategy", "(default:", "COMPLETER", "setting)"]
  | .version => ["show", "program's", "version", "number", "and", "exit"]

def leastWidth : Int := 11

/-- An argument and its explanation, which begins on a line of its own if the argument reaches into
its column. -/
def explain (width : Int) (heading : String) (words : List String) : String :=
  let margin := (min 24 (max (width - 20) 4)).toNat
  let lines := fillText (max (width - margin) leastWidth) words
  let front := "  " ++ heading
  if front.length + 2 ≤ margin then
    front ++ blanks (margin - front.length) ++ String.join (lines.take 1) ++ "\n"
      ++ indented margin (lines.drop 1)
  else front ++ "\n" ++ indented margin lines

def helpText (width : Int) : String :=
  usage width
    ++ "\n" ++ indented 0 (fillText (max width leastWidth) purpose)
    ++ "\npositional arguments:\n" ++ explain width inputName inputHelp
    ++ "\noptions:\n"
    ++ String.join (Switch.all.map fun option => explain width option.heading option.explanation)

def versionText : String := Release.command ++ " " ++ Release.version ++ "\n"

def UsageError.text (width : Int) (error : UsageError) : String :=
  usage width ++ Release.command ++ ": error: " ++ error.message ++ "\n"

end Culprit.Cli
