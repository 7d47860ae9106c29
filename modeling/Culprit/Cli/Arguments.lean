import Culprit.Completion
import Culprit.Oracle.Kind
import Culprit.Release
import Culprit.Text.DecimalDigit
import Culprit.Text.Quoted

/-!
# Arguments of the command

What the words behind the command ask for: help, the version, or a check of one file with an oracle
and a completion. An argument is first classified on its own: it is an option if it starts with a
dash and is neither a dash alone, nor a negative number, nor a text with a space. Long options may
be shortened as long as they stay unique, and take their value behind an equals sign or as the next
argument. Two dashes end the options. Then the arguments are read in order, and the first error or
the first request for help or for the version settles the matter.
-/

namespace Culprit.Cli

/-! ### Options -/

inductive Switch
  | help
  | oracle
  | completer
  | version
  deriving DecidableEq, Repr

namespace Switch

def all : List Switch := [.help, .oracle, .completer, .version]

def long : Switch → String
  | .help => "--help"
  | .oracle => "--oracle"
  | .completer => "--completer"
  | .version => "--version"

def title : Switch → String
  | .help => "-h/--help"
  | option => option.long

def choices : Switch → List String
  | .help => []
  | .oracle => OracleKind.names
  | .completer => Completion.names
  | .version => []

def takesValue (option : Switch) : Bool := !option.choices.isEmpty

def startingWith (beginning : Text) : List Switch :=
  all.filter fun option => beginning.isPrefixOf option.long.toList

end Switch

/-! ### Errors -/

inductive UsageError
  | ambiguous (argument : Text) (candidates : List Switch)
  | missingValue (option : Switch)
  | unknownValue (option : Switch) (value : Text)
  | needlessValue (option : Switch) (value : Text)
  | missingInput
  | unrecognized (arguments : List Text)
  deriving DecidableEq, Repr

def UsageError.message : UsageError → String
  | .ambiguous argument candidates =>
    "ambiguous option: " ++ String.ofList argument ++ " could match "
      ++ ", ".intercalate (candidates.map Switch.long)
  | .missingValue option => "argument " ++ option.title ++ ": expected one argument"
  | .unknownValue option value =>
    "argument " ++ option.title ++ ": invalid choice: " ++ String.ofList (Text.quote value)
      ++ " (choose from "
      ++ ", ".intercalate
        (option.choices.map fun choice => String.ofList (Text.quote choice.toList))
      ++ ")"
  | .needlessValue option value =>
    "argument " ++ option.title ++ ": ignored explicit argument "
      ++ String.ofList (Text.quote value)
  | .missingInput => "the following arguments are required: input"
  | .unrecognized arguments =>
    "unrecognized arguments: " ++ " ".intercalate (arguments.map String.ofList)

/-! ### Classifying arguments -/

inductive Argument
  | plain (text : Text)
  | separator
  | switch (option : Switch) (value : Option Text)
  | shortHelp (tail : Text)
  | unknown (text : Text)
  deriving DecidableEq, Repr

/-- Whether a text is a negative number. A line feed at its end does not matter. -/
def isNegativeNumber (argument : Text) : Bool :=
  let text := if argument.getLast? == some '\n' then argument.dropLast else argument
  match text with
  | '-' :: number =>
    let whole := number.takeWhile Text.isDecimalDigit
    match number.drop whole.length with
    | [] => !whole.isEmpty
    | '.' :: fraction => !fraction.isEmpty && fraction.all Text.isDecimalDigit
    | _ => false
  | _ => false

/-- The part of a text before the first equals sign, and the part behind it if there is one. -/
def splitValue (argument : Text) : Text × Option Text :=
  let name := argument.takeWhile (· != '=')
  (name, match argument.drop name.length with
    | [] => none
    | _ :: value => some value)

def ofUnknown (argument : Text) : Argument :=
  if isNegativeNumber argument || argument.contains ' ' then .plain argument
  else .unknown argument

def classify (argument : Text) : Except UsageError Argument :=
  match argument with
  | '-' :: '-' :: _ =>
    let (name, value) := splitValue argument
    match Switch.startingWith name with
    | [] => .ok (ofUnknown argument)
    | [option] => .ok (.switch option value)
    | candidates => .error (.ambiguous argument candidates)
  | ['-', 'h'] => .ok (.switch .help none)
  | '-' :: 'h' :: '=' :: value => .ok (.switch .help (some value))
  | '-' :: 'h' :: tail => .ok (.shortHelp tail)
  | '-' :: _ :: _ => .ok (ofUnknown argument)
  | _ => .ok (.plain argument)

def classifyAll : List Text → Except UsageError (List Argument)
  | [] => .ok []
  | argument :: rest =>
    if argument == ['-', '-'] then .ok (.separator :: rest.map .plain)
    else do
      let first ← classify argument
      let others ← classifyAll rest
      return first :: others

/-! ### Reading the arguments in order -/

structure Check where
  input : Text
  oracle : Option String
  completer : Option String
  deriving DecidableEq, Repr

inductive Request
  | check (check : Check)
  | help
  | version
  deriving DecidableEq, Repr

structure Progress where
  input : Option Text := none
  oracle : Option String := none
  completer : Option String := none
  extra : List Text := []
  deriving DecidableEq, Repr

namespace Progress

def take (progress : Progress) (text : Text) : Progress :=
  match progress.input with
  | none => { progress with input := some text }
  | some _ => { progress with extra := progress.extra ++ [text] }

def set (progress : Progress) (option : Switch) (value : Text) : Except UsageError Progress :=
  let name := String.ofList value
  if option.choices.contains name then
    match option with
    | .oracle => .ok { progress with oracle := some name }
    | .completer => .ok { progress with completer := some name }
    | _ => .ok progress
  else .error (.unknownValue option value)

def finish (progress : Progress) : Except UsageError Request :=
  match progress.input with
  | none => .error .missingInput
  | some input =>
    if progress.extra.isEmpty then .ok (.check ⟨input, progress.oracle, progress.completer⟩)
    else .error (.unrecognized progress.extra)

end Progress

/-- What the short option for help comes to with what is written behind its letter. More letters
are more short options, up to one that is not known; the one for help takes no value. -/
def readShortHelp : Text → Except UsageError Request
  | [] => .ok .help
  | 'h' :: '=' :: value => .error (.needlessValue .help value)
  | 'h' :: tail => readShortHelp tail
  | '-' :: tail => .error (.needlessValue .help ('-' :: tail))
  | _ :: _ => .ok .help

/-- Reads classified arguments. Two dashes vanish if the input stands directly before or behind
them; otherwise they are of no use. -/
def readArguments (progress : Progress) : List Argument → Except UsageError Request
  | [] => progress.finish
  | .plain text :: .separator :: rest =>
    match progress.input with
    | none => readArguments (progress.take text) rest
    | some _ => readArguments ((progress.take text).take ['-', '-']) rest
  | .plain text :: rest => readArguments (progress.take text) rest
  | .separator :: .plain text :: rest =>
    match progress.input with
    | none => readArguments (progress.take text) rest
    | some _ => readArguments ((progress.take ['-', '-']).take text) rest
  | .separator :: rest =>
    readArguments { progress with extra := progress.extra ++ [['-', '-']] } rest
  | .switch option (some value) :: rest =>
    if option.takesValue then do readArguments (← progress.set option value) rest
    else .error (.needlessValue option value)
  | .switch option none :: rest =>
    match option with
    | .help => .ok .help
    | .version => .ok .version
    | option =>
      match rest with
      | .plain value :: rest => do readArguments (← progress.set option value) rest
      | _ => .error (.missingValue option)
  | .shortHelp tail :: _ => readShortHelp tail
  | .unknown text :: rest =>
    readArguments { progress with extra := progress.extra ++ [text] } rest

def Request.ofArguments (arguments : List Text) : Except UsageError Request := do
  readArguments {} (← classifyAll arguments)

end Culprit.Cli
