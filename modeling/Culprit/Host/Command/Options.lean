import Culprit.Host.Command.Effect

/-!
# Options of programs

How programs understand their arguments. An option is a letter behind a hyphen or a name behind two;
letters may be grouped, and a name may be cut short as long as it stays clear which one is meant.
Options may stand anywhere in front of two hyphens; all other arguments are operands.
-/

namespace Culprit.Command

/-- Whether an option has an argument of its own. -/
inductive OptionArgument
  | none
  | required
  | optional
  deriving DecidableEq, Repr

structure OptionRule where
  letter : Char
  argument : OptionArgument
  names : List String

structure GivenOption where
  letter : Char
  argument : Octets
  deriving DecidableEq, Repr

structure Arguments where
  options : List GivenOption
  operands : List Octets
  deriving DecidableEq, Repr

inductive OptionError
  | invalidLetter (letter : Char)
  | unknownName (spelling : Octets)
  | ambiguous (spelling : Octets) (names : List String)
  | missingForLetter (letter : Char)
  | missingForName (name : String)
  | unwanted (name : String)
  deriving DecidableEq, Repr

def OptionError.message (error : OptionError) : Octets :=
  let quote (octets : Octets) : Octets := ['\''] ++ octets ++ ['\'']
  match error with
  | .invalidLetter letter => "invalid option -- ".toList ++ quote [letter]
  | .unknownName spelling => "unrecognized option ".toList ++ quote spelling
  | .ambiguous spelling names =>
    "option ".toList ++ quote spelling ++ " is ambiguous; possibilities:".toList
      ++ names.flatMap fun name => ' ' :: quote ("--" ++ name).toList
  | .missingForLetter letter => "option requires an argument -- ".toList ++ quote [letter]
  | .missingForName name =>
    "option ".toList ++ quote ("--" ++ name).toList ++ " requires an argument".toList
  | .unwanted name =>
    "option ".toList ++ quote ("--" ++ name).toList ++ " doesn't allow an argument".toList

namespace Arguments

def addOption (arguments : Arguments) (letter : Char) (argument : Octets) : Arguments :=
  { arguments with options := arguments.options ++ [⟨letter, argument⟩] }

/-- Takes in a group of letters. The rest of the group, or else the next argument, is the argument
of a letter that needs one. -/
def addLetters (rules : List OptionRule) (arguments : Arguments) :
    Octets → List Octets → Except OptionError (Arguments × List Octets)
  | [], rest => .ok (arguments, rest)
  | letter :: letters, rest =>
    match rules.find? fun rule => rule.letter == letter && letter.toNat < 128 with
    | none => .error (.invalidLetter letter)
    | some rule =>
      match rule.argument, letters, rest with
      | .required, [], [] => .error (.missingForLetter letter)
      | .required, [], argument :: behind => .ok (arguments.addOption letter argument, behind)
      | .required, letters, rest => .ok (arguments.addOption letter letters, rest)
      | _, letters, rest => addLetters rules (arguments.addOption letter []) letters rest

/-- The rules that a name may mean: the one of that name, or all whose names begin with it. -/
def meant (rules : List OptionRule) (name : Octets) : List (OptionRule × String) :=
  let all := rules.flatMap fun rule => rule.names.map fun known => (rule, known)
  match all.filter fun entry => entry.2.toList == name with
  | [] => all.filter fun entry => name.isPrefixOf entry.2.toList
  | exact => exact

def addNamed (rules : List OptionRule) (arguments : Arguments) (spelling : Octets)
    (rest : List Octets) : Except OptionError (Arguments × List Octets) :=
  let name := spelling.takeWhile (· != '=')
  let value :=
    if name.length < spelling.length then some (spelling.drop (name.length + 1)) else none
  match meant rules name with
  | [] => .error (.unknownName ("--".toList ++ spelling))
  | (rule, known) :: others =>
    if others.any fun other => other.1.letter != rule.letter then
      .error (.ambiguous ("--".toList ++ spelling) (known :: others.map Prod.snd))
    else
      match rule.argument, value, rest with
      | .none, some _, _ => .error (.unwanted known)
      | .required, none, [] => .error (.missingForName known)
      | .required, none, argument :: behind =>
        .ok (arguments.addOption rule.letter argument, behind)
      | _, value, rest => .ok (arguments.addOption rule.letter (value.getD []), rest)

/-- Takes in arguments up to the first one that is not understood. Fuel as for the arguments is
enough. -/
def addAll (rules : List OptionRule) (arguments : Arguments) :
    Nat → List Octets → Arguments × Option OptionError
  | 0, _ => (arguments, none)
  | _, [] => (arguments, none)
  | fuel + 1, argument :: rest =>
    let continueWith (result : Except OptionError (Arguments × List Octets)) :
        Arguments × Option OptionError :=
      match result with
      | .ok (next, behind) => addAll rules next fuel behind
      | .error error => (arguments, some error)
    if argument == ['-', '-'] then
      ({ arguments with operands := arguments.operands ++ rest }, none)
    else if ['-', '-'].isPrefixOf argument then
      continueWith (addNamed rules arguments (argument.drop 2) rest)
    else if isOption argument then continueWith (addLetters rules arguments (argument.drop 1) rest)
    else addAll rules { arguments with operands := arguments.operands ++ [argument] } fuel rest

def readStart (rules : List OptionRule) (arguments : List Octets) :
    Arguments × Option OptionError :=
  addAll rules ⟨[], []⟩ arguments.length.succ arguments

def read (rules : List OptionRule) (arguments : List Octets) : Except OptionError Arguments :=
  match readStart rules arguments with
  | (arguments, none) => .ok arguments
  | (_, some error) => .error error

def has (arguments : Arguments) (letter : Char) : Bool :=
  arguments.options.any fun option => option.letter == letter

def last? (arguments : Arguments) (letter : Char) : Option Octets :=
  (arguments.options.reverse.find? fun option => option.letter == letter).map GivenOption.argument

end Arguments
end Culprit.Command
