import Culprit.Host.Shell.Builtin

/-!
# Starting a shell

The state that a shell starts with, and what its arguments ask it to run.
-/

namespace Culprit.Shell

open Command Act

def ownVariables (place : List Octets) (parent : Nat) : List (Octets × Variable) :=
  [own "IFS" defaultSeparators false, own "OPTIND" ['1'] false,
    own "PPID" (toString parent).toList false, own "PS1" ['#', ' '] false,
    own "PS2" ['>', ' '] false, own "PS4" ['+', ' '] false,
    own "PWD" (Tree.spell place) true]
where
  own (name : String) (value : Octets) (isExported : Bool) : Octets × Variable :=
    (name.toList, ⟨some value, isExported, false⟩)

/-- The variables of a shell that is started with an environment. Some names it binds itself,
whatever the environment says. -/
def startVariables (environment : List (Octets × Octets)) (place : List Octets) (parent : Nat) :
    List (Octets × Variable) :=
  let given := (environment.filter fun entry => isName entry.1).map fun (name, value) =>
    (name, (⟨some value, true, false⟩ : Variable))
  let fixed := ["IFS", "OPTIND", "PPID", "PWD"]
  let initial := ownVariables place parent
  let kept := given.filter fun entry => !fixed.contains (String.ofList entry.1)
  let path := ("PATH".toList, (⟨some standardPath, false, false⟩ : Variable))
  kept ++ (initial ++ [path]).filter fun entry => !kept.any fun other => other.1 == entry.1

def environmentOf (shell : State) : List (Octets × Octets) :=
  shell.bindings.filterMap fun (name, binding) =>
    if binding.isExported then binding.value.map fun value => (name, value) else none

def State.start (name : Octets) (environment : List (Octets × Octets)) (place : List Octets)
    (streams : List (Nat × Nat)) (process parent : Nat) : State where
  name
  parameters := []
  bindings := startVariables environment place parent
  functions := []
  options := []
  streams
  status := 0
  wordStatus := 0
  line := 0
  lineRead := 0
  commandName := none
  loopDepth := 0
  functionDepth := 0
  locals := []
  optionsBefore := none
  traps := []
  signals := []
  statusBefore := none
  process
  background := none
  documents := []
  optionPlace := .start
  jobs := []
  aliases := []

/-- Sets the options in front of the arguments of a shell, and gives what stands behind them and
whether a script is given as an argument. Fuel as for the arguments is enough. -/
def startOptions : Nat → List Octets → Act (List Octets × Bool)
  | 0, arguments => return (arguments, false)
  | fuel + 1, arguments => do
    let withGroup (isSet : Bool) (group : Octets) (rest : List Octets) :
        Act (List Octets × Bool) := do
      let isCommand := group.contains 'c'
      let letters := group.filter fun c => c != 'c' && c != 'l'
      let (last, later) ← startOptions fuel (← setLetters isSet letters rest)
      return (last, isCommand || later)
    match arguments with
    | ['-'] :: rest => return (rest, false)
    | ['-', '-'] :: rest => return (rest, false)
    | ('-' :: group) :: rest => withGroup true group rest
    | ('+' :: group) :: rest => withGroup false group rest
    | _ => return (arguments, false)

def takeInput : Act Octets := do
  match ← channelOf? 0 with
  | none => return []
  | some channel => do
    let octets := (← rest? channel).getD []
    skip channel octets.length
    return octets

/-- The scripts that the arguments of a shell ask it to run, the second of which is its input. -/
def scriptsOf (arguments : List Octets) : Act (List Octets) := do
  let (rest, isCommand) ← startOptions arguments.length.succ arguments
  let readsInput ← hasOption 's'
  let settle (name : Option Octets) (parameters : List Octets) : Act Unit :=
    change fun shell => { shell with name := name.getD shell.name, parameters }
  match isCommand, rest with
  | true, [] => fail "-c requires an argument".toList
  | true, script :: operands => do
    settle operands.head? (operands.drop 1)
    if readsInput then return [script, ← takeInput] else return [script]
  | false, [] => do
    setOption 's' true
    return [← takeInput]
  | false, file :: operands =>
    if readsInput then do
      settle none rest
      return [← takeInput]
    else
      let tree := (← world).tree
      match tree.read file with
      | .ok content => do
        settle (some file) operands
        match content with
        | some content => return [content]
        | none => return [← takeInput]
      | .error .isADirectory => return []
      | .error error =>
        fail ("cannot open ".toList ++ file ++ (": " ++ OpenMode.read.meaning error).toList)

end Culprit.Shell
