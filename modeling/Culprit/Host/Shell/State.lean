import Culprit.Host.Command.Tree
import Culprit.Host.Number.Radix
import Culprit.Host.Shell.Fields
import Culprit.Host.Shell.Script

/-!
# The state of a shell

A running shell has a state of its own, which a copy of it cannot change, and shares with all
programs that it starts the tree of files, the channels that they read from and write to, and the
time. Streams are numbered, and each number leads to a channel.
-/

namespace Culprit.Shell

open Command

inductive Channel
  | source (rest : Octets)
  /-- It can be written, and this has been written, the last octet first. -/
  | sink (written : Octets)
  /-- A file, at an offset unless each write goes to its end. -/
  | file (path : List Octets) (offset : Nat) (mode : OpenMode)
  | null
  | full
  deriving DecidableEq, Repr

def OpenMode.allows (mode : OpenMode) (toWrite : Bool) : Bool :=
  match mode with
  | .read => !toWrite
  | .readWrite => true
  | _ => toWrite

def OpenMode.creates (mode : OpenMode) : Bool := mode != .read

def OpenMode.meaning (mode : OpenMode) : FileFault → String
  | .notFound | .notADirectory => if mode.creates then "Directory nonexistent" else "No such file"
  | error => error.meaning

structure World where
  tree : Tree
  channels : List Channel
  clock : Float
  /-- When the programs end that are not waited for and may write until then, by their numbers. -/
  lingering : List (Nat × Float)
  nextProcess : Nat

/-- The value of a name and what may be done with it. -/
structure Variable where
  value : Option Octets
  isExported : Bool
  isReadOnly : Bool
  deriving DecidableEq, Repr

/-- Where a shell stands in reading options from parameters. -/
structure OptionPlace where
  next : Nat
  offset : Option Nat
  deriving DecidableEq, Repr

def OptionPlace.start : OptionPlace := ⟨1, none⟩

structure State where
  name : Octets
  parameters : List Octets
  bindings : List (Octets × Variable)
  functions : List (Octets × Script)
  options : List Char
  streams : List (Nat × Nat)
  status : Nat
  wordStatus : Nat
  line : Nat
  lineRead : Nat
  commandName : Option Octets
  loopDepth : Nat
  functionDepth : Nat
  /-- What the names that the running function has for itself were bound to before, the last one
  first. -/
  locals : List (Octets × Option Variable)
  optionsBefore : Option (List Char)
  /-- What is to be done at signals, by their numbers; zero stands for the end of the script. -/
  traps : List (Nat × Octets)
  /-- The signals that have come and not been handled yet. -/
  signals : List Nat
  statusBefore : Option Nat
  process : Nat
  background : Option Nat
  documents : List (Nat × Word)
  optionPlace : OptionPlace
  jobs : List (Nat × Float × Nat)
  aliases : List (Octets × Octets)

structure Machine where
  shell : State
  world : World

/-- Why a shell does not go on to the next command. -/
inductive Stop
  | left
  | failed
  | skipped (isBreak : Bool) (loops : Nat)
  | returned
  | killed (signal : Nat)
  | endless
  deriving DecidableEq, Repr

abbrev Act := ExceptT Stop (StateM Machine)

namespace Act

def shell : Act State := do return (← get).shell

def world : Act World := do return (← get).world

def change (update : State → State) : Act Unit :=
  modify fun machine => { machine with shell := update machine.shell }

def changeWorld (update : World → World) : Act Unit :=
  modify fun machine => { machine with world := update machine.world }

def finish (status : Nat) : Act Unit := change fun shell => { shell with status }

def attempt {α : Type} (action : Act α) : Act (Except Stop α) := fun machine =>
  match action machine with
  | (result, after) => (.ok result, after)

def restoring {α : Type} (action : Act α) (restore : State → State) : Act α := do
  let result ← attempt action
  change restore
  liftExcept result
where
  liftExcept : Except Stop α → Act α
    | .ok value => return value
    | .error stop => throw stop

/-- Acts again as long as an action gives something to act on, and at most the given number of
times; whoever acts longer is not waited for. -/
def iterate {α : Type} (action : α → Act (Option α)) : Nat → α → Act Unit
  | 0, _ => throw .endless
  | limit + 1, value => fun machine =>
    match action value machine with
    | (.ok (some next), after) => iterate action limit next after
    | (.ok none, after) => (.ok (), after)
    | (.error stop, after) => (.error stop, after)

/-! ### Options -/

def hasOption (letter : Char) : Act Bool := do return (← shell).options.contains letter

/-! ### Channels -/

def addChannel (channel : Channel) : Act Nat := do
  let channels := (← world).channels
  changeWorld fun world => { world with channels := channels ++ [channel] }
  return channels.length

def setChannel (number : Nat) (channel : Channel) : Act Unit :=
  changeWorld fun world => { world with channels := world.channels.set number channel }

/-- The number of the channel that a stream leads to, unless it is closed. -/
def channelOf? (stream : Nat) : Act (Option Nat) := do return (← shell).streams.lookup stream

def connect (stream channel : Nat) : Act Unit :=
  change fun shell => { shell with
    streams := (stream, channel) :: shell.streams.filter fun entry => entry.1 != stream }

def disconnect (stream : Nat) : Act Unit :=
  change fun shell => { shell with streams := shell.streams.filter fun entry => entry.1 != stream }

def rest? (number : Nat) : Act (Option Octets) := do
  let world ← world
  match world.channels[number]? with
  | some (.source rest) => return some rest
  | some (.file path offset mode) =>
    if mode.allows false then
      match world.tree.files.lookup path with
      | some content => return some (content.drop offset)
      | none => return some []
    else return none
  | some .null => return some []
  | some .full => return some []
  | _ => return none

def skip (number count : Nat) : Act Unit := do
  match (← world).channels[number]? with
  | some (.source rest) => setChannel number (.source (rest.drop count))
  | some (.file path offset mode) => setChannel number (.file path (offset + count) mode)
  | _ => return ()

def writeTo (number : Nat) (octets : Octets) : Act Bool := do
  if octets.isEmpty then return true
  else
    match (← world).channels[number]? with
    | some (.sink written) => do
      setChannel number (.sink (octets.reverse ++ written))
      return true
    | some (.file path offset mode) =>
      if mode.allows true then do
        let content := ((← world).tree.files.lookup path).getD []
        let offset := if mode == .append then content.length else offset
        let padding := List.replicate (offset - content.length) '\x00'
        let next := content.take offset ++ padding ++ octets
          ++ content.drop (offset + octets.length)
        changeWorld fun world => { world with tree := world.tree.write path next }
        setChannel number (.file path (offset + octets.length) mode)
        return true
      else return false
    | some .null => return true
    | _ => return false

def write (stream : Nat) (octets : Octets) : Act Bool := do
  match ← channelOf? stream with
  | some number => writeTo number octets
  | none => return octets.isEmpty

/-! ### Messages -/

def label : Act Octets := do
  let shell ← shell
  let command := match shell.commandName with
    | some name => name ++ ": ".toList
    | none => []
  return shell.name ++ ": ".toList ++ (toString shell.line).toList ++ ": ".toList ++ command

def complain (message : Octets) : Act Unit := do
  let _ ← write 2 ((← label) ++ message ++ ['\n'])

def fail {α : Type} (message : Octets) : Act α := do
  complain message
  finish 2
  throw .failed

/-! ### Variables -/

def binding? (name : Octets) : Act (Option Variable) := do
  return (← shell).bindings.lookup name

def value? (name : Octets) : Act (Option Octets) := do
  return (← binding? name).bind Variable.value

def setVariable (name : Octets) (binding : Option Variable) : Act Unit :=
  change fun shell =>
    let others := shell.bindings.filter fun entry => entry.1 != name
    { shell with bindings := match binding with
      | some binding => (name, binding) :: others
      | none => others }

/-- The name that options are counted under. Who binds it goes to another place in them. -/
def optionCounter : Octets := "OPTIND".toList

/-- Binds a name to a value. A new name is exported if the option for that is set. -/
def bind (name value : Octets) : Act Unit := do
  let known := ((← binding? name)).getD ⟨none, ← hasOption 'a', false⟩
  if known.isReadOnly then fail (name ++ ": is read only".toList)
  else do
    setVariable name (some { known with value := some value })
    if name == optionCounter then
      let next := (Number.wholeWord? false value).getD 1
      change fun shell => { shell with optionPlace := ⟨max 1 next.toNat, none⟩ }

def separators : Act Octets := do return (← value? "IFS".toList).getD defaultSeparators

end Act
end Culprit.Shell
