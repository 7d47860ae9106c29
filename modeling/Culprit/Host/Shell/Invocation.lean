import Culprit.Host.Shell.Builtin

/-!
# Invocations

What the fields of a command ask for: a function, a command of the shell or a program. A command
that only passes on its arguments as another one stands in front of it.
-/

namespace Culprit.Shell

open Command Act

inductive Meaning
  | function (body : Script)
  | builtin (builtin : Builtin)
  | program

structure Invocation where
  meaning : Meaning
  name : Octets
  arguments : List Octets
  /-- Whether a failure of the command ends the script and assignments in front of it are kept. -/
  isSpecial : Bool
  usesDefaultPath : Bool

/-- What stands behind the options of the command that passes on its arguments, and whether only the
programs of every system are meant; none if it is asked about its arguments or has none. -/
def passedOn? (usesDefaultPath : Bool) : List Octets → Option (Bool × List Octets)
  | [] => none
  | argument :: rest =>
    if argument == ['-', '-'] then if rest.isEmpty then none else some (usesDefaultPath, rest)
    else if isOption argument then
      if (argument.drop 1).all (· == 'p') then passedOn? true rest else none
    else some (usesDefaultPath, argument :: rest)

/-- What fields ask for. Fuel as for the fields is enough. -/
def Invocation.find (shell : State) (isPassedOn usesDefaultPath : Bool) :
    Nat → List Octets → Option Invocation
  | 0, _ => none
  | _, [] => none
  | fuel + 1, name :: arguments =>
    let invocation (meaning : Meaning) (isSpecial : Bool) : Invocation :=
      ⟨meaning, name, arguments, isSpecial, usesDefaultPath⟩
    match if isPassedOn then none else shell.functions.lookup name with
    | some body => some (invocation (.function body) false)
    | none =>
      match Builtin.ofName? name with
      | some .command =>
        match passedOn? usesDefaultPath arguments with
        | some (usesDefaultPath, fields) => find shell true usesDefaultPath fuel fields
        | none => some (invocation (.builtin .command) false)
      | some builtin => some (invocation (.builtin builtin) (builtin.isSpecial && !isPassedOn))
      | none => some (invocation .program false)

def Invocation.ofFields? (shell : State) (fields : List Octets) : Option Invocation :=
  find shell false false fields.length.succ fields

/-- Whether arguments behind the given fields that are assignments are not cut into fields. -/
def takesAssignments (shell : State) (fields : List Octets) : Bool :=
  match (Invocation.ofFields? shell fields).map Invocation.meaning with
  | some (.builtin builtin) => builtin.takesAssignments
  | _ => false

/-- The name of a command as the shell finds its program: the program, or why there is none and the
status of that. A file that is no program stops the search only if no program comes behind it. -/
def findProgram (invocation : Invocation) : Act (Except (FileFault × Nat) Program) := do
  let tree := (← world).tree
  let name := invocation.name
  if name.contains '/' then
    match tree.programAt name with
    | .ok program => return .ok program
    | .error error =>
      let isMissing := [FileFault.notFound, .notADirectory, .nameTooLong].contains error
      return .error (error, if isMissing then 127 else 126)
  else
    let own := (← value? "PATH".toList).getD []
    let path := if invocation.usesDefaultPath then standardPath else own
    let directories := path.splitOn ':'
    let candidates := directories.map fun directory =>
      if directory.isEmpty then name else directory ++ ['/'] ++ name
    let nodes := candidates.filterMap fun candidate => (tree.find candidate).toOption
    let programs := nodes.filterMap fun
      | .program program => some program
      | _ => none
    let hasFile := nodes.any fun
      | .file _ => true
      | _ => false
    match programs with
    | program :: _ => return .ok program
    | [] =>
      if hasFile then return .error (.permissionDenied, 126)
      else if nodes.isEmpty then return .error (.notFound, 127)
      else return .error (.permissionDenied, 127)

def startMeaning : FileFault → String
  | .notFound | .notADirectory => "not found"
  | error => error.meaning

end Culprit.Shell
