import Culprit.Host.Shell.State
import Culprit.Host.Shell.Token

/-!
# Redirections

Letting streams lead elsewhere, once it is known where. A redirection that cannot be done is
complained about, and its command does not run.
-/

namespace Culprit.Shell

open Command Act

inductive Target
  | opened (mode : OpenMode) (path : Octets)
  | copied (other : Option Nat)
  | document (text : Word)

def openNode (mode : OpenMode) (parts : List Octets) (node : Option Node) :
    Act (Except String Nat) := do
  let keepsFiles := mode == .write && (← hasOption 'C')
  match node with
  | none =>
    if mode.creates then do
      changeWorld fun world => { world with tree := world.tree.write parts [] }
      return .ok (← addChannel (.file parts 0 mode))
    else return .error (mode.meaning .notFound)
  | some (.file _) =>
    if keepsFiles then return .error "File exists"
    else do
      if mode == .write || mode == .overwrite then
        changeWorld fun world => { world with tree := world.tree.write parts [] }
      return .ok (← addChannel (.file parts 0 mode))
  | some (.program _) =>
    if mode.creates then return .error (mode.meaning .permissionDenied)
    else return .ok (← addChannel .null)
  | some .directory =>
    if mode.creates then return .error (mode.meaning .isADirectory)
    else return .ok (← addChannel .null)
  | some (.device .null) => return .ok (← addChannel .null)
  | some (.device .full) => return .ok (← addChannel .full)
  | some (.device .terminal) => return .error "No such device or address"
  | some (.device (.stream number)) =>
    match ← channelOf? number with
    | some channel => return .ok channel
    | none => return .error (mode.meaning .notFound)

/-- Lets a stream lead to a file. Says whether that succeeded. -/
def openFile (stream : Nat) (mode : OpenMode) (path : Octets) : Act Bool := do
  let tree := (← world).tree
  let opened ← match tree.locate path with
    | .ok parts => openNode mode parts (tree.node? parts)
    | .error .notFound =>
      let isCreated := mode.creates && path.getLast? == some '/' && path.length > 1
      pure (.error (mode.meaning (if isCreated then .isADirectory else .notFound)))
    | .error error => pure (.error (mode.meaning error))
  match opened with
  | .ok channel => do
    connect stream channel
    return true
  | .error reason => do
    let verb := if mode.creates then "create" else "open"
    complain (("cannot " ++ verb ++ " ").toList ++ path ++ (": " ++ reason).toList)
    return false

/-- Lets a stream lead to where another one leads, or nowhere. Says whether that succeeded. -/
def copyStream (stream : Nat) (other : Option Nat) : Act Bool := do
  match other with
  | none => do
    disconnect stream
    return true
  | some other =>
    match ← channelOf? other with
    | some channel => do
      connect stream channel
      return true
    | none => do
      complain (toString other ++ ": Bad file descriptor").toList
      return false

def otherStream (name : Octets) : Act (Option Nat) := do
  match name with
  | ['-'] => return none
  | [d] => if d.isDigit then return some (d.toNat - '0'.toNat) else refuse
  | _ => refuse
where
  refuse : Act (Option Nat) := do
    change fun shell => { shell with line := shell.lineRead }
    fail SyntaxProblem.badStreamNumber.message.toList

def Redirection.stream : Redirection → Nat
  | .opened stream _ _ => stream
  | .copied stream _ => stream
  | .document stream _ => stream

end Culprit.Shell
