import Culprit.Host.Command.Program
import Culprit.Host.Text.Octets
import Culprit.Oracle.Failure

/-!
# The tree of files

The files that a command sees: those below its working directory, which it may change, and around
them the directories, programs and devices that every system has. A path leads from the root or
from the working directory through directories to what it names.
-/

namespace Culprit.Command

/-- Something that looks like a file and is none. -/
inductive Device
  | null
  | full
  | terminal
  | stream (number : Nat)
  deriving DecidableEq, Repr

inductive Node
  | directory
  | file (content : Octets)
  | program (program : Program)
  | device (device : Device)
  deriving DecidableEq, Repr

/-- Why a file cannot be opened or a program cannot be started. -/
inductive FileFault
  | permissionDenied
  | notFound
  | notADirectory
  | isADirectory
  | nameTooLong
  deriving DecidableEq, Repr

namespace FileFault

def number : FileFault → Nat
  | .notFound => 2
  | .permissionDenied => 13
  | .notADirectory => 20
  | .isADirectory => 21
  | .nameTooLong => 36

def meaning : FileFault → String
  | .notFound => "No such file or directory"
  | .permissionDenied => "Permission denied"
  | .notADirectory => "Not a directory"
  | .isADirectory => "Is a directory"
  | .nameTooLong => "File name too long"

/-- The error that a fault with the file of a name is. -/
def about (name : Text) (fault : FileFault) : SystemError :=
  ⟨some fault.number, fault.meaning, some name⟩

end FileFault

def systemDirectories : List String :=
  ["/", "/bin", "/usr", "/usr/bin", "/usr/local", "/usr/local/bin", "/tmp", "/etc", "/dev", "/home",
    "/root", "/var", "/opt", "/lib", "/usr/lib", "/sbin", "/usr/sbin", "/proc", "/dev/fd",
    "/var/tmp"]

def systemDevices : List (String × Device) :=
  [("/dev/null", .null), ("/dev/full", .full), ("/dev/tty", .terminal), ("/dev/stdin", .stream 0),
    ("/dev/stdout", .stream 1), ("/dev/stderr", .stream 2), ("/dev/fd/0", .stream 0),
    ("/dev/fd/1", .stream 1), ("/dev/fd/2", .stream 2), ("/dev/fd/3", .stream 3),
    ("/dev/fd/4", .stream 4), ("/dev/fd/5", .stream 5)]

def programDirectories : List String := ["/usr/bin", "/bin"]

/-- The files that a command sees, besides those of every system. -/
structure Tree where
  place : List Octets
  files : List (List Octets × Octets)
  directories : List (List Octets)

namespace Tree

def spell (parts : List Octets) : Octets := '/' :: ['/'].intercalate parts

def systemNode? (parts : List Octets) : Option Node :=
  let path := String.ofList (spell parts)
  if systemDirectories.contains path then some .directory
  else
    match systemDevices.lookup path with
    | some device => some (.device device)
    | none =>
      let isHere (program : Program) : Bool :=
        programDirectories.any fun directory => path == directory ++ "/" ++ program.name
      (Program.all.find? isHere).map .program

def node? (tree : Tree) (parts : List Octets) : Option Node :=
  match tree.files.lookup parts with
  | some content => some (.file content)
  | none =>
    if parts.isPrefixOf tree.place || tree.directories.contains parts then some .directory
    else systemNode? parts

def nameLimit : Nat := 255

def pathLimit : Nat := 4095

/-- Follows parts from a place. All places on the way have to be directories; what the last part
names need not be there. -/
def follow (tree : Tree) (place : List Octets) : List Octets → Except FileFault (List Octets)
  | [] => .ok place
  | part :: rest =>
    match tree.node? place with
    | none => .error .notFound
    | some .directory =>
      if nameLimit < part.length then .error .nameTooLong
      else if part == ['.'] then follow tree place rest
      else if part == ['.', '.'] then follow tree place.dropLast rest
      else follow tree (place ++ [part]) rest
    | some _ => .error .notADirectory

/-- The parts of what a path names, which need not be there. A slash at the end asks for a
directory. -/
def locate (tree : Tree) (path : Octets) : Except FileFault (List Octets) :=
  if path.isEmpty then .error .notFound
  else if pathLimit < path.length then .error .nameTooLong
  else
    let parts := (path.splitOn '/').filter fun part => !part.isEmpty
    let parts := if path.getLast? == some '/' then parts ++ [['.']] else parts
    tree.follow (if path.head? == some '/' then [] else tree.place) parts

def find (tree : Tree) (path : Octets) : Except FileFault Node := do
  match tree.node? (← tree.locate path) with
  | some node => return node
  | none => .error .notFound

def write (tree : Tree) (parts : List Octets) (content : Octets) : Tree :=
  { tree with files := (parts, content) :: tree.files.filter fun entry => entry.1 != parts }

/-- The names in a directory among the files and directories that are not part of every system. -/
def namesIn (tree : Tree) (parts : List Octets) : List Octets :=
  let paths := tree.files.map Prod.fst ++ tree.directories
  (paths.filterMap fun path =>
    if path.dropLast == parts then path.getLast? else none).eraseDups

def read (tree : Tree) (path : Octets) : Except FileFault (Option Octets) := do
  match ← tree.find path with
  | .file content => return some content
  | .directory => .error .isADirectory
  | .device (.stream 0) => return none
  | _ => return some []

def programAt (tree : Tree) (path : Octets) : Except FileFault Program := do
  match ← tree.find path with
  | .program program => return program
  | _ => .error .permissionDenied

/-- The program of a name in the first of some directories that has one, or why none can be started:
a directory that does not have it is no reason, unless no other one is. -/
def programIn (tree : Tree) (name : Octets) : List Octets → Except FileFault Program
  | [] => .error .notFound
  | directory :: rest =>
    match tree.programAt (if directory.isEmpty then name else directory ++ ['/'] ++ name) with
    | .ok program => .ok program
    | .error reason =>
      match reason, rest, programIn tree name rest with
      | reason, [], _ => .error reason
      | _, _, .ok program => .ok program
      | .notFound, _, later => later
      | .notADirectory, _, later => later
      | reason, _, _ => .error reason

end Tree

/-- The value of the variable that lists the directories of programs, where none is set. -/
def defaultPath : Octets := "/bin:/usr/bin".toList

def standardPath : Octets := "/usr/local/sbin:/usr/local/bin:/usr/sbin:/usr/bin:/sbin:/bin".toList

def workPlace : List Octets := ["tmp".toList, "work".toList]

structure Place where
  tree : Tree
  environment : List (Octets × Octets)

namespace Place

def bare : Place where
  tree := ⟨workPlace, [], []⟩
  environment := [("PATH".toList, standardPath), ("LANG".toList, "C.UTF-8".toList)]

def findProgram (place : Place) (name : Octets) : Except FileFault Program :=
  if name.contains '/' then place.tree.programAt name
  else
    let path := (place.environment.lookup "PATH".toList).getD defaultPath
    place.tree.programIn name (path.splitOn ':')

end Place
end Culprit.Command
