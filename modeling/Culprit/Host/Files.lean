import Culprit.Cli.Run
import Culprit.Host.Command.Tree

/-!
# Files

Reading files in evaluated runs: the files of a working directory and how a path leads to one of
them. A path is normalised before it is followed: empty parts and single points are left out.
Outside of the working directory there are directories only.
-/

namespace Culprit

structure Path where
  root : Text
  parts : List Text
  deriving DecidableEq, Repr

namespace Path

/-- The root of a path: two slashes in front differ from one, more do not. -/
def readRoot (path : Text) : Text :=
  match (path.takeWhile (· == '/')).length with
  | 0 => []
  | 2 => ['/', '/']
  | _ => ['/']

def read (path : Text) : Path where
  root := readRoot path
  parts := (path.splitOn '/').filter fun part => !part.isEmpty && part != ['.']

def render (path : Path) : Text :=
  let shown := path.root ++ ['/'].intercalate path.parts
  if shown.isEmpty then ['.'] else shown

def isAbsolute (path : Path) : Bool := !path.root.isEmpty

end Path

/-- The files and directories below a working directory, by their paths. -/
structure WorkingDirectory where
  files : List (List Text × Bytes)
  directories : List (List Text)

namespace WorkingDirectory

open Command (FileFault)

def file? (directory : WorkingDirectory) (path : List Text) : Option Bytes :=
  (directory.files.reverse.find? fun entry => entry.1 == path).map Prod.snd

def isDirectory (directory : WorkingDirectory) (path : List Text) : Bool :=
  path.isEmpty || directory.directories.any (fun known => path.isPrefixOf known)
    || directory.files.any fun entry => path.isPrefixOf entry.1 && path != entry.1

def nameLimit : Nat := 255

def follow (directory : WorkingDirectory) (place : List Text) :
    List Text → Except FileFault Bytes
  | [] => .error .isADirectory
  | part :: rest =>
    if part == ['.', '.'] then
      match place with
      | [] => if rest.isEmpty then .error .isADirectory else .error .notFound
      | _ :: _ => follow directory place.dropLast rest
    else if nameLimit < (Utf8.encode part).length then .error .nameTooLong
    else
      let next := place ++ [part]
      match directory.file? next with
      | some bytes => if rest.isEmpty then .ok bytes else .error .notADirectory
      | none =>
        if directory.isDirectory next then follow directory next rest else .error .notFound

def pathLimit : Nat := 4095

def nullDevice : String := "/dev/null"

def contents (directory : WorkingDirectory) (path : Path) : Except FileFault Bytes :=
  if pathLimit < (Utf8.encode path.render).length then .error .nameTooLong
  else if path.isAbsolute then
    let place := String.ofList ('/' :: ['/'].intercalate path.parts)
    if place == nullDevice then .ok []
    else if Command.systemDirectories.contains place then .error .isADirectory
    else .error .notFound
  else directory.follow [] path.parts

/-- What reading the file that a path names comes to for a program. The error is about the path as
it is normalised, and no path holds a zero character. -/
def read (directory : WorkingDirectory) (path : Text) : Except Cli.ReadError Bytes :=
  if path.contains '\x00' then .error (.other ⟨"ValueError", "embedded null byte", []⟩)
  else (directory.contents (.read path)).mapError fun fault =>
    .system (fault.about (Path.read path).render)

def pathsTo (parts : List Text) : List (List Text) :=
  (List.range (parts.length + 1)).map parts.take

def toPlace (directory : WorkingDirectory) (environment : List (Text × Text)) : Command.Place where
  tree :=
    let place (parts : List Text) : List Octets :=
      Command.workPlace ++ parts.map Octets.ofText
    let directories := (directory.directories ++ directory.files.map fun entry => entry.1.dropLast)
    { place := Command.workPlace
      files :=
        (directory.files.map fun (parts, bytes) => (place parts, Octets.ofBytes bytes)).reverse
      directories := (directories.flatMap pathsTo).eraseDups.map place }
  environment := (environment.map fun (name, value) =>
    (Octets.ofText name, Octets.ofText value)).reverse

end WorkingDirectory
end Culprit
