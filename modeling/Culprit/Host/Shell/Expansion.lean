import Culprit.Host.Shell.Arithmetic
import Culprit.Host.Shell.State

/-!
# Expansion

The parts of expanding words that run no script: the values of parameters, what is done with them,
home directories, and the names of files that fit a pattern.
-/

namespace Culprit.Shell

open Command Act

inductive TildeRule
  | nowhere
  | atStart
  | inAssignment
  deriving DecidableEq, Repr

structure ExpansionMode where
  cuts : Bool
  isQuoted : Bool
  standsIn : Bool
  tildes : TildeRule
  deriving DecidableEq, Repr

namespace ExpansionMode

def fields : ExpansionMode := ⟨true, false, false, .atStart⟩

def text : ExpansionMode := ⟨false, false, false, .atStart⟩

def assignment : ExpansionMode := ⟨false, false, false, .inAssignment⟩

def document : ExpansionMode := ⟨false, true, false, .nowhere⟩

end ExpansionMode

/-! ### Parameters -/

def Parameter.spelling : Parameter → Octets
  | .named name => name
  | .position number => (toString number).toList
  | .all => ['@']
  | .joined => ['*']
  | .count => ['#']
  | .status => ['?']
  | .process => ['$']
  | .background => ['!']
  | .options => ['-']

/-- The value of a parameter as one text, with the given separator between parameters; none if it
has no value. -/
def textOf? (parameter : Parameter) (separator : Octets) : Act (Option Octets) := do
  let shell ← shell
  let number (value : Nat) : Option Octets := some (toString value).toList
  match parameter with
  | .named name => value? name
  | .position 0 => return some shell.name
  | .position (index + 1) => return shell.parameters[index]?
  | .all => return some (separator.intercalate shell.parameters)
  | .joined => return some (separator.intercalate shell.parameters)
  | .count => return number shell.parameters.length
  | .status => return number shell.status
  | .process => return number shell.process
  | .background => return shell.background.bind number
  | .options => return some (shellLetters.filter shell.options.contains)
where
  shellLetters : List Char := "pubaCEVvxsnmiIfe".toList

def separatorOf (parameter : Parameter) (mode : ExpansionMode) : Act Octets := do
  let isCut := mode.cuts && (!mode.isQuoted || parameter == .all)
  if isCut then return [gap]
  else
    match ← value? "IFS".toList with
    | none => return [' ']
    | some separators => return separators.take 1

def valueRegion (parameter : Parameter) (mode : ExpansionMode) (value : Octets) : Act Expanded := do
  let hasParameters := !(← shell).parameters.isEmpty
  let kind :=
    if !mode.isQuoted then RegionKind.cut
    else if parameter == .all && mode.cuts && hasParameters then .parameters
    else .fixed
  return .region kind mode.isQuoted value

def resultRegion (mode : ExpansionMode) (value : Octets) : Expanded :=
  .region (if mode.isQuoted then .fixed else .cut) mode.isQuoted value

/-! ### Tildes -/

def homeOf? (name : Octets) : Act (Option Octets) :=
  if name.isEmpty then value? "HOME".toList
  else if name == "root".toList then return some "/root".toList
  else return none

/-- Plain characters with their tildes expanded. `mayStart` says that a tilde may stand in front,
`isLast` that the word ends behind them. Fuel as for the characters is enough. -/
def expandTildes (mode : ExpansionMode) (kind : RegionKind) (isLast : Bool) :
    Nat → Bool → Bool → Octets → Act Expanded
  | 0, _, _, _ => return []
  | _, _, _, [] => return []
  | fuel + 1, mayStart, isBehindSign, characters@(c :: rest) => do
    let inAssignment := mode.tildes == .inAssignment
    let ends (c : Char) : Bool := c == '/' || (inAssignment && c == ':')
    let name := rest.takeWhile fun c => !ends c
    let behind := rest.drop name.length
    let home ←
      if mayStart && c == '~' && (isLast || !behind.isEmpty) then homeOf? name else pure none
    match home with
    | some home =>
      return Expanded.region .fixed true home
        ++ (← expandTildes mode kind isLast fuel false isBehindSign behind)
    | none =>
      let isSign := c == '=' && !isBehindSign
      let starts := inAssignment && (isSign || (c == ':' && isBehindSign))
      let run := if inAssignment then [c]
        else characters
      return Expanded.region kind false run
        ++ (← expandTildes mode kind isLast fuel starts (isBehindSign || isSign)
          (characters.drop run.length))

/-! ### Names of files -/

/-- The paths in a tree that fit a pattern. The pattern comes in the parts between its slashes;
`shown` is what has been found of the path, `place` where it leads. -/
def findPaths (tree : Tree) (place : List Octets) (shown : Octets) :
    List (List Glyph) → List Octets
  | [] => [shown]
  | part :: rest =>
    let isLast := rest.isEmpty
    let candidates :=
      if part.isEmpty then [[]]
      else if Glob.isPattern part then
        let names := (tree.namesIn place).filter fun name =>
          (name.head? != some '.' || part.head?.any fun glyph => glyph.char == '.')
            && (Glob.pattern part).accepts name
        names.mergeSort fun left right => !isAfter left right
      else [spell (Glob.resolve part)]
    candidates.flatMap fun name =>
      match tree.follow place (if name.isEmpty then [] else [name]) with
      | .error _ => []
      | .ok next =>
        match tree.node? next with
        | none => []
        | some node =>
          if isLast then [shown ++ name]
          else if node == .directory then findPaths tree next (shown ++ name ++ ['/']) rest
          else []
where
  isAfter : Octets → Octets → Bool
    | [], _ => false
    | _ :: _, [] => true
    | a :: left, b :: right => if a == b then isAfter left right else b.toNat < a.toNat

/-- The fields that a field becomes, as a pattern of files if it is one and any fit. -/
def expandPaths (field : List Glyph) : Act (List Octets) := do
  if !Glob.isPattern field || (← hasOption 'f') then return [spell field]
  else
    let tree := (← world).tree
    let parts := field.splitOnP fun glyph => glyph.char == '/'
    let paths := match parts with
      | [] :: rest => findPaths tree [] ['/'] rest
      | parts => findPaths tree tree.place [] parts
    return if paths.isEmpty then [spell field] else paths

end Culprit.Shell
