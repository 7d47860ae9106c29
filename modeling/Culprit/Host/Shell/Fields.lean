import Culprit.Host.Shell.Glob

/-!
# Fields

An expanded word is cut into fields. It comes in regions, and only what came from values is cut:
at the separators, of which the blank ones only keep fields apart while each other one ends a field.
Quotes leave a mark, so that nothing between quotes still makes a field.
-/

namespace Culprit.Shell

/-- Something in an expanded word: a character, or the mark of quotes. -/
inductive Cell
  | glyph (glyph : Glyph)
  | mark
  deriving DecidableEq, Repr

inductive RegionKind
  | fixed
  | cut
  | parameters
  deriving DecidableEq, Repr

structure Region where
  kind : RegionKind
  cells : List Cell
  deriving DecidableEq, Repr

abbrev Expanded := List Region

/-- The character between two parameters in a region. No value holds it. -/
def gap : Char := '\x00'

namespace Expanded

def region (kind : RegionKind) (isProtected : Bool) (octets : Octets) : Expanded :=
  [⟨kind, (glyphs isProtected octets).map .glyph⟩]

def toGlyphs (word : Expanded) : List Glyph :=
  word.flatMap fun region => region.cells.filterMap fun
    | .glyph glyph => some glyph
    | .mark => none

def toOctets (word : Expanded) : Octets := word.toGlyphs.map Glyph.char

end Expanded

def defaultSeparators : Octets := [' ', '\t', '\n']

structure Cutting where
  /-- The fields that are complete, the last one first. -/
  complete : List (List Cell)
  /-- The cells of the field that is not complete, the last one first. -/
  current : List Cell
  behindBlank : Bool
  betweenParameters : Bool
  limit : Option Nat
  kept : Option Nat

namespace Cutting

def start (limit : Option Nat) : Cutting := ⟨[], [], false, false, limit, none⟩

def extend (state : Cutting) (cell : Cell) : Cutting :=
  { state with current := cell :: state.current }

def closeField (state : Cutting) : Cutting :=
  { state with complete := state.current.reverse :: state.complete, current := [] }

/-- Takes in a separator. `isBlank` says that it is a blank one, `mayJoin` that blank ones next to
it only keep fields apart. -/
def separate (state : Cutting) (cell : Cell) (isBlank mayJoin : Bool) : Cutting :=
  let state := if mayJoin then { state with behindBlank := isBlank } else state
  if state.current.isEmpty && state.behindBlank then { state with behindBlank := false }
  else
    match state.limit with
    | some 1 => { state.extend cell with limit := some 0, kept := some state.current.length }
    | some (limit + 2) => { state.closeField with limit := some (limit + 1) }
    | _ => state.closeField

def separates (separators : Octets) : Cell → Bool
  | .glyph glyph => glyph.char == gap || separators.contains glyph.char
  | .mark => false

def add (separators : Octets) (mayJoin : Bool) (state : Cutting) (cell : Cell) : Cutting :=
  let isBlank := separates separators cell && separates defaultSeparators cell
  if state.limit == some 0 then
    if isBlank then
      { state.extend cell with kept := some (state.kept.getD state.current.length) }
    else
      { state.extend cell with
        kept := if separates separators cell && state.behindBlank then state.kept else none
        behindBlank := false }
  else if state.behindBlank then
    let state := { state with current := [] }
    if isBlank then state
    else if separates separators cell then { state with behindBlank := false }
    else { state.extend cell with behindBlank := false }
  else if separates separators cell then state.separate cell isBlank mayJoin
  else { state.extend cell with behindBlank := false }

def addRegion (separators : Octets) (state : Cutting) (region : Region) : Cutting :=
  match region.kind with
  | .fixed => { state with current := region.cells.reverse ++ state.current }
  | kind =>
    let isBetween := kind == .parameters
    let mayJoin := !(state.betweenParameters || isBetween)
    region.cells.foldl (add (if isBetween then [] else separators) mayJoin)
      { state with behindBlank := false, betweenParameters := isBetween }

def finish (state : Cutting) : List (List Cell) :=
  let current := state.current.reverse
  if state.betweenParameters then (current :: state.complete).reverse
  else
    let last := match state.kept with
      | some size => current.take size
      | none => current
    if last.isEmpty then state.complete.reverse else (last :: state.complete).reverse

end Cutting

/-- The fields of a word, at most as many as the limit says. -/
def cutFields (separators : Octets) (limit : Option Nat) (word : Expanded) :
    List (List Glyph) :=
  ((word.foldl (Cutting.addRegion separators) (.start limit)).finish).map fun cells =>
    cells.filterMap fun
      | .glyph glyph => some glyph
      | .mark => none

def spell (field : List Glyph) : Octets := field.map Glyph.char

end Culprit.Shell
