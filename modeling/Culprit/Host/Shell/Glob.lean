import Culprit.Host.Pattern.Named
import Culprit.Host.Text.Octets

/-!
# Patterns of shells

A pattern says which texts it fits: a question mark stands for any character, a star for any
characters and brackets for one of those between them. A character that is protected stands for
itself, as does one behind a backslash.
-/

namespace Culprit.Shell

/-- A character of an expanded word, and whether it stands for itself there. -/
structure Glyph where
  char : Char
  isProtected : Bool
  deriving DecidableEq, Repr

def glyphs (isProtected : Bool) (octets : Octets) : List Glyph := octets.map (⟨·, isProtected⟩)

namespace Glob

def isSpecial (c : Char) (glyph : Glyph) : Bool := glyph.char == c && !glyph.isProtected

def resolve : List Glyph → List Glyph
  | [] => []
  | [glyph] => [if isSpecial '\\' glyph then ⟨'\\', true⟩ else glyph]
  | glyph :: next :: rest =>
    if isSpecial '\\' glyph then ⟨next.char, true⟩ :: resolve rest
    else glyph :: resolve (next :: rest)

/-- The ranges of the named class behind an opening bracket, and what stands behind it. -/
def takeNamed? (glyphs : List Glyph) : Option (List (Char × Char) × List Glyph) :=
  match glyphs with
  | ⟨':', _⟩ :: rest =>
    let name := (rest.takeWhile fun glyph => glyph.char != ':').map Glyph.char
    match rest.drop name.length with
    | ⟨':', _⟩ :: ⟨']', _⟩ :: behind =>
      (namedRanges? (String.ofList name)).map fun ranges => (ranges, behind)
    | _ => none
  | _ => none

/-- The ranges between brackets, behind the opening one, and what stands behind the closing one. A
closing bracket at the start stands for itself. Fuel as for the glyphs is enough. -/
def takeRanges (isFirst : Bool) : Nat → List Glyph → Option (List (Char × Char) × List Glyph)
  | 0, _ => none
  | _, [] => none
  | fuel + 1, glyph :: rest =>
    let continueWith (ranges : List (Char × Char)) (behind : List Glyph) :
        Option (List (Char × Char) × List Glyph) :=
      (takeRanges false fuel behind).map fun (more, last) => (ranges ++ more, last)
    if isSpecial ']' glyph && !isFirst then some ([], rest)
    else
      match if isSpecial '[' glyph then takeNamed? rest else none with
      | some (ranges, behind) => continueWith ranges behind
      | none =>
        match rest with
        | hyphen :: last :: behind =>
          if isSpecial '-' hyphen && !isSpecial ']' last then
            continueWith [(glyph.char, last.char)] behind
          else continueWith [(glyph.char, glyph.char)] rest
        | _ => continueWith [(glyph.char, glyph.char)] rest

/-- The class between brackets, behind the opening one, and what stands behind the closing one. -/
def takeClass? (glyphs : List Glyph) : Option (CharClass × List Glyph) :=
  match glyphs with
  | first :: rest =>
    if isSpecial '!' first then
      (takeRanges true rest.length.succ rest).map fun (ranges, behind) =>
        (.among ranges true, behind)
    else
      (takeRanges true glyphs.length.succ glyphs).map fun (ranges, behind) =>
        (.among ranges false, behind)
  | [] => none

/-- The pattern of glyphs. Fuel as for the glyphs is enough. -/
def compile : Nat → List Glyph → Pattern
  | 0, _ => .done
  | _, [] => .done
  | fuel + 1, glyph :: rest =>
    if isSpecial '?' glyph then .seq (.one .any) (compile fuel rest)
    else if isSpecial '*' glyph then .seq (.many (.one .any)) (compile fuel rest)
    else
      match if isSpecial '[' glyph then takeClass? rest else none with
      | some (kind, behind) => .seq (.one kind) (compile fuel behind)
      | none => .seq (.one (.only glyph.char)) (compile fuel rest)

def pattern (glyphs : List Glyph) : Pattern :=
  let resolved := resolve glyphs
  compile resolved.length.succ resolved

/-- Whether glyphs are a pattern that may fit another text than the one that they spell. -/
def isPattern (glyphs : List Glyph) : Bool :=
  glyphs.any fun glyph => isSpecial '?' glyph || isSpecial '*' glyph || isSpecial '[' glyph

/-- A text without the shortest or the longest part at its front that fits a pattern. -/
def trimFront (isLongest : Bool) (pattern : Pattern) (text : Octets) : Octets :=
  let sizes := List.range (text.length + 1)
  let sizes := if isLongest then sizes.reverse else sizes
  match sizes.find? fun size => pattern.accepts (text.take size) with
  | some size => text.drop size
  | none => text

def trimBack (isLongest : Bool) (pattern : Pattern) (text : Octets) : Octets :=
  let sizes := List.range (text.length + 1)
  let sizes := if isLongest then sizes else sizes.reverse
  match sizes.find? fun size => pattern.accepts (text.drop size) with
  | some size => text.take size
  | none => text

end Glob
end Culprit.Shell
