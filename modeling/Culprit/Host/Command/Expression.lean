import Culprit.Host.Command.Charset
import Culprit.Host.Pattern.Named

/-!
# Search expressions

A search expression says which parts of a line fit it. Besides characters and their repetition it
can ask for the bounds of lines and words, and for a text that an earlier part has fitted, so what
fits depends on where it stands and on what has been fitted before: a spot in a line. Fitting an
expression leads from a spot to all spots behind a part that fits.
-/

namespace Culprit.Command

inductive SetMember
  | range (first last : Char)
  | named (name : String)
  deriving DecidableEq, Repr

/-- A set of characters. -/
structure CharacterSet where
  members : List SetMember
  isNegated : Bool
  deriving DecidableEq, Repr

inductive Anchor
  | lineStart
  | lineEnd
  | wordStart
  | wordEnd
  | wordBound
  | noWordBound
  deriving DecidableEq, Repr

inductive Expression
  | nothing
  | one (set : CharacterSet)
  | anchor (anchor : Anchor)
  | both (first second : Expression)
  | either (left right : Expression)
  | repeated (least : Nat) (most : Option Nat) (body : Expression)
  | group (number : Nat) (body : Expression)
  | reference (number : Nat)
  deriving DecidableEq, Repr

structure Comparison where
  charset : Charset
  ignoresCase : Bool
  deriving DecidableEq, Repr

namespace Comparison

def isNamed (comparison : Comparison) (name : String) (c : Char) : Bool :=
  let charset := comparison.charset
  if c.toNat < 128 then
    ((namedRanges? name).getD []).any fun (first, last) => first ≤ c && c ≤ last
  else
    charset == .unicode && match name with
      | "alpha" | "alnum" => charset.isWord c
      | "upper" => charset.small c != c
      | "lower" => charset.capital c != c
      | "space" | "blank" => charset.isBlank c
      | "punct" => charset.isShown c && !charset.isWord c && !charset.isBlank c
      | "print" => charset.isShown c
      | "graph" => charset.isShown c && !charset.isBlank c
      | "cntrl" => !charset.isShown c
      | _ => false

def variants (comparison : Comparison) (c : Char) : List Char :=
  if comparison.ignoresCase then [c, comparison.charset.small c, comparison.charset.capital c]
  else [c]

def holds (comparison : Comparison) (set : CharacterSet) (c : Char) : Bool :=
  let isMember := (comparison.variants c).any fun d => set.members.any fun
    | .range first last => first ≤ d && d ≤ last
    | .named name => comparison.isNamed name d
  isMember != set.isNegated

def same (comparison : Comparison) (c d : Char) : Bool :=
  if comparison.ignoresCase then comparison.charset.sameLetter c d else c == d

end Comparison

/-! ### Fitting -/

structure Spot where
  position : Nat
  before : Option Char
  ahead : Text
  /-- The texts that are kept, the last one first. -/
  kept : List (Nat × Text)
  deriving Repr

namespace Spot

/-- Spots in one line are the same if they are at one place and keep the same texts. -/
instance : BEq Spot := ⟨fun a b => a.position == b.position && a.kept == b.kept⟩

def start (line : Text) : Spot := ⟨0, none, line, []⟩

def next? (spot : Spot) : Option (Char × Spot) :=
  match spot.ahead with
  | [] => none
  | c :: rest =>
    some (c, { spot with position := spot.position + 1, before := some c, ahead := rest })

def onward : Nat → Spot → List Spot
  | 0, spot => [spot]
  | fuel + 1, spot =>
    match spot.next? with
    | none => [spot]
    | some (_, next) => spot :: onward fuel next

def isAt (charset : Charset) (spot : Spot) (anchor : Anchor) : Bool :=
  let isBehindWord := spot.before.any charset.isWord
  let isBeforeWord := spot.ahead.head?.any charset.isWord
  match anchor with
  | .lineStart => spot.before.isNone
  | .lineEnd => spot.ahead.isEmpty
  | .wordStart => !isBehindWord && isBeforeWord
  | .wordEnd => isBehindWord && !isBeforeWord
  | .wordBound => isBehindWord != isBeforeWord
  | .noWordBound => isBehindWord == isBeforeWord

def skip? (comparison : Comparison) (spot : Spot) : Text → Option Spot
  | [] => some spot
  | c :: rest =>
    match spot.next? with
    | some (d, next) => if comparison.same c d then skip? comparison next rest else none
    | none => none

def textTo (spot later : Spot) : Text := spot.ahead.take (later.position - spot.position)

end Spot

def stepTimes (step : Spot → List Spot) : Nat → List Spot → List Spot
  | 0, spots => spots
  | count + 1, spots =>
    if spots.isEmpty then [] else stepTimes step count (spots.flatMap step).eraseDups

/-- The spots that a step leads to when it is taken any number of times up to the first one. The
spots that have been found come first, then those of them that the step has not been taken from. -/
def stepUpTo (step : Spot → List Spot) : Nat → List Spot → List Spot → List Spot
  | 0, found, _ => found
  | count + 1, found, fresh =>
    let next := ((fresh.flatMap step).filter fun spot => !found.contains spot).eraseDups
    if next.isEmpty then found else stepUpTo step count (found ++ next) next

def Expression.ends (comparison : Comparison) : Expression → Spot → List Spot
  | .nothing, spot => [spot]
  | .one set, spot =>
    match spot.next? with
    | some (c, next) => if comparison.holds set c then [next] else []
    | none => []
  | .anchor place, spot => if spot.isAt comparison.charset place then [spot] else []
  | .both first second, spot =>
    ((first.ends comparison spot).flatMap (second.ends comparison)).eraseDups
  | .either left right, spot =>
    (left.ends comparison spot ++ right.ends comparison spot).eraseDups
  | .repeated least most body, spot =>
    let required := stepTimes (body.ends comparison) least [spot]
    let limit := match most with
      | some most => most - least
      | none => spot.ahead.length + 1
    stepUpTo (body.ends comparison) limit required required
  | .group number body, spot =>
    (body.ends comparison spot).map fun later =>
      { later with kept := (number, spot.textTo later)
          :: later.kept.filter fun entry => entry.1 != number }
  | .reference number, spot =>
    match spot.kept.lookup number with
    | some text => (spot.skip? comparison text).toList
    | none => []

def Expression.refersBack : Expression → Bool
  | .reference _ => true
  | .both first second => first.refersBack || second.refersBack
  | .either left right => left.refersBack || right.refersBack
  | .repeated _ _ body => body.refersBack
  | .group _ body => body.refersBack
  | _ => false

def Expression.forgetful : Expression → Expression
  | .both first second => .both first.forgetful second.forgetful
  | .either left right => .either left.forgetful right.forgetful
  | .repeated least most body => .repeated least most body.forgetful
  | .group _ body => body.forgetful
  | expression => expression

def Expression.literal (text : Text) : Expression :=
  text.foldr (fun c rest => .both (.one ⟨[.range c c], false⟩) rest) .nothing

end Culprit.Command
