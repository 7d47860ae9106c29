import Culprit.Rules.Keyword
import Culprit.Text.Lines

/-!
# Open regions

Which blocks are open behind a prefix of lines, and what would close them. Lines are read as they
are written, so that the answer can be given for any prefix. Regions may nest: the open ones form a
stack, the innermost first. The body of a function is opaque, only braces count in it until they
balance; elsewhere a header opens a region and `end` closes the innermost one. The consequence of a
rule keeps count of its braces.
-/

namespace Culprit

/-- A region that is open behind some lines. -/
inductive Region
  /-- A rule: whether its clause words have been seen, and the braces open in its consequence. -/
  | rule (hasWhen hasThen : Bool) (depth : Int)
  | query
  | declare
  /-- A function: the braces open in it, and whether one has been opened at all. -/
  | function (depth : Int) (opened : Bool)
  deriving DecidableEq, Repr

/-- The regions that are open, the innermost first. -/
abbrev Regions := List Region

namespace Region

def keyword : Region → Keyword
  | .rule _ _ _ => .rule
  | .query => .query
  | .declare => .declare
  | .function _ _ => .function

/-- A region as its header opens it, before the braces on that line. -/
def opened : Keyword → Region
  | .rule => .rule false false 0
  | .query => .query
  | .declare => .declare
  | .function => .function 0 false

/-- The lines that close a region: the clauses it lacks, its open braces, its end. -/
def closingLines : Region → List Text
  | .rule hasWhen hasThen depth =>
    (if hasWhen then [] else [whenKey]) ++ (if hasThen then [] else [thenKey])
      ++ List.replicate depth.toNat ['}'] ++ [endKey]
  | .query => [endKey]
  | .declare => [endKey]
  | .function depth opened =>
    if opened then List.replicate depth.toNat ['}'] else [['{', ' ', '}']]

end Region

def Text.braces (line : Text) : Nat × Nat := (line.count '{', line.count '}')

/-- The block keyword that a line opens with, a space behind it. -/
def headerKeyword? (key : Text) : Option Keyword :=
  [Keyword.rule, .query, .function, .declare].find? fun keyword =>
    (keyword.spelling.toList ++ [' ']).isPrefixOf key

namespace Regions

/-- Counts the braces of a line in a function; it is closed by a line that has braces and leaves
none open. -/
def countBraces (depth : Int) (opened : Bool) (line : Text) (outer : Regions) : Regions :=
  let (opens, closes) := line.braces
  let depth := depth + opens - closes
  if depth ≤ 0 ∧ (opens ≠ 0 ∨ closes ≠ 0) then outer
  else .function depth (opened || opens ≠ 0) :: outer

def openRegion (keyword : Keyword) (line : Text) (outer : Regions) : Regions :=
  match keyword with
  | .function => countBraces 0 false line outer
  | keyword => .opened keyword :: outer

def readInside (line key : Text) : Regions → Regions
  | .rule hasWhen hasThen depth :: outer =>
    if key = whenKey then .rule true hasThen depth :: outer
    else if key = thenKey then .rule hasWhen true depth :: outer
    else if key = endKey then outer
    else if hasThen then
      let (opens, closes) := line.braces
      .rule hasWhen hasThen (depth + opens - closes) :: outer
    else .rule hasWhen hasThen depth :: outer
  | .query :: outer => if key = endKey then outer else .query :: outer
  | .declare :: outer => if key = endKey then outer else .declare :: outer
  | regions => regions

/-- The regions open behind one more line. -/
def feed (regions : Regions) (line : Text) : Regions :=
  match regions with
  | .function depth opened :: outer => countBraces depth opened line outer
  | regions =>
    match headerKeyword? line.key with
    | some keyword => openRegion keyword line regions
    | none => readInside line line.key regions

def scan (lines : List Text) : Regions := lines.foldl feed []

/-- The lines that close all open regions, the innermost first. -/
def closingSuffix (regions : Regions) : List Text := regions.flatMap Region.closingLines

/-! ### What can be asked of the open regions -/

def innermost? (keyword : Keyword) (regions : Regions) : Option Region :=
  regions.find? fun region => region.keyword == keyword

def isInside (keyword : Keyword) (regions : Regions) : Bool := (regions.innermost? keyword).isSome

def hasWhen (regions : Regions) : Bool :=
  match regions.innermost? .rule with
  | some (.rule hasWhen _ _) => hasWhen
  | _ => false

def hasThen (regions : Regions) : Bool :=
  match regions.innermost? .rule with
  | some (.rule _ hasThen _) => hasThen
  | _ => false

def functionDepth (regions : Regions) : Int :=
  match regions.innermost? .function with
  | some (.function depth _) => depth
  | _ => 0

end Regions
end Culprit
