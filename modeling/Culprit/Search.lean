import Culprit.Completion
import Culprit.Fault
import Culprit.Oracle.Verdict

/-!
# The search for the culprit line

A document that is not valid has a line whose inclusion makes it so. The search halves a range of
lines: it completes the prefix up to the middle of the range and asks the oracle about it. A valid
prefix moves the lower end behind the middle, any other answer moves the upper end to it; the line
where both meet is the culprit. A prefix that is blank when completed is valid without asking. The
last line is never asked about: the whole document is known not to be valid.
-/

namespace Culprit

/-- How a search went. -/
structure Search where
  /-- The index of the culprit line, counted from zero. -/
  found : Nat
  /-- The prefixes looked at, each by the index of its last line and with its judgement, in
  order. -/
  probes : List (Nat × Bool)
  deriving DecidableEq, Repr

def Search.after (probe : Nat × Bool) (search : Search) : Search :=
  { search with probes := probe :: search.probes }

inductive LocateError
  /-- There is no source, or it is blank. -/
  | noSource
  | unknownCompletion (name : String)
  deriving DecidableEq, Repr

def LocateError.message : LocateError → String
  | .noSource => "DRL content cannot be null or empty"
  | .unknownCompletion name =>
    "Unsupported completer '" ++ name ++ "'. Available: " ++ ", ".intercalate Completion.names

/-- A way to make a document of the lines up to an index. -/
abbrev Completer := List Text → Int → Text

/-- An oracle and a way to make documents for it, which is all that a search needs. -/
structure Locator (σ : Type) where
  oracle : Oracle σ
  completer : Completer

namespace Locator

variable {σ : Type}

def isValidUpTo (locator : Locator σ) (lines : List Text) (last : Nat) :
    StateM (Session σ) Bool := do
  let document := locator.completer lines last
  if Text.isBlankText document then return true else Session.accepts locator.oracle document

/-- Halves the range of indices until it holds one. -/
def bisect (locator : Locator σ) (lines : List Text) (low high : Nat) :
    StateM (Session σ) Search := do
  if low < high then
    let middle := low + (high - low) / 2
    if ← locator.isValidUpTo lines middle then
      Session.log .debug .locator
        ("Lines 1.." ++ toString (middle + 1) ++ " valid, searching " ++ toString (middle + 2)
          ++ ".." ++ toString (high + 1))
      return (← locator.bisect lines (middle + 1) high).after (middle, true)
    else
      Session.log .debug .locator
        ("Lines 1.." ++ toString (middle + 1) ++ " invalid, searching " ++ toString (low + 1)
          ++ ".." ++ toString (middle + 1))
      return (← locator.bisect lines low middle).after (middle, false)
  else return ⟨high, []⟩
termination_by high - low

def report (locator : Locator σ) (lines : List Text) (index : Nat) :
    StateM (Session σ) Fault := do
  let message ← Session.firstMessage locator.oracle (locator.completer lines index)
  return ⟨Text.trim (lines.getD index []), index + 1, message⟩

/-- The fault of a source, none if the source is valid. -/
def locate (locator : Locator σ) (source : Option Text) :
    StateM (Session σ) (Except LocateError (Option Fault)) := do
  match source with
  | none => return .error .noSource
  | some source =>
    if Text.isBlankText source then return .error .noSource
    else if ← Session.accepts locator.oracle source then
      Session.log .debug .locator "Source validates as a whole; nothing to locate"
      return .ok none
    else
      let lines := Text.contentLines source
      let search ← locator.bisect lines 0 (lines.length - 1)
      let fault ← locator.report lines search.found
      Session.log .info .locator
        ("Located fault at line " ++ toString fault.line ++ ": " ++ fault.message)
      return .ok (some fault)

end Locator

/-- An oracle and the completion that documents are made with for it. -/
structure Finder (σ : Type) where
  oracle : Oracle σ
  completion : Completion

namespace Finder

variable {σ : Type}

def locator (finder : Finder σ) : Locator σ := ⟨finder.oracle, finder.completion.complete⟩

/-- The fault of a source, none if the source is valid. -/
def locate (finder : Finder σ) (source : Option Text) :
    StateM (Session σ) (Except LocateError (Option Fault)) :=
  finder.locator.locate source

end Finder
end Culprit
