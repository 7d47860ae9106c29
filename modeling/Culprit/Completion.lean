import Culprit.Region.Basic

/-!
# Completing a prefix

A prefix of a document is judged as a document of its own. Cutting a document may leave blocks
open that the whole document closes, so the structural completion appends the lines that close
them; the naive completion leaves the prefix as it is.
-/

namespace Culprit

inductive Completion
  | naive
  | structural
  deriving DecidableEq, Repr

namespace Completion

def all : List Completion := [.naive, .structural]

def name : Completion → String
  | .naive => "naive"
  | .structural => "structural"

def names : List String := all.map name

def ofName? (wanted : String) : Option Completion := all.find? fun completion =>
  completion.name == wanted

/-- The first lines of a document up to the last one wanted, counted from zero; a negative index
counts from the end, with one more for the line itself. -/
def firstLines (lines : List Text) (last : Int) : List Text :=
  let count := last + 1
  if count < 0 then lines.take (lines.length + count).toNat else lines.take count.toNat

def ofLines (completion : Completion) (lines : List Text) : Text :=
  match completion with
  | .naive => Text.unlines lines
  | .structural => Text.unlines (lines ++ (Regions.scan lines).closingSuffix)

def complete (completion : Completion) (lines : List Text) (last : Int) : Text :=
  completion.ofLines (firstLines lines last)

theorem ofName?_name (completion : Completion) : ofName? completion.name = some completion := by
  cases completion <;> rfl

end Completion
end Culprit
