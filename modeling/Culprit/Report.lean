import Culprit.Text.Blank

/-!
# Reports and issues

What a verifier says about one document, and the shape in which single problems are handed on: a
code, a message and perhaps the stretch of source that it speaks of.
-/

namespace Culprit

/-- Everything that a verifier says about one document. -/
structure Report where
  valid : Bool
  errors : List String
  deriving DecidableEq, Repr

def Report.ofErrors (errors : List String) : Report := ⟨errors.isEmpty, errors⟩

/-- A place in a source, perhaps with the place where it ends. -/
structure Span where
  line : Int
  column : Int
  endLine : Option Int
  endColumn : Option Int
  deriving DecidableEq, Repr

/-- A single problem that a verifier reports. -/
structure Issue where
  code : String
  message : String
  span : Option Span
  deriving DecidableEq, Repr

def Issue.render (issue : Issue) : String :=
  match issue.span with
  | none => issue.message
  | some span =>
    "[line " ++ toString span.line ++ ":" ++ toString span.column ++ "] " ++ issue.message

end Culprit
