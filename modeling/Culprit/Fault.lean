import Culprit.Text.Blank

/-!
# Faults

What a search reports: the line that makes a document invalid and the verifier's message about it.
-/

namespace Culprit

/-- The earliest line whose inclusion makes a document invalid. -/
structure Fault where
  /-- The line without blank characters at its ends. -/
  content : Text
  /-- The number of the line, counted from one. -/
  line : Nat
  /-- The verifier's message for the document that ends in the line. -/
  message : String
  deriving DecidableEq, Repr

def Fault.render (fault : Fault) : String :=
  "Fault found at line " ++ toString fault.line ++ ": " ++ fault.message
    ++ "\nFaulty content: " ++ String.ofList fault.content

end Culprit
