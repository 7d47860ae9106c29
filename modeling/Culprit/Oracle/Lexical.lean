import Culprit.Oracle.Basic
import Culprit.Rules.Check

/-!
# The built-in oracle

The check of rule documents as an oracle. It needs no state and never fails.
-/

namespace Culprit

def lexicalName : String := "lexical"

def lexicalErrors (document : Text) : List String := (check document).map Diagnostic.render

/-- The built-in check as an oracle over any state. -/
def Oracle.lexical (σ : Type) : Oracle σ :=
  .ofErrors lexicalName (fun document => return .ok (lexicalErrors document)) (return .ok ())

end Culprit
