import Culprit.Rules.Outline
import Culprit.Text.Lines

/-!
# Checking a document

The built-in judgement of a rule document joins three readings of its code lines: literals and
comments that are not closed, brackets that do not nest, and the outline. The diagnostics are
listed in the order of their places; those of one place keep the order of the readings.
-/

namespace Culprit

def unclosedLiterals (lines : List CodeLine) : List Diagnostic :=
  lines.filterMap fun line =>
    line.stripped.unclosedQuote.map fun column => ⟨.unterminatedString, ⟨line.number, column⟩⟩

def unclosedComment (lines : List CodeLine) : List Diagnostic :=
  (openCommentAfter lines).toList.map fun opened => ⟨.unterminatedComment, opened⟩

/-- The brackets that do not nest: the first closing one that fits nothing, or else all that are
open at the end. -/
def nestingProblems (lines : List CodeLine) : List Diagnostic :=
  match Nesting.of (lines.flatMap CodeLine.delimiters) with
  | .broken closer => [⟨.unexpectedCloser closer.value, closer.position⟩]
  | .pending openers => openers.map fun opener => ⟨.unclosedOpener opener.value, opener.position⟩

/-- All problems of the given code lines, in the order of their places. -/
def diagnoseLines (lines : List CodeLine) : List Diagnostic :=
  (unclosedLiterals lines ++ unclosedComment lines ++ nestingProblems lines
      ++ Outline.start.diagnose lines).mergeSort
    fun first second => first.position.notAfter second.position

def check (source : Text) : List Diagnostic := diagnoseLines (stripLines source.lines)

end Culprit
