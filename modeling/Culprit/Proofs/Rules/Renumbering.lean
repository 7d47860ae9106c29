import Culprit.Proofs.Rules.Document
import Culprit.Proofs.Rules.Recast
import Mathlib.Order.Monotone.Basic

/-!
# Lines with other numbers

Line numbers say where something is wrong and never what. Give all lines of a document other
numbers, and the places that they remember with them: every reading goes through the same states
with the new numbers, and reports the same problems. They are listed in the same order as long as
the new numbers keep the order of the old ones. In particular a document may be moved down by some
lines.
-/

namespace Culprit

/-! ### New numbers -/

def Position.renumbered (number : Nat → Nat) (position : Position) : Position :=
  { position with line := number position.line }

def Diagnostic.renumbered (number : Nat → Nat) (diagnostic : Diagnostic) : Diagnostic :=
  { diagnostic with position := diagnostic.position.renumbered number }

def StrippedText.renumbered (number : Nat → Nat) (stripped : StrippedText) : StrippedText :=
  { stripped with openComment := stripped.openComment.map (Position.renumbered number) }

def CodeLine.renumbered (number : Nat → Nat) (line : CodeLine) : CodeLine :=
  { line with number := number line.number, stripped := line.stripped.renumbered number }

section

variable {number : Nat → Nat}

theorem Position.notAfter_renumbered (hnumber : StrictMono number) (first second : Position) :
    (first.renumbered number).notAfter (second.renumbered number) = first.notAfter second := by
  rw [Bool.eq_iff_iff, notAfter_iff, notAfter_iff]
  simp only [renumbered, hnumber.lt_iff_lt, hnumber.injective.eq_iff]

variable (number)

theorem CodeLine.delimiters_renumbered (line : CodeLine) :
    (line.renumbered number).delimiters =
      line.delimiters.map (Located.moved (Position.renumbered number)) := by
  simp only [delimiters, List.map_filterMap, Option.map_map]
  rfl

/-! ### Stripping -/

theorem StrippedText.renumbered_push (char : Char) (column : Nat) (stripped : StrippedText) :
    (stripped.push char column).renumbered number =
      (stripped.renumbered number).push char column := rfl

theorem Text.strip_renumbered (old column : Nat) (openComment : Option Position) (line : Text) :
    line.strip (number old) column (openComment.map (Position.renumbered number)) =
      (line.strip old column openComment).renumbered number := by
  fun_induction Text.strip old column openComment line with
  | case1 => simp [strip, StrippedText.nothing, StrippedText.renumbered]
  | case2 column rest opened ih => simpa [strip] using ih
  | case3 column c rest opened hclose ih => simpa [strip, hclose] using ih
  | case4 => simp [strip, StrippedText.nothing, StrippedText.renumbered]
  | case5 column rest ih => simpa [strip, Position.renumbered] using ih
  | case6 column c rest hline hblock hquote hlength =>
    simp [strip, hquote, hlength, StrippedText.renumbered]
  | case7 column c rest hline hblock hquote length hlength ih =>
    simp [strip, hquote, hlength, StrippedText.renumbered_push, ← ih]
  | case8 column c rest hline hblock hquote ih =>
    simp [strip, hquote, StrippedText.renumbered_push, ← ih]

variable {number}

/-- Lines that are numbered in a row, before and after. -/
theorem stripLinesFrom_renumbered {old : Nat} {lines : List Text}
    (hnumber : ∀ index, old ≤ index → index + 1 < old + lines.length →
      number (index + 1) = number index + 1) (openComment : Option Position) :
    stripLinesFrom (number old) (openComment.map (Position.renumbered number)) lines =
      (stripLinesFrom old openComment lines).map (CodeLine.renumbered number) := by
  induction lines generalizing old openComment with
  | nil => rfl
  | cons line rest ih =>
    have hbehind : ∀ index, old + 1 ≤ index → index + 1 < old + 1 + rest.length →
        number (index + 1) = number index + 1 := by
      intro index hle hlt
      refine hnumber index (by omega) ?_
      rw [List.length_cons]
      omega
    have hrest := ih hbehind (line.strip old 1 openComment).openComment
    simp only [stripLinesFrom, Text.strip_renumbered, List.map_cons]
    rcases rest with _ | ⟨next, rest⟩
    · rfl
    · rw [hnumber old le_rfl (by simp)] at hrest
      exact congrArg _ hrest

variable (number)

/-! ### Brackets and what is not closed -/

theorem nestingProblems_renumbered (lines : List CodeLine) :
    nestingProblems (lines.map (CodeLine.renumbered number)) =
      (nestingProblems lines).map (Diagnostic.renumbered number) := by
  have hdelimiters : (lines.map (CodeLine.renumbered number)).flatMap CodeLine.delimiters =
      (lines.flatMap CodeLine.delimiters).map (Located.moved (Position.renumbered number)) := by
    simp only [List.flatMap_map, CodeLine.delimiters_renumbered, List.map_flatMap]
  have hread := Nesting.read_moved (Position.renumbered number) []
    (lines.flatMap CodeLine.delimiters)
  rw [List.map_nil] at hread
  simp only [nestingProblems, hdelimiters, Nesting.of, hread]
  cases Nesting.read [] (lines.flatMap CodeLine.delimiters) with
  | broken closer => rfl
  | pending openers =>
    simp only [Nesting.moved, List.map_map]
    rfl

theorem unclosedLiterals_renumbered (lines : List CodeLine) :
    unclosedLiterals (lines.map (CodeLine.renumbered number)) =
      (unclosedLiterals lines).map (Diagnostic.renumbered number) := by
  simp only [unclosedLiterals, List.filterMap_map, List.map_filterMap, Option.map_map]
  rfl

theorem openCommentAfter_renumbered (lines : List CodeLine) :
    openCommentAfter (lines.map (CodeLine.renumbered number)) =
      (openCommentAfter lines).map (Position.renumbered number) := by
  rw [openCommentAfter, openCommentAfter, List.getLast?_map]
  cases lines.getLast? <;> rfl

theorem unclosedComment_renumbered (lines : List CodeLine) :
    unclosedComment (lines.map (CodeLine.renumbered number)) =
      (unclosedComment lines).map (Diagnostic.renumbered number) := by
  rw [unclosedComment, unclosedComment, openCommentAfter_renumbered]
  cases openCommentAfter lines <;> rfl

/-! ### The outline -/

namespace Outline

theorem texts_renumbered (lines : List CodeLine) :
    texts (lines.map (CodeLine.renumbered number)) = texts lines := by
  simp only [texts, List.map_map]
  rfl

theorem diagnose_start_renumbered (lines : List CodeLine) :
    start.diagnose (lines.map (CodeLine.renumbered number)) =
      (start.diagnose lines).map (Diagnostic.renumbered number) := by
  let recast : Recast := ⟨number, id, fun _ => rfl⟩
  have hlines : List.Forall₂ recast.Relates lines (lines.map (CodeLine.renumbered number)) :=
    List.forall₂_map_right_iff.mpr (List.forall₂_same.mpr fun _ _ => ⟨rfl, rfl, rfl⟩)
  have hfound : recast.diagnostic = Diagnostic.renumbered number := by
    funext diagnostic
    rw [Recast.diagnostic, Problem.reworded_id]
    rfl
  rw [← hfound]
  exact recast.diagnose hlines start

end Outline

/-! ### The check -/

variable {number}

theorem diagnoseLines_renumbered (hnumber : StrictMono number) (lines : List CodeLine) :
    diagnoseLines (lines.map (CodeLine.renumbered number)) =
      (diagnoseLines lines).map (Diagnostic.renumbered number) := by
  rw [diagnoseLines, diagnoseLines, unclosedLiterals_renumbered, unclosedComment_renumbered,
    nestingProblems_renumbered, Outline.diagnose_start_renumbered, ← List.map_append,
    ← List.map_append, ← List.map_append]
  exact (List.map_mergeSort fun first _ second _ =>
    (Position.notAfter_renumbered hnumber first.position second.position).symm).symm

end

/-! ### Further down -/

/-- A place that many lines further down. -/
def Position.below (count : Nat) (position : Position) : Position :=
  { position with line := position.line + count }

def Diagnostic.below (count : Nat) (diagnostic : Diagnostic) : Diagnostic :=
  { diagnostic with position := diagnostic.position.below count }

def StrippedText.below (count : Nat) (stripped : StrippedText) : StrippedText :=
  { stripped with openComment := stripped.openComment.map (Position.below count) }

def CodeLine.below (count : Nat) (line : CodeLine) : CodeLine :=
  { line with number := line.number + count, stripped := line.stripped.below count }

section

variable (count : Nat)

theorem stripLinesFrom_below (number : Nat) (openComment : Option Position) (lines : List Text) :
    stripLinesFrom (number + count) (openComment.map (Position.below count)) lines =
      (stripLinesFrom number openComment lines).map (CodeLine.below count) :=
  @stripLinesFrom_renumbered (· + count) number lines
    (fun index _ _ => Nat.add_right_comm index 1 count) openComment

@[simp] theorem Outline.texts_below (lines : List CodeLine) :
    texts (lines.map (CodeLine.below count)) = texts lines :=
  texts_renumbered (· + count) lines

theorem diagnoseLines_below (lines : List CodeLine) :
    diagnoseLines (lines.map (CodeLine.below count)) =
      (diagnoseLines lines).map (Diagnostic.below count) :=
  diagnoseLines_renumbered (fun _ _ hlt => Nat.add_lt_add_right hlt count) lines

end

end Culprit
