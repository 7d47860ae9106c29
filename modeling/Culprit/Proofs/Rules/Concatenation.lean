import Culprit.Proofs.Rules.Renumbering

/-!
# One document behind another

An accepted document leaves nothing behind it: no comment, no bracket and no block is open, and all
that the reading of the next line can still tell is whether a statement has been seen. Only a
package header asks for that. So what is written behind an accepted document is judged as if it
stood alone, further down.
-/

namespace Culprit

/-! ### What an accepted document leaves -/

theorem nestingProblems_append {first : List CodeLine} (hfirst : openBrackets? first = some [])
    (second : List CodeLine) : nestingProblems (first ++ second) = nestingProblems second := by
  have hpending : Nesting.read [] (first.flatMap CodeLine.delimiters) = .pending [] := by
    rw [openBrackets?, Nesting.of] at hfirst
    cases hread : Nesting.read [] (first.flatMap CodeLine.delimiters) <;>
      simp_all [Nesting.kinds?]
  simp only [nestingProblems, Nesting.of, List.flatMap_append, Nesting.read_append hpending]

theorem unclosedLiterals_append (first second : List CodeLine) :
    unclosedLiterals (first ++ second) = unclosedLiterals first ++ unclosedLiterals second :=
  List.filterMap_append

theorem unclosedComment_append (first : List CodeLine) {second : List CodeLine}
    (hsecond : second ≠ []) : unclosedComment (first ++ second) = unclosedComment second := by
  rw [unclosedComment, openCommentAfter, List.getLast?_append_of_ne_nil _ hsecond]
  rfl

namespace Outline

/-- Outside of blocks, whether a statement has been seen matters to a package header only. -/
theorem diagnose_of_ne_package {lines : List CodeLine}
    (hpackage : ∀ text ∈ (texts lines).head?,
      (Statement.leadingName text).fold ≠ "package".toList) (started started' : Bool) :
    (⟨none, started⟩ : Outline).diagnose lines = (⟨none, started'⟩ : Outline).diagnose lines := by
  induction lines with
  | nil => rfl
  | cons line rest ih =>
    by_cases htext : line.text = []
    · rw [texts_cons_of_eq_nil htext] at hpackage
      simp only [diagnose, step_of_eq_nil htext, ih hpackage]
    · rw [texts_cons_of_ne_nil htext] at hpackage
      have hread : readTopLevel started line = readTopLevel started' line :=
        readTopLevel_of_ne_package (hpackage line.text rfl)
      simp only [diagnose, step, if_neg htext, hread]

/-- Behind lines on which it reports nothing and that leave nothing open, the outline reads on as at
the start of a document. -/
theorem diagnose_append_of_quiet {first second : List CodeLine}
    (hquiet : start.diagnose first = []) (hnone : (start.after first).block = none)
    (hpackage : texts first = [] ∨ ∀ text ∈ (texts second).head?,
      (Statement.leadingName text).fold ≠ "package".toList) :
    start.diagnose (first ++ second) = start.diagnose second := by
  have hfindings : start.findings first = [] := by
    rw [← List.append_nil first, diagnose_append, List.append_eq_nil_iff] at hquiet
    exact hquiet.1
  rw [diagnose_append, hfindings, List.nil_append]
  rcases hpackage with hblank | hpackage
  · rw [after_of_forall_eq_nil (by simpa [texts] using hblank)]
  · have hafter : start.after first = ⟨none, (start.after first).started⟩ := by rw [← hnone]
    rw [hafter]
    exact diagnose_of_ne_package hpackage _ _

end Outline

/-- Lines behind accepted ones are judged as if they stood alone. -/
theorem diagnoseLines_append {first second : List CodeLine} (haccepted : diagnoseLines first = [])
    (hsecond : second ≠ [])
    (hpackage : Outline.texts first = [] ∨ ∀ text ∈ (Outline.texts second).head?,
      (Statement.leadingName text).fold ≠ "package".toList) :
    diagnoseLines (first ++ second) = diagnoseLines second := by
  obtain ⟨hliterals, -, hnest, hquiet⟩ := diagnoseLines_eq_nil_iff.mp haccepted
  have hnone : (Outline.start.after first).block = none := by
    have := blockBehind_length_eq_none hnest hquiet
    rwa [blockBehind, List.take_length] at this
  rw [diagnoseLines, unclosedLiterals_append, hliterals, List.nil_append,
    unclosedComment_append first hsecond, nestingProblems_append hnest,
    Outline.diagnose_append_of_quiet hquiet hnone hpackage]
  rfl

/-! ### Cutting the joined source -/

theorem stripLinesFrom_append_of_closed {first : List Text} (hfirst : first ≠ []) {number : Nat}
    {openComment : Option Position}
    (hclosed : openCommentAfter (stripLinesFrom number openComment first) = none)
    (second : List Text) :
    stripLinesFrom number openComment (first ++ second) =
      stripLinesFrom number openComment first ++
        stripLinesFrom (number + first.length) none second := by
  induction first generalizing number openComment with
  | nil => exact absurd rfl hfirst
  | cons line rest ih =>
    rcases rest with _ | ⟨next, rest⟩
    · have hline : (line.strip number 1 openComment).openComment = none := hclosed
      simp [stripLinesFrom, hline]
    · rw [stripLinesFrom, openCommentAfter, List.getLast?_cons_of_ne_nil (by simp [stripLinesFrom])]
        at hclosed
      have hrest := ih (List.cons_ne_nil next rest) hclosed
      have hcount : number + (line :: next :: rest).length =
          number + 1 + (next :: rest).length := by
        simp only [List.length_cons]
        omega
      rw [hcount, List.cons_append]
      exact congrArg (List.cons _) hrest

theorem stripLines_lines_append {first : Text} (haccepted : check first = []) (second : Text) :
    stripLines (Text.lines (first ++ '\n' :: second)) =
      stripLines first.lines ++
        (stripLines second.lines).map (CodeLine.below first.lines.length) := by
  have hclosed : openCommentAfter (stripLines first.lines) = none := by
    simpa [unclosedComment] using (check_eq_nil_iff.mp haccepted).2.1
  rw [Text.lines_append_newline, stripLines,
    stripLinesFrom_append_of_closed first.lines_ne_nil hclosed]
  exact congrArg _ (stripLinesFrom_below first.lines.length 1 none second.lines)

/-- **An accepted document in front only moves the places.** What is written behind an accepted
document is judged as it is alone, with all places further down, unless it begins with a package
header that is then not the first statement any more. In particular two accepted documents, the
second without a package header, make one. -/
theorem check_append_newline {first second : Text} (haccepted : check first = [])
    (hpackage : Outline.texts (stripLines first.lines) = [] ∨
      ∀ text ∈ (Outline.texts (stripLines second.lines)).head?,
        (Statement.leadingName text).fold ≠ "package".toList) :
    check (first ++ '\n' :: second) = (check second).map (Diagnostic.below first.lines.length) ∧
      (check second = [] → check (first ++ '\n' :: second) = []) := by
  have hcheck : check (first ++ '\n' :: second) =
      (check second).map (Diagnostic.below first.lines.length) := by
    rw [check, stripLines_lines_append haccepted, diagnoseLines_append haccepted, check,
      diagnoseLines_below]
    · rw [← List.length_pos_iff, List.length_map, length_stripLines]
      exact List.length_pos_iff.mpr second.lines_ne_nil
    · rwa [Outline.texts_below]
  exact ⟨hcheck, fun hsecond => by rw [hcheck, hsecond, List.map_nil]⟩

/-- A document with a package header, a comment of two lines, and a function. -/
def headedSource : Text :=
  Text.unlines (["package a.b;", "/* (", "rule */ function int f() \x7b", "\x7d", "rule \"r\"",
    "then", "end"].map String.toList)

/-- Lines with a literal, a bracket and a comment that are not closed, and a rule without an end. -/
def brokenSource : Text :=
  Text.unlines (["", "import a.B // (", "global", "rule \"s\"", "when", "(x", "query \"q\"",
    "go(\"", "end", "/* open", ""].map String.toList)

theorem check_append_brokenSource :
    check headedSource = [] ∧
      (∀ text ∈ (Outline.texts (stripLines brokenSource.lines)).head?,
        (Statement.leadingName text).fold ≠ "package".toList) ∧
      check brokenSource ≠ [] ∧
      check (headedSource ++ '\n' :: brokenSource) =
        (check brokenSource).map (Diagnostic.below 7) := by
  obtain ⟨haccepted, hpackage, hliteral⟩ :
      check headedSource = [] ∧
        (∀ text ∈ (Outline.texts (stripLines brokenSource.lines)).head?,
          (Statement.leadingName text).fold ≠ "package".toList) ∧
        unclosedLiterals (stripLines brokenSource.lines) = [⟨.unterminatedString, ⟨8, 4⟩⟩] := by
    decide +kernel
  refine ⟨haccepted, hpackage, fun hquiet => ?_, (check_append_newline haccepted (.inr hpackage)).1⟩
  rw [(check_eq_nil_iff.mp hquiet).1] at hliteral
  simp at hliteral

end Culprit
