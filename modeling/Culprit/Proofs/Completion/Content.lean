import Culprit.Proofs.Completion.Whole
import Culprit.Proofs.Text.Lines
import Culprit.Proofs.Text.Trim

/-!
# What the content of a source keeps

Cutting and joining undo each other only as long as there is a line: no lines join to the empty
text, which is cut into one empty line. A source of line feeds alone therefore has no content, and
how many of them the content leaves out depends on whether there is any. What is said here holds in
both cases: the content is the one list of lines, not ending in an empty one, that makes up the
source with line feeds behind it.
-/

namespace Culprit

namespace Text

/-- The lines make up the source, up to line feeds at its end, and have no empty line at theirs. -/
structure MakesUp (lines : List Text) (source : Text) : Prop where
  newline_notMem : ∀ line ∈ lines, '\n' ∉ line
  last_ne_nil : ∀ line ∈ lines.getLast?, line ≠ []
  feeds : ∃ count, source = unlines lines ++ List.replicate count '\n'

theorem makesUp_contentLines (source : Text) : MakesUp source.contentLines source where
  newline_notMem _ := newline_notMem_of_mem_contentLines
  last_ne_nil _ := ne_nil_of_mem_getLast?_contentLines
  feeds := unlines_contentLines_append source

theorem lines_replicate_newline (count : Nat) :
    Text.lines (List.replicate count '\n') = List.replicate (count + 1) [] := by
  rw [← unlines_replicate_nil, lines_unlines (by simp) (by simp)]

/-- Line feeds behind joined lines are empty lines, one more of them if there is no line to end. -/
theorem exists_lines_unlines_append {lines : List Text} (hlines : ∀ line ∈ lines, '\n' ∉ line)
    (count : Nat) :
    ∃ empty, Text.lines (unlines lines ++ List.replicate count '\n') =
      lines ++ List.replicate empty [] := by
  by_cases hnil : lines = []
  · have hjoined : unlines ([] : List Text) = [] := rfl
    exact ⟨count + 1, by rw [hnil, hjoined, List.nil_append, lines_replicate_newline,
      List.nil_append]⟩
  · rcases count with _ | count
    · exact ⟨0, by simpa using lines_unlines hnil hlines⟩
    · refine ⟨count + 1, ?_⟩
      rw [List.replicate_succ, lines_append_newline, lines_unlines hnil hlines,
        lines_replicate_newline]

/-- The content of a source is the only list of lines that makes it up. -/
theorem makesUp_iff {lines : List Text} {source : Text} :
    MakesUp lines source ↔ lines = source.contentLines := by
  constructor
  · rintro ⟨hlines, hlast, count, rfl⟩
    obtain ⟨empty, hempty⟩ := exists_lines_unlines_append hlines count
    rw [contentLines, hempty, dropEmptyTail_append_replicate, dropEmptyTail_eq_self hlast]
  · rintro rfl
    exact makesUp_contentLines source

/-- Lines that do not end in an empty one are joined to a text that does not end in a line feed. -/
theorem MakesUp.exists_unlines_eq_concat {lines : List Text} {source : Text}
    (h : MakesUp lines source) (hne : lines ≠ []) :
    ∃ front c, c ≠ '\n' ∧ unlines lines = front ++ [c] := by
  obtain ⟨others, last, rfl⟩ := (List.eq_nil_or_concat' lines).resolve_left hne
  obtain ⟨body, c, rfl⟩ := (List.eq_nil_or_concat' last).resolve_left (h.last_ne_nil last (by simp))
  have hc : c ≠ '\n' := by
    rintro rfl
    exact h.newline_notMem (body ++ ['\n']) (by simp) (by simp)
  rcases eq_or_ne others [] with rfl | hothers
  · exact ⟨body, c, hc, List.intercalate_singleton⟩
  · refine ⟨unlines others ++ '\n' :: body, c, hc, ?_⟩
    rw [unlines_append hothers (by simp)]
    simp [unlines, List.intercalate_singleton]

theorem unlines_contentLines (source : Text) :
    unlines source.contentLines = dropBack (· == '\n') source := by
  obtain ⟨count, hsource⟩ := unlines_contentLines_append source
  have hfeeds : dropBack (· == '\n') (List.replicate count '\n') = [] := by
    simp [dropBack]
  by_cases hnil : source.contentLines = []
  · rw [hnil] at hsource ⊢
    rw [hsource]
    exact hfeeds.symm
  · obtain ⟨front, c, hc, hjoined⟩ := (makesUp_contentLines source).exists_unlines_eq_concat hnil
    rw [hjoined, List.append_assoc, List.singleton_append] at hsource
    rw [hjoined, hsource, dropBack_append_cons (by simpa using hc), hfeeds]

/-- A source without the line feeds at its end is made up by the same lines. -/
theorem contentLines_unlines_contentLines (source : Text) :
    contentLines (unlines source.contentLines) = source.contentLines := by
  have h := makesUp_contentLines source
  exact (makesUp_iff.mp ⟨h.newline_notMem, h.last_ne_nil, 0, by simp⟩).symm

end Text

/-- **The content of a source loses nothing but line feeds at its end.** It is the one list of lines
that makes up the source, and there are lines unless the source is blank. All of them, completed
naively, are the source without the line feeds at its end, which has the same content. -/
theorem contentLines_complete (source : Text) :
    (∀ lines, Text.MakesUp lines source ↔ lines = source.contentLines) ∧
      (source.isBlankText = false → source.contentLines ≠ []) ∧
      let document := Completion.naive.complete source.contentLines (source.contentLines.length - 1)
      document = Text.dropBack (· == '\n') source ∧
        document.contentLines = source.contentLines := by
  refine ⟨fun lines => Text.makesUp_iff, Text.contentLines_ne_nil, ?_⟩
  rw [Completion.complete, Completion.firstLines_length_sub_one, Completion.ofLines]
  exact ⟨Text.unlines_contentLines source, Text.contentLines_unlines_contentLines source⟩

/-- Empty lines in front and inside, a blank line before the last, and line feeds behind it. -/
def gappySource : Text := "\n  rule x\n\n \t\nend\n\n\n".toList

/-- The lines that are empty or blank are kept, except for the three empty ones at the end. -/
theorem contentLines_complete_gappySource :
    gappySource.isBlankText = false ∧ gappySource.contentLines ≠ [] ∧
      gappySource.contentLines = ["", "  rule x", "", " \t", "end"].map String.toList ∧
      Completion.naive.complete gappySource.contentLines (gappySource.contentLines.length - 1) =
        "\n  rule x\n\n \t\nend".toList := by
  have hshown : gappySource.isBlankText = false := by decide
  obtain ⟨hunique, hne, hdocument, -⟩ := contentLines_complete gappySource
  refine ⟨hshown, hne hshown, ?_, hdocument⟩
  exact ((hunique _).mp ⟨by decide, by decide, 3, by decide⟩).symm

end Culprit
