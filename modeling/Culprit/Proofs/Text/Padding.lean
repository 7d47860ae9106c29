import Culprit.Proofs.Text.Lines
import Culprit.Proofs.Text.Trim
import Mathlib.Data.List.Forall2

/-!
# Blanks at the ends of lines

Blank characters behind the ends of lines are seen by nobody who trims a line before reading it.
They move no line either: the lines of a source that is padded so are its own lines, each padded.
Only a line without characters can come to count for content, which is why padding keeps the content
of a source line for line as long as it stays away from the empty lines at the end.
-/

namespace Culprit.Text

/-- The second text is the first one with blank characters behind it, none of them a line feed. -/
def Padded (line padded : Text) : Prop :=
  ∃ blanks : Text, isBlankText blanks = true ∧ '\n' ∉ blanks ∧ padded = line ++ blanks

/-- A source with a text appended to each of its lines, by their indices. -/
def pad (blanks : Nat → Text) (source : Text) : Text :=
  unlines (source.lines.mapIdx fun index line => line ++ blanks index)

/-! ### One line -/

theorem dropBack_append_of_all {property : Char → Bool} {back : Text}
    (hback : back.all property = true) (front : Text) :
    dropBack property (front ++ back) = dropBack property front := by
  have hreverse : ∀ c ∈ back.reverse, property c = true := by
    simpa using hback
  rw [dropBack, dropBack, List.reverse_append, List.dropWhile_append_of_pos hreverse]

theorem trim_append_of_isBlankText {blanks : Text} (hblanks : isBlankText blanks = true)
    (line : Text) : trim (line ++ blanks) = trim line := by
  by_cases hline : isBlankText line = true
  · have hboth : isBlankText (line ++ blanks) = true := by
      simp only [isBlankText, List.all_append] at hline hblanks ⊢
      simp [hline, hblanks]
    rw [trim_eq_nil_iff.mpr hline, trim_eq_nil_iff.mpr hboth]
  · obtain ⟨c, hc, hsolid⟩ : ∃ c ∈ line, isBlank c = false := by
      simpa [isBlankText] using hline
    obtain ⟨front, back, rfl⟩ := List.append_of_mem hc
    rw [List.append_assoc, List.cons_append, trim_append_cons hsolid, trim_append_cons hsolid,
      dropBack_append_of_all hblanks]

namespace Padded

variable {line padded : Text}

theorem refl (line : Text) : Padded line line := ⟨[], rfl, by simp, by simp⟩

theorem trim_eq (h : Padded line padded) : trim padded = trim line := by
  obtain ⟨blanks, hblanks, -, rfl⟩ := h
  exact trim_append_of_isBlankText hblanks line

theorem key_eq (h : Padded line padded) : key padded = key line := by
  rw [key, h.trim_eq, key]

theorem count_eq (h : Padded line padded) {c : Char} (hc : isBlank c = false) :
    padded.count c = line.count c := by
  rw [← count_trim hc padded, h.trim_eq, count_trim hc]

theorem isBlankText_eq (h : Padded line padded) : padded.isBlankText = line.isBlankText := by
  rw [Bool.eq_iff_iff, ← trim_eq_nil_iff, ← trim_eq_nil_iff, h.trim_eq]

theorem newline_notMem (h : Padded line padded) (hline : '\n' ∉ line) : '\n' ∉ padded := by
  obtain ⟨blanks, -, hfeed, rfl⟩ := h
  simp [hline, hfeed]

end Padded

/-! ### All lines of a source -/

theorem isBlankText_unlines_of_padded {lines padded : List Text}
    (h : List.Forall₂ Padded lines padded) :
    (unlines padded).isBlankText = (unlines lines).isBlankText := by
  rw [isBlankText_unlines, isBlankText_unlines]
  induction h with
  | nil => rfl
  | cons hline _ ih => rw [List.all_cons, List.all_cons, hline.isBlankText_eq, ih]

theorem newline_notMem_of_padded {lines padded : List Text} (h : List.Forall₂ Padded lines padded)
    (hlines : ∀ line ∈ lines, '\n' ∉ line) : ∀ line ∈ padded, '\n' ∉ line := by
  induction h with
  | nil => simp
  | cons hline _ ih =>
    rw [List.forall_mem_cons] at hlines ⊢
    exact ⟨hline.newline_notMem hlines.1, ih hlines.2⟩

theorem forall₂_padded_mapIdx {blanks : Nat → Text}
    (hblanks : ∀ index, isBlankText (blanks index) = true ∧ '\n' ∉ blanks index)
    (lines : List Text) :
    List.Forall₂ Padded lines (lines.mapIdx fun index line => line ++ blanks index) := by
  induction lines generalizing blanks with
  | nil => exact .nil
  | cons line rest ih =>
    rw [List.mapIdx_cons]
    exact .cons ⟨blanks 0, (hblanks 0).1, (hblanks 0).2, rfl⟩ (ih fun index => hblanks (index + 1))

section

variable {blanks : Nat → Text}
  (hblanks : ∀ index, isBlankText (blanks index) = true ∧ '\n' ∉ blanks index)

include hblanks

theorem lines_pad (source : Text) :
    (pad blanks source).lines = source.lines.mapIdx fun index line => line ++ blanks index := by
  have hpadded := forall₂_padded_mapIdx hblanks source.lines
  apply lines_unlines
  · simp [lines_ne_nil]
  · exact newline_notMem_of_padded hpadded fun line hline => newline_notMem_of_mem_lines hline

theorem forall₂_padded_lines (source : Text) :
    List.Forall₂ Padded source.lines (pad blanks source).lines := by
  rw [lines_pad hblanks]
  exact forall₂_padded_mapIdx hblanks source.lines

/-- Blanks behind the lines of the content leave the empty lines at the end where they are. -/
theorem contentLines_pad (source : Text)
    (hkept : ∀ index, source.contentLines.length ≤ index → blanks index = []) :
    (pad blanks source).contentLines =
      source.contentLines.mapIdx fun index line => line ++ blanks index := by
  obtain ⟨count, hlines⟩ := contentLines_append source
  have htail : ((List.replicate count []).mapIdx fun index (line : Text) =>
      line ++ blanks (index + source.contentLines.length)) = List.replicate count [] := by
    simp [List.eq_replicate_iff, List.mem_mapIdx, hkept]
  have hlast : ∀ padded ∈ (source.contentLines.mapIdx
      fun index line => line ++ blanks index).getLast?, padded ≠ [] := by
    intro padded hpadded
    rw [List.getLast?_mapIdx, Option.mem_def, Option.map_eq_some_iff] at hpadded
    obtain ⟨line, hline, rfl⟩ := hpadded
    simp [ne_nil_of_mem_getLast?_contentLines hline]
  rw [contentLines, lines_pad hblanks, hlines, List.mapIdx_append, htail,
    dropEmptyTail_append_replicate, dropEmptyTail_eq_self hlast]

theorem forall₂_padded_contentLines (source : Text)
    (hkept : ∀ index, source.contentLines.length ≤ index → blanks index = []) :
    List.Forall₂ Padded source.contentLines (pad blanks source).contentLines := by
  rw [contentLines_pad hblanks source hkept]
  exact forall₂_padded_mapIdx hblanks source.contentLines

end

end Culprit.Text
