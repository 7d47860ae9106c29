import Culprit.Text.Lines
import Mathlib.Data.List.TakeWhile

/-!
# Cutting and joining lines

Cutting a source and joining its lines undo each other as long as no line holds a line feed. The
content of a source is its lines up to some empty ones, so no index of a content line is lost by
cutting, and a source that is not blank has content.
-/

namespace Culprit.Text

theorem unlines_lines (source : Text) : unlines source.lines = source :=
  List.intercalate_splitOn '\n'

theorem lines_unlines {lines : List Text} (hne : lines ≠ [])
    (hlines : ∀ line ∈ lines, '\n' ∉ line) : Text.lines (unlines lines) = lines :=
  List.splitOn_intercalate '\n' hlines hne

theorem lines_ne_nil (source : Text) : source.lines ≠ [] := List.splitOn_ne_nil '\n' source

theorem lines_cons (c : Char) (source : Text) :
    Text.lines (c :: source) =
      if c = '\n' then [] :: source.lines else source.lines.modifyHead (c :: ·) := by
  simp only [lines, List.splitOn_cons_eq_if_modifyHead, beq_iff_eq]

theorem mem_of_mem_lines {source line : Text} (hline : line ∈ source.lines) {c : Char}
    (hc : c ∈ line) : c ∈ source ∧ c ≠ '\n' := by
  induction source generalizing line with
  | nil =>
    have : line = [] := by simpa [lines, List.splitOn_nil] using hline
    simp [this] at hc
  | cons first rest ih =>
    rw [lines_cons] at hline
    obtain ⟨head, tail, hrest⟩ := List.exists_cons_of_ne_nil (lines_ne_nil rest)
    rw [hrest] at hline ih
    by_cases hfirst : first = '\n'
    · rw [if_pos hfirst] at hline
      rcases List.mem_cons.mp hline with rfl | hmem
      · simp at hc
      · exact (ih hmem hc).imp_left (List.mem_cons_of_mem _)
    · rw [if_neg hfirst, List.modifyHead_cons] at hline
      rcases List.mem_cons.mp hline with rfl | hmem
      · rcases List.mem_cons.mp hc with rfl | hhead
        · exact ⟨List.mem_cons_self, hfirst⟩
        · exact (ih List.mem_cons_self hhead).imp_left (List.mem_cons_of_mem _)
      · exact (ih (List.mem_cons_of_mem _ hmem) hc).imp_left (List.mem_cons_of_mem _)

theorem newline_notMem_of_mem_lines {source line : Text} (hline : line ∈ source.lines) :
    '\n' ∉ line :=
  fun hmem => (mem_of_mem_lines hline hmem).2 rfl

/-- A line feed between two sources ends the last line of the first. -/
theorem lines_append_newline (first second : Text) :
    Text.lines (first ++ '\n' :: second) = first.lines ++ second.lines :=
  List.splitOn_append_cons_self first second

theorem unlines_append {first second : List Text} (hfirst : first ≠ []) (hsecond : second ≠ []) :
    unlines (first ++ second) = unlines first ++ '\n' :: unlines second := by
  induction first with
  | nil => exact absurd rfl hfirst
  | cons line rest ih =>
    rcases rest with _ | ⟨next, rest⟩
    · simp [unlines, List.intercalate_cons_of_ne_nil hsecond]
    · have hnext := ih (by simp)
      simp only [unlines, List.cons_append, List.intercalate_cons_cons, List.append_assoc]
        at hnext ⊢
      rw [hnext]

theorem unlines_replicate_nil (count : Nat) :
    unlines (List.replicate (count + 1) []) = List.replicate count '\n' := by
  induction count with
  | zero => rfl
  | succ count ih =>
    rw [List.replicate_succ, ← List.singleton_append, unlines_append (by simp) (by simp), ih]
    rfl

/-- Joined lines show nothing exactly when none of them does: the line feeds are blank. -/
theorem isBlankText_unlines (lines : List Text) :
    isBlankText (unlines lines) = lines.all isBlankText := by
  induction lines with
  | nil => rfl
  | cons line rest ih =>
    rcases rest with _ | ⟨next, rest⟩
    · simp [unlines, List.intercalate_singleton]
    · have happend : unlines (line :: next :: rest) = line ++ '\n' :: unlines (next :: rest) := by
        simp [unlines, List.intercalate_cons_cons]
      have hfeed : isBlank '\n' = true := rfl
      rw [happend, List.all_cons, ← ih]
      simp [isBlankText, hfeed]

/-! ### Content -/

theorem dropEmptyTail_append (lines : List Text) :
    ∃ count, lines = dropEmptyTail lines ++ List.replicate count [] := by
  have hsplit : (lines.reverse.takeWhile List.isEmpty).reverse =
      List.replicate (lines.reverse.takeWhile List.isEmpty).length [] := by
    rw [List.eq_replicate_iff]
    refine ⟨by simp, fun line hline => ?_⟩
    simpa using List.mem_takeWhile_imp (List.mem_reverse.mp hline)
  refine ⟨(lines.reverse.takeWhile List.isEmpty).length, ?_⟩
  rw [← hsplit, dropEmptyTail, ← List.reverse_append, List.takeWhile_append_dropWhile,
    List.reverse_reverse]

@[simp] theorem dropEmptyTail_append_replicate (lines : List Text) (count : Nat) :
    dropEmptyTail (lines ++ List.replicate count []) = dropEmptyTail lines := by
  have hempty : ∀ line ∈ List.replicate count ([] : Text), line.isEmpty = true := by
    simp
  rw [dropEmptyTail, List.reverse_append, List.reverse_replicate,
    List.dropWhile_append_of_pos hempty, dropEmptyTail]

theorem dropEmptyTail_eq_self {lines : List Text} (hlast : ∀ line ∈ lines.getLast?, line ≠ []) :
    dropEmptyTail lines = lines := by
  rcases List.eq_nil_or_concat lines with rfl | ⟨front, line, rfl⟩
  · rfl
  · have hline : line.isEmpty = false := by simpa using hlast line (by simp)
    simp [dropEmptyTail, hline]

theorem ne_nil_of_mem_getLast?_dropEmptyTail {lines : List Text} {line : Text}
    (hline : line ∈ (dropEmptyTail lines).getLast?) : line ≠ [] := by
  rw [dropEmptyTail, List.getLast?_reverse, Option.mem_def] at hline
  have hkept := List.head?_dropWhile_not List.isEmpty lines.reverse
  rw [hline] at hkept
  simpa using hkept

theorem contentLines_append (source : Text) :
    ∃ count, source.lines = source.contentLines ++ List.replicate count [] :=
  dropEmptyTail_append source.lines

theorem ne_nil_of_mem_getLast?_contentLines {source line : Text}
    (hline : line ∈ source.contentLines.getLast?) : line ≠ [] :=
  ne_nil_of_mem_getLast?_dropEmptyTail hline

theorem contentLines_isPrefix (source : Text) : source.contentLines <+: source.lines := by
  obtain ⟨count, hlines⟩ := contentLines_append source
  exact hlines ▸ List.prefix_append _ _

theorem newline_notMem_of_mem_contentLines {source line : Text}
    (hline : line ∈ source.contentLines) :
    '\n' ∉ line :=
  newline_notMem_of_mem_lines ((contentLines_isPrefix source).subset hline)

theorem lt_length_contentLines {source : Text} {index : Nat} (hindex : index < source.lines.length)
    (hline : source.lines[index] ≠ []) : index < source.contentLines.length := by
  obtain ⟨count, hlines⟩ := contentLines_append source
  by_contra hlt
  refine hline ?_
  simp only [hlines]
  rw [List.getElem_append_right (by omega), List.getElem_replicate]

/-- The content of a source is the source up to line feeds at its end. -/
theorem unlines_contentLines_append (source : Text) :
    ∃ count, source = unlines source.contentLines ++ List.replicate count '\n' := by
  obtain ⟨count, hlines⟩ := contentLines_append source
  have hsource := unlines_lines source
  rw [hlines] at hsource
  cases count with
  | zero => exact ⟨0, by simpa using hsource.symm⟩
  | succ count =>
    by_cases hnil : source.contentLines = []
    · refine ⟨count, ?_⟩
      rw [hnil, List.nil_append, unlines_replicate_nil] at hsource
      rw [hnil, ← hsource]
      rfl
    · refine ⟨count + 1, ?_⟩
      rw [unlines_append hnil (by simp), unlines_replicate_nil] at hsource
      exact hsource.symm

theorem contentLines_ne_nil {source : Text} (hshown : source.isBlankText = false) :
    source.contentLines ≠ [] := by
  intro hnil
  obtain ⟨count, hlines⟩ := contentLines_append source
  rw [hnil, List.nil_append] at hlines
  have hblank : source.isBlankText = true := by
    rw [← unlines_lines source, isBlankText_unlines, hlines]
    simp
  simp [hblank] at hshown

end Culprit.Text
