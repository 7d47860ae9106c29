import Culprit.Proofs.Rules.Concatenation
import Culprit.Proofs.Rules.TrailingBlanks

/-!
# Blank lines

A blank line is no code, also when it stands in a comment or behind one: the comment that is open
before it is open behind it, and nothing else is open or closed by it. So blank lines are neither
judged nor missed, wherever they stand. The lines behind them have other numbers, and that is all.
In particular the content of a source is judged like the source.
-/

namespace Culprit

/-- The line has no code to judge, and a comment that is open before it stays open. -/
structure CodeLine.Idle (line : CodeLine) (openComment : Option Position) : Prop where
  text : line.text = []
  delimiters : line.delimiters = []
  unclosedQuote : line.stripped.unclosedQuote = none
  openComment : line.stripped.openComment = openComment

theorem CodeLine.idle_of_isBlankText {line : Text} (hblank : line.isBlankText = true) (number : Nat)
    (openComment : Option Position) :
    Idle ⟨number, line, line.strip number 1 openComment⟩ openComment := by
  obtain ⟨padding, hpadding, hstrip⟩ := Text.strip_of_isBlankText hblank number 1 openComment
  have hblanks : Text.isBlankText (padding.map CodeChar.char) = true := by
    simpa [Text.isBlankText] using hpadding
  have hnone : ∀ c ∈ padding, Delimiter.ofChar? c.char = none :=
    fun c hc => Delimiter.ofChar?_of_isBlank (hpadding c hc)
  rw [hstrip]
  exact ⟨Text.trim_eq_nil_iff.mpr hblanks, by simpa [CodeLine.delimiters] using hnone, rfl, rfl⟩

theorem idle_of_mem_stripLinesFrom {lines : List Text}
    (hblank : ∀ line ∈ lines, line.isBlankText = true) (number : Nat)
    (openComment : Option Position) :
    ∀ line ∈ stripLinesFrom number openComment lines, line.Idle openComment := by
  induction lines generalizing number with
  | nil => simp [stripLinesFrom]
  | cons line rest ih =>
    rw [List.forall_mem_cons] at hblank
    have hline := CodeLine.idle_of_isBlankText hblank.1 number openComment
    have hopen : (line.strip number 1 openComment).openComment = openComment := hline.openComment
    rw [stripLinesFrom, hopen, List.forall_mem_cons]
    exact ⟨hline, ih hblank.2 (number + 1)⟩

/-- The lines behind blank lines are read as if they were not there. -/
theorem stripLinesFrom_append_of_blank {blanks : List Text}
    (hblank : ∀ line ∈ blanks, line.isBlankText = true) (number : Nat)
    (openComment : Option Position) (second : List Text) :
    stripLinesFrom number openComment (blanks ++ second) =
      stripLinesFrom number openComment blanks ++
        stripLinesFrom (number + blanks.length) openComment second := by
  induction blanks generalizing number with
  | nil => rfl
  | cons line rest ih =>
    rw [List.forall_mem_cons] at hblank
    have hopen : (line.strip number 1 openComment).openComment = openComment :=
      (CodeLine.idle_of_isBlankText hblank.1 number openComment).openComment
    rw [List.cons_append, stripLinesFrom, stripLinesFrom, hopen, ih hblank.2 (number + 1),
      List.length_cons, Nat.add_right_comm, Nat.add_assoc number, List.cons_append]

theorem Outline.diagnose_append_of_blank {lines : List CodeLine}
    (hblank : ∀ line ∈ lines, line.text = []) (outline : Outline) (second : List CodeLine) :
    outline.diagnose (lines ++ second) = outline.diagnose second := by
  induction lines with
  | nil => rfl
  | cons line rest ih =>
    rw [List.forall_mem_cons] at hblank
    rw [List.cons_append, diagnose, step_of_eq_nil hblank.1, ih hblank.2, List.nil_append]

/-- **Lines without code are not judged**, wherever they stand. -/
theorem diagnoseLines_insert_idle {first idle : List CodeLine}
    (hidle : ∀ line ∈ idle, line.Idle (openCommentAfter first)) (second : List CodeLine) :
    diagnoseLines (first ++ (idle ++ second)) = diagnoseLines (first ++ second) := by
  have hliterals : unclosedLiterals (first ++ (idle ++ second)) =
      unclosedLiterals (first ++ second) := by
    have hnone := unclosedLiterals_eq_nil_iff.mpr fun line hline => (hidle line hline).unclosedQuote
    simp only [unclosedLiterals_append, hnone, List.nil_append]
  have hfirst : openCommentAfter (first ++ idle) = openCommentAfter first := by
    cases hlast : idle.getLast? with
    | none => rw [List.getLast?_eq_none_iff.mp hlast, List.append_nil]
    | some line =>
      rw [openCommentAfter, List.getLast?_append, hlast]
      exact (hidle line (List.mem_of_getLast? hlast)).openComment
  have hcomment : openCommentAfter (first ++ (idle ++ second)) =
      openCommentAfter (first ++ second) := by
    rcases second with _ | ⟨line, rest⟩
    · rw [List.append_nil, List.append_nil, hfirst]
    · simp [openCommentAfter, List.getLast?_append, List.getLast?_cons]
  have hdelimiters : (first ++ (idle ++ second)).flatMap CodeLine.delimiters =
      (first ++ second).flatMap CodeLine.delimiters := by
    have hnone : idle.flatMap CodeLine.delimiters = [] :=
      List.flatMap_eq_nil_iff.mpr fun line hline => (hidle line hline).delimiters
    simp only [List.flatMap_append, hnone, List.nil_append]
  have houtline : Outline.start.diagnose (first ++ (idle ++ second)) =
      Outline.start.diagnose (first ++ second) := by
    rw [Outline.diagnose_append,
      Outline.diagnose_append_of_blank fun line hline => (hidle line hline).text,
      ← Outline.diagnose_append]
  rw [diagnoseLines, diagnoseLines, hliterals, houtline]
  simp only [unclosedComment, nestingProblems, hcomment, hdelimiters]

theorem stripLines_append (first second : List Text) :
    stripLines (first ++ second) = stripLines first ++
      stripLinesFrom (1 + first.length) (openCommentAfter (stripLines first)) second := by
  rw [stripLines, stripLinesFrom_split, ← stripLines, openCommentAfter_eq]
  cases ((stripLines first).map fun line => line.stripped.openComment).getLast? <;> rfl

/-- The number of a line once so many lines have been inserted behind another one. -/
def numberBehind (last count line : Nat) : Nat := if line ≤ last then line else line + count

theorem strictMono_numberBehind (last count : Nat) : StrictMono (numberBehind last count) := by
  intro line line' hlt
  unfold numberBehind
  split <;> split <;> omega

/-- Lines in front of the inserted ones keep their numbers and the places that they remember. -/
theorem map_renumbered_stripLines (first : List Text) (count : Nat) :
    (stripLines first).map (CodeLine.renumbered (numberBehind first.length count)) =
      stripLines first := by
  rcases first with _ | ⟨line, rest⟩
  · rfl
  · have hkept : ∀ number, 1 ≤ number → number + 1 < 1 + (line :: rest).length →
        numberBehind (line :: rest).length count (number + 1) =
          numberBehind (line :: rest).length count number + 1 := by
      intro number _ hlt
      rw [numberBehind, if_pos (by omega), numberBehind, if_pos (by omega)]
    have hone : numberBehind (line :: rest).length count 1 = 1 := by simp [numberBehind]
    have hfirst := stripLinesFrom_renumbered hkept none
    rw [hone] at hfirst
    exact hfirst.symm

/-- **Blank lines only move the places.** Blank lines inserted anywhere in a document change nothing
about what is found in it, but the lines behind them are further down. -/
theorem check_unlines_insert_blank {first blanks second : List Text} (hne : first ++ second ≠ [])
    (hfeeds : ∀ line ∈ first ++ (blanks ++ second), '\n' ∉ line)
    (hblank : ∀ line ∈ blanks, line.isBlankText = true) :
    check (Text.unlines (first ++ (blanks ++ second))) =
      (check (Text.unlines (first ++ second))).map
        (Diagnostic.renumbered (numberBehind first.length blanks.length)) := by
  have hkept : ∀ line ∈ first ++ second, '\n' ∉ line := by
    intro line hline
    refine hfeeds line ?_
    simp only [List.mem_append] at hline ⊢
    tauto
  have hlonger : first ++ (blanks ++ second) ≠ [] := by
    simp only [ne_eq, List.append_eq_nil_iff] at hne ⊢
    tauto
  have hnumber : ∀ number, 1 + first.length ≤ number →
      number + 1 < 1 + first.length + second.length →
      numberBehind first.length blanks.length (number + 1) =
        numberBehind first.length blanks.length number + 1 := by
    intro number hle _
    rw [numberBehind, if_neg (by omega), numberBehind, if_neg (by omega), Nat.add_right_comm]
  have hbehind : numberBehind first.length blanks.length (1 + first.length) =
      1 + first.length + blanks.length := if_neg (by omega)
  have hfirst := map_renumbered_stripLines first blanks.length
  have hopen : (openCommentAfter (stripLines first)).map
      (Position.renumbered (numberBehind first.length blanks.length)) =
        openCommentAfter (stripLines first) := by
    rw [← openCommentAfter_renumbered, hfirst]
  have hsecond := stripLinesFrom_renumbered hnumber (openCommentAfter (stripLines first))
  rw [hbehind, hopen] at hsecond
  rw [check, check, Text.lines_unlines hlonger hfeeds, Text.lines_unlines hne hkept,
    stripLines_append, stripLinesFrom_append_of_blank hblank, stripLines_append,
    diagnoseLines_insert_idle (idle_of_mem_stripLinesFrom hblank _ _), hsecond,
    ← diagnoseLines_renumbered (strictMono_numberBehind _ _), List.map_append, hfirst]

/-- **Blank lines at the end are not judged.** -/
theorem check_unlines_append_blank {first second : List Text} (hne : first ≠ [])
    (hfeeds : ∀ line ∈ first ++ second, '\n' ∉ line)
    (hblank : ∀ line ∈ second, line.isBlankText = true) :
    check (Text.unlines (first ++ second)) = check (Text.unlines first) := by
  have hfirst : ∀ line ∈ first, '\n' ∉ line :=
    fun line hline => hfeeds line (List.mem_append_left _ hline)
  have hidle := diagnoseLines_insert_idle (idle_of_mem_stripLinesFrom hblank (1 + first.length)
    (openCommentAfter (stripLines first))) []
  rw [List.append_nil, List.append_nil] at hidle
  rw [check, check, Text.lines_unlines (by simp [hne]) hfeeds, Text.lines_unlines hne hfirst,
    stripLines_append, hidle]

/-- Nothing is found in a blank source. -/
theorem check_eq_nil_of_isBlankText {source : Text} (hblank : source.isBlankText = true) :
    check source = [] := by
  rw [← Text.unlines_lines source, Text.isBlankText_unlines, List.all_eq_true] at hblank
  have hidle := @diagnoseLines_insert_idle [] _ (idle_of_mem_stripLinesFrom hblank 1 none) []
  rw [List.append_nil, List.nil_append, List.nil_append] at hidle
  exact hidle.trans (diagnoseLines_eq_nil_iff.mpr ⟨rfl, rfl, rfl, rfl⟩)

/-- The content of a source is judged like the source. -/
theorem check_unlines_contentLines {source : Text} (hshown : source.isBlankText = false) :
    check (Text.unlines source.contentLines) = check source := by
  obtain ⟨count, hlines⟩ := Text.contentLines_append source
  have hfeeds : ∀ line ∈ source.contentLines ++ List.replicate count [], '\n' ∉ line :=
    fun line hline => Text.newline_notMem_of_mem_lines (hlines ▸ hline)
  have happend := check_unlines_append_blank (Text.contentLines_ne_nil hshown) hfeeds (by simp)
  rw [← happend, ← hlines, Text.unlines_lines]

end Culprit
