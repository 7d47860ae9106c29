import Culprit.Proofs.Completion.Whole
import Culprit.Proofs.Rules.BlankLines
import Culprit.Proofs.Search.Localization

/-!
# Blank lines are not blamed

A blank line neither opens nor closes a region, so a prefix that ends in it is completed by the same
lines as the prefix before it, and the check finds in both the same problems. A search only ends at
a line where the two differ, unless that is the last line: the whole source is never asked about in
its completed form. What is asked about the whole source is what a completion that adds nothing
makes of it, so then the last line is no exception.
-/

namespace Culprit

variable {σ : Type}

/-! ### Prefixes that end in a blank line -/

/-- The lines that complete a prefix also complete it with a blank line behind it. -/
theorem Completion.exists_ofLines_eq_of_isBlankText (completion : Completion) (front : List Text)
    {line : Text} (hblank : line.isBlankText = true) :
    ∃ suffix, completion.ofLines front = Text.unlines (front ++ suffix) ∧
      completion.ofLines (front ++ [line]) = Text.unlines (front ++ ([line] ++ suffix)) ∧
      (front = [] → suffix = []) ∧ ∀ word ∈ suffix, '\n' ∉ word := by
  cases completion with
  | naive => exact ⟨[], by simp [ofLines], by simp [ofLines], fun _ => rfl, by simp⟩
  | structural =>
    refine ⟨(Regions.scan front).closingSuffix, rfl, ?_, ?_, ?_⟩
    · rw [ofLines, Regions.scan_append, List.foldl_cons, List.foldl_nil,
        Regions.feed_of_isBlankText _ hblank, List.append_assoc]
    · rintro rfl
      rfl
    · exact fun word hword =>
        (clear_of_mem_closingWords (mem_closingWords_of_mem_closingSuffix hword)).1

/-- **A blank line behind a prefix** moves the places of what is found in its completion down, and
changes nothing else. -/
theorem Completion.check_ofLines_append_blank (completion : Completion) {front : List Text}
    {line : Text} (hfeeds : ∀ other ∈ front ++ [line], '\n' ∉ other)
    (hblank : line.isBlankText = true) :
    check (completion.ofLines (front ++ [line])) =
      (check (completion.ofLines front)).map
        (Diagnostic.renumbered (numberBehind front.length 1)) := by
  obtain ⟨suffix, hfront, hlonger, hnil, hsuffix⟩ :=
    completion.exists_ofLines_eq_of_isBlankText front hblank
  rw [hfront, hlonger]
  by_cases hempty : front = []
  · rw [hnil hempty, hempty]
    rw [check_eq_nil_of_isBlankText (by simpa [Text.unlines] using hblank),
      check_eq_nil_of_isBlankText (by simp [Text.unlines])]
    rfl
  · refine check_unlines_insert_blank (by simp [hempty]) ?_ (by simpa using hblank)
    intro other hother
    rw [← List.append_assoc, List.mem_append] at hother
    exact hother.elim (hfeeds other) (hsuffix other)

/-! ### Where a search ends -/

theorem Locator.rejects_lexical_iff (completion : Completion) (lines : List Text) (last : Nat) :
    Rejects completion.complete (fun document => (lexicalErrors document).isEmpty) lines last ↔
      check (completion.ofLines (lines.take (last + 1))) ≠ [] := by
  rw [Rejects, Completion.complete, Completion.firstLines_natCast]
  simp only [lexicalErrors, List.isEmpty_map, List.isEmpty_eq_false_iff]
  refine and_iff_right_of_imp fun hrejected => ?_
  rw [← Bool.not_eq_true]
  exact mt check_eq_nil_of_isBlankText hrejected

/-- A prefix that ends in a blank line is rejected for the lines before it only. -/
theorem Locator.not_rejects_of_isBlankText (completion : Completion) {lines : List Text}
    (hfeeds : ∀ line ∈ lines, '\n' ∉ line) {index : Nat} (hindex : index < lines.length)
    (hblank : lines[index].isBlankText = true)
    (hbefore : index = 0 ∨ ¬Rejects completion.complete
      (fun document => (lexicalErrors document).isEmpty) lines (index - 1)) :
    ¬Rejects completion.complete (fun document => (lexicalErrors document).isEmpty) lines
      index := by
  have htake : lines.take (index + 1) = lines.take index ++ [lines[index]] :=
    List.take_succ_eq_append_getElem hindex
  have hkept : ∀ line ∈ lines.take index ++ [lines[index]], '\n' ∉ line := fun line hline =>
    hfeeds line (List.mem_of_mem_take (htake ▸ hline))
  have haccepted : check (completion.ofLines (lines.take index)) = [] := by
    -- In front of the first line there is no prefix to ask about, and no line to find fault with.
    cases index with
    | zero =>
      have hnothing : check (Text.unlines []) = [] := check_eq_nil_of_isBlankText rfl
      cases completion <;> exact hnothing
    | succ before =>
      have hnot := hbefore.resolve_left (Nat.succ_ne_zero before)
      rwa [Nat.add_sub_cancel, rejects_lexical_iff, not_not] at hnot
  rw [rejects_lexical_iff, not_not, htake, completion.check_ofLines_append_blank hkept hblank,
    haccepted, List.map_nil]

namespace Finder

/-- **Blank lines are not blamed.** A search for what is wrong with a source that the check rejects
blames a line with a character that is not blank, unless the line is the last one. Without a
completion, the last line is no exception. -/
theorem locate_blames_no_blank (completion : Completion) {source : Text}
    (hrejected : check source ≠ []) (session : Session σ) :
    let lines := source.contentLines
    ∃ fault, ((locate ⟨.lexical σ, completion⟩ (some source)).run session).1 = .ok (some fault) ∧
      ∃ index, ∃ hindex : index < lines.length,
        fault.line = index + 1 ∧ fault.content = lines[index].trim ∧
        (index + 1 ≠ lines.length ∨ completion = .naive →
          ∃ c ∈ lines[index], Text.isBlank c = false) := by
  intro lines
  have hshown : source.isBlankText = false := by
    rw [← Bool.not_eq_true]
    exact mt check_eq_nil_of_isBlankText hrejected
  have hjudges : Locator.Judges (Finder.locator ⟨.lexical σ, completion⟩).oracle
      fun document => (lexicalErrors document).isEmpty :=
    Locator.judges_ofErrors _ lexicalErrors _
  obtain ⟨fault, hrun, index, hindex, hline, hcontent, hbefore, hreached⟩ :=
    hjudges.exists_run_locate_between hshown (by simpa [lexicalErrors] using hrejected) session
  refine ⟨fault, hrun, index, hindex, hline, hcontent, fun hasked => ?_⟩
  by_contra hnone
  have hblank : lines[index].isBlankText = true := by
    simpa [Text.isBlankText] using hnone
  have hfeeds : ∀ line ∈ lines, '\n' ∉ line := fun line =>
    Text.newline_notMem_of_mem_contentLines
  have haccepted := Locator.not_rejects_of_isBlankText completion hfeeds hindex hblank hbefore
  have hlast : index + 1 = lines.length := hreached.resolve_right haccepted
  obtain rfl : completion = .naive := hasked.resolve_left (not_not.mpr hlast)
  -- The prefix of all lines is the content of the source, which is judged like the source.
  rw [Locator.rejects_lexical_iff, not_not, hlast, List.take_length, Completion.ofLines,
    check_unlines_contentLines hshown] at haccepted
  exact hrejected haccepted

/-- A rule without its end, with blank lines before and behind it. -/
def openRuleSource : Text := "package a;\n \t\nrule \"r\"\nwhen\nthen\n  ".toList

/-- Raw prefixes are rejected from the header on. Completed ones are all accepted, so the blank line
at the end is blamed. -/
theorem locate_blames_no_blank_openRuleSource :
    check openRuleSource ≠ [] ∧
      (∃ fault, ((locate ⟨.lexical Unit, .naive⟩ (some openRuleSource)).run (.start ())).1 =
          .ok (some fault) ∧ fault.line = 3 ∧
        ∃ c ∈ openRuleSource.contentLines.getD 2 [], Text.isBlank c = false) ∧
      ((locate ⟨.lexical Unit, .structural⟩ (some openRuleSource)).run (.start ())).1 =
        .ok (some ⟨[], 6, unknownError⟩) := by
  obtain ⟨hrejected, hline, hlast⟩ :
      check openRuleSource ≠ [] ∧
        ((locate ⟨.lexical Unit, .naive⟩ (some openRuleSource)).run (.start ())).1.map
          (·.map Fault.line) = .ok (some 3) ∧
        ((locate ⟨.lexical Unit, .structural⟩ (some openRuleSource)).run (.start ())).1 =
          .ok (some ⟨[], 6, unknownError⟩) := by
    decide +kernel
  obtain ⟨fault, hrun, index, hindex, hfault, -, hshows⟩ :=
    locate_blames_no_blank .naive hrejected (.start ())
  rw [hrun] at hline
  have hthree : fault.line = 3 := by simpa [Except.map] using hline
  obtain rfl : index = 2 := by omega
  refine ⟨hrejected, ⟨fault, hrun, hthree, ?_⟩, hlast⟩
  rw [List.getD_eq_getElem?_getD, List.getElem?_eq_getElem hindex, Option.getD_some]
  exact hshows (.inr rfl)

end Finder
end Culprit
