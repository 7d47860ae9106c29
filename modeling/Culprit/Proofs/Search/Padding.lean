import Culprit.Proofs.Region.Legible
import Culprit.Proofs.Rules.TrailingBlanks
import Culprit.Proofs.Service.Agreement

/-!
# Searches of padded sources

Whoever checks a source does not see blanks at the ends of its lines, and neither do the regions
that a completion closes. So each prefix of a padded source is completed by the same closing lines
and judged like the same prefix of the source, and a search takes the same turns in both. It counts
lines up to the last one that is not empty; blanks in the empty lines behind that one would make
lines of content of them, at which a search may end. Line ends of two characters are padding too:
the carriage return before a line feed is blank.
-/

namespace Culprit

/-! ### Completed prefixes -/

theorem Completion.forall₂_firstLines {lines padded : List Text}
    (h : List.Forall₂ Text.Padded lines padded) (last : Int) :
    List.Forall₂ Text.Padded (firstLines lines last) (firstLines padded last) := by
  simp only [firstLines, h.length_eq]
  split
  · exact List.forall₂_take _ h
  · exact List.forall₂_take _ h

/-- The lines that complete a document are the same for the padded document. -/
theorem Completion.exists_ofLines_eq_of_padded (completion : Completion) {lines padded : List Text}
    (h : List.Forall₂ Text.Padded lines padded) :
    ∃ suffix, completion.ofLines lines = Text.unlines (lines ++ suffix) ∧
      completion.ofLines padded = Text.unlines (padded ++ suffix) ∧
      ∀ line ∈ suffix, line ∈ closingWords := by
  cases completion with
  | naive => exact ⟨[], by simp [ofLines], by simp [ofLines], by simp⟩
  | structural =>
    refine ⟨_, rfl, ?_, fun line => mem_closingWords_of_mem_closingSuffix⟩
    rw [ofLines, Regions.scan_of_padded h]

/-- **A padded prefix is judged like the prefix.** -/
theorem Completion.check_complete_of_padded (completion : Completion) {lines padded : List Text}
    (hlines : ∀ line ∈ lines, '\n' ∉ line) (h : List.Forall₂ Text.Padded lines padded)
    (last : Int) :
    check (completion.complete padded last) = check (completion.complete lines last) ∧
      (completion.complete padded last).isBlankText =
        (completion.complete lines last).isBlankText := by
  have hfirst := forall₂_firstLines h last
  obtain ⟨suffix, hdocument, hpadded, hsuffix⟩ := completion.exists_ofLines_eq_of_padded hfirst
  have hboth : List.Forall₂ Text.Padded (firstLines lines last ++ suffix)
      (firstLines padded last ++ suffix) :=
    List.rel_append hfirst (List.forall₂_same.mpr fun line _ => .refl line)
  have hfeeds : ∀ line ∈ firstLines lines last ++ suffix, '\n' ∉ line := by
    intro line hline
    rcases List.mem_append.mp hline with hfront | hend
    · exact hlines line (mem_of_mem_firstLines hfront)
    · exact (clear_of_mem_closingWords (hsuffix line hend)).1
  rw [complete, complete, hdocument, hpadded]
  exact ⟨check_unlines_of_padded hfeeds hboth, Text.isBlankText_unlines_of_padded hboth⟩

/-! ### The search -/

theorem Text.trim_getD_of_padded {lines padded : List Text} (h : List.Forall₂ Padded lines padded)
    (index : Nat) : trim (padded.getD index []) = trim (lines.getD index []) := by
  induction h generalizing index with
  | nil => rfl
  | cons hline _ ih =>
    cases index with
    | zero => exact hline.trim_eq
    | succ index => simpa using ih index

namespace Locator

variable {σ : Type}

/-- The built-in oracle is asked and answers alike in a source and in a padded one. -/
theorem searchAlike_of_padded (completion : Completion) {source padded : Text}
    (hlines : List.Forall₂ Text.Padded source.lines padded.lines)
    (hcontent : List.Forall₂ Text.Padded source.contentLines padded.contentLines) :
    let locator : Locator σ := ⟨Oracle.lexical σ, completion.complete⟩
    SearchAlike (fun _ _ => True) locator locator source padded := by
  have hanswers : (Oracle.lexical σ).Answers fun document => .ok (lexicalErrors document) :=
    Oracle.answers_lexical σ
  have hfeeds : ∀ line ∈ source.contentLines, '\n' ∉ line := fun line =>
    Text.newline_notMem_of_mem_contentLines
  have hprobes : ∀ last : Int,
      check (completion.complete padded.contentLines last) =
          check (completion.complete source.contentLines last) ∧
        (completion.complete padded.contentLines last).isBlankText =
          (completion.complete source.contentLines last).isBlankText :=
    completion.check_complete_of_padded hfeeds hcontent
  have hlength : padded.contentLines.length = source.contentLines.length :=
    hcontent.length_eq.symm
  refine ⟨Session.ignoresLogs_true, ?_, hlength, ?_, fun last => ?_, fun index => ?_⟩
  · rw [← Text.unlines_lines padded, ← Text.unlines_lines source]
    exact Text.isBlankText_unlines_of_padded hlines
  · refine hanswers.alike_accepts hanswers ?_
    simp only [lexicalErrors, check_of_padded hlines]
  · refine isValidUpTo_alike (hprobes last).2 (hanswers.alike_accepts hanswers ?_)
    simp only [lexicalErrors, (hprobes last).1]
  · refine report_alike (Text.trim_getD_of_padded hcontent index)
      (hanswers.alike_firstMessage hanswers ?_)
    simp only [lexicalErrors, (hprobes index).1]

end Locator

/-- **Blanks at the ends of lines do not matter.** Let blank characters other than line feeds be
appended to the lines of a source, to each of them any. The check reports the same problems in the
same words, at the same places and in the same order, and the same regions are open behind the
lines, with and without the empty ones at the end. If nothing is appended to those empty lines, then
a search with either completion ends as it does in the source, with the same fault, with none, or
without a source to search. -/
theorem check_pad (source : Text) (blanks : Nat → Text)
    (hblanks : ∀ index, (blanks index).isBlankText = true ∧ '\n' ∉ blanks index) :
    check (source.pad blanks) = check source ∧
      Regions.scan (source.pad blanks).lines = Regions.scan source.lines ∧
      Regions.scan (source.pad blanks).contentLines = Regions.scan source.contentLines ∧
      ((∀ index, source.contentLines.length ≤ index → blanks index = []) →
        ∀ (σ : Type) (completion : Completion) (session : Session σ),
          let finder : Finder σ := ⟨Oracle.lexical σ, completion⟩
          ((finder.locate (some (source.pad blanks))).run session).1 =
            ((finder.locate (some source)).run session).1) := by
  have hlines : List.Forall₂ Text.Padded source.lines (source.pad blanks).lines :=
    Text.forall₂_padded_lines hblanks source
  have hscan : Regions.scan (source.pad blanks).lines = Regions.scan source.lines :=
    Regions.scan_of_padded hlines
  refine ⟨?_, hscan, ?_, fun hkept σ completion session => ?_⟩
  · exact check_of_padded hlines
  · rw [Regions.scan_contentLines, hscan, Regions.scan_contentLines]
  · have hcontent := Text.forall₂_padded_contentLines hblanks source hkept
    exact ((Locator.searchAlike_of_padded completion hlines hcontent).locate session session
      trivial).1.symm

/-- A rule with a bracket that is not closed and an empty line behind it. -/
def openCallSource : Text := "rule \"r\"\nwhen\nthen\n\tgo(;\nend\n\n".toList

/-- Line ends of two characters for the lines of the rule, and none for the empty line. -/
def carriageReturns (index : Nat) : Text := if index < 5 then ['\r'] else []

/-- With either kind of line ends the bracket is found in the fourth line. -/
theorem check_pad_openCallSource :
    let returned : Text := "rule \"r\"\r\nwhen\r\nthen\r\n\tgo(;\r\nend\r\n\n".toList
    let finder : Finder Unit := ⟨Oracle.lexical Unit, .structural⟩
    openCallSource.pad carriageReturns = returned ∧
      check returned = [⟨.unclosedOpener .round, ⟨4, 4⟩⟩] ∧
      Regions.scan returned.lines = [] ∧
      ((finder.locate (some returned)).run (.start ())).1 = .ok (some ⟨"go(;".toList, 4,
        "[line 4:4] Unclosed '(' (expected ')' before end of input)"⟩) := by
  intro returned finder
  have hpad : openCallSource.pad carriageReturns = returned := by decide +kernel
  have hblanks : ∀ index,
      (carriageReturns index).isBlankText = true ∧ '\n' ∉ carriageReturns index := by
    intro index
    unfold carriageReturns
    split <;> decide
  have hkept : ∀ index, openCallSource.contentLines.length ≤ index →
      carriageReturns index = [] := by
    intro index hindex
    have hlength : openCallSource.contentLines.length = 5 := by decide +kernel
    rw [hlength] at hindex
    rw [carriageReturns, if_neg (by omega)]
  have hchecked : check openCallSource = [⟨.unclosedOpener .round, ⟨4, 4⟩⟩] := by decide +kernel
  have hscanned : Regions.scan openCallSource.lines = [] := by decide +kernel
  have hlocated : ((finder.locate (some openCallSource)).run (.start ())).1 =
      .ok (some ⟨"go(;".toList, 4,
        "[line 4:4] Unclosed '(' (expected ')' before end of input)"⟩) := by decide +kernel
  obtain ⟨hcheck, hscan, -, hlocate⟩ := check_pad openCallSource carriageReturns hblanks
  have hfound := hlocate hkept Unit .structural (.start ())
  rw [hpad] at hcheck hscan hfound
  exact ⟨hpad, hcheck.trans hchecked, hscan.trans hscanned, hfound.trans hlocated⟩

end Culprit
