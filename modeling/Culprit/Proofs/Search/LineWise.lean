import Culprit.Proofs.Completion.Structural
import Culprit.Proofs.Search.Bisection

/-!
# Faults that are in a line

An oracle may judge a document line by line, and reject it for a bad line whatever stands around it.
Such a verdict never turns back when lines are added. A search, though, does not ask about the lines
of the source alone: it leaves out empty lines at the end, takes blank prefixes for valid unasked,
and puts closing words behind a prefix, as many as its lines happen to ask for. If blank lines and
closing words are good, then none of this matters, and a prefix is rejected exactly when it reaches
the first bad line.
-/

namespace Culprit

variable {σ : Type} {good : Text → Bool}

theorem Completion.exists_ofLines_eq (completion : Completion) (lines : List Text) :
    ∃ suffix, completion.ofLines lines = Text.unlines (lines ++ suffix) ∧
      ∀ line ∈ suffix, line ∈ closingWords := by
  cases completion with
  | naive => exact ⟨[], by rw [List.append_nil, ofLines], by simp⟩
  | structural => exact ⟨_, rfl, fun line => mem_closingWords_of_mem_closingSuffix⟩

theorem exists_first_bad {lines : List Text} (h : ¬lines.all good = true) :
    ∃ front line behind, lines = front ++ line :: behind ∧
      (∀ earlier ∈ front, good earlier = true) ∧ good line = false := by
  cases hfind : lines.find? fun line => !good line with
  | none =>
    refine absurd (List.all_eq_true.mpr fun line hline => ?_) h
    simpa using List.find?_eq_none.mp hfind line hline
  | some line =>
    obtain ⟨hbad, front, behind, hlines, hfront⟩ := List.find?_eq_some_iff_append.mp hfind
    exact ⟨front, line, behind, hlines, by simpa using hfront, by simpa using hbad⟩

theorem all_take_eq_false_iff {front behind : List Text} {line : Text}
    (hfront : ∀ earlier ∈ front, good earlier = true) (hline : good line = false) (count : Nat) :
    ((front ++ line :: behind).take count).all good = false ↔ front.length < count := by
  have hbegin : (front.take count).all good = true :=
    List.all_eq_true.mpr fun earlier hmem => hfront earlier (List.mem_of_mem_take hmem)
  rw [List.take_append, List.all_append, hbegin, Bool.true_and]
  cases hcount : count - front.length with
  | zero => exact iff_of_false (by simp) (by omega)
  | succ more => exact iff_of_true (by simp [hline]) (by omega)

namespace Locator

/-- A prefix is rejected for its own lines only. -/
theorem rejects_lines_iff
    (hblank : ∀ line : Text, '\n' ∉ line → line.isBlankText = true → good line = true)
    (hclosing : ∀ word ∈ closingWords, good word = true) (completion : Completion) {source : Text}
    {last : Nat} (hlast : last < source.contentLines.length) :
    Rejects completion.complete (fun document => document.lines.all good) source.contentLines
        last ↔ (source.lines.take (last + 1)).all good = false := by
  obtain ⟨suffix, hdocument, hsuffix⟩ :=
    completion.exists_ofLines_eq (source.lines.take (last + 1))
  have hfeeds : ∀ line ∈ source.lines.take (last + 1), '\n' ∉ line :=
    fun line hmem => Text.newline_notMem_of_mem_lines (List.mem_of_mem_take hmem)
  have hlines : ∀ line ∈ source.lines.take (last + 1) ++ suffix, '\n' ∉ line := by
    intro line hline
    rcases List.mem_append.mp hline with hfront | hend
    · exact hfeeds line hfront
    · exact (clear_of_mem_closingWords (hsuffix line hend)).1
  have hne : source.lines.take (last + 1) ++ suffix ≠ [] := by
    simp [Text.lines_ne_nil]
  have hgood : suffix.all good = true :=
    List.all_eq_true.mpr fun line hline => hclosing line (hsuffix line hline)
  rw [Rejects, Completion.complete_of_isPrefix (Text.contentLines_isPrefix source) hlast, hdocument,
    Text.lines_unlines hne hlines, List.all_append, hgood, Bool.and_true]
  refine and_iff_right_of_imp fun hbad => ?_
  -- A blank document has blank lines only, so it would not be rejected if it were asked about.
  rw [Text.isBlankText_unlines, ← Bool.not_eq_true]
  intro hall
  rw [List.all_append, Bool.and_eq_true, List.all_eq_true] at hall
  have hfront : (source.lines.take (last + 1)).all good = true :=
    List.all_eq_true.mpr fun line hline => hblank line (hfeeds line hline) (hall.1 line hline)
  simp [hfront] at hbad

end Locator

theorem Finder.exists_fault_of_first_bad {finder : Finder σ}
    (hjudges : Locator.Judges finder.oracle fun document => document.lines.all good)
    (hblank : ∀ line : Text, '\n' ∉ line → line.isBlankText = true → good line = true)
    (hclosing : ∀ word ∈ closingWords, good word = true) {source line : Text}
    (hshown : source.isBlankText = false) {front behind : List Text}
    (hlines : source.lines = front ++ line :: behind)
    (hfront : ∀ earlier ∈ front, good earlier = true) (hbad : good line = false)
    (session : Session σ) :
    ∃ fault, ((finder.locate (some source)).run session).1 = .ok (some fault) ∧
      fault.line = front.length + 1 ∧ fault.content = line.trim := by
  have hrejected : source.lines.all good = false := by
    simp [hlines, hbad]
  have hnil : line ≠ [] := by
    rintro rfl
    simp [hblank [] (by simp) rfl] at hbad
  -- The bad line is not empty, so it is not dropped with the empty lines at the end.
  have hindex : front.length < source.contentLines.length :=
    Text.lt_length_contentLines (by simp [hlines]) (by simpa [hlines] using hnil)
  have hrejects : ∀ last < source.contentLines.length,
      Locator.Rejects finder.completion.complete (fun document => document.lines.all good)
        source.contentLines last ↔ front.length ≤ last := by
    intro last hlast
    rw [Locator.rejects_lines_iff hblank hclosing finder.completion hlast, hlines,
      all_take_eq_false_iff hfront hbad, Nat.lt_succ_iff]
  have hget : source.contentLines.getD front.length [] = line := by
    rw [List.getD_eq_getElem?_getD, List.getElem?_eq_getElem hindex,
      (Text.contentLines_isPrefix source).getElem hindex]
    simp [hlines]
  obtain ⟨fault, hlocated, hnumber, hcontent⟩ :=
    finder.locator.run_locate_of_rejects_iff hjudges hshown hrejected hindex hrejects session
  exact ⟨fault, hlocated, hnumber, hget ▸ hcontent⟩

/-- **The first bad line is found.** Let an oracle accept a document exactly when every line of it
is good, where blank lines and closing words are good. A search then finds nothing to blame exactly
in a source all lines of which are good, and otherwise blames the first line that is not. -/
theorem Finder.locate_first_bad {finder : Finder σ}
    (hjudges : Locator.Judges finder.oracle fun document => document.lines.all good)
    (hblank : ∀ line : Text, '\n' ∉ line → line.isBlankText = true → good line = true)
    (hclosing : ∀ word ∈ closingWords, good word = true) {source : Text}
    (hshown : source.isBlankText = false) (session : Session σ) :
    let located := ((finder.locate (some source)).run session).1
    (located = .ok none ↔ ∀ line ∈ source.lines, good line = true) ∧
      ((∃ line ∈ source.lines, good line = false) →
        ∃ front line behind, source.lines = front ++ line :: behind ∧
          (∀ earlier ∈ front, good earlier = true) ∧ good line = false ∧
          ∃ fault, located = .ok (some fault) ∧
            fault.line = front.length + 1 ∧ fault.content = line.trim) := by
  intro located
  by_cases hall : source.lines.all good = true
  · have hnone : located = .ok none := hjudges.run_locate_eq_none hshown hall session
    rw [List.all_eq_true] at hall
    refine ⟨iff_of_true hnone hall, ?_⟩
    rintro ⟨line, hline, hbad⟩
    simp [hall line hline] at hbad
  · obtain ⟨front, line, behind, hlines, hfront, hbad⟩ := exists_first_bad hall
    obtain ⟨fault, hlocated, hfault⟩ := exists_fault_of_first_bad hjudges hblank hclosing hshown
      hlines hfront hbad session
    have hsome : located ≠ .ok none := by
      intro hnone
      cases hnone.symm.trans hlocated
    exact ⟨iff_of_false hsome (mt List.all_eq_true.mpr hall), fun _ =>
      ⟨front, line, behind, hlines, hfront, hbad, fault, hlocated, hfault⟩⟩

def isQuiet (line : Text) : Bool := !line.contains '!'

/-- A finder whose oracle has an error for every line with an exclamation mark. -/
def hush : Finder Unit where
  oracle := .ofErrors "hush" (fun document => return .ok (document.lines.filterMap fun line =>
    if isQuiet line then none else some ("too loud: " ++ String.ofList line))) (return .ok ())
  completion := .structural

def loudSource : Text := "rule \"r\"\n\twhen!\nthen!\n\n".toList

theorem judges_hush : Locator.Judges hush.oracle fun document => document.lines.all isQuiet := by
  intro document session
  rw [hush, Locator.judges_ofErrors, Bool.eq_iff_iff]
  simp

/-- Two lines of a rule are loud, and the first of them is found, indented as it is. -/
theorem Finder.locate_first_bad_hush :
    let located := ((hush.locate (some loudSource)).run (.start ())).1
    located = .ok (some ⟨"when!".toList, 2, "too loud: \twhen!"⟩) ∧
      ∃ front line behind, loudSource.lines = front ++ line :: behind ∧ front.length = 1 ∧
        (∀ earlier ∈ front, isQuiet earlier = true) ∧ isQuiet line = false ∧
        line.trim = "when!".toList := by
  intro located
  have hrun : located = .ok (some ⟨"when!".toList, 2, "too loud: \twhen!"⟩) := by decide +kernel
  have hblank : ∀ line : Text, '\n' ∉ line → line.isBlankText = true → isQuiet line = true := by
    intro line _ hline
    rw [isQuiet, Bool.not_eq_true', ← Bool.not_eq_true, List.contains_iff_mem]
    intro hmem
    have hmark : Text.isBlank '!' = true := List.all_eq_true.mp hline _ hmem
    simp [Text.isBlank] at hmark
  have hclosing : ∀ word ∈ closingWords, isQuiet word = true := by decide
  have hshown : loudSource.isBlankText = false := by decide
  have hloud : ∃ line ∈ loudSource.lines, isQuiet line = false := by decide
  obtain ⟨front, line, behind, hlines, hfront, hbad, fault, hlocated, hnumber, hcontent⟩ :=
    (locate_first_bad judges_hush hblank hclosing hshown (.start ())).2 hloud
  cases hlocated.symm.trans hrun
  exact ⟨hrun, front, line, behind, hlines, by simpa using hnumber.symm, hfront, hbad,
    hcontent.symm⟩

end Culprit
