import Culprit.Oracle.Lexical
import Culprit.Proofs.Completion.Structural
import Culprit.Proofs.Search.Bisection

/-!
# Where a single fault is found

A plain document in which one line gets a round bracket that nothing closes. Every prefix that ends
before this line is completed as in the plain document, so it is accepted. Every longer one has one
round bracket more opened than closed, and no completion closes it. So the search blames the line.
-/

namespace Culprit

/-- A document that the built-in oracle accepts and that can be cut behind every line. -/
structure Text.Plain (source : Text) : Prop where
  accepted : check source = []
  bare : source.Bare
  tidy : Tidy (stripLines source.lines)
  /-- No rule gets its consequence before its conditions. -/
  conditions : ∀ count ≤ source.lines.length,
    Block.lacksConditions (blockBehind (stripLines source.lines) count) = false

/-- Lines, one of which gets a round bracket at its end. -/
def spoil (lines : List Text) (index : Nat) : List Text := lines.modify index (· ++ ['('])

/-- By how much the code of some lines opens more round brackets than it closes. -/
def roundTotal (lines : List Text) : Int :=
  Nesting.balance .round
    (lines.flatMap fun line => Text.delimiters (Text.codeOf (Text.roles false line)))

/-! ### Round brackets -/

@[simp] theorem roundTotal_append (first second : List Text) :
    roundTotal (first ++ second) = roundTotal first + roundTotal second := by
  simp [roundTotal]

theorem roundTotal_cons (line : Text) (rest : List Text) :
    roundTotal (line :: rest) = roundTotal [line] + roundTotal rest :=
  roundTotal_append [line] rest

theorem Text.Clear.concat_round {line : Text} (h : Clear line) :
    Clear (line ++ ['(']) ∧ roundTotal [line ++ ['(']] = roundTotal [line] + 1 := by
  have hroles := h.roles_concat (c := '(') (by decide) (by decide) (by decide)
  have hround : Text.delimiters ['('] = [.opening .round] := by decide
  constructor
  · apply clear_of_roles
    intro c hc
    rw [hroles] at hc
    rcases List.mem_append.mp hc with hmem | hlast
    · rcases h.roles_eq c hmem with hrole | hrole <;> simp [hrole]
    · simp [List.mem_singleton.mp hlast]
  · have hcode : codeOf (roles false (line ++ ['('])) = codeOf (roles false line) ++ ['('] := by
      rw [hroles, codeOf_append, codeOf_cons_code, codeOf_nil]
    simp only [roundTotal, List.flatMap_singleton, hcode, delimiters_append, hround,
      Nesting.balance_append]
    rfl

theorem count_round_of_openBrackets? {lines : List Text}
    (hclear : ∀ line ∈ lines, Text.Clear line) {openers : List Bracket}
    (hopen : openBrackets? (stripLines lines) = some openers) :
    (openers.count .round : Int) = roundTotal lines := by
  rw [count_of_openBrackets? hopen, roundTotal, List.flatMap_def, stripLines,
    map_kinds_stripLinesFrom hclear, List.flatMap_def]

theorem roundTotal_take {lines : List Text} (hclear : ∀ line ∈ lines, Text.Clear line)
    (htidy : Tidy (stripLines lines)) (hnest : openBrackets? (stripLines lines) = some [])
    {count : Nat} (hcount : count ≤ lines.length) : roundTotal (lines.take count) = 0 := by
  have hopen := htidy.openBrackets?_take hnest
    (show count ≤ (stripLines lines).length by simpa using hcount)
  rw [stripLines, take_stripLinesFrom, ← stripLines] at hopen
  rw [← count_round_of_openBrackets? (fun line hmem => hclear line (List.mem_of_mem_take hmem))
    hopen, List.count_replicate]
  rfl

theorem check_unlines_ne_nil {lines : List Text}
    (hlines : ∀ line ∈ lines, '\n' ∉ line ∧ Text.Clear line) (htotal : roundTotal lines ≠ 0) :
    check (Text.unlines lines) ≠ [] := by
  intro haccepted
  have hne : lines ≠ [] := by
    rintro rfl
    exact htotal rfl
  have hnest := ((check_unlines_eq_nil_iff hne hlines).mp haccepted).1
  exact htotal (count_round_of_openBrackets? (fun line hmem => (hlines line hmem).2) hnest).symm

theorem roundTotal_closing {words : List Text} (hwords : ∀ word ∈ words, word ∈ closingWords) :
    roundTotal words = 0 := by
  have hclosing : ∀ word ∈ closingWords, roundTotal [word] = 0 := by decide +kernel
  induction words with
  | nil => rfl
  | cons word rest ih =>
    rw [roundTotal_cons, hclosing word (hwords word List.mem_cons_self),
      ih fun word hmem => hwords word (List.mem_cons_of_mem _ hmem)]
    rfl

/-! ### Spoiled lines -/

section Spoiled

variable {lines : List Text} {index : Nat}

theorem take_spoil (count : Nat) :
    (spoil lines index).take count = spoil (lines.take count) index :=
  List.take_modify _ _ _ _

theorem spoil_eq (hindex : index < lines.length) :
    spoil lines index =
      lines.take index ++ (lines[index] ++ ['(']) :: lines.drop (index + 1) :=
  List.modify_eq_take_cons_drop hindex

theorem roundTotal_spoil (hclear : ∀ line ∈ lines, Text.Clear line)
    (hindex : index < lines.length) : roundTotal (spoil lines index) = roundTotal lines + 1 := by
  have hsplit : lines = lines.take index ++ lines[index] :: lines.drop (index + 1) := by simp
  have hround := (hclear _ (List.getElem_mem hindex)).concat_round.2
  calc roundTotal (spoil lines index)
      = roundTotal (lines.take index)
          + (roundTotal [lines[index]] + 1 + roundTotal (lines.drop (index + 1))) := by
        rw [spoil_eq hindex, roundTotal_append, roundTotal_cons, hround]
    _ = roundTotal (lines.take index)
          + (roundTotal [lines[index]] + roundTotal (lines.drop (index + 1))) + 1 := by omega
    _ = roundTotal lines + 1 := by
        rw [← roundTotal_cons, ← roundTotal_append, ← hsplit]

theorem mem_spoil (hlines : ∀ line ∈ lines, '\n' ∉ line ∧ Text.Clear line) :
    ∀ line ∈ spoil lines index, '\n' ∉ line ∧ Text.Clear line := by
  by_cases hindex : index < lines.length
  · intro line hline
    rw [spoil_eq hindex] at hline
    rcases List.mem_append.mp hline with hmem | hmem
    · exact hlines line (List.mem_of_mem_take hmem)
    · rcases List.mem_cons.mp hmem with rfl | hmem
      · obtain ⟨hfeed, hclear⟩ := hlines _ (List.getElem_mem hindex)
        exact ⟨by simp [hfeed], hclear.concat_round.1⟩
      · exact hlines line (List.mem_of_mem_drop hmem)
  · rwa [spoil, List.modify_eq_self (by omega)]

theorem isBlankText_unlines_spoil (hindex : index < lines.length) (more : List Text) :
    Text.isBlankText (Text.unlines (spoil lines index ++ more)) = false := by
  have hround : Text.isBlankText (lines[index] ++ ['(']) = false := by
    simp [Text.isBlankText, Text.isBlank]
  rw [Text.isBlankText_unlines, spoil_eq hindex]
  simp [hround]

end Spoiled

/-! ### The search -/

namespace Text

variable {source : Text} {index : Nat}

theorem Plain.mem_lines (h : source.Plain) : ∀ line ∈ source.lines, '\n' ∉ line ∧ BareLine line :=
  fun line hline => ⟨newline_notMem_of_mem_lines hline, h.bare.bareLine h.accepted line hline⟩

/-- The lines of a spoiled document open one round bracket too many, whatever closes it. -/
theorem Plain.check_spoil_ne_nil (h : source.Plain) {count : Nat} (hindex : index < count)
    (hcount : count ≤ source.lines.length) {suffix : List Text}
    (hsuffix : ∀ line ∈ suffix, line ∈ closingWords) :
    check (unlines (spoil (source.lines.take count) index ++ suffix)) ≠ [] := by
  have hall : ∀ line ∈ source.lines, Clear line :=
    fun line hline => (h.mem_lines line hline).2.clear
  have hfront : ∀ line ∈ source.lines.take count, '\n' ∉ line ∧ Clear line :=
    fun line hline => (h.mem_lines line (List.mem_of_mem_take hline)).imp_right BareLine.clear
  have hlength : index < (source.lines.take count).length := by
    rw [List.length_take]
    omega
  apply check_unlines_ne_nil
  · intro line hline
    rcases List.mem_append.mp hline with hmem | hmem
    · exact mem_spoil hfront line hmem
    · exact clear_of_mem_closingWords (hsuffix line hmem)
  · rw [roundTotal_append, roundTotal_closing hsuffix,
      roundTotal_spoil (fun line hline => (hfront line hline).2) hlength,
      roundTotal_take hall h.tidy (check_eq_nil_iff.mp h.accepted).2.2.1 hcount]
    decide

theorem Plain.check_ofLines_spoil_eq_nil_iff (h : source.Plain) {last : Nat}
    (hlast : last < source.lines.length) :
    check (Completion.structural.ofLines ((spoil source.lines index).take (last + 1))) = [] ↔
      last < index := by
  obtain ⟨-, -, hnest, hquiet⟩ := check_eq_nil_iff.mp h.accepted
  rw [take_spoil]
  constructor
  · intro haccepted
    by_contra hlt
    exact h.check_spoil_ne_nil (by omega) hlast
      (fun line => mem_closingWords_of_mem_closingSuffix) haccepted
  · intro hlt
    rw [spoil, List.modify_eq_self (by rw [List.length_take]; omega)]
    exact (check_ofLines_take_eq_nil_iff h.mem_lines hnest hquiet h.tidy (by omega) hlast).mpr
      (h.conditions _ hlast)

/-- The oracle rejects the prefixes of a spoiled document that reach the spoiled line, and no
others. -/
theorem Plain.rejects_iff (h : source.Plain) {first : List Text}
    (hfirst : first <+: spoil source.lines index) {last : Nat} (hlast : last < first.length) :
    Locator.Rejects Completion.structural.complete
        (fun document => (lexicalErrors document).isEmpty) first last ↔ index ≤ last := by
  have hlength : (spoil source.lines index).length = source.lines.length := by simp [spoil]
  have hle : last < source.lines.length := by
    have := hfirst.length_le
    omega
  have haccepted : (lexicalErrors (Completion.structural.ofLines
      ((spoil source.lines index).take (last + 1)))).isEmpty = true ↔ last < index := by
    rw [← h.check_ofLines_spoil_eq_nil_iff hle]
    simp [lexicalErrors]
  rw [Locator.Rejects, Completion.complete_of_isPrefix hfirst hlast, ← Bool.not_eq_true,
    ← Bool.not_eq_true (List.isEmpty _), haccepted]
  refine ⟨fun hrejects => by omega, fun hle => ⟨?_, by omega⟩⟩
  rw [Bool.not_eq_true, Completion.ofLines, take_spoil]
  exact isBlankText_unlines_spoil (by rw [List.length_take]; omega) _

end Text

/-- **A single fault is found.** Let one line of a plain document get a round bracket at its end.
The search with the built-in oracle over completed prefixes then blames this line and no other. -/
theorem locate_spoil {σ : Type} {source : Text} (hplain : source.Plain) {index : Nat}
    (hindex : index < source.lines.length) (session : Session σ) :
    ∃ fault, (((⟨.lexical σ, .structural⟩ : Finder σ).locate
        (some (Text.unlines (spoil source.lines index)))).run session).1 = .ok (some fault) ∧
      fault.line = index + 1 ∧ fault.content = (source.lines[index] ++ ['(']).trim := by
  obtain ⟨spoiled, hspoiled⟩ : ∃ spoiled, spoiled = Text.unlines (spoil source.lines index) :=
    ⟨_, rfl⟩
  have hlines : spoiled.lines = spoil source.lines index := by
    rw [hspoiled, Text.lines_unlines (by simp [spoil, Text.lines_ne_nil])]
    exact fun line hline => (mem_spoil (fun line hmem =>
      (hplain.mem_lines line hmem).imp_right Text.BareLine.clear) line hline).1
  have hbegins : spoiled.contentLines <+: spoil source.lines index :=
    hlines ▸ Text.contentLines_isPrefix spoiled
  -- The spoiled line is not empty, so it is not dropped with the empty lines at the end.
  have hcontent : index < spoiled.contentLines.length := by
    refine Text.lt_length_contentLines ?_ ?_ <;> simp [hlines, spoil, hindex]
  have hshown : spoiled.isBlankText = false := by
    simpa [hspoiled] using isBlankText_unlines_spoil hindex []
  have hrejected : (lexicalErrors spoiled).isEmpty = false := by
    have hnone : ∀ line ∈ ([] : List Text), line ∈ closingWords := by simp
    have hne := hplain.check_spoil_ne_nil hindex le_rfl hnone
    rw [List.take_length, List.append_nil, ← hspoiled] at hne
    simpa [lexicalErrors] using hne
  obtain ⟨fault, hrun, hline, hfault⟩ := Locator.run_locate_of_rejects_iff
    (⟨.lexical σ, .structural⟩ : Finder σ).locator (Locator.judges_ofErrors _ lexicalErrors _)
    hshown hrejected hcontent (fun last hlast => hplain.rejects_iff hbegins hlast) session
  refine ⟨fault, hspoiled ▸ hrun, hline, hfault.trans ?_⟩
  have hget : spoiled.contentLines[index] = source.lines[index] ++ ['('] := by
    simp [hbegins.getElem hcontent, spoil]
  rw [List.getD_eq_getElem?_getD, List.getElem?_eq_getElem hcontent, hget, Option.getD_some]

/-- The call inside the braces of the consequence is blamed when it is spoiled. -/
theorem locate_spoil_sampleSource :
    sampleSource.Plain ∧ 4 < sampleSource.lines.length ∧
      ∃ fault, (((⟨.lexical Unit, .structural⟩ : Finder Unit).locate
          (some (Text.unlines (spoil sampleSource.lines 4)))).run (Session.start ())).1 =
          .ok (some fault) ∧
        fault.line = 5 ∧ fault.content = "go('b');(".toList := by
  obtain ⟨haccepted, hbare, htidy, hconditions, hindex⟩ :
      check sampleSource = [] ∧ sampleSource.Bare ∧ Tidy (stripLines sampleSource.lines) ∧
        (∀ count ≤ sampleSource.lines.length,
          Block.lacksConditions (blockBehind (stripLines sampleSource.lines) count) = false) ∧
        4 < sampleSource.lines.length := by decide +kernel
  have hplain : sampleSource.Plain := ⟨haccepted, hbare, htidy, hconditions⟩
  have hcontent : ∀ hlt : 4 < sampleSource.lines.length,
      (sampleSource.lines[4] ++ ['(']).trim = "go('b');(".toList := by decide +kernel
  obtain ⟨fault, hrun, hline, hfault⟩ := locate_spoil hplain hindex (Session.start ())
  exact ⟨hplain, hindex, fault, hrun, hline, hfault.trans (hcontent hindex)⟩

end Culprit
