import Culprit.Proofs.Rules.Document
import Culprit.Proofs.Rules.OutlinePlaces
import Culprit.Proofs.Rules.Places
import Culprit.Proofs.Rules.WellNested
import Mathlib.Data.List.Nodup

/-!
# What is reported about delimiters

Only the reading of brackets reports on delimiters, and the check does nothing to its diagnostics
but sort them in between the others. So the two codes for delimiters can be read off the word that
the delimiters of the code make: nothing is reported when it is well nested; when it cannot be
completed, the one closer that spoils it; and otherwise each opener that nothing matches. The places
are told apart by their order in the source, hence sorting does not mix up what is reported.
-/

namespace Culprit

/-! ### Problems of other kinds -/

theorem Problem.code_eq_unexpected_iff {problem : Problem} :
    problem.code = "UNEXPECTED_DELIMITER" ↔ ∃ bracket, problem = .unexpectedCloser bracket := by
  cases problem with
  | malformed kind line => cases kind <;> simp [code, malformedCode]
  | _ => simp [code]

theorem Problem.code_eq_unclosed_iff {problem : Problem} :
    problem.code = "UNCLOSED_DELIMITER" ↔ ∃ bracket, problem = .unclosedOpener bracket := by
  cases problem with
  | malformed kind line => cases kind <;> simp [code, malformedCode]
  | _ => simp [code]

/-! ### Picking out what is said of delimiters -/

/-- What a document is reported for under a code. -/
def reported (code : String) (source : Text) : List Diagnostic :=
  (check source).filter fun found => found.problem.code = code

/-- Nothing but the reading of brackets reports on delimiters. -/
theorem reported_perm {code : String}
    (hcode : code = "UNEXPECTED_DELIMITER" ∨ code = "UNCLOSED_DELIMITER") (source : Text) :
    (reported code source).Perm
      ((nestingProblems (stripLines source.lines)).filter
        fun found => found.problem.code = code) := by
  obtain ⟨lines, hlines⟩ : ∃ lines, lines = stripLines source.lines := ⟨_, rfl⟩
  have hliterals :
      (unclosedLiterals lines).filter (fun found => found.problem.code = code) = [] := by
    rw [List.filter_eq_nil_iff]
    intro found hfound
    obtain ⟨line, -, hcolumn⟩ := List.mem_filterMap.mp hfound
    obtain ⟨column, -, rfl⟩ := Option.map_eq_some_iff.mp hcolumn
    rcases hcode with rfl | rfl <;> simp [Problem.code]
  have hcomment : (unclosedComment lines).filter (fun found => found.problem.code = code) = [] := by
    rw [List.filter_eq_nil_iff]
    intro found hfound
    obtain ⟨opened, -, rfl⟩ := List.mem_map.mp hfound
    rcases hcode with rfl | rfl <;> simp [Problem.code]
  have houtline : (Outline.start.diagnose lines).filter (fun found => found.problem.code = code) =
      [] := by
    rw [List.filter_eq_nil_iff]
    rintro ⟨problem, position⟩ hfound hcoded
    have hproblem : problem.OfOutline := (Outline.ofLine_of_mem_diagnose hfound).1
    have hcoded : problem.code = code := of_decide_eq_true hcoded
    rcases hcode with rfl | rfl
    · obtain ⟨bracket, rfl⟩ := Problem.code_eq_unexpected_iff.mp hcoded
      exact hproblem
    · obtain ⟨bracket, rfl⟩ := Problem.code_eq_unclosed_iff.mp hcoded
      exact hproblem
  have hsorted := (List.mergeSort_perm (unclosedLiterals lines ++ unclosedComment lines ++
    nestingProblems lines ++ Outline.start.diagnose lines)
      fun first second => first.position.notAfter second.position).filter
        fun found => found.problem.code = code
  rw [List.filter_append, List.filter_append, List.filter_append, hliterals, hcomment, houtline,
    List.append_nil, List.nil_append, List.nil_append] at hsorted
  rw [reported, check, ← hlines]
  exact hsorted

theorem pairwise_check (source : Text) :
    (check source).Pairwise fun first second => first.position.notAfter second.position = true := by
  refine List.pairwise_mergeSort ?_ ?_ _
  · exact fun first second third => Position.notAfter_trans _ _ _
  · exact fun first second => Position.notAfter_total _ _

theorem pairwise_reported (code : String) (source : Text) :
    (reported code source).Pairwise
      fun first second => first.position.notAfter second.position = true :=
  (pairwise_check source).filter _

theorem nestingProblems_stripLines (source : Text) :
    nestingProblems (stripLines source.lines) =
      match Nesting.read [] source.placedDelimiters with
      | .broken closer => [⟨.unexpectedCloser closer.value, closer.position⟩]
      | .pending openers =>
        openers.map fun opener => ⟨.unclosedOpener opener.value, opener.position⟩ := rfl

/-- A word that breaks is reported once, at the closer where it does. -/
theorem reported_of_broken {source : Text} {closer : Located Bracket}
    (hread : Nesting.read [] source.placedDelimiters = .broken closer) :
    reported "UNEXPECTED_DELIMITER" source = [⟨.unexpectedCloser closer.value, closer.position⟩] ∧
      reported "UNCLOSED_DELIMITER" source = [] := by
  have hunexpected := reported_perm (.inl rfl) source
  have hunclosed := reported_perm (.inr rfl) source
  simp only [nestingProblems_stripLines, hread] at hunexpected hunclosed
  exact ⟨List.perm_singleton.mp hunexpected, List.perm_nil.mp hunclosed⟩

/-- The unmatched openers of a source are met one after the other. -/
theorem pairwise_unmatched (source : Text) :
    (unmatched source.placedDelimiters).Pairwise
      fun first second => first.position.Before second.position := by
  have hsublist := (pairwise_placedDelimiters source).sublist (unmatched_sublist _)
  rwa [List.pairwise_map] at hsublist

/-- A word that does not break is reported once for each opener that nothing matches, in order. -/
theorem reported_of_pending {source : Text} {openers : List (Located Bracket)}
    (hread : Nesting.read [] source.placedDelimiters = .pending openers) :
    reported "UNEXPECTED_DELIMITER" source = [] ∧
      reported "UNCLOSED_DELIMITER" source =
        (unmatched source.placedDelimiters).map fun opener =>
          ⟨.unclosedOpener opener.value, opener.position⟩ := by
  have hunexpected := reported_perm (.inl rfl) source
  have hunclosed := reported_perm (.inr rfl) source
  have hdistinct := pairwise_unmatched source
  rw [← reverse_eq_unmatched_of_read hread] at hdistinct ⊢
  simp only [nestingProblems_stripLines, hread] at hunexpected hunclosed
  have hnone : (openers.map fun opener =>
      (⟨.unclosedOpener opener.value, opener.position⟩ : Diagnostic)).filter
        (fun found => found.problem.code = "UNEXPECTED_DELIMITER") = [] := by
    simp [List.filter_eq_nil_iff, Problem.code]
  have hall : (openers.map fun opener =>
      (⟨.unclosedOpener opener.value, opener.position⟩ : Diagnostic)).filter
        (fun found => found.problem.code = "UNCLOSED_DELIMITER") =
      openers.map fun opener => ⟨.unclosedOpener opener.value, opener.position⟩ := by
    simp [List.filter_eq_self, Problem.code]
  rw [hnone] at hunexpected
  rw [hall] at hunclosed
  refine ⟨List.perm_nil.mp hunexpected, ?_⟩
  have hperm := hunclosed.trans ((List.reverse_perm openers).symm.map _)
  -- Both lists are sorted, and no two openers share a place.
  refine List.Perm.eq_of_pairwise ?_ (pairwise_reported _ _)
    (List.pairwise_map.mpr (hdistinct.imp Position.Before.notAfter)) hperm
  intro one two hone htwo hfirst hsecond
  obtain ⟨first, hfirstMem, rfl⟩ := List.mem_map.mp (hperm.mem_iff.mp hone)
  obtain ⟨second, hsecondMem, rfl⟩ := List.mem_map.mp htwo
  have hplaces : (openers.reverse.map Located.position).Nodup :=
    List.pairwise_map.mpr (hdistinct.imp Position.Before.ne)
  rw [List.inj_on_of_nodup_map hplaces hfirstMem hsecondMem
    (Position.eq_of_notAfter hfirst hsecond)]

/-! ### The exact reports -/

theorem map_value_placedDelimiters (source : Text) :
    source.placedDelimiters.map Located.value =
      (stripLines source.lines).flatMap fun line => line.stripped.text.delimiters := by
  simp only [Text.placedDelimiters, List.map_flatMap, CodeLine.map_value_delimiters]

theorem unmatched_of_wellNested {word : List (Located Delimiter)}
    (h : WellNested (word.map Located.value)) : unmatched word = [] := by
  have hempty := unmatched_append_of_wellNested h rfl []
  rwa [List.append_nil] at hempty

theorem exists_read_of_viable {word : List (Located Delimiter)}
    (h : Viable (word.map Located.value)) : ∃ openers, Nesting.read [] word = .pending openers := by
  have hkinds := Nesting.kinds?_read [] word
  obtain ⟨after, hafter⟩ := Option.isSome_iff_exists.mp (viable_iff_readKinds.mp h)
  cases hread : Nesting.read [] word with
  | pending openers => exact ⟨openers, rfl⟩
  | broken closer =>
    rw [hread, List.map_nil, hafter] at hkinds
    simp [Nesting.kinds?] at hkinds

/-- **Delimiters are reported exactly.** Take the delimiters in the code of a source as a word, each
at the place where it stands in the source. If the word is well nested, nothing is reported. If some
stretch at its beginning cannot be completed to a well-nested word, then one unexpected delimiter is
reported, the closer that ends the shortest such stretch, and nothing unclosed. Otherwise nothing
unexpected is reported, and one unclosed delimiter for each opener that is not matched. -/
theorem reported_delimiters (source : Text) :
    let word := source.placedDelimiters
    let kinds := word.map Located.value
    kinds = (stripLines source.lines).flatMap (fun line => line.stripped.text.delimiters) ∧
      (∀ delimiter ∈ word,
        source.charAt? delimiter.position = some delimiter.value.toChar) ∧
      (word.Pairwise fun first second => first.position.Before second.position) ∧
      (WellNested kinds →
        reported "UNEXPECTED_DELIMITER" source = [] ∧ reported "UNCLOSED_DELIMITER" source = []) ∧
      ((∃ stretch, stretch <+: kinds ∧ ¬Viable stretch) →
        ∃ front bracket position behind, word = front ++ ⟨.closing bracket, position⟩ :: behind ∧
          (∀ stretch, stretch <+: kinds → (¬Viable stretch ↔ front.length < stretch.length)) ∧
          reported "UNEXPECTED_DELIMITER" source = [⟨.unexpectedCloser bracket, position⟩] ∧
          reported "UNCLOSED_DELIMITER" source = []) ∧
      ((∀ stretch, stretch <+: kinds → Viable stretch) →
        reported "UNEXPECTED_DELIMITER" source = [] ∧
          reported "UNCLOSED_DELIMITER" source =
            (unmatched word).map fun opener =>
              ⟨.unclosedOpener opener.value, opener.position⟩) := by
  intro word kinds
  have hcompleted : Viable kinds → reported "UNEXPECTED_DELIMITER" source = [] ∧
      reported "UNCLOSED_DELIMITER" source =
        (unmatched word).map fun opener => ⟨.unclosedOpener opener.value, opener.position⟩ := by
    intro hviable
    obtain ⟨openers, hread⟩ := exists_read_of_viable hviable
    exact reported_of_pending hread
  refine ⟨map_value_placedDelimiters source, fun delimiter => charAt?_of_mem_placedDelimiters,
    pairwise_placedDelimiters source, fun hnested => ?_, ?_, fun hviable => ?_⟩
  · obtain ⟨hunexpected, hunclosed⟩ := hcompleted hnested.viable
    rw [unmatched_of_wellNested hnested] at hunclosed
    exact ⟨hunexpected, hunclosed⟩
  · rintro ⟨stretch, hstretch, hnot⟩
    obtain ⟨front, bracket, position, behind, hword, hread, hshortest⟩ :=
      exists_of_not_viable fun hviable : Viable kinds => hnot (hviable.of_isPrefix hstretch)
    exact ⟨front, bracket, position, behind, hword, hshortest, reported_of_broken hread⟩
  · exact hcompleted (hviable kinds List.prefix_rfl)

/-- Brackets in literals and comments do not count. -/
def nestedSource : Text :=
  Text.unlines (["go(')', [a]); // ]", "/* ( */ \x7b \x7d"].map String.toList)

/-- The second closer fits nothing, whatever follows it. -/
def misfitSource : Text := Text.unlines (["\x7b go()", "]", "\x7d ("].map String.toList)

/-- Of four openers only the third is matched. -/
def openSource : Text := Text.unlines (["\x7b go(", "[x]", " ("].map String.toList)

/-- One source for each case. -/
theorem reported_delimiters_sources :
    (WellNested (nestedSource.placedDelimiters.map Located.value) ∧
        reported "UNEXPECTED_DELIMITER" nestedSource = [] ∧
        reported "UNCLOSED_DELIMITER" nestedSource = []) ∧
      (¬Viable (misfitSource.placedDelimiters.map Located.value) ∧
        reported "UNEXPECTED_DELIMITER" misfitSource = [⟨.unexpectedCloser .square, ⟨2, 1⟩⟩] ∧
        reported "UNCLOSED_DELIMITER" misfitSource = []) ∧
      (Viable (openSource.placedDelimiters.map Located.value) ∧
        reported "UNEXPECTED_DELIMITER" openSource = [] ∧
        reported "UNCLOSED_DELIMITER" openSource =
          [⟨.unclosedOpener .curly, ⟨1, 1⟩⟩, ⟨.unclosedOpener .round, ⟨1, 5⟩⟩,
            ⟨.unclosedOpener .round, ⟨3, 2⟩⟩]) := by
  refine ⟨?_, ?_, ?_⟩
  · have hnested : WellNested (nestedSource.placedDelimiters.map Located.value) := by
      decide +kernel
    exact ⟨hnested, (reported_delimiters nestedSource).2.2.2.1 hnested⟩
  · have hword : misfitSource.placedDelimiters =
        [⟨.opening .curly, ⟨1, 1⟩⟩, ⟨.opening .round, ⟨1, 5⟩⟩, ⟨.closing .round, ⟨1, 6⟩⟩,
          ⟨.closing .square, ⟨2, 1⟩⟩, ⟨.closing .curly, ⟨3, 1⟩⟩, ⟨.opening .round, ⟨3, 3⟩⟩] := by
      decide +kernel
    have hnot : ¬Viable (misfitSource.placedDelimiters.map Located.value) := by
      rw [hword]
      decide
    obtain ⟨front, bracket, position, behind, hsplit, hshortest, hunexpected, hunclosed⟩ :=
      (reported_delimiters misfitSource).2.2.2.2.1 ⟨_, List.prefix_rfl, hnot⟩
    -- Three delimiters can still be completed, the fourth is the one that cannot.
    rw [hword] at hshortest hsplit
    have hthree := (hshortest [.opening .curly, .opening .round, .closing .round] (by decide)).not
    have hfour := hshortest [.opening .curly, .opening .round, .closing .round, .closing .square]
      (by decide)
    have hlength : front.length = 3 := by
      have hlow : ¬front.length < 3 := hthree.mp (by decide)
      have hhigh : front.length < 4 := hfour.mp (by decide)
      omega
    have hcloser := congrArg (·[front.length]?) hsplit
    rw [List.getElem?_append_right le_rfl, hlength] at hcloser
    obtain ⟨rfl, rfl⟩ : .square = bracket ∧ ⟨2, 1⟩ = position := by simpa using hcloser
    exact ⟨hnot, hunexpected, hunclosed⟩
  · obtain ⟨hviable, hunmatched⟩ : Viable (openSource.placedDelimiters.map Located.value) ∧
        unmatched openSource.placedDelimiters =
          [⟨.curly, ⟨1, 1⟩⟩, ⟨.round, ⟨1, 5⟩⟩, ⟨.round, ⟨3, 2⟩⟩] := by
      decide +kernel
    obtain ⟨hunexpected, hunclosed⟩ := (reported_delimiters openSource).2.2.2.2.2
      fun stretch hstretch => hviable.of_isPrefix hstretch
    rw [hunmatched] at hunclosed
    exact ⟨hviable, hunexpected, hunclosed⟩

end Culprit
