import Culprit.Oracle.Lexical
import Culprit.Proofs.Rules.CodeColumns
import Culprit.Proofs.Rules.Document
import Culprit.Proofs.Rules.Recast

/-!
# What a check says of lines with the same code

Messages quote a line with its comments and its literals, and columns count them. The rest of a
check is made from the code of the lines alone: which problems there are, and in which lines. So an
edit that the code does not see moves a problem along its line at most, and may change the words
that its message quotes.
-/

namespace Culprit

/-- What is wrong in which line, without the words and the column of a diagnostic. -/
def Diagnostic.issue (diagnostic : Diagnostic) : String × Nat :=
  (diagnostic.problem.code, diagnostic.position.line)

/-- The first column of the line of a place. -/
def Position.lineStart (position : Position) : Position := { position with column := 1 }

/-- What a check says of the brackets, line by line. -/
def Nesting.issues : Nesting → List (String × Nat)
  | .broken closer => [((Problem.unexpectedCloser closer.value).code, closer.position.line)]
  | .pending openers =>
    openers.map fun opener => ((Problem.unclosedOpener opener.value).code, opener.position.line)

namespace CodeLine

structure SameCode (first second : CodeLine) : Prop where
  number : second.number = first.number
  stripped : first.stripped.SameCode second.stripped

namespace SameCode

variable {first second : CodeLine}

theorem refl (line : CodeLine) : SameCode line line := ⟨rfl, .refl _⟩

theorem text (h : SameCode first second) : second.text = first.text :=
  congrArg Text.trim h.stripped.text

end SameCode
end CodeLine

/-! ### The readings -/

/-- The brackets of some lines, each at the beginning of its line. -/
theorem map_moved_delimiters (lines : List CodeLine) :
    (lines.flatMap CodeLine.delimiters).map (Located.moved Position.lineStart) =
      (lines.map fun line => (line.number, line.stripped.text)).flatMap fun line =>
        line.2.filterMap fun c =>
          (Delimiter.ofChar? c).map fun delimiter => ⟨delimiter, ⟨line.1, 1⟩⟩ := by
  rw [List.map_flatMap, List.flatMap_map]
  congr 1
  funext line
  simp only [CodeLine.delimiters, StrippedText.text, List.map_filterMap, List.filterMap_map,
    Option.map_map]
  rfl

/-- What is said of brackets is told by the code of the lines. -/
theorem issue_nestingProblems_of_map_eq {lines lines' : List CodeLine}
    (h : (lines'.map fun line => (line.number, line.stripped.text)) =
      lines.map fun line => (line.number, line.stripped.text)) :
    (nestingProblems lines').map Diagnostic.issue =
      (nestingProblems lines).map Diagnostic.issue := by
  have hnesting : (Nesting.of (lines'.flatMap CodeLine.delimiters)).moved Position.lineStart =
      (Nesting.of (lines.flatMap CodeLine.delimiters)).moved Position.lineStart := by
    have hread := Nesting.read_moved Position.lineStart [] (lines.flatMap CodeLine.delimiters)
    have hread' := Nesting.read_moved Position.lineStart [] (lines'.flatMap CodeLine.delimiters)
    rw [Nesting.of, Nesting.of, ← hread, ← hread', map_moved_delimiters, map_moved_delimiters, h]
  have hproblems : ∀ lines : List CodeLine, (nestingProblems lines).map Diagnostic.issue =
      ((Nesting.of (lines.flatMap CodeLine.delimiters)).moved Position.lineStart).issues := by
    intro lines
    rw [nestingProblems]
    cases Nesting.of (lines.flatMap CodeLine.delimiters) with
    | broken closer => rfl
    | pending openers =>
      simp only [Nesting.moved, Nesting.issues, List.map_map]
      rfl
  rw [hproblems, hproblems, hnesting]

section

variable {lines lines' : List CodeLine} (h : List.Forall₂ CodeLine.SameCode lines lines')

include h

theorem issue_unclosedLiterals :
    (unclosedLiterals lines').map Diagnostic.issue =
      (unclosedLiterals lines).map Diagnostic.issue := by
  have hliterals : ∀ lines : List CodeLine, (unclosedLiterals lines).map Diagnostic.issue =
      (lines.map fun line => (line.number, line.stripped.unclosedQuote.isSome)).filterMap
        fun mark => if mark.2 then some (Problem.unterminatedString.code, mark.1) else none := by
    intro lines
    rw [unclosedLiterals, List.map_filterMap, List.filterMap_map]
    congr 1
    funext line
    cases hquote : line.stripped.unclosedQuote <;> simp [Diagnostic.issue, hquote]
  have hmap := map_eq_of_forall₂ h
    (fun line => (line.number, line.stripped.unclosedQuote.isSome))
    fun _ _ hline => Prod.ext hline.number hline.stripped.unclosedQuote
  rw [hliterals, hliterals, hmap]

theorem issue_unclosedComment :
    (unclosedComment lines').map Diagnostic.issue =
      (unclosedComment lines).map Diagnostic.issue := by
  have hcomment : ∀ lines : List CodeLine, (unclosedComment lines).map Diagnostic.issue =
      ((lines.map fun line =>
        line.stripped.openComment.map Position.line).getLast?.join).toList.map
          fun number => (Problem.unterminatedComment.code, number) := by
    intro lines
    rw [unclosedComment, openCommentAfter, List.getLast?_map]
    cases lines.getLast? with
    | none => rfl
    | some line => cases hopen : line.stripped.openComment <;> simp [Diagnostic.issue, hopen]
  have hmap := map_eq_of_forall₂ h (fun line => line.stripped.openComment.map Position.line)
    fun _ _ hline => hline.stripped.openComment
  rw [hcomment, hcomment, hmap]

theorem issue_nestingProblems :
    (nestingProblems lines').map Diagnostic.issue =
      (nestingProblems lines).map Diagnostic.issue :=
  issue_nestingProblems_of_map_eq
    (map_eq_of_forall₂ h _ fun _ _ hline => Prod.ext hline.number hline.stripped.text)

/-- Both documents become the same one when every line forgets its words. -/
theorem issue_diagnose_start :
    (Outline.start.diagnose lines').map Diagnostic.issue =
      (Outline.start.diagnose lines).map Diagnostic.issue := by
  let wordless : Recast := ⟨id, fun _ => [], fun _ => rfl⟩
  let bare : CodeLine → CodeLine := fun line => { line with source := [] }
  have hissue : ∀ diagnostic : Diagnostic,
      (wordless.diagnostic diagnostic).issue = diagnostic.issue := fun diagnostic =>
    Prod.ext (diagnostic.problem.code_reworded _) rfl
  have hfirst : List.Forall₂ wordless.Relates lines (lines.map bare) :=
    List.forall₂_map_right_iff.mpr (List.forall₂_same.mpr fun _ _ => ⟨rfl, rfl, rfl⟩)
  have hsecond : List.Forall₂ wordless.Relates lines' (lines.map bare) :=
    List.forall₂_map_right_iff.mpr
      (h.flip.imp fun _ _ hline => ⟨hline.number.symm, rfl, hline.text.symm⟩)
  have hsame : (Outline.start.diagnose lines').map wordless.diagnostic =
      (Outline.start.diagnose lines).map wordless.diagnostic :=
    (wordless.diagnose hsecond .start).symm.trans (wordless.diagnose hfirst .start)
  have hforget : ∀ found : List Diagnostic,
      (found.map wordless.diagnostic).map Diagnostic.issue = found.map Diagnostic.issue := by
    intro found
    rw [List.map_map]
    exact List.map_congr_left fun diagnostic _ => hissue diagnostic
  rw [← hforget, hsame, hforget]

/-- Before they are sorted by their places, the problems are the same ones in the same order. -/
theorem perm_issue_diagnoseLines :
    ((diagnoseLines lines').map Diagnostic.issue).Perm
      ((diagnoseLines lines).map Diagnostic.issue) := by
  let found (lines : List CodeLine) : List Diagnostic :=
    unclosedLiterals lines ++ unclosedComment lines ++ nestingProblems lines
      ++ Outline.start.diagnose lines
  have hfound : (found lines').map Diagnostic.issue = (found lines).map Diagnostic.issue := by
    simp only [found, List.map_append, issue_unclosedLiterals h, issue_unclosedComment h,
      issue_nestingProblems h, issue_diagnose_start h]
  have hsorted : ∀ lines : List CodeLine, ((diagnoseLines lines).map Diagnostic.issue).Perm
      ((found lines).map Diagnostic.issue) :=
    fun lines => (List.mergeSort_perm (found lines) _).map Diagnostic.issue
  exact (hsorted lines').trans (hfound ▸ (hsorted lines).symm)

end

/-! ### Edited documents -/

theorem forall₂_sameCode_stripLinesFrom (number : Nat) {openComment openComment' : Option Position}
    (h : openComment'.map Position.line = openComment.map Position.line) (lines : List Text) :
    List.Forall₂ CodeLine.SameCode (stripLinesFrom number openComment lines)
      (stripLinesFrom number openComment' lines) := by
  induction lines generalizing number openComment openComment' with
  | nil => exact .nil
  | cons line rest ih =>
    have hline := Text.strip_sameCode number 1 1 h line
    exact .cons ⟨rfl, hline⟩ (ih (number + 1) hline.openComment)

theorem forall₂_sameCode_of_idleEdit {before after : List Text} {line line' : Text}
    (hedit : Text.IdleEdit (openCommentAfter (stripLines before)).isSome line line') :
    List.Forall₂ CodeLine.SameCode (stripLines (before ++ line :: after))
      (stripLines (before ++ line' :: after)) := by
  have hcomment : ((stripLines before).map fun line => line.stripped.openComment).getLast?.getD
      none = openCommentAfter (stripLines before) := by
    rw [openCommentAfter_eq]
    cases ((stripLines before).map fun line => line.stripped.openComment).getLast? <;> rfl
  have hline := hedit.strip_sameCode (1 + before.length)
  rw [stripLines] at hcomment
  rw [stripLines, stripLines, stripLinesFrom_split, stripLinesFrom_split, hcomment]
  refine List.rel_append (List.forall₂_same.mpr fun line _ => .refl line) ?_
  exact .cons ⟨rfl, hline⟩ (forall₂_sameCode_stripLinesFrom _ hline.openComment after)

/-- **Comments and the bodies of literals do not matter.** Let one line of a source be edited where
its code does not see it: a comment is inserted, in front of code or at the end of the line, or the
body of a literal becomes another one. Then each line has the same code as before, the source is as
valid as before, and the same kinds of problems are found in the same lines, as often as before. -/
theorem check_idleEdit (σ : Type) {source : Text} {before after : List Text} {line line' : Text}
    (hlines : source.lines = before ++ line :: after)
    (hedit : Text.IdleEdit (openCommentAfter (stripLines before)).isSome line line') :
    let edited := Text.unlines (before ++ line' :: after)
    (stripLines edited.lines).map (fun line => line.stripped.text) =
        (stripLines source.lines).map (fun line => line.stripped.text) ∧
      (Oracle.lexical σ).isValid edited = (Oracle.lexical σ).isValid source ∧
      ((check edited).map Diagnostic.issue).Perm ((check source).map Diagnostic.issue) := by
  intro edited
  have hfeeds : ∀ line ∈ before ++ line' :: after, '\n' ∉ line := by
    have hsource : ∀ text ∈ before ++ line :: after, '\n' ∉ text := fun text htext =>
      Text.newline_notMem_of_mem_lines (hlines ▸ htext)
    rw [List.forall_mem_append, List.forall_mem_cons] at hsource ⊢
    exact ⟨hsource.1, hedit.newline_notMem hsource.2.1, hsource.2.2⟩
  have hedited : edited.lines = before ++ line' :: after :=
    Text.lines_unlines (by simp) hfeeds
  have hsame : List.Forall₂ CodeLine.SameCode (stripLines source.lines)
      (stripLines edited.lines) := by
    rw [hlines, hedited]
    exact forall₂_sameCode_of_idleEdit hedit
  have hissues : ((check edited).map Diagnostic.issue).Perm
      ((check source).map Diagnostic.issue) := perm_issue_diagnoseLines hsame
  refine ⟨?_, ?_, hissues⟩
  · exact map_eq_of_forall₂ hsame _ fun _ _ hline => hline.stripped.text
  · have hlength : (check edited).length = (check source).length := by
      simpa using hissues.length_eq
    have hempty : (lexicalErrors edited).isEmpty = (lexicalErrors source).isEmpty := by
      rw [Bool.eq_iff_iff, List.isEmpty_iff_length_eq_zero, List.isEmpty_iff_length_eq_zero,
        lexicalErrors, lexicalErrors, List.length_map, List.length_map, hlength]
    funext state
    exact congrArg (fun empty => (Except.ok empty, state)) hempty

/-- A rule with a bracket that is not closed, one in a literal, and a comment over two lines. -/
def remarkedSource : Text :=
  Text.unlines (["rule \"r\" /* since", "1.0 */ when", "then", "\tgo(\":-)\";", "end"].map
    String.toList)

/-- A quote in a comment behind the comment, and another bracket in the literal. -/
theorem check_idleEdit_remarkedSource :
    let commented : Text := Text.unlines (["rule \"r\" /* since", "1.0 */ /* ' */when", "then",
      "\tgo(\":-)\";", "end"].map String.toList)
    let reworded : Text := Text.unlines (["rule \"r\" /* since", "1.0 */ when", "then",
      "\tgo(\"(/*\";", "end"].map String.toList)
    (stripLines commented.lines).map (fun line => line.stripped.text) =
        ["rule \"\" ", " when", "then", "\tgo(\"\";", "end"].map String.toList ∧
      (check commented).map Diagnostic.issue = [("UNCLOSED_DELIMITER", 4)] ∧
      (check reworded).map Diagnostic.issue = [("UNCLOSED_DELIMITER", 4)] := by
  intro commented reworded
  have hcommented : Text.IdleEdit true "1.0 */ when".toList "1.0 */ /* ' */when".toList :=
    .blockComment "1.0 */ ".toList "when".toList " ' ".toList (by decide +kernel) (by decide)
      (by decide) (by decide)
  have hreworded : Text.IdleEdit false "\tgo(\":-)\";".toList "\tgo(\"(/*\";".toList :=
    .literal "\tgo(".toList ":-)".toList "(/*".toList ";".toList '"' (by decide +kernel) (by decide)
      (by decide) (by decide) (by decide) (by decide)
  have hsecond : remarkedSource.lines = ["rule \"r\" /* since".toList] ++ "1.0 */ when".toList ::
      ["then", "\tgo(\":-)\";", "end"].map String.toList := by decide +kernel
  have hfourth : remarkedSource.lines =
      ["rule \"r\" /* since", "1.0 */ when", "then"].map String.toList ++
        "\tgo(\":-)\";".toList :: ["end".toList] := by decide +kernel
  have hopen : (openCommentAfter (stripLines ["rule \"r\" /* since".toList])).isSome = true := by
    decide +kernel
  have hclosed : (openCommentAfter (stripLines
      (["rule \"r\" /* since", "1.0 */ when", "then"].map String.toList))).isSome = false := by
    decide +kernel
  have htexts : (stripLines remarkedSource.lines).map (fun line => line.stripped.text) =
      ["rule \"\" ", " when", "then", "\tgo(\"\";", "end"].map String.toList := by decide +kernel
  have hissues : (check remarkedSource).map Diagnostic.issue = [("UNCLOSED_DELIMITER", 4)] := by
    decide +kernel
  obtain ⟨hcode, -, hfound⟩ := check_idleEdit Unit hsecond (hopen ▸ hcommented)
  obtain ⟨-, -, hfound'⟩ := check_idleEdit Unit hfourth (hclosed ▸ hreworded)
  rw [hissues] at hfound hfound'
  exact ⟨hcode.trans htexts, List.perm_singleton.mp hfound, List.perm_singleton.mp hfound'⟩

end Culprit
