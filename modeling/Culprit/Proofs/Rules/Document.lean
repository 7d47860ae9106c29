import Culprit.Proofs.Rules.Nesting
import Culprit.Proofs.Rules.Outline
import Culprit.Proofs.Rules.Reading
import Culprit.Proofs.Text.Lines
import Culprit.Proofs.Text.Trim
import Mathlib.Data.List.Basic
import Mathlib.Data.List.Forall2

/-!
# Documents without diagnostics

The check joins three readings, so a document is accepted when each of them finds nothing: every
literal and comment is closed, the brackets nest, and the outline is quiet. The brackets that are
open behind some lines are followed by their kinds only. How many of them are curly is known from
the braces of the lines, since a reading that does not break keeps count.
-/

namespace Culprit

/-! ### Stripped lines -/

/-- A line on its own: no comment is open before it. -/
def CodeLine.alone (number : Nat) (line : Text) : CodeLine :=
  ⟨number, line, line.strip number 1 none⟩

@[simp] theorem CodeLine.number_alone (number : Nat) (line : Text) :
    (alone number line).number = number := rfl

theorem CodeLine.text_alone (number : Nat) (line : Text) :
    (alone number line).text = (Text.codeOf (Text.roles false line)).trim := by
  rw [text, alone, Text.text_strip]
  rfl

theorem map_source_stripLinesFrom (number : Nat) (openComment : Option Position)
    (lines : List Text) :
    (stripLinesFrom number openComment lines).map CodeLine.source = lines := by
  induction lines generalizing number openComment with
  | nil => rfl
  | cons line rest ih => simp [stripLinesFrom, ih]

@[simp] theorem length_stripLines (lines : List Text) :
    (stripLines lines).length = lines.length := by
  rw [← List.length_map, stripLines, map_source_stripLinesFrom]

theorem take_stripLinesFrom (count number : Nat) (openComment : Option Position)
    (lines : List Text) :
    (stripLinesFrom number openComment lines).take count =
      stripLinesFrom number openComment (lines.take count) := by
  induction lines generalizing count number openComment with
  | nil => simp [stripLinesFrom]
  | cons line rest ih =>
    cases count with
    | zero => rfl
    | succ count => simp [stripLinesFrom, ih]

theorem stripLinesFrom_cons {line : Text} (hclear : Text.Clear line) (number : Nat)
    (rest : List Text) :
    stripLinesFrom number none (line :: rest) =
      .alone number line :: stripLinesFrom (number + 1) none rest := by
  simp only [stripLinesFrom, hclear.openComment_strip]
  rfl

/-- The second part of a document is stripped with the comment that is open behind the first. -/
theorem stripLinesFrom_split (number : Nat) (openComment : Option Position)
    (first second : List Text) :
    stripLinesFrom number openComment (first ++ second) =
      stripLinesFrom number openComment first ++
        stripLinesFrom (number + first.length)
          (((stripLinesFrom number openComment first).map
            fun line => line.stripped.openComment).getLast?.getD openComment) second := by
  induction first generalizing number openComment with
  | nil => rfl
  | cons line rest ih =>
    rw [List.cons_append, stripLinesFrom, ih, stripLinesFrom, List.map_cons, List.getLast?_cons,
      Option.getD_some, List.length_cons, List.cons_append, Nat.add_assoc, Nat.add_comm 1]

theorem stripLinesFrom_append {first : List Text} (hclear : ∀ line ∈ first, Text.Clear line)
    (number : Nat) (second : List Text) :
    stripLinesFrom number none (first ++ second) =
      stripLinesFrom number none first ++ stripLinesFrom (number + first.length) none second := by
  induction first generalizing number with
  | nil => rfl
  | cons line rest ih =>
    have hline := hclear line List.mem_cons_self
    rw [List.cons_append, stripLinesFrom_cons hline, stripLinesFrom_cons hline,
      ih (fun line hmem => hclear line (List.mem_cons_of_mem _ hmem)), List.length_cons,
      List.cons_append, Nat.add_assoc, Nat.add_comm 1]

theorem getElem_stripLines {lines : List Text} (hclear : ∀ line ∈ lines, Text.Clear line)
    {index : Nat} (hindex : index < lines.length) {hcode : index < (stripLines lines).length} :
    (stripLines lines)[index] = .alone (index + 1) lines[index] := by
  have hsplit : lines = lines.take index ++ lines[index] :: lines.drop (index + 1) := by simp
  have hbefore : ∀ line ∈ lines.take index, Text.Clear line :=
    fun line hmem => hclear line (List.mem_of_mem_take hmem)
  have hfront := stripLinesFrom_append hbefore 1 (lines[index] :: lines.drop (index + 1))
  rw [← hsplit, stripLinesFrom_cons (hclear _ (List.getElem_mem hindex))] at hfront
  have hlength : (stripLinesFrom 1 none (lines.take index)).length = index := by
    rw [← stripLines, length_stripLines, List.length_take]
    omega
  simp only [stripLines, hfront]
  rw [List.getElem_append_right (by omega)]
  simp only [hlength, Nat.sub_self, List.getElem_cons_zero, List.length_take]
  congr 1
  omega

theorem take_succ_stripLines {lines : List Text} (hclear : ∀ line ∈ lines, Text.Clear line)
    {index : Nat} (hindex : index < lines.length) :
    (stripLines lines).take (index + 1) =
      (stripLines lines).take index ++ [.alone (index + 1) lines[index]] := by
  have hcode : index < (stripLines lines).length := by simpa using hindex
  rw [List.take_succ_eq_append_getElem hcode, getElem_stripLines hclear hindex]

/-! ### Readings of several lines -/

/-- What a function reads of lines that it cannot tell apart is the same. -/
theorem map_eq_of_forall₂ {α : Type} {alike : CodeLine → CodeLine → Prop}
    {lines lines' : List CodeLine} (h : List.Forall₂ alike lines lines') (read : CodeLine → α)
    (hread : ∀ first second, alike first second → read second = read first) :
    lines'.map read = lines.map read := by
  induction h with
  | nil => rfl
  | cons hline _ ih => rw [List.map_cons, List.map_cons, hread _ _ hline, ih]

theorem unclosedLiterals_eq (lines : List CodeLine) :
    unclosedLiterals lines =
      (lines.map fun line => (line.number, line.stripped.unclosedQuote)).filterMap
        fun (number, quote) => quote.map fun column => ⟨.unterminatedString, ⟨number, column⟩⟩ := by
  rw [unclosedLiterals, List.filterMap_map]
  rfl

theorem openCommentAfter_eq (lines : List CodeLine) :
    openCommentAfter lines =
      ((lines.map fun line => line.stripped.openComment).getLast?).join := by
  rw [openCommentAfter, List.getLast?_map]
  cases lines.getLast? <;> rfl

/-! ### Brackets -/

namespace CodeLine

/-- The delimiters of a line without their places. -/
def kinds (line : CodeLine) : List Delimiter := line.stripped.text.delimiters

theorem balance_kinds (line : CodeLine) :
    Nesting.balance .curly line.kinds = line.text.braceBalance := by
  rw [kinds, Text.balance_delimiters, Text.braceBalance, Text.braceBalance, text,
    Text.count_trim rfl, Text.count_trim rfl]

end CodeLine

/-- The kinds of the brackets that are open behind some lines, the innermost first, unless a
closing bracket fits nothing. -/
def openBrackets? (lines : List CodeLine) : Option (List Bracket) :=
  (Nesting.of (lines.flatMap CodeLine.delimiters)).kinds?

/-- By how much the code of some lines opens more braces than it closes. -/
def braceTotal (lines : List CodeLine) : Int := Text.braceBalance (lines.flatMap CodeLine.text)

@[simp] theorem braceTotal_nil : braceTotal [] = 0 := rfl

@[simp] theorem braceTotal_append (first second : List CodeLine) :
    braceTotal (first ++ second) = braceTotal first + braceTotal second := by
  simp [braceTotal]

@[simp] theorem braceTotal_singleton (line : CodeLine) :
    braceTotal [line] = line.text.braceBalance := by
  simp [braceTotal]

theorem map_kinds_stripLinesFrom {lines : List Text} (hclear : ∀ line ∈ lines, Text.Clear line)
    (number : Nat) :
    (stripLinesFrom number none lines).map CodeLine.kinds =
      lines.map fun line => Text.delimiters (Text.codeOf (Text.roles false line)) := by
  induction lines generalizing number with
  | nil => rfl
  | cons line rest ih =>
    rw [stripLinesFrom_cons (hclear line List.mem_cons_self), List.map_cons, List.map_cons,
      ih fun line hmem => hclear line (List.mem_cons_of_mem _ hmem), CodeLine.kinds, CodeLine.alone,
      Text.text_strip]
    rfl

theorem openBrackets?_eq (lines : List CodeLine) :
    openBrackets? lines = Nesting.readKinds [] (lines.flatMap CodeLine.kinds) := by
  rw [openBrackets?, Nesting.of, Nesting.kinds?_read, List.map_flatMap]
  simp only [CodeLine.map_value_delimiters]
  rfl

theorem openBrackets?_append (first second : List CodeLine) :
    openBrackets? (first ++ second) =
      (openBrackets? first).bind fun openers =>
        Nesting.readKinds openers (second.flatMap CodeLine.kinds) := by
  simp only [openBrackets?_eq, List.flatMap_append, Nesting.readKinds_append]

theorem count_of_openBrackets? {lines : List CodeLine} {openers : List Bracket}
    (h : openBrackets? lines = some openers) (bracket : Bracket) :
    (openers.count bracket : Int) = Nesting.balance bracket (lines.flatMap CodeLine.kinds) := by
  rw [openBrackets?_eq] at h
  simpa using Nesting.count_of_readKinds h bracket

theorem count_curly_of_openBrackets? {lines : List CodeLine} {openers : List Bracket}
    (h : openBrackets? lines = some openers) : (openers.count .curly : Int) = braceTotal lines := by
  rw [count_of_openBrackets? h]
  clear h
  induction lines with
  | nil => rfl
  | cons line rest ih =>
    rw [List.flatMap_cons, Nesting.balance_append, CodeLine.balance_kinds, ih, braceTotal,
      braceTotal, List.flatMap_cons, Text.braceBalance_append]

theorem nestingProblems_eq_nil_iff {lines : List CodeLine} :
    nestingProblems lines = [] ↔ openBrackets? lines = some [] := by
  unfold nestingProblems openBrackets?
  cases Nesting.of (lines.flatMap CodeLine.delimiters) <;> simp [Nesting.kinds?]

theorem exists_openBrackets?_take {lines : List CodeLine} (hnest : openBrackets? lines = some [])
    (count : Nat) : ∃ openers, openBrackets? (lines.take count) = some openers := by
  rw [← List.take_append_drop count lines, openBrackets?_append] at hnest
  obtain ⟨openers, hopeners, -⟩ := Option.bind_eq_some_iff.mp hnest
  exact ⟨openers, hopeners⟩

theorem braceTotal_take_nonneg {lines : List CodeLine} (hnest : openBrackets? lines = some [])
    (count : Nat) : 0 ≤ braceTotal (lines.take count) := by
  obtain ⟨openers, hopeners⟩ := exists_openBrackets?_take hnest count
  rw [← count_curly_of_openBrackets? hopeners]
  omega

/-! ### The outline -/

/-- The block that is open behind the first lines of a document. -/
def blockBehind (lines : List CodeLine) (count : Nat) : Option Block :=
  (Outline.start.after (lines.take count)).block

@[simp] theorem blockBehind_zero (lines : List CodeLine) : blockBehind lines 0 = none := rfl

theorem reads_getElem {lines : List CodeLine} (hquiet : Outline.start.diagnose lines = [])
    {index : Nat} (hindex : index < lines.length) :
    Outline.Reads lines[index] (blockBehind lines index) (blockBehind lines (index + 1)) := by
  have hsplit : lines.take index ++ lines[index] :: lines.drop (index + 1) = lines := by simp
  rw [blockBehind, blockBehind, List.take_succ_eq_append_getElem hindex]
  exact Outline.reads_of_diagnose (hsplit ▸ hquiet)

theorem after_of_forall_eq_nil {lines : List CodeLine} (hblank : ∀ line ∈ lines, line.text = [])
    (outline : Outline) : outline.after lines = outline := by
  induction lines with
  | nil => rfl
  | cons line rest ih =>
    rw [List.forall_mem_cons] at hblank
    rw [Outline.after, Outline.step_of_eq_nil hblank.1, ih hblank.2]

/-- In a function no more braces are open than in the whole document, and one at least if its body
has been opened. -/
def Block.Within (total : Int) (block : Option Block) : Prop :=
  ∀ heading depth opened, block = some (.function heading depth opened) →
    depth ≤ total ∧ (opened = true → 0 < depth)

theorem Block.within_countBraces (heading : Heading) {total depth : Int} (opened : Bool)
    {text : Text} (hdepth : depth ≤ total) :
    Within (total + text.braceBalance) (Outline.countBraces heading depth opened text) := by
  intro heading' depth' opened' hblock
  obtain ⟨rfl, rfl, hopen⟩ := Outline.eq_of_countBraces_eq_some hblock
  exact ⟨by omega, hopen⟩

theorem Outline.Reads.within {line : CodeLine} {block block' : Option Block} {total : Int}
    (hreads : Reads line block block') (hwithin : Block.Within total block) (htotal : 0 ≤ total) :
    Block.Within (total + line.text.braceBalance) block' := by
  cases hreads with
  | blank htext => simpa [htext, Text.braceBalance] using hwithin
  | functionHeader => exact Block.within_countBraces _ _ htotal
  | functionLine => exact Block.within_countBraces _ _ (hwithin _ _ _ rfl).1
  | _ =>
    intro heading depth opened hblock
    simp at hblock

theorem within_blockBehind {lines : List CodeLine} (hnest : openBrackets? lines = some [])
    (hquiet : Outline.start.diagnose lines = []) {count : Nat} (hcount : count ≤ lines.length) :
    Block.Within (braceTotal (lines.take count)) (blockBehind lines count) := by
  induction count with
  | zero => simp [Block.Within]
  | succ index ih =>
    rw [List.take_succ_eq_append_getElem hcount, braceTotal_append, braceTotal_singleton]
    exact (reads_getElem hquiet hcount).within (ih (by omega)) (braceTotal_take_nonneg hnest index)

/-- **Nothing is open behind an accepted document.** The outline alone would let a function run to
the end with its braces open, but then the brackets do not nest. -/
theorem blockBehind_length_eq_none {lines : List CodeLine} (hnest : openBrackets? lines = some [])
    (hquiet : Outline.start.diagnose lines = []) : blockBehind lines lines.length = none := by
  have hwithin := within_blockBehind hnest hquiet le_rfl
  have htotal : braceTotal lines = 0 := by rw [← count_curly_of_openBrackets? hnest]; rfl
  rw [List.take_length, htotal] at hwithin
  have hend : (Outline.start.after lines).atEnd = [] := by
    rw [← List.append_nil lines, Outline.diagnose_append, List.append_eq_nil_iff] at hquiet
    exact hquiet.2
  rw [blockBehind, List.take_length] at hwithin ⊢
  unfold Outline.atEnd at hend
  split at hend
  · assumption
  · rename_i heading depth opened hblock
    obtain ⟨hdepth, hopened⟩ := hwithin _ _ _ hblock
    split at hend
    · have := hopened ‹_›
      omega
    · simp at hend
  · simp at hend

/-! ### The check -/

theorem unclosedLiterals_eq_nil_iff {lines : List CodeLine} :
    unclosedLiterals lines = [] ↔ ∀ line ∈ lines, line.stripped.unclosedQuote = none := by
  simp [unclosedLiterals]

theorem diagnoseLines_eq_nil_iff {lines : List CodeLine} :
    diagnoseLines lines = [] ↔
      unclosedLiterals lines = [] ∧ unclosedComment lines = [] ∧
        openBrackets? lines = some [] ∧ Outline.start.diagnose lines = [] := by
  have hsort : ∀ found : List Diagnostic,
      (found.mergeSort fun first second => first.position.notAfter second.position) = [] ↔
        found = [] :=
    fun found => by rw [← List.length_eq_zero_iff, List.length_mergeSort, List.length_eq_zero_iff]
  rw [diagnoseLines, hsort, ← nestingProblems_eq_nil_iff]
  simp only [List.append_eq_nil_iff, and_assoc]

theorem check_eq_nil_iff {source : Text} :
    check source = [] ↔
      unclosedLiterals (stripLines source.lines) = [] ∧
        unclosedComment (stripLines source.lines) = [] ∧
        openBrackets? (stripLines source.lines) = some [] ∧
        Outline.start.diagnose (stripLines source.lines) = [] :=
  diagnoseLines_eq_nil_iff

/-- Clear lines leave nothing open. -/
theorem strip_of_clear {lines : List Text} (hclear : ∀ line ∈ lines, Text.Clear line) :
    ∀ line ∈ stripLines lines,
      line.stripped.unclosedQuote = none ∧ line.stripped.openComment = none := by
  intro line hline
  obtain ⟨index, hindex, rfl⟩ := List.getElem_of_mem hline
  have hlt : index < lines.length := by simpa using hindex
  have hindexed := hclear _ (List.getElem_mem hlt)
  rw [getElem_stripLines hclear hlt]
  exact ⟨hindexed.unclosedQuote_strip _ _, hindexed.openComment_strip _ _⟩

theorem unclosedLiterals_of_clear {lines : List Text} (hclear : ∀ line ∈ lines, Text.Clear line) :
    unclosedLiterals (stripLines lines) = [] :=
  unclosedLiterals_eq_nil_iff.mpr fun line hline => (strip_of_clear hclear line hline).1

theorem unclosedComment_of_clear {lines : List Text} (hclear : ∀ line ∈ lines, Text.Clear line) :
    unclosedComment (stripLines lines) = [] := by
  rw [unclosedComment, openCommentAfter]
  cases hlast : (stripLines lines).getLast? with
  | none => rfl
  | some line => simp [(strip_of_clear hclear line (List.mem_of_getLast? hlast)).2]

theorem check_unlines_eq_nil_iff {lines : List Text} (hne : lines ≠ [])
    (hlines : ∀ line ∈ lines, '\n' ∉ line ∧ Text.Clear line) :
    check (Text.unlines lines) = [] ↔
      openBrackets? (stripLines lines) = some [] ∧
        Outline.start.diagnose (stripLines lines) = [] := by
  have hclear : ∀ line ∈ lines, Text.Clear line := fun line hline => (hlines line hline).2
  rw [check_eq_nil_iff, Text.lines_unlines hne fun line hline => (hlines line hline).1]
  exact ⟨fun h => h.2.2,
    fun h => ⟨unclosedLiterals_of_clear hclear, unclosedComment_of_clear hclear, h⟩⟩

end Culprit
