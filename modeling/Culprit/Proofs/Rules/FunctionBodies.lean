import Culprit.Proofs.Rules.Document
import Mathlib.Data.Nat.Find

/-!
# Functions and the lines that close them

The outline counts the braces of a function from its header on and closes it where a brace has been
opened and no more are open than were closed. It has no opinion on a function that reaches the end
of the document with its body open: the brackets must nest. That they do says something about all
brackets of the document at once, also about braces that were opened before the header and are still
open. Still no function of an accepted document is left open, since its own braces are never more
than all that are open.
-/

namespace Culprit

/-! ### Counting from the header on -/

/-- The lines from one index on, up to another one. -/
def stretch (lines : List CodeLine) (first stop : Nat) : List CodeLine :=
  (lines.take stop).drop first

/-- The code of some line opens a brace. -/
def opensBrace (lines : List CodeLine) : Bool := lines.any fun line => line.text.contains '{'

/-- The code of the lines has opened a brace and does not open more than it closes. -/
def ClosesBraces (lines : List CodeLine) : Prop := opensBrace lines = true ∧ braceTotal lines ≤ 0

instance (lines : List CodeLine) : Decidable (ClosesBraces lines) :=
  inferInstanceAs (Decidable (_ ∧ _))

/-- A function as it stands behind its header and further lines. -/
def functionBlock (heading : Heading) (lines : List CodeLine) : Block :=
  .function heading (braceTotal lines) (opensBrace lines)

section

variable {lines : List CodeLine} {line : CodeLine} {first stop : Nat}

theorem stretch_self (lines : List CodeLine) (first : Nat) : stretch lines first first = [] := by
  simp [stretch]

theorem stretch_succ (hle : first ≤ stop) (hstop : stop < lines.length) :
    stretch lines first (stop + 1) = stretch lines first stop ++ [lines[stop]] := by
  rw [stretch, List.take_succ_eq_append_getElem hstop,
    List.drop_append_of_le_length (by rw [List.length_take]; omega), stretch]

theorem opensBrace_append (first second : List CodeLine) :
    opensBrace (first ++ second) = (opensBrace first || opensBrace second) :=
  List.any_append

theorem countBraces_functionBlock (heading : Heading) (lines : List CodeLine) (line : CodeLine) :
    Outline.countBraces heading (braceTotal lines) (opensBrace lines) line.text =
      if ClosesBraces (lines ++ [line]) then none
      else some (functionBlock heading (lines ++ [line])) := by
  have hopened : opensBrace (lines ++ [line]) = (opensBrace lines || line.text.contains '{') := by
    rw [opensBrace_append]
    simp [opensBrace]
  have hcloses : ClosesBraces (lines ++ [line]) ↔
      ((opensBrace lines || line.text.contains '{') &&
        decide (braceTotal lines + line.text.braceBalance ≤ 0)) = true := by
    rw [ClosesBraces, hopened, braceTotal_append, braceTotal_singleton, Bool.and_eq_true,
      decide_eq_true_eq]
  simp only [Outline.countBraces, functionBlock, hopened, braceTotal_append, braceTotal_singleton,
    hcloses]

/-- A line without code changes nothing about a function. -/
theorem append_of_text_eq_nil (heading : Heading) (lines : List CodeLine)
    (htext : line.text = []) :
    functionBlock heading (lines ++ [line]) = functionBlock heading lines ∧
      (ClosesBraces (lines ++ [line]) ↔ ClosesBraces lines) := by
  have hopened : opensBrace (lines ++ [line]) = opensBrace lines := by
    rw [opensBrace_append]
    simp [opensBrace, htext]
  have htotal : braceTotal (lines ++ [line]) = braceTotal lines := by
    simp [htext, Text.braceBalance]
  simp only [functionBlock, ClosesBraces, hopened, htotal, and_self]

end

/-! ### One line -/

/-- The only way to read the header of a function outside of blocks. -/
theorem Outline.Reads.eq_of_functionHeader {line : CodeLine} {block : Option Block}
    (hreads : Reads line none block) (hopens : Keyword.function.Opens line.text) :
    block = countBraces (.ofLine line) 0 false line.text := by
  cases hreads with
  | functionHeader => rfl
  | blank htext =>
    obtain ⟨c, rest, heq, -⟩ := hopens
    rw [htext] at heq
    cases heq
  | statement hword hbegins =>
    exact absurd hopens.prefix_fold (Keyword.not_prefix_of_statement hword hbegins)
  | ruleHeader hother | queryHeader hother | declareHeader hother =>
    cases Keyword.eq_of_isPrefix hopens.prefix_fold hother.prefix_fold

/-! ### From the header to the closing line -/

/-- A function with its header at one index, closed by the line at another one. -/
structure FunctionSpan (lines : List CodeLine) (first last : Nat) : Prop where
  le : first ≤ last
  lt : last < lines.length
  outside : blockBehind lines first = none
  header : Keyword.function.Opens lines[first].text
  /-- Up to the last line the function is the block that is open, with its own braces counted. -/
  inside : ∀ index, first < index → index ≤ last →
    ¬ClosesBraces (stretch lines first index) ∧
      blockBehind lines index =
        some (functionBlock (.ofLine lines[first]) (stretch lines first index))
  closes : ClosesBraces (stretch lines first (last + 1))
  closed : blockBehind lines (last + 1) = none

section

variable {lines : List CodeLine} {first : Nat}

theorem FunctionSpan.lt_of_blockBehind {last count : Nat} {block : Block}
    (h : FunctionSpan lines first last) (hcount : count ≤ last)
    (hblock : blockBehind lines (count + 1) = some block) : count < last := by
  refine hcount.lt_of_ne ?_
  rintro rfl
  rw [h.closed] at hblock
  cases hblock

/-- Behind a header the function is open as long as its own braces do not close. -/
theorem blockBehind_of_functionHeader (hquiet : Outline.start.diagnose lines = [])
    (hfirst : first < lines.length) (houtside : blockBehind lines first = none)
    (hopens : Keyword.function.Opens lines[first].text) {stop : Nat} (hstop : first < stop)
    (hlength : stop ≤ lines.length)
    (hopen : ∀ index, first < index → index < stop → ¬ClosesBraces (stretch lines first index)) :
    blockBehind lines stop =
      if ClosesBraces (stretch lines first stop) then none
      else some (functionBlock (.ofLine lines[first]) (stretch lines first stop)) := by
  induction stop, hstop using Nat.le_induction with
  | base =>
    have hreads := reads_getElem hquiet hfirst
    rw [houtside] at hreads
    rw [hreads.eq_of_functionHeader hopens, stretch_succ le_rfl hfirst, stretch_self]
    exact countBraces_functionBlock _ [] _
  | succ stop hstop ih =>
    have hbefore := hopen stop hstop (by omega)
    have hreads := reads_getElem hquiet hlength
    rw [ih (by omega) fun index hindex hlt => hopen index hindex (by omega), if_neg hbefore]
      at hreads
    rw [stretch_succ (by omega) hlength, ← countBraces_functionBlock]
    generalize blockBehind lines (stop + 1) = block at hreads ⊢
    cases hreads with
    | functionLine => rfl
    | blank htext =>
      obtain ⟨hsame, hcloses⟩ := append_of_text_eq_nil (.ofLine lines[first]) _ htext
      rw [countBraces_functionBlock, hsame, if_neg (hcloses.not.mpr hbefore)]

/-- Every function of an accepted document is closed: its braces close on some line, since they
would otherwise be open at the end. -/
theorem exists_functionSpan (hnest : openBrackets? lines = some [])
    (hquiet : Outline.start.diagnose lines = []) (hfirst : first < lines.length)
    (houtside : blockBehind lines first = none)
    (hopens : Keyword.function.Opens lines[first].text) :
    ∃ last, FunctionSpan lines first last := by
  have hbehind := @blockBehind_of_functionHeader lines first hquiet hfirst houtside hopens
  have hcloses : ∃ last, first ≤ last ∧ last < lines.length ∧
      ClosesBraces (stretch lines first (last + 1)) := by
    by_contra hnone
    have hopen : ∀ index, first < index → index ≤ lines.length →
        ¬ClosesBraces (stretch lines first index) := by
      intro index hindex hlength hclosed
      obtain ⟨last, rfl⟩ := Nat.exists_eq_add_one_of_ne_zero (by omega : index ≠ 0)
      exact hnone ⟨last, by omega, hlength, hclosed⟩
    have hend := hbehind hfirst le_rfl fun index hindex hlt => hopen index hindex hlt.le
    rw [blockBehind_length_eq_none hnest hquiet, if_neg (hopen _ hfirst le_rfl)] at hend
    cases hend
  let last := Nat.find hcloses
  obtain ⟨hle, hlt, hclosed⟩ : first ≤ last ∧ last < lines.length ∧
      ClosesBraces (stretch lines first (last + 1)) := Nat.find_spec hcloses
  have hopen : ∀ index, first < index → index ≤ last →
      ¬ClosesBraces (stretch lines first index) := by
    intro index hindex hbefore hearlier
    obtain ⟨middle, rfl⟩ := Nat.exists_eq_add_one_of_ne_zero (by omega : index ≠ 0)
    exact Nat.find_min hcloses hbefore ⟨by omega, by omega, hearlier⟩
  refine ⟨last, hle, hlt, houtside, hopens, fun index hindex hbefore => ?_, hclosed, ?_⟩
  · have hbehind := hbehind hindex (by omega) fun middle hmiddle hlt =>
      hopen middle hmiddle (by omega)
    exact ⟨hopen index hindex hbefore, hbehind.trans (if_neg (hopen index hindex hbefore))⟩
  · have hbehind := hbehind (by omega : first < last + 1) hlt fun index hindex hlt =>
      hopen index hindex (by omega)
    exact hbehind.trans (if_pos hclosed)

/-- An open function has a header before it and is closed later. -/
theorem exists_functionSpan_of_blockBehind (hnest : openBrackets? lines = some [])
    (hquiet : Outline.start.diagnose lines = []) {heading : Heading} {depth : Int} {opened : Bool}
    {count : Nat} (hcount : count ≤ lines.length)
    (hblock : blockBehind lines count = some (.function heading depth opened)) :
    ∃ first last, FunctionSpan lines first last ∧ first < count ∧ count ≤ last := by
  induction count generalizing heading depth opened with
  | zero => simp at hblock
  | succ count ih =>
    have hreads := reads_getElem hquiet hcount
    rw [hblock] at hreads
    have hgoesOn : ∀ {heading depth opened},
        blockBehind lines count = some (.function heading depth opened) →
          ∃ first last, FunctionSpan lines first last ∧ first < count + 1 ∧ count + 1 ≤ last := by
      intro heading depth opened hbefore
      obtain ⟨first, last, hspan, hfirst, hlast⟩ := ih (by omega) hbefore
      exact ⟨first, last, hspan, by omega, hspan.lt_of_blockBehind hlast hblock⟩
    generalize hbefore : blockBehind lines count = before at hreads
    generalize hafter : some (Block.function heading depth opened) = after at hreads
    cases hreads with
    | blank => exact hgoesOn (hbefore.trans hafter.symm)
    | functionLine => exact hgoesOn hbefore
    | functionHeader hopens =>
      obtain ⟨last, hspan⟩ := exists_functionSpan hnest hquiet hcount hbefore hopens
      exact ⟨count, last, hspan, by omega, hspan.lt_of_blockBehind hspan.le hblock⟩
    | _ => cases hafter

end

/-! ### Accepted documents -/

/-- At the end of a document the outline lets no block be open but a function whose body has been
opened. -/
theorem Outline.atEnd_eq_nil_iff_opened {outline : Outline} :
    outline.atEnd = [] ↔
      ∀ block, outline.block = some block →
        ∃ heading depth, block = .function heading depth true := by
  obtain ⟨block, started⟩ := outline
  rcases block with _ | ⟨heading, hasWhen, hasThen⟩ | heading | heading | ⟨heading, depth, opened⟩
  case some.function => cases opened <;> simp [atEnd]
  all_goals simp [atEnd]

/-- **No block is open behind an accepted document.** The outline finds nothing in a document that
ends in a function with its body opened. In an accepted document every function has a line that
closes it: the first one up to which its own braces, counted from the header on, have been opened
and are all closed. -/
theorem check_closes_functions (source : Text) :
    (Outline.start.diagnose (stripLines source.lines) = [] ↔
      Outline.start.findings (stripLines source.lines) = [] ∧
        ∀ block, (Outline.start.after (stripLines source.lines)).block = some block →
          ∃ heading depth, block = .function heading depth true) ∧
    (check source = [] →
      (Outline.start.after (stripLines source.lines)).block = none ∧
      (∀ first, ∀ hfirst : first < (stripLines source.lines).length,
        blockBehind (stripLines source.lines) first = none →
        Keyword.function.Opens (stripLines source.lines)[first].text →
          ∃ last, FunctionSpan (stripLines source.lines) first last) ∧
      ∀ count ≤ (stripLines source.lines).length, ∀ heading depth opened,
        blockBehind (stripLines source.lines) count = some (.function heading depth opened) →
          ∃ first last, FunctionSpan (stripLines source.lines) first last ∧
            first < count ∧ count ≤ last) := by
  generalize hlines : stripLines source.lines = lines
  refine ⟨?_, fun haccepted => ?_⟩
  · have hsplit := Outline.diagnose_append .start lines []
    rw [List.append_nil] at hsplit
    rw [hsplit, List.append_eq_nil_iff, ← Outline.atEnd_eq_nil_iff_opened]
    rfl
  · obtain ⟨-, -, hnest, hquiet⟩ := check_eq_nil_iff.mp haccepted
    rw [hlines] at hnest hquiet
    refine ⟨?_, fun first hfirst houtside hopens => ?_, fun count hcount _ _ _ hblock => ?_⟩
    · simpa [blockBehind] using blockBehind_length_eq_none hnest hquiet
    · exact exists_functionSpan hnest hquiet hfirst houtside hopens
    · exact exists_functionSpan_of_blockBehind hnest hquiet hcount hblock

/-- A brace of a rule stays open behind its end and is closed with the body of the function. -/
def entangledSource : Text :=
  "rule R\nthen\n\x7b\nend\nfunction int f()\n\x7b \x7b\n// \x7d\n\x7d \x7d \x7d".toList

theorem check_closes_functions_entangledSource :
    check entangledSource = [] ∧
      ∃ last, FunctionSpan (stripLines entangledSource.lines) 4 last := by
  have haccepted : check entangledSource = [] := by decide +kernel
  obtain ⟨-, hclosed, -⟩ := (check_closes_functions entangledSource).2 haccepted
  exact ⟨haccepted, hclosed 4 (by decide +kernel) (by decide +kernel) (by decide +kernel)⟩

end Culprit
