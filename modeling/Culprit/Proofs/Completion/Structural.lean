import Culprit.Completion
import Culprit.Proofs.Rules.Tidy

/-!
# Completed prefixes

The structural completion closes what a prefix leaves open, so that a document is not rejected just
because it is cut. On a tidy document the lines that it appends nest with the braces that are open,
and the outline reads them without diagnostics, whatever block the document is cut in. There is one
exception: behind the consequence of a rule without conditions the completion appends the word for
the conditions, which must not stand there.
-/

namespace Culprit

/-- Whether a rule is open that has its consequence but no conditions before it. -/
def Block.lacksConditions : Option Block → Bool
  | some (.rule _ hasWhen hasThen) => hasThen && !hasWhen
  | _ => false

/-! ### The lines that close a block -/

/-- The lines of which closing suffixes are made. -/
def closingWords : List Text := [whenKey, thenKey, ['}'], endKey, ['{', ' ', '}']]

theorem mem_closingWords_of_mem_closingLines {region : Region} {line : Text}
    (hline : line ∈ region.closingLines) : line ∈ closingWords := by
  have hbraces : ∀ count, line ∈ List.replicate count ['}'] → line = ['}'] :=
    fun count hmem => (List.mem_replicate.mp hmem).2
  rcases region with ⟨hasWhen, hasThen, depth⟩ | _ | _ | ⟨depth, opened⟩
  · simp only [Region.closingLines, List.mem_append, List.mem_singleton] at hline
    rcases hline with ((hwhen | hthen) | hbrace) | hend
    · cases hasWhen <;> simp_all [closingWords]
    · cases hasThen <;> simp_all [closingWords]
    · simp [closingWords, hbraces _ hbrace]
    · simp [closingWords, hend]
  · simp_all [Region.closingLines, closingWords]
  · simp_all [Region.closingLines, closingWords]
  · cases opened with
    | false => simp_all [Region.closingLines, closingWords]
    | true => simp [closingWords, hbraces _ hline]

theorem Regions.closingSuffix_ofBlock_some (braces : Int) (block : Block) :
    (ofBlock braces (some block)).closingSuffix = (block.region braces).closingLines := by
  simp [closingSuffix]

theorem mem_closingWords_of_mem_closingSuffix {regions : Regions} {line : Text}
    (hline : line ∈ regions.closingSuffix) : line ∈ closingWords := by
  obtain ⟨region, -, hmem⟩ := List.mem_flatMap.mp hline
  exact mem_closingWords_of_mem_closingLines hmem

theorem clear_of_mem_closingWords {word : Text} (hword : word ∈ closingWords) :
    '\n' ∉ word ∧ Text.Clear word := by
  have hroles : ∀ word ∈ closingWords, '\n' ∉ word ∧
      ∀ c ∈ Text.roles false word, c.2 ≠ .comment ∧ c.2 ≠ .unclosed := by decide +kernel
  exact (hroles word hword).imp_right Text.clear_of_roles

theorem codeOf_of_mem_closingWords {word : Text} (hword : word ∈ closingWords) :
    Text.codeOf (Text.roles false word) = word ∧ word.trim = word := by
  have hcode : ∀ word ∈ closingWords,
      Text.codeOf (Text.roles false word) = word ∧ word.trim = word := by decide +kernel
  exact hcode word hword

theorem text_alone_of_mem_closingWords {word : Text} (hword : word ∈ closingWords)
    (number : Nat) : (CodeLine.alone number word).text = word := by
  obtain ⟨hcode, htrim⟩ := codeOf_of_mem_closingWords hword
  rw [CodeLine.text_alone, hcode, htrim]

theorem flatMap_kinds_closing {words : List Text} (hwords : ∀ word ∈ words, word ∈ closingWords)
    (number : Nat) :
    (stripLinesFrom number none words).flatMap CodeLine.kinds = words.flatMap Text.delimiters := by
  rw [List.flatMap_def, map_kinds_stripLinesFrom fun word hmem =>
    (clear_of_mem_closingWords (hwords word hmem)).2, List.flatMap_def]
  congr 1
  exact List.map_congr_left fun word hmem =>
    congrArg Text.delimiters (codeOf_of_mem_closingWords (hwords word hmem)).1

/-! ### Reading them -/

namespace Outline

variable {heading : Heading} {hasWhen hasThen started : Bool}

theorem diagnose_stripLinesFrom_cons (outline : Outline) {word : Text}
    (hword : word ∈ closingWords) (number : Nat) (rest : List Text) :
    outline.diagnose (stripLinesFrom number none (word :: rest)) =
      (outline.step (.alone number word)).2 ++
        (outline.step (.alone number word)).1.diagnose (stripLinesFrom (number + 1) none rest) := by
  rw [stripLinesFrom_cons (clear_of_mem_closingWords hword).2, diagnose]

/-- No closing word is blank or a header, so each is read inside the block that it closes. -/
theorem step_closing {block : Block}
    (hblock : ∀ heading depth opened, block ≠ .function heading depth opened) {word : Text}
    (hword : word ∈ closingWords) (number : Nat) :
    (⟨some block, started⟩ : Outline).step (.alone number word) =
      (⟨(readInside block (.alone number word)).1, started⟩,
        (readInside block (.alone number word)).2) := by
  have hplain : ∀ word ∈ closingWords, word ≠ [] ∧ opener? word.fold = none := by decide
  have htext := text_alone_of_mem_closingWords hword number
  obtain ⟨hne, hopener⟩ := hplain word hword
  rcases block with ⟨heading, hasWhen, hasThen⟩ | heading | heading | ⟨heading, depth, opened⟩
  case function => exact absurd rfl (hblock heading depth opened)
  all_goals simp [step, htext, hne, hopener]

theorem step_whenKey (number : Nat) :
    (⟨some (.rule heading false hasThen), started⟩ : Outline).step (.alone number whenKey) =
      (⟨some (.rule heading true hasThen), started⟩,
        if hasThen then [.atLine number .whenAfterThen] else []) := by
  have hword : whenKey ∈ closingWords := by decide
  have hkey : whenKey.fold = whenKey ∧ whenKey ≠ endKey := by decide
  rw [step_closing (by simp) hword]
  simp [readInside, readRuleLine, text_alone_of_mem_closingWords hword, hkey]

theorem step_thenKey (number : Nat) :
    (⟨some (.rule heading hasWhen false), started⟩ : Outline).step (.alone number thenKey) =
      (⟨some (.rule heading hasWhen true), started⟩, []) := by
  have hword : thenKey ∈ closingWords := by decide
  have hkey : thenKey.fold = thenKey ∧ thenKey ≠ endKey ∧ thenKey ≠ whenKey := by decide
  rw [step_closing (by simp) hword]
  simp [readInside, readRuleLine, text_alone_of_mem_closingWords hword, hkey]

theorem step_closer (number : Nat) :
    (⟨some (.rule heading hasWhen hasThen), started⟩ : Outline).step (.alone number ['}']) =
      (⟨some (.rule heading hasWhen hasThen), started⟩, []) := by
  have hword : ['}'] ∈ closingWords := by decide
  have hkey : Text.fold ['}'] = ['}'] ∧ ['}'] ≠ endKey ∧ ['}'] ≠ whenKey ∧ ['}'] ≠ thenKey := by
    decide
  rw [step_closing (by simp) hword]
  simp [readInside, readRuleLine, text_alone_of_mem_closingWords hword, hkey]

theorem diagnose_closers_of_rule (number count : Nat) :
    (⟨some (.rule heading hasWhen true), started⟩ : Outline).diagnose
      (stripLinesFrom number none (List.replicate count ['}'] ++ [endKey])) = [] := by
  induction count generalizing number with
  | zero =>
    have hword : endKey ∈ closingWords := by decide
    have hkey : endKey.fold = endKey := by decide
    rw [List.replicate_zero, List.nil_append, diagnose_stripLinesFrom_cons _ hword,
      step_closing (by simp) hword]
    simp [readInside, text_alone_of_mem_closingWords hword, hkey, stripLinesFrom, diagnose, atEnd]
  | succ count ih =>
    rw [List.replicate_succ, List.cons_append, diagnose_stripLinesFrom_cons _ (by decide),
      step_closer, ih]
    rfl

theorem diagnose_closers_of_function (number : Nat) {count : Nat} (hcount : 0 < count) :
    (⟨some (.function heading count true), started⟩ : Outline).diagnose
      (stripLinesFrom number none (List.replicate count ['}'])) = [] := by
  have hword : ['}'] ∈ closingWords := by decide
  induction count generalizing number with
  | zero => omega
  | succ count ih =>
    have hbalance : Text.braceBalance ['}'] = -1 := by decide
    rw [List.replicate_succ, diagnose_stripLinesFrom_cons _ hword]
    simp only [step, text_alone_of_mem_closingWords hword, List.cons_ne_nil, if_false,
      countBraces, hbalance]
    cases count with
    | zero => simp [stripLinesFrom, diagnose, atEnd]
    | succ count =>
      have hdepth : ((count + 1 + 1 : Nat) : Int) + -1 = (count + 1 : Nat) := by omega
      have hopen : ¬((count + 1 : Nat) : Int) ≤ 0 := by omega
      simpa only [hdepth, hopen, Bool.true_or, decide_false, Bool.and_false, Bool.false_eq_true,
        if_false, List.nil_append] using ih (number + 1) (by omega)

theorem diagnose_endKey {block : Block} (number : Nat)
    (hblock : (∃ heading, block = .query heading) ∨ ∃ heading, block = .declare heading) :
    (⟨some block, started⟩ : Outline).diagnose (stripLinesFrom number none [endKey]) = [] := by
  have hword : endKey ∈ closingWords := by decide
  have hkey : endKey.fold = endKey := by decide
  rw [diagnose_stripLinesFrom_cons _ hword]
  rcases hblock with ⟨heading, rfl⟩ | ⟨heading, rfl⟩ <;> rw [step_closing (by simp) hword] <;>
    simp [readInside, text_alone_of_mem_closingWords hword, hkey, stripLinesFrom, diagnose, atEnd]

theorem diagnose_body (number : Nat) :
    (⟨some (.function heading 0 false), started⟩ : Outline).diagnose
      (stripLinesFrom number none [['{', ' ', '}']]) = [] := by
  have hword : ['{', ' ', '}'] ∈ closingWords := by decide
  rw [diagnose_stripLinesFrom_cons _ hword]
  simp [step, text_alone_of_mem_closingWords hword, countBraces, Text.braceBalance,
    stripLinesFrom, diagnose, atEnd]

/-- The lines that close a rule are read without diagnostics, unless they bring its conditions
behind its consequence. -/
theorem diagnose_closingLines_of_rule (number depth : Nat)
    (hdepth : hasThen = false → depth = 0) :
    (⟨some (.rule heading hasWhen hasThen), started⟩ : Outline).diagnose
        (stripLinesFrom number none (Region.closingLines (.rule hasWhen hasThen depth))) = [] ↔
      (hasThen && !hasWhen) = false := by
  have hwhen : whenKey ∈ closingWords := by decide
  have hthen : thenKey ∈ closingWords := by decide
  have hlines : Region.closingLines (.rule hasWhen hasThen depth) =
      (if hasWhen then [] else [whenKey]) ++ ((if hasThen then [] else [thenKey])
        ++ (List.replicate depth ['}'] ++ [endKey])) := by
    simp [Region.closingLines]
  rw [hlines]
  cases hasThen with
  | true =>
    cases hasWhen with
    | true => simpa using diagnose_closers_of_rule number depth
    | false =>
      rw [if_neg (by simp), List.singleton_append, diagnose_stripLinesFrom_cons _ hwhen,
        step_whenKey]
      simp
  | false =>
    obtain rfl := hdepth rfl
    cases hasWhen with
    | true =>
      rw [if_pos rfl, if_neg (by simp), List.nil_append, List.singleton_append,
        diagnose_stripLinesFrom_cons _ hthen, step_thenKey]
      simpa using diagnose_closers_of_rule (number + 1) 0
    | false =>
      rw [if_neg (by simp), if_neg (by simp), List.singleton_append, List.singleton_append,
        diagnose_stripLinesFrom_cons _ hwhen, step_whenKey,
        diagnose_stripLinesFrom_cons _ hthen, step_thenKey]
      simpa using diagnose_closers_of_rule (number + 1 + 1) 0

theorem diagnose_closingSuffix_eq_nil_iff {total : Int} {block : Option Block}
    (hfits : Block.Fits total block) (htotal : 0 ≤ total) (number : Nat) :
    (⟨block, started⟩ : Outline).diagnose
        (stripLinesFrom number none (Regions.ofBlock total block).closingSuffix) = [] ↔
      Block.lacksConditions block = false := by
  obtain ⟨depth, rfl⟩ := Int.eq_ofNat_of_zero_le htotal
  rcases block with _ | ⟨heading, hasWhen, hasThen⟩ | heading | heading | ⟨heading, braces, opened⟩
  · simp [Regions.closingSuffix, stripLinesFrom, diagnose, atEnd, Block.lacksConditions]
  · rw [Regions.closingSuffix_ofBlock_some]
    refine diagnose_closingLines_of_rule number depth fun hthen => ?_
    have hzero : (depth : Int) = 0 := hfits.idle hthen
    omega
  · rw [Regions.closingSuffix_ofBlock_some]
    simpa [Block.region, Region.closingLines, Block.lacksConditions] using
      diagnose_endKey number (.inl ⟨heading, rfl⟩)
  · rw [Regions.closingSuffix_ofBlock_some]
    simpa [Block.region, Region.closingLines, Block.lacksConditions] using
      diagnose_endKey number (.inr ⟨heading, rfl⟩)
  · obtain ⟨rfl, hopened⟩ := hfits.counts heading braces opened rfl
    rw [Regions.closingSuffix_ofBlock_some]
    cases opened with
    | false =>
      obtain rfl : depth = 0 := by simpa using hopened
      simpa [Block.region, Region.closingLines, Block.lacksConditions] using diagnose_body number
    | true =>
      simpa [Block.region, Region.closingLines, Block.lacksConditions] using
        diagnose_closers_of_function number (by simpa using hopened)

end Outline

/-! ### Nesting them -/

theorem flatMap_delimiters_closers (count : Nat) :
    (List.replicate count ['}']).flatMap Text.delimiters =
      List.replicate count (.closing .curly) := by
  induction count with
  | zero => rfl
  | succ count ih =>
    rw [List.replicate_succ, List.replicate_succ, List.flatMap_cons, ih]
    rfl

theorem readKinds_closingSuffix {total : Int} {block : Option Block}
    (hfits : Block.Fits total block) :
    Nesting.readKinds (List.replicate total.toNat .curly)
      ((Regions.ofBlock total block).closingSuffix.flatMap Text.delimiters) = some [] := by
  have hwords : Text.delimiters whenKey = [] ∧ Text.delimiters thenKey = [] ∧
      Text.delimiters endKey = [] := by decide
  obtain ⟨hwhen, hthen, hend⟩ := hwords
  rcases block with _ | ⟨heading, hasWhen, hasThen⟩ | heading | heading | ⟨heading, braces, opened⟩
  · simp [hfits.idle rfl, Regions.closingSuffix, Nesting.readKinds]
  · have hdelimiters :
        (Region.closingLines (.rule hasWhen hasThen total)).flatMap Text.delimiters =
          List.replicate total.toNat (.closing .curly) := by
      cases hasWhen <;> cases hasThen <;>
        simp [Region.closingLines, flatMap_delimiters_closers, hwhen, hthen, hend]
    rw [Regions.closingSuffix_ofBlock_some, Block.region, hdelimiters]
    exact Nesting.readKinds_replicate .curly total.toNat
  · rw [Regions.closingSuffix_ofBlock_some]
    simp [hfits.idle rfl, Block.region, Region.closingLines, hend, Nesting.readKinds]
  · rw [Regions.closingSuffix_ofBlock_some]
    simp [hfits.idle rfl, Block.region, Region.closingLines, hend, Nesting.readKinds]
  · obtain ⟨rfl, hopened⟩ := hfits.counts heading braces opened rfl
    rw [Regions.closingSuffix_ofBlock_some]
    cases opened with
    | false =>
      have hnot : ¬0 < braces := by simpa using hopened
      have hzero : braces.toNat = 0 := by omega
      have hbody : Text.delimiters ['{', ' ', '}'] = [.opening .curly, .closing .curly] := by decide
      simp [hzero, Block.region, Region.closingLines, hbody, Nesting.readKinds]
    | true =>
      simpa [Block.region, Region.closingLines, flatMap_delimiters_closers] using
        Nesting.readKinds_replicate .curly braces.toNat

/-! ### Cutting a document -/

theorem Completion.firstLines_natCast (lines : List Text) (index : Nat) :
    firstLines lines index = lines.take (index + 1) := by
  have hcount : ¬(index : Int) + 1 < 0 := by omega
  have htoNat : ((index : Int) + 1).toNat = index + 1 := by omega
  simp only [firstLines, if_neg hcount, htoNat]

theorem Completion.complete_of_isPrefix {first all : List Text} (hfirst : first <+: all)
    {index : Nat} (hindex : index < first.length) (completion : Completion) :
    completion.complete first index = completion.ofLines (all.take (index + 1)) := by
  obtain ⟨rest, rfl⟩ := hfirst
  rw [complete, firstLines_natCast, List.take_append_of_le_length (by omega)]

/-- A tidy document cut behind some of its lines and completed is accepted, unless it is cut in a
rule that has a consequence and no conditions. -/
theorem check_ofLines_take_eq_nil_iff {lines : List Text}
    (hlines : ∀ line ∈ lines, '\n' ∉ line ∧ line.BareLine)
    (hnest : openBrackets? (stripLines lines) = some [])
    (hquiet : Outline.start.diagnose (stripLines lines) = []) (htidy : Tidy (stripLines lines))
    {count : Nat} (hpos : 0 < count) (hcount : count ≤ lines.length) :
    check (Completion.structural.ofLines (lines.take count)) = [] ↔
      Block.lacksConditions (blockBehind (stripLines lines) count) = false := by
  have hbare : ∀ line ∈ lines, line.BareLine := fun line hmem => (hlines line hmem).2
  have hclear : ∀ line ∈ lines, Text.Clear line := fun line hmem => (hbare line hmem).clear
  obtain ⟨hfits, -⟩ := htidy.fits hnest hquiet hclear hcount
  have hscan := htidy.scan_eq_ofBlock_braceTotal hnest hquiet hbare hcount
  have htotal := braceTotal_take_nonneg hnest count
  have hopen := htidy.openBrackets?_take hnest
    (show count ≤ (stripLines lines).length by simpa using hcount)
  -- The suffix is stripped behind the prefix, which leaves no comment open.
  have hstripped : ∀ suffix, stripLines (lines.take count ++ suffix) =
      (stripLines lines).take count ++ stripLinesFrom (1 + count) none suffix := by
    intro suffix
    rw [stripLines, stripLinesFrom_append fun line hmem => hclear line (List.mem_of_mem_take hmem),
      stripLines, take_stripLinesFrom, List.length_take, Nat.min_eq_left hcount]
  have hfindings : Outline.start.findings ((stripLines lines).take count) = [] := by
    rw [← List.take_append_drop count (stripLines lines), Outline.diagnose_append,
      List.append_eq_nil_iff] at hquiet
    exact hquiet.1
  rw [Completion.ofLines, hscan, check_unlines_eq_nil_iff ?_ ?_, hstripped, openBrackets?_append,
    hopen, Option.bind_some,
    flatMap_kinds_closing fun word => mem_closingWords_of_mem_closingSuffix,
    Outline.diagnose_append, hfindings, List.nil_append]
  · refine (and_iff_right (readKinds_closingSuffix hfits)).trans ?_
    exact Outline.diagnose_closingSuffix_eq_nil_iff hfits htotal _
  · have hlength : (lines.take count).length = count := by
      rw [List.length_take, Nat.min_eq_left hcount]
    exact List.append_ne_nil_of_left_ne_nil (List.ne_nil_of_length_pos (by omega)) _
  · intro line hline
    rcases List.mem_append.mp hline with hfront | hsuffix
    · have hmem := List.mem_of_mem_take hfront
      exact ⟨(hlines line hmem).1, hclear line hmem⟩
    · exact clear_of_mem_closingWords (mem_closingWords_of_mem_closingSuffix hsuffix)

/-- **What becomes of a document that is cut.** Take any line of an accepted tidy document, with or
without the empty lines at its end. The document up to that line, completed, is accepted exactly
when the line does not leave a rule open that has its consequence but no conditions. -/
theorem check_complete_eq_nil_iff {source : Text} (haccepted : check source = [])
    (hbare : source.Bare) (htidy : Tidy (stripLines source.lines)) {lines : List Text}
    (hlines : lines <+: source.lines) {index : Nat} (hindex : index < lines.length) :
    check (Completion.structural.complete lines index) = [] ↔
      Block.lacksConditions (blockBehind (stripLines source.lines) (index + 1)) = false := by
  obtain ⟨-, -, hnest, hquiet⟩ := check_eq_nil_iff.mp haccepted
  have hcount : index + 1 ≤ source.lines.length := hindex.trans_le hlines.length_le
  rw [Completion.complete_of_isPrefix hlines hindex]
  exact check_ofLines_take_eq_nil_iff
    (fun line hline => ⟨Text.newline_notMem_of_mem_lines hline,
      hbare.bareLine haccepted line hline⟩) hnest hquiet htidy (Nat.succ_pos index) hcount

/-- In the inner block of the function, two closing braces make the cut document a whole one. -/
theorem check_complete_eq_nil_sampleSource :
    check sampleSource = [] ∧ sampleSource.Bare ∧ Tidy (stripLines sampleSource.lines) ∧
      sampleSource.contentLines <+: sampleSource.lines ∧ 8 < sampleSource.contentLines.length ∧
      check (Completion.structural.complete sampleSource.contentLines 8) = [] := by
  obtain ⟨haccepted, hbare, htidy, hlines, hindex, hblock⟩ :
      check sampleSource = [] ∧ sampleSource.Bare ∧ Tidy (stripLines sampleSource.lines) ∧
        sampleSource.contentLines <+: sampleSource.lines ∧ 8 < sampleSource.contentLines.length ∧
        Block.lacksConditions (blockBehind (stripLines sampleSource.lines) 9) = false := by
    decide +kernel
  exact ⟨haccepted, hbare, htidy, hlines, hindex,
    (check_complete_eq_nil_iff haccepted hbare htidy hlines hindex).mpr hblock⟩

/-- A document with a rule that has no conditions. -/
def bareRuleSource : Text :=
  Text.unlines (["rule \"r\"", "then", "go();", "end"].map String.toList)

/-- The document is accepted, and completed behind the word for the consequence it is not. -/
theorem not_accepted_complete_bareRuleSource :
    check bareRuleSource = [] ∧ bareRuleSource.Bare ∧ Tidy (stripLines bareRuleSource.lines) ∧
      1 < bareRuleSource.contentLines.length ∧
      check (Completion.structural.complete bareRuleSource.contentLines 1) ≠ [] := by
  decide +kernel

end Culprit
