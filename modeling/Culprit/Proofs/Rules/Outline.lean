import Culprit.Proofs.Pattern.Matching
import Culprit.Proofs.Text.Trim
import Culprit.Rules.Outline
import Mathlib.Data.List.Basic

/-!
# What a line in place does to the outline

A document without diagnostics is read by few kinds of lines. `Reads` lists them: which line can
stand behind which open block, and what it leaves open. Everything that is proved about the outline
of such a document goes through this list, and not through the cases in which a line is out of
place.
-/

namespace Culprit

/-- The words that start a statement which opens no block. -/
def Statement.words : List Text :=
  ["package".toList, "import".toList, "global".toList, "dialect".toList]

namespace Keyword

/-- A text opens a block: the keyword stands at its start, a blank character behind it. -/
def Opens (keyword : Keyword) (text : Text) : Prop :=
  ∃ c rest, text = keyword.spelling.toList ++ c :: rest ∧ Text.isBlank c = true

theorem opens_iff {keyword : Keyword} {text : Text} :
    keyword.Opens text ↔ keyword.spelling.toList <+: text ∧
      (text.drop keyword.spelling.toList.length).head?.any Text.isBlank = true := by
  constructor
  · rintro ⟨c, rest, rfl, hblank⟩
    simp [hblank]
  · rintro ⟨⟨rest, rfl⟩, hblank⟩
    rcases rest with _ | ⟨c, rest⟩
    · simp at hblank
    · exact ⟨c, rest, rfl, by simpa using hblank⟩

instance (keyword : Keyword) (text : Text) : Decidable (keyword.Opens text) :=
  decidable_of_iff' _ opens_iff

@[simp] theorem fold_spelling (keyword : Keyword) :
    Text.fold keyword.spelling.toList = keyword.spelling.toList := by
  cases keyword <;> rfl

theorem Opens.isPrefix {keyword : Keyword} {text : Text} (h : keyword.Opens text) :
    keyword.spelling.toList <+: text := by
  obtain ⟨c, rest, rfl, -⟩ := h
  exact List.prefix_append _ _

theorem Opens.prefix_fold {keyword : Keyword} {text : Text} (h : keyword.Opens text) :
    keyword.spelling.toList <+: text.fold := by
  rw [← fold_spelling]
  exact h.isPrefix.map smallLetter

theorem eq_of_isPrefix {first second : Keyword} {key : Text}
    (hfirst : first.spelling.toList <+: key) (hsecond : second.spelling.toList <+: key) :
    first = second := by
  have := List.prefix_or_prefix_of_prefix hfirst hsecond
  revert this
  cases first <;> cases second <;> decide

theorem not_prefix_of_statement {keyword : Keyword} {word key : Text}
    (hword : word ∈ Statement.words) (hbegins : word <+: key) :
    ¬keyword.spelling.toList <+: key := by
  have hnone : ∀ keyword : Keyword, ∀ word ∈ Statement.words,
      ¬(word <+: keyword.spelling.toList ∨ keyword.spelling.toList <+: word) := by
    intro keyword
    cases keyword <;> decide
  exact fun hkeyword =>
    hnone keyword word hword (List.prefix_or_prefix_of_prefix hbegins hkeyword)

end Keyword

namespace Statement

theorem leadingName_isPrefix (text : Text) : leadingName text <+: text := by
  cases text with
  | nil => exact List.prefix_rfl
  | cons c rest =>
    rw [leadingName]
    split
    · exact List.cons_prefix_cons.mpr ⟨rfl, List.takeWhile_prefix _⟩
    · exact List.nil_prefix

theorem fold_leadingName_isPrefix (text : Text) : (leadingName text).fold <+: text.fold :=
  (leadingName_isPrefix text).map smallLetter

theorem exists_of_matches_word {word : Text} {rest : Pattern} {text : Text}
    (h : Pattern.Matches (.seq (Pattern.literal word) (.seq gap rest)) text) :
    ∃ c more, text = word ++ c :: more ∧ Text.isBlank c = true := by
  obtain ⟨back, rfl, blanks, body, rfl, ⟨first, more, rfl, ⟨c, hc, rfl⟩, -⟩, -⟩ :=
    Pattern.exists_of_matches_seq_literal h
  exact ⟨c, more ++ body, by simp, hc⟩

theorem opens_of_matches {keyword : Keyword} {rest : Pattern} {text : Text}
    (h : Pattern.Matches (.seq (Pattern.literal keyword.spelling.toList) (.seq gap rest)) text) :
    keyword.Opens text :=
  exists_of_matches_word h

theorem opens_of_declareForm {text : Text} (h : declareForm.accepts text = true) :
    Keyword.declare.Opens text :=
  opens_of_matches ((Pattern.accepts_iff _ _).mp h)

theorem opens_of_functionForm {text : Text} (h : functionForm.accepts text = true) :
    Keyword.function.Opens text :=
  opens_of_matches ((Pattern.accepts_iff _ _).mp h)

/-- The form of a named block leaves open which of the two blocks it is. -/
theorem opens_of_namedBlockForm {text : Text} (h : namedBlockForm.accepts text = true) :
    Keyword.rule.Opens text ∨ Keyword.query.Opens text := by
  obtain ⟨front, back, rfl, hfront, hback⟩ := (Pattern.accepts_iff _ _).mp h
  refine hfront.imp (fun hrule => ?_) fun hquery => ?_
  · exact opens_of_matches ⟨front, back, rfl, hrule, hback⟩
  · exact opens_of_matches ⟨front, back, rfl, hquery, hback⟩

end Statement

namespace Outline

/-- What a line with nothing wrong about it does to the block that is open. -/
inductive Reads (line : CodeLine) : Option Block → Option Block → Prop
  | blank {block : Option Block} (htext : line.text = []) : Reads line block block
  | statement {word : Text} (hword : word ∈ Statement.words) (hbegins : word <+: line.text.fold) :
      Reads line none none
  | ruleHeader (hopens : Keyword.rule.Opens line.text) :
      Reads line none (some (.rule (.ofLine line) false false))
  | queryHeader (hopens : Keyword.query.Opens line.text) :
      Reads line none (some (.query (.ofLine line)))
  | declareHeader (hopens : Keyword.declare.Opens line.text) :
      Reads line none (some (.declare (.ofLine line)))
  | functionHeader (hopens : Keyword.function.Opens line.text) :
      Reads line none (countBraces (.ofLine line) 0 false line.text)
  | functionLine {heading : Heading} {depth : Int} {opened : Bool} :
      Reads line (some (.function heading depth opened))
        (countBraces heading depth opened line.text)
  | ruleWhen {heading : Heading} (hkey : line.text.fold = whenKey) :
      Reads line (some (.rule heading false false)) (some (.rule heading true false))
  | ruleThen {heading : Heading} {hasWhen : Bool} (hkey : line.text.fold = thenKey) :
      Reads line (some (.rule heading hasWhen false)) (some (.rule heading hasWhen true))
  | ruleEnd {heading : Heading} {hasWhen : Bool} (hkey : line.text.fold = endKey) :
      Reads line (some (.rule heading hasWhen true)) none
  | ruleLine {heading : Heading} {hasWhen hasThen : Bool} (hwhen : line.text.fold ≠ whenKey)
      (hthen : line.text.fold ≠ thenKey) (hend : line.text.fold ≠ endKey)
      (hopener : opener? line.text.fold = none) :
      Reads line (some (.rule heading hasWhen hasThen)) (some (.rule heading hasWhen hasThen))
  | queryEnd {heading : Heading} (hkey : line.text.fold = endKey) :
      Reads line (some (.query heading)) none
  | queryLine {heading : Heading} (hend : line.text.fold ≠ endKey)
      (hopener : opener? line.text.fold = none) :
      Reads line (some (.query heading)) (some (.query heading))
  | declareEnd {heading : Heading} (hkey : line.text.fold = endKey) :
      Reads line (some (.declare heading)) none
  | declareLine {heading : Heading} (hend : line.text.fold ≠ endKey)
      (hopener : opener? line.text.fold = none)
      (hform : (Statement.fieldForm.accepts line.text || Statement.annotation.accepts line.text)
        = true) :
      Reads line (some (.declare heading)) (some (.declare heading))

theorem mem_unlessForm_iff {form : Pattern} {line : CodeLine} {problem : Problem}
    {found : Diagnostic} :
    found ∈ unlessForm form line problem ↔
      found = .atLine line.number problem ∧ ¬form.accepts line.text = true := by
  unfold unlessForm
  split <;> simp [*]

theorem unlessForm_eq_nil_iff {form : Pattern} {line : CodeLine} {problem : Problem} :
    unlessForm form line problem = [] ↔ form.accepts line.text = true := by
  unfold unlessForm
  split <;> simp_all

theorem reads_of_readTopLevel {started : Bool} {line : CodeLine}
    (hquiet : (readTopLevel started line).2 = []) :
    Reads line none (readTopLevel started line).1 := by
  have hname : ∀ word, String.ofList (Statement.leadingName line.text).fold = word →
      (Statement.leadingName line.text).fold = word.toList := by
    rintro word rfl
    exact String.toList_ofList.symm
  have hbegins := Statement.fold_leadingName_isPrefix line.text
  obtain ⟨result, hresult⟩ : ∃ result, readTopLevel started line = result := ⟨_, rfl⟩
  rw [hresult] at hquiet ⊢
  unfold readTopLevel at hresult
  split at hresult <;> rename_i heq <;> subst hresult
  · exact .statement (by simp [Statement.words]) (hname _ heq ▸ hbegins)
  · exact .statement (by simp [Statement.words]) (hname _ heq ▸ hbegins)
  · exact .statement (by simp [Statement.words]) (hname _ heq ▸ hbegins)
  · exact .statement (by simp [Statement.words]) (hname _ heq ▸ hbegins)
  · rcases Statement.opens_of_namedBlockForm (unlessForm_eq_nil_iff.mp hquiet) with h | h
    · exact .ruleHeader h
    · have hrule : Keyword.rule.spelling.toList <+: line.text.fold := hname _ heq ▸ hbegins
      cases Keyword.eq_of_isPrefix hrule h.prefix_fold
  · rcases Statement.opens_of_namedBlockForm (unlessForm_eq_nil_iff.mp hquiet) with h | h
    · have hquery : Keyword.query.spelling.toList <+: line.text.fold := hname _ heq ▸ hbegins
      cases Keyword.eq_of_isPrefix hquery h.prefix_fold
    · exact .queryHeader h
  · exact .declareHeader (Statement.opens_of_declareForm (unlessForm_eq_nil_iff.mp hquiet))
  · exact .functionHeader (Statement.opens_of_functionForm (unlessForm_eq_nil_iff.mp hquiet))
  · simp at hquiet

theorem reads_of_readInside {block : Block} {line : CodeLine}
    (hfunction : ∀ heading depth opened, block ≠ .function heading depth opened)
    (hopener : opener? line.text.fold = none) (hquiet : (readInside block line).2 = []) :
    Reads line (some block) (readInside block line).1 := by
  cases block with
  | rule heading hasWhen hasThen =>
    by_cases hend : line.text.fold = endKey
    · obtain rfl : hasThen = true := by simpa [readInside, hend] using hquiet
      simpa [readInside, hend] using Reads.ruleEnd hend
    · simp only [readInside, if_neg hend] at hquiet ⊢
      by_cases hwhen : line.text.fold = whenKey
      · simp only [readRuleLine, if_pos hwhen] at hquiet ⊢
        cases hasThen
        · cases hasWhen
          · exact .ruleWhen hwhen
          · simp at hquiet
        · simp at hquiet
      · by_cases hthen : line.text.fold = thenKey
        · simp only [readRuleLine, if_neg hwhen, if_pos hthen] at hquiet ⊢
          cases hasThen
          · exact .ruleThen hthen
          · simp at hquiet
        · simpa only [readRuleLine, if_neg hwhen, if_neg hthen] using
            Reads.ruleLine hwhen hthen hend hopener
  | query heading =>
    by_cases hend : line.text.fold = endKey
    · simpa [readInside, hend] using Reads.queryEnd hend
    · simpa [readInside, hend] using Reads.queryLine hend hopener
  | declare heading =>
    by_cases hend : line.text.fold = endKey
    · simpa [readInside, hend] using Reads.declareEnd hend
    · simp only [readInside, if_neg hend] at hquiet ⊢
      refine .declareLine hend hopener ?_
      by_contra hform
      simp [hform] at hquiet
  | function heading depth opened => exact absurd rfl (hfunction heading depth opened)

theorem reads_of_step {outline : Outline} {line : CodeLine}
    (hquiet : (outline.step line).2 = []) :
    Reads line outline.block (outline.step line).1.block := by
  by_cases htext : line.text = []
  · simpa [step, htext] using Reads.blank htext
  · obtain ⟨block, started⟩ := outline
    simp only [step, if_neg htext] at hquiet ⊢
    rcases block with _ | ⟨heading, hasWhen, hasThen⟩ | heading | heading | ⟨heading, depth, opened⟩
    · exact reads_of_readTopLevel hquiet
    case some.function => exact .functionLine
    all_goals
      cases hopener : opener? line.text.fold with
      | some next => simp [hopener] at hquiet
      | none =>
        simp only [hopener] at hquiet ⊢
        exact reads_of_readInside (by simp) hopener hquiet

/-! ### One step -/

/-- The code of the lines that are not blank. -/
def texts (lines : List CodeLine) : List Text :=
  (lines.map CodeLine.text).filter fun text => text ≠ []

section

variable {line : CodeLine} {rest : List CodeLine}

theorem texts_cons_of_eq_nil (htext : line.text = []) : texts (line :: rest) = texts rest := by
  simp [texts, htext]

theorem texts_cons_of_ne_nil (htext : line.text ≠ []) :
    texts (line :: rest) = line.text :: texts rest := by
  simp [texts, htext]

theorem step_of_eq_nil {outline : Outline} (htext : line.text = []) :
    outline.step line = (outline, []) :=
  if_pos htext

/-- A function that stays open has its braces counted, and some of them open once there was one. -/
theorem eq_of_countBraces_eq_some {heading heading' : Heading} {depth depth' : Int}
    {opened opened' : Bool} {text : Text}
    (hblock : countBraces heading depth opened text = some (.function heading' depth' opened')) :
    depth' = depth + text.braceBalance ∧ opened' = (opened || text.contains '{') ∧
      (opened' = true → 0 < depth') := by
  simp only [countBraces] at hblock
  split at hblock
  · simp at hblock
  · rename_i hopen
    simp only [Option.some.injEq, Block.function.injEq] at hblock
    obtain ⟨-, rfl, rfl⟩ := hblock
    refine ⟨rfl, rfl, fun hopened => ?_⟩
    simp only [hopened, Bool.true_and, decide_eq_true_eq] at hopen
    omega

theorem started_of_step {outline : Outline} (hstarted : outline.started = true) :
    (outline.step line).1.started = true := by
  simp only [step]
  repeat' split
  all_goals first | rfl | exact hstarted

/-- Inside a block other than a function, a line opens another one or is read as part of it. -/
theorem step_of_block {block : Block} (hblock : block.keyword ≠ .function) {started : Bool}
    (htext : line.text ≠ []) :
    (⟨some block, started⟩ : Outline).step line =
      match opener? line.text.fold with
      | some next =>
        (⟨(readTopLevel started line).1, true⟩,
          .atLine line.number (.missingEnd block.keyword block.heading.label (some next)) ::
            (readTopLevel started line).2)
      | none => (⟨(readInside block line).1, started⟩, (readInside block line).2) := by
  cases block with
  | function heading depth opened => exact absurd rfl hblock
  | _ => exact (if_neg htext).trans rfl

/-- Only a package header asks whether it is the first statement. -/
theorem readTopLevel_of_ne_package {started started' : Bool}
    (hword : (Statement.leadingName line.text).fold ≠ "package".toList) :
    readTopLevel started line = readTopLevel started' line := by
  have hname : String.ofList (Statement.leadingName line.text).fold ≠ "package" := by
    intro heq
    exact hword (by rw [← heq, String.toList_ofList])
  unfold readTopLevel
  split
  · contradiction
  all_goals simp_all only

end

/-! ### Runs -/

/-- The diagnostics of some lines, not yet of what the document ends in. -/
def findings (outline : Outline) : List CodeLine → List Diagnostic
  | [] => []
  | line :: rest => (outline.step line).2 ++ findings (outline.step line).1 rest

theorem after_append (outline : Outline) (first second : List CodeLine) :
    outline.after (first ++ second) = (outline.after first).after second := by
  induction first generalizing outline with
  | nil => rfl
  | cons line rest ih => exact ih (outline.step line).1

theorem after_concat (outline : Outline) (lines : List CodeLine) (line : CodeLine) :
    outline.after (lines ++ [line]) = ((outline.after lines).step line).1 :=
  after_append outline lines [line]

theorem diagnose_append (outline : Outline) (first second : List CodeLine) :
    outline.diagnose (first ++ second) =
      outline.findings first ++ (outline.after first).diagnose second := by
  induction first generalizing outline with
  | nil => rfl
  | cons line rest ih => simp [diagnose, findings, after, ih]

theorem reads_of_diagnose {outline : Outline} {first second : List CodeLine} {line : CodeLine}
    (hquiet : outline.diagnose (first ++ line :: second) = []) :
    Reads line (outline.after first).block (outline.after (first ++ [line])).block := by
  rw [diagnose_append, List.append_eq_nil_iff, diagnose, List.append_eq_nil_iff] at hquiet
  rw [after_concat]
  exact reads_of_step hquiet.2.1

end Outline
end Culprit
