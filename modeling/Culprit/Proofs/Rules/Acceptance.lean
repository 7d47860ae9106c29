import Culprit.Proofs.Rules.Grammar

/-!
# The outline accepts the grammar

Reading a line without diagnostics leads from what the grammar lets follow before it to what it lets
follow behind it, and a line with diagnostics is one that may not follow. By induction over the
lines the outline reports nothing exactly on the documents of the grammar.
-/

namespace Culprit

/-! ### First words -/

theorem Text.isWord_of_isBlank {c : Char} (hblank : isBlank c = true) : isWord c = false := by
  have hcodes : ∀ code ∈ List.range' 9 5 ++ List.range' 28 5 ++ List.range' 0x2000 11 ++
      [0x85, 0xA0, 0x1680, 0x2028, 0x2029, 0x202F, 0x205F, 0x3000],
      isWord (Char.ofNat code) = false := by decide +kernel
  have hword := hcodes c.toNat
  rw [Char.ofNat_toNat] at hword
  refine hword ?_
  simp only [isBlank, Bool.or_eq_true, Bool.and_eq_true, decide_eq_true_eq, beq_iff_eq] at hblank
  simp only [List.mem_append, List.mem_range'_1, List.mem_cons, List.not_mem_nil, or_false]
  omega

namespace Statement

/-- A word is the leading name of a text if a blank character follows it. -/
theorem leadingName_append_cons {word : Text} (hword : leadingName word = word) (hne : word ≠ [])
    {c : Char} (hblank : Text.isBlank c = true) (rest : Text) :
    leadingName (word ++ c :: rest) = word := by
  obtain ⟨first, more, rfl⟩ := List.exists_cons_of_ne_nil hne
  have hrest : CharClass.nameRest.holds c = false := by
    have hdollar : c ≠ '$' := by
      rintro rfl
      exact absurd hblank (by decide)
    simp [CharClass.holds, Text.isWord_of_isBlank hblank, hdollar]
  simp only [leadingName, List.cons_append] at hword ⊢
  split at hword
  · rename_i hfirst
    rw [if_pos hfirst, List.takeWhile_append_of_pos, List.takeWhile_cons_of_neg (by simp [hrest]),
      List.append_nil]
    intro d hd
    rw [← (List.cons.inj hword).2] at hd
    exact List.mem_takeWhile_imp hd
  · simp at hword

theorem leadingName_of_matches {word : Text} (hword : leadingName word = word) (hne : word ≠ [])
    {rest : Pattern} {text : Text}
    (h : Pattern.Matches (.seq (Pattern.literal word) (.seq gap rest)) text) :
    leadingName text = word := by
  obtain ⟨c, more, rfl, hblank⟩ := exists_of_matches_word h
  exact leadingName_append_cons hword hne hblank more

theorem leadingName_of_opens {keyword : Keyword} {text : Text} (hopens : keyword.Opens text) :
    leadingName text = keyword.spelling.toList := by
  obtain ⟨c, rest, rfl, hblank⟩ := hopens
  exact leadingName_append_cons (by cases keyword <;> decide) (by cases keyword <;> decide) hblank
    rest

end Statement

theorem Grammar.Names.opens {keyword : Keyword} {line : Text} (h : Names keyword line) :
    keyword.Opens line := by
  have hspelling : keyword.spelling.toList <+: line.fold := by
    have := h.word.map smallLetter
    rwa [← Text.fold, Keyword.fold_spelling] at this
  rcases Statement.opens_of_namedBlockForm h.form with hopens | hopens
  · exact Keyword.eq_of_isPrefix hspelling hopens.prefix_fold ▸ hopens
  · exact Keyword.eq_of_isPrefix hspelling hopens.prefix_fold ▸ hopens

/-! ### What may follow -/

namespace Grammar

/-- What the clause words in the rest of a rule may be. -/
def clausesLeft (hasWhen hasThen : Bool) : List (List Text) :=
  if hasThen then [[]] else if hasWhen then [[thenKey]] else [[thenKey], [whenKey, thenKey]]

/-- What may follow a line behind which the given block is open. -/
def Follows : Option Block → List Text → Prop
  | none => Parts
  | some (.rule _ hasWhen hasThen) =>
    EndedBy Inner fun body => clauseWords body ∈ clausesLeft hasWhen hasThen
  | some (.query _) => EndedBy Inner fun _ => True
  | some (.declare _) => EndedBy Entry fun _ => True
  | some (.function _ depth opened) => FunctionRest depth opened

/-- A function that is open has not met its end. -/
def Unclosed (block : Option Block) : Prop :=
  ∀ heading depth opened, block = some (.function heading depth opened) → ¬Closed depth opened []

theorem closed_nil_iff {depth : Int} {opened : Bool} :
    Closed depth opened [] ↔ opened = true ∧ depth ≤ 0 := by
  simp [Closed, Text.braceBalance]

theorem follows_countBraces {heading : Heading} {depth : Int} {opened : Bool} {text : Text}
    {lines : List Text} :
    Follows (Outline.countBraces heading depth opened text) lines ↔
      FunctionRest (depth + text.braceBalance) (opened || text.contains '{') lines := by
  simp only [Outline.countBraces]
  split
  · rename_i hclosed
    rw [functionRest_of_closed (closed_nil_iff.mpr (by simpa using hclosed))]
    rfl
  · rfl

theorem unclosed_countBraces {heading : Heading} {depth : Int} {opened : Bool} {text : Text} :
    Unclosed (Outline.countBraces heading depth opened text) := by
  intro heading' depth' opened' hblock
  obtain ⟨rfl, rfl, hopen⟩ := Outline.eq_of_countBraces_eq_some hblock
  rw [closed_nil_iff]
  rintro ⟨hopened, hdepth⟩
  have := hopen hopened
  omega

end Grammar

namespace Outline

open Grammar

/-! ### Outside of blocks -/

/-- A line outside of blocks that is read without diagnostics is one with which parts may start. -/
theorem parts_of_readTopLevel {line : CodeLine} {lines : List Text}
    (hquiet : (readTopLevel true line).2 = [])
    (hrest : Follows (readTopLevel true line).1 lines) : Parts (line.text :: lines) := by
  have hname : ∀ word, String.ofList (Statement.leadingName line.text).fold = word →
      word.toList <+: line.text.fold := by
    rintro word rfl
    rw [String.toList_ofList]
    exact Statement.fold_leadingName_isPrefix line.text
  have hnamed : ∀ keyword : Keyword, keyword.spelling.toList <+: line.text.fold →
      Statement.namedBlockForm.accepts line.text = true → Names keyword line.text := by
    intro keyword hword hform
    refine ⟨?_, hform⟩
    rcases Statement.opens_of_namedBlockForm hform with hopens | hopens
    · exact Keyword.eq_of_isPrefix hword hopens.prefix_fold ▸ hopens.isPrefix
    · exact Keyword.eq_of_isPrefix hword hopens.prefix_fold ▸ hopens.isPrefix
  rw [parts_cons_iff]
  obtain ⟨result, hresult⟩ : ∃ result, readTopLevel true line = result := ⟨_, rfl⟩
  rw [hresult] at hquiet hrest
  unfold readTopLevel at hresult
  split at hresult <;> rename_i heq <;> subst hresult
  · simp at hquiet
  · exact .inl ⟨.inl (unlessForm_eq_nil_iff.mp hquiet), hrest⟩
  · exact .inl ⟨.inr (.inl (unlessForm_eq_nil_iff.mp hquiet)), hrest⟩
  · exact .inl ⟨.inr (.inr (unlessForm_eq_nil_iff.mp hquiet)), hrest⟩
  · refine .inr (.inl ⟨hnamed .rule (hname _ heq) (unlessForm_eq_nil_iff.mp hquiet), ?_⟩)
    simpa [Follows, clausesLeft] using hrest
  · exact .inr (.inr (.inl ⟨hnamed .query (hname _ heq) (unlessForm_eq_nil_iff.mp hquiet), hrest⟩))
  · exact .inr (.inr (.inr (.inl ⟨unlessForm_eq_nil_iff.mp hquiet, hrest⟩)))
  · refine .inr (.inr (.inr (.inr ⟨unlessForm_eq_nil_iff.mp hquiet, ?_⟩)))
    rw [functionRest_cons (by simp [closed_nil_iff])]
    exact follows_countBraces.mp hrest
  · simp at hquiet

theorem readTopLevel_of_parts {line : CodeLine} {lines : List Text}
    (hparts : Parts (line.text :: lines)) :
    (readTopLevel true line).2 = [] ∧ Follows (readTopLevel true line).1 lines := by
  have hword : ∀ word : String, Statement.leadingName line.text = word.toList →
      Text.fold word.toList = word.toList →
        String.ofList (Statement.leadingName line.text).fold = word := by
    intro word hname hfold
    rw [hname, hfold, String.ofList_toList]
  rcases parts_cons_iff.mp hparts with ⟨hform | hform | hform, hrest⟩ | ⟨hheader, hrest⟩ |
    ⟨hheader, hrest⟩ | ⟨hheader, hrest⟩ | ⟨hheader, hrest⟩
  · have hname := hword "import" (Statement.leadingName_of_matches (by decide) (by decide)
      ((Pattern.accepts_iff _ _).mp hform)) (by decide)
    simp only [readTopLevel, hname]
    exact ⟨unlessForm_eq_nil_iff.mpr hform, hrest⟩
  · have hname := hword "global" (Statement.leadingName_of_matches (by decide) (by decide)
      ((Pattern.accepts_iff _ _).mp hform)) (by decide)
    simp only [readTopLevel, hname]
    exact ⟨unlessForm_eq_nil_iff.mpr hform, hrest⟩
  · have hname := hword "dialect" (Statement.leadingName_of_matches (by decide) (by decide)
      ((Pattern.accepts_iff _ _).mp hform)) (by decide)
    simp only [readTopLevel, hname]
    exact ⟨unlessForm_eq_nil_iff.mpr hform, hrest⟩
  · have hname := hword "rule" (Statement.leadingName_of_opens hheader.opens) (by decide)
    simp only [readTopLevel, hname]
    refine ⟨unlessForm_eq_nil_iff.mpr hheader.form, ?_⟩
    simpa [Follows, clausesLeft] using hrest
  · have hname := hword "query" (Statement.leadingName_of_opens hheader.opens) (by decide)
    simp only [readTopLevel, hname]
    exact ⟨unlessForm_eq_nil_iff.mpr hheader.form, hrest⟩
  · have hname := hword "declare" (Statement.leadingName_of_opens
      (Statement.opens_of_declareForm hheader)) (by decide)
    simp only [readTopLevel, hname]
    exact ⟨unlessForm_eq_nil_iff.mpr hheader, hrest⟩
  · have hname := hword "function" (Statement.leadingName_of_opens
      (Statement.opens_of_functionForm hheader)) (by decide)
    rw [functionRest_cons (by simp [closed_nil_iff])] at hrest
    simp only [readTopLevel, hname]
    exact ⟨unlessForm_eq_nil_iff.mpr hheader, follows_countBraces.mpr hrest⟩

/-! ### Inside a block -/

theorem opener?_of_fold_eq_endKey {line : Text} (hend : line.fold = endKey) :
    opener? line.fold = none := by
  rw [hend]
  rfl

/-- A line that opens a block may not stand inside another one. -/
theorem not_follows_of_opener? {block : Block} (hblock : block.keyword ≠ .function) {line : Text}
    {next : Keyword} (hopener : opener? line.fold = some next) (lines : List Text) :
    ¬Follows (some block) (line :: lines) := by
  have hend : line.fold ≠ endKey := by
    intro hend
    rw [opener?_of_fold_eq_endKey hend] at hopener
    simp at hopener
  cases block with
  | function heading depth opened => exact absurd rfl hblock
  | _ =>
    intro h
    exact absurd ((endedBy_cons hend).mp h).1.notOpener (by simp [hopener])

theorem follows_cons_of_rule {heading : Heading} {hasWhen hasThen : Bool} {line : CodeLine}
    {lines : List Text} (hopener : opener? line.text.fold = none) :
    Follows (some (.rule heading hasWhen hasThen)) (line.text :: lines) ↔
      (readInside (.rule heading hasWhen hasThen) line).2 = [] ∧
        Follows (readInside (.rule heading hasWhen hasThen) line).1 lines := by
  by_cases hend : line.text.fold = endKey
  · rw [Follows, endedBy_cons_of_end (fun _ hinner => hinner.notEnd) hend]
    cases hasWhen <;> cases hasThen <;> simp [readInside, hend, clauseWords, clausesLeft, Follows]
  · rw [Follows, endedBy_cons hend, and_iff_right ⟨hend, hopener⟩]
    have hne : whenKey ≠ endKey ∧ thenKey ≠ endKey ∧ whenKey ≠ thenKey ∧ thenKey ≠ whenKey := by
      decide
    -- Which clause words may still come is read off the two flags, so each pair of them is a case.
    by_cases hwhen : line.text.fold = whenKey
    · cases hasWhen <;> cases hasThen <;>
        simp [readInside, hne, readRuleLine, hwhen, clauseWords, clausesLeft, Follows]
    · by_cases hthen : line.text.fold = thenKey
      · cases hasWhen <;> cases hasThen <;>
          simp [readInside, hne, readRuleLine, hthen, clauseWords, clausesLeft, Follows]
      · simp [readInside, hend, readRuleLine, hwhen, hthen, clauseWords, Follows]

theorem follows_cons_of_query {heading : Heading} {line : CodeLine} {lines : List Text}
    (hopener : opener? line.text.fold = none) :
    Follows (some (.query heading)) (line.text :: lines) ↔
      (readInside (.query heading) line).2 = [] ∧
        Follows (readInside (.query heading) line).1 lines := by
  by_cases hend : line.text.fold = endKey
  · rw [Follows, endedBy_cons_of_end (fun _ hinner => hinner.notEnd) hend]
    simp [readInside, hend, Follows]
  · rw [Follows, endedBy_cons hend, and_iff_right ⟨hend, hopener⟩]
    simp [readInside, hend, Follows]

theorem follows_cons_of_declare {heading : Heading} {line : CodeLine} {lines : List Text}
    (hopener : opener? line.text.fold = none) :
    Follows (some (.declare heading)) (line.text :: lines) ↔
      (readInside (.declare heading) line).2 = [] ∧
        Follows (readInside (.declare heading) line).1 lines := by
  by_cases hend : line.text.fold = endKey
  · rw [Follows, endedBy_cons_of_end (fun _ hentry => hentry.notEnd) hend]
    simp [readInside, hend, Follows]
  · rw [Follows, endedBy_cons hend]
    have hentry : Entry line.text ↔ (readInside (.declare heading) line).2 = [] := by
      simp only [readInside, if_neg hend]
      refine ⟨fun h => if_pos (by simpa using h.form), fun hquiet => ⟨hopener, ?_⟩⟩
      by_contra hform
      rw [if_neg (by simpa using hform)] at hquiet
      simp at hquiet
    rw [hentry]
    simp [readInside, hend, Follows]

/-! ### The next line -/

theorem follows_cons_of_block {block : Block} (hblock : block.keyword ≠ .function) {line : CodeLine}
    {lines : List Text} (hopener : opener? line.text.fold = none) :
    Follows (some block) (line.text :: lines) ↔
      (readInside block line).2 = [] ∧ Follows (readInside block line).1 lines := by
  cases block with
  | rule heading hasWhen hasThen => exact follows_cons_of_rule hopener
  | query heading => exact follows_cons_of_query hopener
  | declare heading => exact follows_cons_of_declare hopener
  | function heading depth opened => exact absurd rfl hblock

/-- **The outline is the derivative of the grammar.** A line may follow, and lines behind it,
exactly when it is read without diagnostics and the lines may follow what is then open. -/
theorem follows_cons {block : Option Block} (hopen : Unclosed block) {line : CodeLine}
    (htext : line.text ≠ []) (lines : List Text) :
    Follows block (line.text :: lines) ↔
      ((⟨block, true⟩ : Outline).step line).2 = [] ∧
        Follows ((⟨block, true⟩ : Outline).step line).1.block lines := by
  rcases block with _ | block
  · simp only [step, if_neg htext]
    exact ⟨readTopLevel_of_parts, fun h => parts_of_readTopLevel h.1 h.2⟩
  · by_cases hblock : block.keyword = .function
    · cases block with
      | function heading depth opened =>
        simp only [step, if_neg htext]
        rw [follows_countBraces, true_and]
        exact functionRest_cons (hopen heading depth opened rfl)
      | _ => cases hblock
    · rw [step_of_block hblock htext]
      cases hopener : opener? line.text.fold with
      | some next => simp [not_follows_of_opener? hblock hopener]
      | none => exact follows_cons_of_block hblock hopener

/-! ### Whole documents -/

theorem unclosed_of_reads {line : CodeLine} {block after : Option Block}
    (hreads : Reads line block after) (hopen : Unclosed block) : Unclosed after := by
  cases hreads with
  | blank => exact hopen
  | functionHeader => exact unclosed_countBraces
  | functionLine => exact unclosed_countBraces
  | _ => simp [Unclosed]

theorem atEnd_eq_nil_iff {block : Option Block} (hopen : Unclosed block) {started : Bool} :
    (⟨block, started⟩ : Outline).atEnd = [] ↔ Follows block [] := by
  rcases block with _ | ⟨heading, hasWhen, hasThen⟩ | heading | heading | ⟨heading, depth, opened⟩
  · simpa [atEnd, Follows] using Parts.nil
  · simpa [atEnd, Follows] using not_endedBy_nil
  · simpa [atEnd, Follows] using not_endedBy_nil
  · simpa [atEnd, Follows] using not_endedBy_nil
  · rw [Follows, functionRest_nil (hopen heading depth opened rfl)]
    cases opened <;> simp [atEnd]

theorem diagnose_eq_nil_iff_follows {block : Option Block} (hopen : Unclosed block)
    (lines : List CodeLine) :
    (⟨block, true⟩ : Outline).diagnose lines = [] ↔ Follows block (texts lines) := by
  induction lines generalizing block with
  | nil => exact atEnd_eq_nil_iff hopen
  | cons line rest ih =>
    by_cases htext : line.text = []
    · rw [texts_cons_of_eq_nil htext, diagnose, step_of_eq_nil htext, List.nil_append, ih hopen]
    · rw [texts_cons_of_ne_nil htext, follows_cons hopen htext, diagnose, List.append_eq_nil_iff]
      refine and_congr_right fun hquiet => ?_
      obtain ⟨after, hafter⟩ : ∃ after, ((⟨block, true⟩ : Outline).step line).1 = ⟨after, true⟩ :=
        ⟨_, congrArg (Outline.mk _) (started_of_step rfl)⟩
      have hreads := reads_of_step hquiet
      rw [hafter] at hreads ⊢
      exact ih (unclosed_of_reads hreads hopen)

/-! The first statement is the one place where the outline reads a package header. -/

theorem step_start_of_package {line : CodeLine} (htext : line.text ≠ [])
    (hword : (Statement.leadingName line.text).fold = "package".toList) :
    start.step line =
      (⟨none, true⟩, unlessForm Statement.packageForm line (.malformed .package line.raw)) := by
  simp [step, htext, start, readTopLevel, hword]

theorem step_start_of_ne_package {line : CodeLine}
    (hword : (Statement.leadingName line.text).fold ≠ "package".toList) (htext : line.text ≠ []) :
    start.step line = (⟨none, true⟩ : Outline).step line := by
  have hread : readTopLevel false line = readTopLevel true line := readTopLevel_of_ne_package hword
  simp only [step, if_neg htext, start, hread]

theorem not_parts_of_package {line : CodeLine} {lines : List Text}
    (hword : (Statement.leadingName line.text).fold = "package".toList) :
    ¬Parts (line.text :: lines) := by
  intro hparts
  have hquiet := (readTopLevel_of_parts hparts).1
  simp [readTopLevel, hword] at hquiet

theorem fold_leadingName_of_packageForm {line : Text}
    (hform : Statement.packageForm.accepts line = true) :
    (Statement.leadingName line).fold = "package".toList :=
  congrArg Text.fold (Statement.leadingName_of_matches (by decide) (by decide)
    ((Pattern.accepts_iff _ _).mp hform))

/-- **The outline accepts exactly the grammar of blocks.** It reports nothing on some lines if and
only if those that are not blank form a document. -/
theorem diagnose_start_eq_nil_iff (lines : List CodeLine) :
    start.diagnose lines = [] ↔ Document (texts lines) := by
  have hunclosed : Unclosed none := by simp [Unclosed]
  induction lines with
  | nil => simpa [diagnose, start, atEnd, texts] using Document.parts .nil
  | cons line rest ih =>
    by_cases htext : line.text = []
    · rw [texts_cons_of_eq_nil htext, diagnose, step_of_eq_nil htext, List.nil_append]
      exact ih
    · rw [texts_cons_of_ne_nil htext, diagnose, List.append_eq_nil_iff, document_cons_iff]
      by_cases hword : (Statement.leadingName line.text).fold = "package".toList
      · rw [step_start_of_package htext hword, or_iff_left (not_parts_of_package hword)]
        exact and_congr unlessForm_eq_nil_iff (diagnose_eq_nil_iff_follows hunclosed rest)
      · have hparts := diagnose_eq_nil_iff_follows hunclosed (line :: rest)
        rw [texts_cons_of_ne_nil htext, diagnose, List.append_eq_nil_iff] at hparts
        rw [step_start_of_ne_package hword htext,
          or_iff_right fun h => hword (fold_leadingName_of_packageForm h.1)]
        exact hparts

end Outline
end Culprit
