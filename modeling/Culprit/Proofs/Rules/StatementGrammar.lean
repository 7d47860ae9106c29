import Culprit.Proofs.Pattern.Parts
import Culprit.Proofs.Rules.Outline

/-!
# The grammar of statements

The forms of statements are patterns, and a line can fit one in several ways: in `import static ;`
the second word is what is imported and no mark, and the last parenthesis of an annotation may be
taken from the annotations behind it. The grammar says of which parts a line is put together, and
nothing of how to find them. A form accepts exactly the lines that can be put together in at least
one way, and the outline reports the other lines of their kind.
-/

namespace Culprit

namespace Statement

open Text (MadeOf Perhaps Repeats)

/-! ### The parts of a statement -/

/-- An ASCII letter, the underscore or the dollar sign, then word characters and dollar signs. -/
def IsName (text : Text) : Prop :=
  ∃ first rest, text = first :: rest ∧ (first.isAlpha = true ∨ first = '_' ∨ first = '$') ∧
    ∀ c ∈ rest, Text.isWord c = true ∨ c = '$'

/-- Names joined by dots. -/
def IsQualifiedName (text : Text) : Prop :=
  ∃ names : List Text, names ≠ [] ∧ (∀ name ∈ names, IsName name) ∧
    text = ['.'].intercalate names

/-- A qualified name, perhaps with anything between angle brackets that does not close them, then
any number of array brackets. -/
def IsType : Text → Prop :=
  MadeOf [IsQualifiedName, Perhaps (MadeOf [(· = ['<']), ('>' ∉ ·), (· = ['>'])]),
    Repeats (· = "[]".toList)]

/-- An at sign and word characters, perhaps with anything between parentheses. -/
def IsAnnotation : Text → Prop :=
  MadeOf [(· = ['@']), fun word => word ≠ [] ∧ ∀ c ∈ word, Text.isWord c = true,
    Perhaps (MadeOf [(· = ['(']), fun _ => True, (· = [')'])])]

/-- Blank characters, perhaps none. -/
def IsBlank (text : Text) : Prop := ∀ c ∈ text, Text.isBlank c = true

/-- Blank characters, at least one. -/
def IsGap (text : Text) : Prop := text ≠ [] ∧ IsBlank text

/-- What may stand behind a statement. -/
def IsEnding : Text → Prop := MadeOf [IsBlank, Perhaps (· = [';'])]

/-! ### Statements -/

def IsPackage : Text → Prop := MadeOf [(· = "package".toList), IsGap, IsQualifiedName, IsEnding]

def IsImport : Text → Prop :=
  MadeOf [(· = "import".toList), IsGap,
    Perhaps (MadeOf [fun word => word = "static".toList ∨ word = "function".toList, IsGap]),
    IsQualifiedName, Perhaps (· = ".*".toList), IsEnding]

def IsGlobal : Text → Prop :=
  MadeOf [(· = "global".toList), IsGap, IsType, IsGap, IsName, IsEnding]

def IsDialect : Text → Prop :=
  MadeOf [(· = "dialect".toList), IsGap,
    fun literal => literal = "\"\"".toList ∨ literal = "''".toList, IsEnding]

/-- The header of a declared type. -/
def IsDeclaration : Text → Prop :=
  MadeOf [(· = "declare".toList), IsGap, IsQualifiedName,
    Perhaps (MadeOf [IsGap, (· = "extends".toList), IsGap, IsQualifiedName]),
    Repeats (MadeOf [IsGap, IsAnnotation])]

/-- The header of a function up to the parenthesis behind its name. -/
def IsSignature : Text → Prop :=
  MadeOf [(· = "function".toList), IsGap, IsType, IsGap, IsName, IsBlank, (· = ['('])]

/-- A field of a declared type. -/
def IsField : Text → Prop :=
  MadeOf [IsName, IsBlank, (· = [':']), IsBlank, IsType, Repeats (MadeOf [IsBlank, IsAnnotation]),
    IsEnding]

/-! ### The parts as patterns -/

open Pattern

theorem defines_optionalGap : optionalGap.Defines IsBlank := fun _ => matches_many_one

theorem defines_gap : gap.Defines IsGap := fun _ => matches_atLeastOnce_one

theorem defines_ending : ending.Defines IsEnding :=
  .seq defines_optionalGap (.optional (.only ';'))

theorem defines_name : name.Defines IsName := by
  intro text
  constructor
  · rintro ⟨_, rest, rfl, ⟨first, hfirst, rfl⟩, hrest⟩
    refine ⟨first, rest, rfl, ?_, fun c hc => ?_⟩
    · simpa [CharClass.holds, or_assoc] using hfirst
    · simpa [CharClass.holds] using matches_many_one.mp hrest c hc
  · rintro ⟨first, rest, rfl, hfirst, hrest⟩
    refine ⟨[first], rest, rfl, ⟨first, ?_, rfl⟩, matches_many_one.mpr fun c hc => ?_⟩
    · simpa [CharClass.holds, or_assoc] using hfirst
    · simpa [CharClass.holds] using hrest c hc

/-- Every name behind the first takes the dot before it along. -/
theorem defines_qualifiedName : qualifiedName.Defines IsQualifiedName := by
  intro text
  constructor
  · rintro ⟨first, _, rfl, hfirst, pieces, rfl, hpieces⟩
    induction pieces generalizing first with
    | nil => exact ⟨[first], by simp, by simpa using (defines_name first).mp hfirst, by simp⟩
    | cons piece pieces ih =>
      obtain ⟨⟨_, second, rfl, hdot, hsecond⟩, hrest⟩ := List.forall_mem_cons.mp hpieces
      obtain ⟨names, hne, hnames, heq⟩ := ih second hsecond hrest
      obtain rfl := matches_only.mp hdot
      refine ⟨first :: names, List.cons_ne_nil _ _,
        List.forall_mem_cons.mpr ⟨(defines_name first).mp hfirst, hnames⟩, ?_⟩
      rw [List.intercalate_cons_of_ne_nil hne, ← heq]
      simp
  · rintro ⟨names, hne, hnames, rfl⟩
    induction names with
    | nil => exact absurd rfl hne
    | cons first names ih =>
      obtain ⟨hfirst, hrest⟩ := List.forall_mem_cons.mp hnames
      rcases names with _ | ⟨second, names⟩
      · exact ⟨first, [], by simp, (defines_name first).mpr hfirst, [], rfl, by simp⟩
      · obtain ⟨front, _, heq, hfront, pieces, rfl, hpieces⟩ := ih (List.cons_ne_nil _ _) hrest
        refine ⟨first, _, ?_, (defines_name first).mpr hfirst, (['.'] ++ front) :: pieces, rfl,
          List.forall_mem_cons.mpr ⟨⟨['.'], front, rfl, matches_only.mpr rfl, hfront⟩, hpieces⟩⟩
        rw [List.intercalate_cons_cons, heq]
        simp

theorem defines_type : type.Defines IsType := by
  have hinside : (many (one (.allBut '>'))).Defines ('>' ∉ ·) := by
    intro text
    rw [matches_many_one]
    constructor
    · intro hall hmem
      simpa [CharClass.holds] using hall '>' hmem
    · intro hnot c hc
      simpa [CharClass.holds] using ne_of_mem_of_not_mem hc hnot
  have harguments := Defines.inOrder (.cons (.only '<') (.cons hinside (.cons (.only '>') .nil)))
  exact .inOrder (.cons defines_qualifiedName (.cons harguments.optional
    (.cons (.many (.literal _)) .nil)))

theorem defines_annotation : annotation.Defines IsAnnotation := by
  have hvalues := Defines.inOrder (.cons (.only '(') (.cons .anything (.cons (.only ')') .nil)))
  exact .inOrder (.cons (.only '@') (.cons (fun _ => matches_atLeastOnce_one)
    (.cons hvalues.optional .nil)))

/-! ### Forms -/

theorem defines_packageForm : packageForm.Defines IsPackage :=
  .inOrder (.cons (.literal _) (.cons defines_gap (.cons defines_qualifiedName
    (.cons defines_ending .nil))))

theorem defines_importForm : importForm.Defines IsImport := by
  have hmark := Defines.seq (.either (.literal "static".toList) (.literal "function".toList))
    defines_gap
  exact .inOrder (.cons (.literal _) (.cons defines_gap (.cons hmark.optional
    (.cons defines_qualifiedName (.cons (.optional (.literal _)) (.cons defines_ending .nil))))))

theorem defines_globalForm : globalForm.Defines IsGlobal :=
  .inOrder (.cons (.literal _) (.cons defines_gap (.cons defines_type (.cons defines_gap
    (.cons defines_name (.cons defines_ending .nil))))))

theorem defines_dialectForm : dialectForm.Defines IsDialect :=
  .inOrder (.cons (.literal _) (.cons defines_gap
    (.cons (.either (.literal _) (.literal _)) (.cons defines_ending .nil))))

theorem defines_declareForm : declareForm.Defines IsDeclaration := by
  have hextension := Defines.inOrder (.cons defines_gap (.cons (.literal "extends".toList)
    (.cons defines_gap (.cons defines_qualifiedName .nil))))
  exact .inOrder (.cons (.literal _) (.cons defines_gap (.cons defines_qualifiedName
    (.cons hextension.optional (.cons (.many (.seq defines_gap defines_annotation)) .nil)))))

theorem defines_fieldForm : fieldForm.Defines IsField :=
  .inOrder (.cons defines_name (.cons defines_optionalGap (.cons (.only ':')
    (.cons defines_optionalGap (.cons defines_type
      (.cons (.many (.seq defines_optionalGap defines_annotation)) (.cons defines_ending .nil)))))))

/-- The form of a function header asks nothing of what stands behind the parenthesis. -/
theorem defines_functionForm :
    functionForm.Defines fun text => ∃ head, head <+: text ∧ IsSignature head := by
  have hform : functionForm.Defines (MadeOf ([(· = "function".toList), IsGap, IsType, IsGap, IsName,
      IsBlank, (· = ['('])] ++ [fun _ => True])) :=
    .inOrder (.cons (.literal _) (.cons defines_gap (.cons defines_type (.cons defines_gap
      (.cons defines_name (.cons defines_optionalGap (.cons (.only '(') (.cons .anything .nil))))))))
  exact fun text => (hform text).trans Text.madeOf_concat_true

end Statement

/-! ### What the outline reports -/

namespace StatementKind

/-- The word that asks for a statement of this kind, in letters of either case. -/
def word : StatementKind → String
  | .package => "package"
  | .importing => "import"
  | .global => "global"
  | .dialect => "dialect"
  | .declaration => "declare"
  | .functionSignature => "function"

def form : StatementKind → Pattern
  | .package => Statement.packageForm
  | .importing => Statement.importForm
  | .global => Statement.globalForm
  | .dialect => Statement.dialectForm
  | .declaration => Statement.declareForm
  | .functionSignature => Statement.functionForm

/-- The lines that have the form of a statement of this kind. -/
def Fits : StatementKind → Text → Prop
  | .package => Statement.IsPackage
  | .importing => Statement.IsImport
  | .global => Statement.IsGlobal
  | .dialect => Statement.IsDialect
  | .declaration => Statement.IsDeclaration
  | .functionSignature => fun text => ∃ head, head <+: text ∧ Statement.IsSignature head

theorem defines_form (kind : StatementKind) : kind.form.Defines kind.Fits := by
  cases kind
  · exact Statement.defines_packageForm
  · exact Statement.defines_importForm
  · exact Statement.defines_globalForm
  · exact Statement.defines_dialectForm
  · exact Statement.defines_declareForm
  · exact Statement.defines_functionForm

end StatementKind

namespace Outline

variable {line : CodeLine}

theorem readTopLevel_of_word {started : Bool} {kind : StatementKind}
    (hword : String.ofList (Statement.leadingName line.text).fold = kind.word) :
    (readTopLevel started line).2 =
      if kind = .package ∧ started = true then [.atLine line.number .misplacedPackage]
      else unlessForm kind.form line (.malformed kind line.raw) := by
  unfold readTopLevel
  rw [hword]
  cases kind <;> simp [StatementKind.word, StatementKind.form]

theorem problem_of_mem_unlessForm {form : Pattern} {problem found : Problem} {number : Nat}
    (h : .atLine number found ∈ unlessForm form line problem) : problem = found :=
  (congrArg Diagnostic.problem (mem_unlessForm_iff.mp h).1).symm

/-- A line is reported as malformed for the statement that its first word asks for only. -/
theorem word_of_mem_readTopLevel {started : Bool} {kind : StatementKind} {raw : Text} {number : Nat}
    (h : .atLine number (.malformed kind raw) ∈ (readTopLevel started line).2) :
    String.ofList (Statement.leadingName line.text).fold = kind.word := by
  unfold readTopLevel at h
  dsimp only at h
  split at h
  case h_1 hword =>
    split at h
    · simp [Diagnostic.atLine] at h
    · cases problem_of_mem_unlessForm h
      exact hword
  case h_9 =>
    have hproblem := congrArg Diagnostic.problem (List.mem_singleton.mp h)
    simp only [Diagnostic.atLine] at hproblem
    split at hproblem <;> cases hproblem
  all_goals cases problem_of_mem_unlessForm h
  all_goals assumption

/-- Outside of blocks, a line is reported as malformed exactly if its first word asks for a
statement that it does not have the form of. A package header behind another statement is reported
as misplaced instead, whatever its form. -/
theorem malformed_mem_readTopLevel_iff {started : Bool} {kind : StatementKind} :
    .atLine line.number (.malformed kind line.raw) ∈ (readTopLevel started line).2 ↔
      String.ofList (Statement.leadingName line.text).fold = kind.word ∧
        ¬(kind = .package ∧ started = true) ∧ ¬kind.Fits line.text := by
  rw [← kind.defines_form.accepts_iff]
  constructor
  · intro h
    have hword := word_of_mem_readTopLevel h
    rw [readTopLevel_of_word hword] at h
    split at h
    · simp [Diagnostic.atLine] at h
    · rename_i hplace
      exact ⟨hword, hplace, (mem_unlessForm_iff.mp h).2⟩
  · rintro ⟨hword, hplace, hform⟩
    rw [readTopLevel_of_word hword, if_neg hplace]
    exact mem_unlessForm_iff.mpr ⟨rfl, hform⟩

/-- In the block of a declared type, a line is reported exactly if it does not end the block and is
neither a field nor an annotation. -/
theorem invalidField_mem_readInside_iff {heading : Heading} :
    .atLine line.number (.invalidField line.raw heading.label) ∈
        (readInside (.declare heading) line).2 ↔
      line.text.fold ≠ endKey ∧ ¬Statement.IsField line.text ∧ ¬Statement.IsAnnotation line.text := by
  rw [← Statement.defines_fieldForm.accepts_iff, ← Statement.defines_annotation.accepts_iff]
  by_cases hend : line.text.fold = endKey
  · simp [readInside, hend]
  · by_cases hfield : Statement.fieldForm.accepts line.text = true <;>
      by_cases hannotation : Statement.annotation.accepts line.text = true <;>
      simp [readInside, hend, hfield, hannotation]

/-- **Statement forms.** The forms of package headers, imports, globals, declared types, their
fields, and function headers accept exactly the lines that the grammar puts together in at least one
way; of a function header this is some beginning of the line. A line that asks for a statement is
reported as malformed exactly if the grammar has no way to put it together, unless it is a package
header behind another statement, and a line of a declared type exactly if it neither ends the block
nor is a field or an annotation. -/
theorem accepts_iff_grammar (line : CodeLine) :
    (Statement.packageForm.accepts line.text = true ↔ Statement.IsPackage line.text) ∧
      (Statement.importForm.accepts line.text = true ↔ Statement.IsImport line.text) ∧
      (Statement.globalForm.accepts line.text = true ↔ Statement.IsGlobal line.text) ∧
      (Statement.declareForm.accepts line.text = true ↔ Statement.IsDeclaration line.text) ∧
      (Statement.fieldForm.accepts line.text = true ↔ Statement.IsField line.text) ∧
      (Statement.functionForm.accepts line.text = true ↔
        ∃ head, head <+: line.text ∧ Statement.IsSignature head) ∧
      (∀ (started : Bool) (kind : StatementKind),
        .atLine line.number (.malformed kind line.raw) ∈ (readTopLevel started line).2 ↔
          String.ofList (Statement.leadingName line.text).fold = kind.word ∧
            ¬(kind = .package ∧ started = true) ∧ ¬kind.Fits line.text) ∧
      ∀ heading : Heading,
        .atLine line.number (.invalidField line.raw heading.label) ∈
            (readInside (.declare heading) line).2 ↔
          line.text.fold ≠ endKey ∧ ¬Statement.IsField line.text ∧
            ¬Statement.IsAnnotation line.text :=
  ⟨Statement.defines_packageForm.accepts_iff _, Statement.defines_importForm.accepts_iff _,
    Statement.defines_globalForm.accepts_iff _, Statement.defines_declareForm.accepts_iff _,
    Statement.defines_fieldForm.accepts_iff _, Statement.defines_functionForm.accepts_iff _,
    fun _ _ => malformed_mem_readTopLevel_iff, fun _ => invalidField_mem_readInside_iff⟩

-- The mark of the import is read as what is imported, and the last parenthesis behind the first
-- annotation takes the second one in.
example : Statement.importForm.accepts "import static ;".toList = true ∧
    Statement.fieldForm.accepts "a: B<C, D>[] @key(1) + @key(2)".toList = true := by
  decide +kernel

end Outline
end Culprit
