import Culprit.Proofs.Rules.Nesting
import Culprit.Proofs.Rules.Outline

/-!
# The grammar of blocks

The outline reads a document line by line and goes on behind whatever it reports. The documents on
which it reports nothing have a grammar of their own: statements and blocks one after the other, a
package header before them, each block with the lines that its kind asks for. A function is the one
kind of block that its own lines do not delimit: it ends with the line that closes its braces, and
the outline also lets it run to the end of the document once a brace has been opened.

The outline is the derivative of the grammar. What may follow while a block is open is again
described by the grammar, and reading a line leads from what may follow before it to what may follow
behind it.
-/

namespace Culprit

namespace Grammar

/-- A line inside a block: it neither ends the block nor opens another one. -/
structure Inner (line : Text) : Prop where
  notEnd : line.fold ≠ endKey
  notOpener : Outline.opener? line.fold = none

/-- A line inside the block of a declared type. -/
structure Entry (line : Text) : Prop where
  notOpener : Outline.opener? line.fold = none
  form : Statement.fieldForm.accepts line = true ∨ Statement.annotation.accepts line = true

/-- The clause words among some lines, each on a line of its own. -/
def clauseWords (lines : List Text) : List Text :=
  (lines.map Text.fold).filter fun key => key = whenKey ∨ key = thenKey

/-- With the given number of braces open before them, and perhaps one opened, the lines open a brace
and close all of them. -/
def Closed (depth : Int) (opened : Bool) (lines : List Text) : Prop :=
  (opened = true ∨ '{' ∈ lines.flatten) ∧ depth + Text.braceBalance lines.flatten ≤ 0

/-- The lines of a function up to the first that closes it. -/
structure ClosesAtLast (depth : Int) (opened : Bool) (lines : List Text) : Prop where
  closed : Closed depth opened lines
  first : ∀ front, front <+: lines → front ≠ lines → ¬Closed depth opened front

/-- The lines of a function that has a body but does not end. -/
structure StaysOpen (depth : Int) (opened : Bool) (lines : List Text) : Prop where
  opens : opened = true ∨ '{' ∈ lines.flatten
  never : ∀ front, front <+: lines → ¬Closed depth opened front

/-- A statement other than the package header. -/
def IsStatement (line : Text) : Prop :=
  Statement.importForm.accepts line = true ∨ Statement.globalForm.accepts line = true ∨
    Statement.dialectForm.accepts line = true

/-- The header of a rule or a query. -/
structure Names (keyword : Keyword) (line : Text) : Prop where
  word : keyword.spelling.toList <+: line
  form : Statement.namedBlockForm.accepts line = true

/-- Statements and blocks one after the other. -/
inductive Parts : List Text → Prop
  | nil : Parts []
  | statement {line : Text} {rest : List Text} (hline : IsStatement line) (hrest : Parts rest) :
      Parts (line :: rest)
  | rule {header ending : Text} {body rest : List Text} (hheader : Names .rule header)
      (hbody : ∀ line ∈ body, Inner line)
      (hclauses : clauseWords body = [thenKey] ∨ clauseWords body = [whenKey, thenKey])
      (hending : ending.fold = endKey) (hrest : Parts rest) :
      Parts (header :: (body ++ ending :: rest))
  | query {header ending : Text} {body rest : List Text} (hheader : Names .query header)
      (hbody : ∀ line ∈ body, Inner line) (hending : ending.fold = endKey) (hrest : Parts rest) :
      Parts (header :: (body ++ ending :: rest))
  | declare {header ending : Text} {body rest : List Text}
      (hheader : Statement.declareForm.accepts header = true) (hbody : ∀ line ∈ body, Entry line)
      (hending : ending.fold = endKey) (hrest : Parts rest) :
      Parts (header :: (body ++ ending :: rest))
  | function {header : Text} {body rest : List Text}
      (hheader : Statement.functionForm.accepts header = true)
      (hbody : ClosesAtLast 0 false (header :: body)) (hrest : Parts rest) :
      Parts (header :: (body ++ rest))
  /-- Only the last block can be a function that does not end. -/
  | openFunction {header : Text} {body : List Text}
      (hheader : Statement.functionForm.accepts header = true)
      (hbody : StaysOpen 0 false (header :: body)) : Parts (header :: body)

/-- A whole document: statements and blocks, perhaps behind a package header. -/
inductive Document : List Text → Prop
  | package {line : Text} {rest : List Text} (hline : Statement.packageForm.accepts line = true)
      (hrest : Parts rest) : Document (line :: rest)
  | parts {lines : List Text} (hlines : Parts lines) : Document lines

/-- An entry has a colon or an at sign in it, so it is not the word for the end. -/
theorem Entry.notEnd {line : Text} (h : Entry line) : line.fold ≠ endKey := by
  have hkey : ∀ c ∈ line, smallLetter c ∈ line.fold := fun c hc => List.mem_map_of_mem hc
  intro hend
  rw [hend] at hkey
  rcases h.form with hfield | hannotation
  · obtain ⟨name, back, rfl, -, gap, back, rfl, -, colon, back, rfl, ⟨c, hc, rfl⟩, -⟩ :=
      (Pattern.accepts_iff _ _).mp hfield
    obtain rfl : c = ':' := by simpa [CharClass.holds] using hc
    exact absurd (hkey ':' (by simp)) (by decide)
  · obtain ⟨sign, back, rfl, ⟨c, hc, rfl⟩, -⟩ := (Pattern.accepts_iff _ _).mp hannotation
    obtain rfl : c = '@' := by simpa [CharClass.holds] using hc
    exact absurd (hkey '@' (by simp)) (by decide)

/-! ### Lines up to the end of a block -/

/-- Lines of which those before the first `end` are the body of a block, parts behind it. -/
def EndedBy (Line : Text → Prop) (Body : List Text → Prop) (lines : List Text) : Prop :=
  ∃ body ending rest, lines = body ++ ending :: rest ∧ (∀ line ∈ body, Line line) ∧ Body body ∧
    ending.fold = endKey ∧ Parts rest

section EndedBy

variable {Line : Text → Prop} {Body : List Text → Prop} {line : Text} {lines : List Text}

theorem not_endedBy_nil : ¬EndedBy Line Body [] := by
  rintro ⟨body, ending, rest, happend, -⟩
  simp at happend

@[simp] theorem not_endedBy_false : ¬EndedBy Line (fun _ => False) lines := by
  rintro ⟨body, ending, rest, -, -, hfalse, -⟩
  exact hfalse

theorem endedBy_cons_of_end (hline : ∀ line, Line line → line.fold ≠ endKey)
    (hend : line.fold = endKey) : EndedBy Line Body (line :: lines) ↔ Body [] ∧ Parts lines := by
  constructor
  · rintro ⟨body, ending, rest, happend, hbody, hclauses, hending, hrest⟩
    rcases List.cons_eq_append_iff.mp happend with ⟨rfl, hsame⟩ | ⟨body, rfl, rfl⟩
    · obtain ⟨rfl, rfl⟩ := List.cons.inj hsame
      exact ⟨hclauses, hrest⟩
    · exact absurd hend (hline _ (hbody _ List.mem_cons_self))
  · rintro ⟨hclauses, hrest⟩
    exact ⟨[], line, lines, rfl, by simp, hclauses, hend, hrest⟩

theorem endedBy_cons (hend : line.fold ≠ endKey) :
    EndedBy Line Body (line :: lines) ↔
      Line line ∧ EndedBy Line (fun body => Body (line :: body)) lines := by
  constructor
  · rintro ⟨body, ending, rest, happend, hbody, hclauses, hending, hrest⟩
    rcases List.cons_eq_append_iff.mp happend with ⟨rfl, hsame⟩ | ⟨body, rfl, rfl⟩
    · obtain ⟨rfl, rfl⟩ := List.cons.inj hsame
      exact absurd hending hend
    · rw [List.forall_mem_cons] at hbody
      exact ⟨hbody.1, body, ending, rest, rfl, hbody.2, hclauses, hending, hrest⟩
  · rintro ⟨hline, body, ending, rest, rfl, hbody, hclauses, hending, hrest⟩
    exact ⟨line :: body, ending, rest, rfl, List.forall_mem_cons.mpr ⟨hline, hbody⟩, hclauses,
      hending, hrest⟩

end EndedBy

/-! ### Lines of a function -/

/-- The rest of a function, and what follows it. -/
def FunctionRest (depth : Int) (opened : Bool) (lines : List Text) : Prop :=
  (∃ body rest, lines = body ++ rest ∧ ClosesAtLast depth opened body ∧ Parts rest) ∨
    StaysOpen depth opened lines

section FunctionRest

variable {depth : Int} {opened : Bool} {line : Text} {lines : List Text}

theorem closed_cons :
    Closed depth opened (line :: lines) ↔
      Closed (depth + line.braceBalance) (opened || line.contains '{') lines := by
  simp [Closed, Int.add_assoc, or_assoc]

theorem closesAtLast_cons (hopen : ¬Closed depth opened []) :
    ClosesAtLast depth opened (line :: lines) ↔
      ClosesAtLast (depth + line.braceBalance) (opened || line.contains '{') lines := by
  constructor
  · rintro ⟨hclosed, hfirst⟩
    refine ⟨closed_cons.mp hclosed, fun front hfront hne => ?_⟩
    rw [← closed_cons]
    exact hfirst _ (List.cons_prefix_cons.mpr ⟨rfl, hfront⟩) (by simpa using hne)
  · rintro ⟨hclosed, hfirst⟩
    refine ⟨closed_cons.mpr hclosed, fun front hfront hne => ?_⟩
    rcases List.prefix_cons_iff.mp hfront with rfl | ⟨front, rfl, hmore⟩
    · exact hopen
    · rw [closed_cons]
      exact hfirst front hmore (by simpa using hne)

theorem staysOpen_cons (hopen : ¬Closed depth opened []) :
    StaysOpen depth opened (line :: lines) ↔
      StaysOpen (depth + line.braceBalance) (opened || line.contains '{') lines := by
  constructor
  · rintro ⟨hopens, hnever⟩
    refine ⟨by simpa [or_assoc] using hopens, fun front hfront => ?_⟩
    rw [← closed_cons]
    exact hnever _ (List.cons_prefix_cons.mpr ⟨rfl, hfront⟩)
  · rintro ⟨hopens, hnever⟩
    refine ⟨by simpa [or_assoc] using hopens, fun front hfront => ?_⟩
    rcases List.prefix_cons_iff.mp hfront with rfl | ⟨front, rfl, hmore⟩
    · exact hopen
    · rw [closed_cons]
      exact hnever front hmore

theorem functionRest_cons (hopen : ¬Closed depth opened []) :
    FunctionRest depth opened (line :: lines) ↔
      FunctionRest (depth + line.braceBalance) (opened || line.contains '{') lines := by
  refine or_congr ⟨?_, ?_⟩ (staysOpen_cons hopen)
  · rintro ⟨body, rest, happend, hbody, hrest⟩
    rcases List.cons_eq_append_iff.mp happend with ⟨rfl, -⟩ | ⟨body, rfl, rfl⟩
    · exact absurd hbody.closed hopen
    · exact ⟨body, rest, rfl, (closesAtLast_cons hopen).mp hbody, hrest⟩
  · rintro ⟨body, rest, rfl, hbody, hrest⟩
    exact ⟨line :: body, rest, rfl, (closesAtLast_cons hopen).mpr hbody, hrest⟩

theorem functionRest_nil (hopen : ¬Closed depth opened []) :
    FunctionRest depth opened [] ↔ opened = true := by
  constructor
  · rintro (⟨body, rest, happend, hbody, -⟩ | hstays)
    · obtain ⟨rfl, -⟩ := List.append_eq_nil_iff.mp happend.symm
      exact absurd hbody.closed hopen
    · simpa using hstays.opens
  · intro hopened
    refine .inr ⟨.inl hopened, fun front hfront => ?_⟩
    rwa [List.prefix_nil.mp hfront]

theorem functionRest_of_closed (hclosed : Closed depth opened []) :
    FunctionRest depth opened lines ↔ Parts lines := by
  constructor
  · rintro (⟨body, rest, rfl, hbody, hrest⟩ | hstays)
    · obtain rfl : [] = body := by
        by_contra hne
        exact hbody.first [] List.nil_prefix hne hclosed
      exact hrest
    · exact absurd hclosed (hstays.never [] List.nil_prefix)
  · intro hlines
    refine .inl ⟨[], lines, rfl, ⟨hclosed, fun front hfront hne => ?_⟩, hlines⟩
    exact absurd (List.prefix_nil.mp hfront) hne

end FunctionRest

/-- The first line of parts decides what they start with. -/
theorem parts_cons_iff {line : Text} {lines : List Text} :
    Parts (line :: lines) ↔
      IsStatement line ∧ Parts lines ∨
      Names .rule line ∧ EndedBy Inner (fun body => clauseWords body = [thenKey] ∨
        clauseWords body = [whenKey, thenKey]) lines ∨
      Names .query line ∧ EndedBy Inner (fun _ => True) lines ∨
      Statement.declareForm.accepts line = true ∧ EndedBy Entry (fun _ => True) lines ∨
      Statement.functionForm.accepts line = true ∧ FunctionRest 0 false (line :: lines) := by
  constructor
  · rintro (_ | ⟨hline, hrest⟩ | ⟨hheader, hbody, hclauses, hending, hrest⟩ |
      ⟨hheader, hbody, hending, hrest⟩ | ⟨hheader, hbody, hending, hrest⟩ |
      ⟨hheader, hbody, hrest⟩ | ⟨hheader, hbody⟩)
    · exact .inl ⟨hline, hrest⟩
    · exact .inr (.inl ⟨hheader, _, _, _, rfl, hbody, hclauses, hending, hrest⟩)
    · exact .inr (.inr (.inl ⟨hheader, _, _, _, rfl, hbody, trivial, hending, hrest⟩))
    · exact .inr (.inr (.inr (.inl ⟨hheader, _, _, _, rfl, hbody, trivial, hending, hrest⟩)))
    · exact .inr (.inr (.inr (.inr ⟨hheader, .inl ⟨_, _, rfl, hbody, hrest⟩⟩)))
    · exact .inr (.inr (.inr (.inr ⟨hheader, .inr hbody⟩)))
  · rintro (⟨hline, hrest⟩ | ⟨hheader, body, ending, rest, rfl, hbody, hclauses, hending, hrest⟩ |
      ⟨hheader, body, ending, rest, rfl, hbody, -, hending, hrest⟩ |
      ⟨hheader, body, ending, rest, rfl, hbody, -, hending, hrest⟩ |
      ⟨hheader, ⟨body, rest, happend, hbody, hrest⟩ | hstays⟩)
    · exact .statement hline hrest
    · exact .rule hheader hbody hclauses hending hrest
    · exact .query hheader hbody hending hrest
    · exact .declare hheader hbody hending hrest
    · rcases List.cons_eq_append_iff.mp happend with ⟨rfl, -⟩ | ⟨body, rfl, rfl⟩
      · exact absurd hbody.closed (by simp [Closed])
      · exact .function hheader hbody hrest
    · exact .openFunction hheader hstays

theorem document_cons_iff {line : Text} {lines : List Text} :
    Document (line :: lines) ↔
      Statement.packageForm.accepts line = true ∧ Parts lines ∨ Parts (line :: lines) := by
  constructor
  · rintro (⟨hline, hrest⟩ | hparts)
    · exact .inl ⟨hline, hrest⟩
    · exact .inr hparts
  · rintro (⟨hline, hrest⟩ | hparts)
    · exact .package hline hrest
    · exact .parts hparts

end Grammar
end Culprit
