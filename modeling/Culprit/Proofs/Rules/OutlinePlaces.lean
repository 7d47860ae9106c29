import Culprit.Proofs.Rules.Outline

/-!
# Where the outline reports

The outline reports on a line while it reads it, and at the end of the document on the header of the
block that is open. That header is a line it has read: a block keeps the heading it was opened with.
So whatever the outline reports stands at the beginning of a line that has code.
-/

namespace Culprit

/-- The problems that reading the outline of a document can find. -/
def Problem.OfOutline : Problem → Prop
  | .unterminatedString => False
  | .unterminatedComment => False
  | .unexpectedCloser _ => False
  | .unclosedOpener _ => False
  | _ => True

/-- Reported by the outline, on a line of this number. -/
def Diagnostic.OfLine (number : Nat) (found : Diagnostic) : Prop :=
  found.problem.OfOutline ∧ found.position = ⟨number, 1⟩

theorem Diagnostic.ofLine_of_mem_singleton {found : Diagnostic} {number : Nat} {problem : Problem}
    (hfound : found ∈ [atLine number problem]) (hproblem : problem.OfOutline) :
    found.OfLine number := by
  obtain rfl := List.mem_singleton.mp hfound
  exact ⟨hproblem, rfl⟩

namespace Outline

variable {found : Diagnostic} {line : CodeLine}

theorem ofLine_of_mem_unlessForm {form : Pattern} {problem : Problem}
    (hfound : found ∈ unlessForm form line problem) (hproblem : problem.OfOutline) :
    found.OfLine line.number := by
  obtain ⟨rfl, -⟩ := mem_unlessForm_iff.mp hfound
  exact ⟨hproblem, rfl⟩

theorem ofLine_of_mem_readTopLevel {started : Bool}
    (hfound : found ∈ (readTopLevel started line).2) : found.OfLine line.number := by
  unfold readTopLevel at hfound
  dsimp only at hfound
  split at hfound
  · split at hfound
    · exact Diagnostic.ofLine_of_mem_singleton hfound trivial
    · exact ofLine_of_mem_unlessForm hfound trivial
  case h_9 =>
    refine Diagnostic.ofLine_of_mem_singleton hfound ?_
    split <;> trivial
  all_goals exact ofLine_of_mem_unlessForm hfound trivial

theorem ofLine_of_mem_readRuleLine {heading : Heading} {hasWhen hasThen : Bool} {number : Nat}
    {key : Text} (hfound : found ∈ (readRuleLine heading hasWhen hasThen number key).2) :
    found.OfLine number := by
  unfold readRuleLine at hfound
  split at hfound
  · cases hasThen with
    | true => exact Diagnostic.ofLine_of_mem_singleton hfound trivial
    | false =>
      cases hasWhen with
      | true => exact Diagnostic.ofLine_of_mem_singleton hfound trivial
      | false => simp at hfound
  · split at hfound
    · cases hasThen with
      | true => exact Diagnostic.ofLine_of_mem_singleton hfound trivial
      | false => simp at hfound
    · simp at hfound

theorem ofLine_of_mem_readInside {block : Block} (hfound : found ∈ (readInside block line).2) :
    found.OfLine line.number := by
  cases block with
  | rule heading hasWhen hasThen =>
    by_cases hend : line.text.fold = endKey
    · cases hasThen with
      | true => simp [readInside, hend] at hfound
      | false =>
        simp only [readInside, if_pos hend] at hfound
        exact Diagnostic.ofLine_of_mem_singleton hfound trivial
    · simp only [readInside, if_neg hend] at hfound
      exact ofLine_of_mem_readRuleLine hfound
  | query heading => simp [readInside] at hfound
  | declare heading =>
    by_cases hend : line.text.fold = endKey
    · simp [readInside, hend] at hfound
    · simp only [readInside, if_neg hend] at hfound
      split at hfound
      · simp at hfound
      · exact Diagnostic.ofLine_of_mem_singleton hfound trivial
  | function heading depth opened => simp [readInside] at hfound

/-- A line gets diagnostics of the outline only, at its beginning, and only if it has code. -/
theorem ofLine_of_mem_step {outline : Outline} (hfound : found ∈ (outline.step line).2) :
    line.text ≠ [] ∧ found.OfLine line.number := by
  by_cases htext : line.text = []
  · simp [step_of_eq_nil htext] at hfound
  · refine ⟨htext, ?_⟩
    obtain ⟨block, started⟩ := outline
    rcases block with _ | block
    · simp only [step, if_neg htext] at hfound
      exact ofLine_of_mem_readTopLevel hfound
    · by_cases hblock : block.keyword = .function
      · cases block with
        | function heading depth opened => simp [step, htext] at hfound
        | _ => simp [Block.keyword] at hblock
      · rw [step_of_block hblock htext] at hfound
        split at hfound
        · rcases List.mem_cons.mp hfound with rfl | hrest
          · exact ⟨trivial, rfl⟩
          · exact ofLine_of_mem_readTopLevel hrest
        · exact ofLine_of_mem_readInside hfound

/-! ### The heading of the open block -/

theorem heading_of_countBraces {heading : Heading} {depth : Int} {opened : Bool} {text : Text}
    {block : Block} (hblock : countBraces heading depth opened text = some block) :
    block.heading = heading := by
  simp only [countBraces] at hblock
  split at hblock
  · simp at hblock
  · rw [← Option.some.inj hblock]
    rfl

theorem heading_of_readTopLevel {started : Bool} {block : Block}
    (hblock : (readTopLevel started line).1 = some block) : block.heading = .ofLine line := by
  unfold readTopLevel at hblock
  dsimp only at hblock
  split at hblock
  case h_8 => exact heading_of_countBraces hblock
  all_goals cases hblock
  all_goals rfl

theorem heading_of_readInside {before block : Block}
    (hblock : (readInside before line).1 = some block) : block.heading = before.heading := by
  cases before with
  | rule heading hasWhen hasThen =>
    by_cases hend : line.text.fold = endKey
    · simp [readInside, hend] at hblock
    · simp only [readInside, if_neg hend, readRuleLine] at hblock
      split at hblock
      · exact Option.some.inj hblock ▸ rfl
      · split at hblock <;> exact Option.some.inj hblock ▸ rfl
  | query heading =>
    simp only [readInside] at hblock
    split at hblock
    · cases hblock
    · exact Option.some.inj hblock ▸ rfl
  | declare heading =>
    by_cases hend : line.text.fold = endKey
    · simp [readInside, hend] at hblock
    · simp only [readInside, if_neg hend] at hblock
      exact Option.some.inj hblock ▸ rfl
  | function heading depth opened => exact heading_of_countBraces hblock

/-- Behind a line the open block has the heading that it had before, or the line is its header. -/
theorem heading_of_step {outline : Outline} {block : Block}
    (hblock : (outline.step line).1.block = some block) :
    (∃ before, outline.block = some before ∧ block.heading = before.heading) ∨
      line.text ≠ [] ∧ block.heading = .ofLine line := by
  by_cases htext : line.text = []
  · rw [step_of_eq_nil htext] at hblock
    exact .inl ⟨block, hblock, rfl⟩
  · obtain ⟨before, started⟩ := outline
    rcases before with _ | before
    · simp only [step, if_neg htext] at hblock
      exact .inr ⟨htext, heading_of_readTopLevel hblock⟩
    · by_cases hfunction : before.keyword = .function
      · cases before with
        | function heading depth opened =>
          simp only [step, if_neg htext] at hblock
          exact .inl ⟨_, rfl, heading_of_countBraces hblock⟩
        | _ => cases hfunction
      · rw [step_of_block hfunction htext] at hblock
        split at hblock
        · exact .inr ⟨htext, heading_of_readTopLevel hblock⟩
        · exact .inl ⟨before, rfl, heading_of_readInside hblock⟩

/-! ### Whole documents -/

theorem exists_ofLine_of_mem_atEnd {outline : Outline} (hfound : found ∈ outline.atEnd) :
    ∃ block, outline.block = some block ∧ found.OfLine block.heading.line := by
  unfold atEnd at hfound
  split at hfound
  · simp at hfound
  · rename_i heading depth opened hblock
    split at hfound
    · simp at hfound
    · exact ⟨_, hblock, Diagnostic.ofLine_of_mem_singleton hfound trivial⟩
  · exact ⟨_, by assumption, Diagnostic.ofLine_of_mem_singleton hfound trivial⟩

/-- The outline reports at the beginning of lines that have code, one of which may be the header of
the block that is open before. -/
theorem ofLine_of_mem_diagnose {outline : Outline} {lines : List CodeLine}
    (hfound : found ∈ outline.diagnose lines) :
    found.problem.OfOutline ∧ found.position.column = 1 ∧
      ((∃ block, outline.block = some block ∧ found.position.line = block.heading.line) ∨
        ∃ line ∈ lines, line.text ≠ [] ∧ found.position.line = line.number) := by
  induction lines generalizing outline with
  | nil =>
    obtain ⟨block, hblock, hproblem, hposition⟩ := exists_ofLine_of_mem_atEnd hfound
    exact ⟨hproblem, by rw [hposition], .inl ⟨block, hblock, by rw [hposition]⟩⟩
  | cons line rest ih =>
    rcases List.mem_append.mp hfound with hstep | hrest
    · obtain ⟨htext, hproblem, hposition⟩ := ofLine_of_mem_step hstep
      exact ⟨hproblem, by rw [hposition],
        .inr ⟨line, List.mem_cons_self, htext, by rw [hposition]⟩⟩
    · obtain ⟨hproblem, hcolumn, ⟨block, hblock, hline⟩ | ⟨later, hlater, htext, hline⟩⟩ := ih hrest
      · refine ⟨hproblem, hcolumn, ?_⟩
        rcases heading_of_step hblock with ⟨before, hbefore, hheading⟩ | ⟨htext, hheading⟩
        · exact .inl ⟨before, hbefore, by rw [hline, hheading]⟩
        · exact .inr ⟨line, List.mem_cons_self, htext, by rw [hline, hheading]; rfl⟩
      · exact ⟨hproblem, hcolumn, .inr ⟨later, List.mem_cons_of_mem _ hlater, htext, hline⟩⟩

end Outline
end Culprit
