import Culprit.Proofs.Rules.Outline
import Mathlib.Data.List.Forall2

/-!
# What a reading carries along

A reading of code lines remembers more of them than it looks at: the numbers of lines, the words
that a message may quote, and the places of brackets. Change these in the lines, and every reading
goes through the same states with the same change made in them, and reports the same problems with
the same change. One lemma says so for a step of the outline, and one for the nesting of brackets.
-/

namespace Culprit

/-- A change of what the outline carries along. A block is named by its header, so a change of words
has to agree with taking the name out of a header. -/
structure Recast where
  number : Nat → Nat
  wording : Text → Text
  labelOf_wording : ∀ header, Heading.labelOf (wording header) = wording (Heading.labelOf header)

def Problem.reworded (wording : Text → Text) : Problem → Problem
  | .functionWithoutBody label => .functionWithoutBody (wording label)
  | .missingEnd block label before => .missingEnd block (wording label) before
  | .ruleWithoutThen label => .ruleWithoutThen (wording label)
  | .invalidField line typeLabel => .invalidField (wording line) (wording typeLabel)
  | .malformed kind line => .malformed kind (wording line)
  | .unexpectedInput line => .unexpectedInput (wording line)
  | problem => problem

theorem Problem.reworded_id (problem : Problem) : problem.reworded id = problem := by
  cases problem <;> rfl

@[simp] theorem Problem.code_reworded (wording : Text → Text) (problem : Problem) :
    (problem.reworded wording).code = problem.code := by
  cases problem <;> rfl

namespace Recast

variable (recast : Recast)

def heading (heading : Heading) : Heading :=
  ⟨recast.wording heading.label, recast.number heading.line⟩

def block : Block → Block
  | .rule heading hasWhen hasThen => .rule (recast.heading heading) hasWhen hasThen
  | .query heading => .query (recast.heading heading)
  | .declare heading => .declare (recast.heading heading)
  | .function heading depth opened => .function (recast.heading heading) depth opened

def outline (outline : Outline) : Outline :=
  { outline with block := outline.block.map recast.block }

def diagnostic (diagnostic : Diagnostic) : Diagnostic :=
  ⟨diagnostic.problem.reworded recast.wording,
    { diagnostic.position with line := recast.number diagnostic.position.line }⟩

/-- The second line is the first one with the change made in it, and has the same code. -/
structure Relates (line line' : CodeLine) : Prop where
  number : line'.number = recast.number line.number
  raw : line'.raw = recast.wording line.raw
  text : line'.text = line.text

@[simp] theorem keyword_block (block : Block) : (recast.block block).keyword = block.keyword := by
  cases block <;> rfl

@[simp] theorem heading_block (block : Block) :
    (recast.block block).heading = recast.heading block.heading := by
  cases block <;> rfl

@[simp] theorem diagnostic_atLine (number : Nat) (problem : Problem) :
    recast.diagnostic (.atLine number problem) =
      .atLine (recast.number number) (problem.reworded recast.wording) := rfl

/-! ### The parts of a step -/

theorem countBraces (heading : Heading) (depth : Int) (opened : Bool) (text : Text) :
    Outline.countBraces (recast.heading heading) depth opened text =
      (Outline.countBraces heading depth opened text).map recast.block := by
  simp only [Outline.countBraces]
  split <;> rfl

theorem readRuleLine (heading : Heading) (hasWhen hasThen : Bool) (number : Nat) (key : Text) :
    Outline.readRuleLine (recast.heading heading) hasWhen hasThen (recast.number number) key =
      (Outline.readRuleLine heading hasWhen hasThen number key).map recast.block
        (List.map recast.diagnostic) := by
  unfold Outline.readRuleLine
  split
  · cases hasThen <;> cases hasWhen <;> rfl
  · split
    · cases hasThen <;> rfl
    · rfl

section

variable {recast} {line line' : CodeLine} (h : recast.Relates line line')

include h

theorem Relates.heading_ofLine : Heading.ofLine line' = recast.heading (Heading.ofLine line) := by
  rw [Heading.ofLine, h.raw, h.number, recast.labelOf_wording]
  rfl

theorem Relates.unlessForm (form : Pattern) {problem problem' : Problem}
    (hproblem : problem' = problem.reworded recast.wording) :
    Outline.unlessForm form line' problem' =
      (Outline.unlessForm form line problem).map recast.diagnostic := by
  by_cases hform : form.accepts line.text = true <;>
    simp [Outline.unlessForm, h.text, h.number, hform, hproblem]

theorem Relates.readTopLevel (started : Bool) :
    Outline.readTopLevel started line' =
      (Outline.readTopLevel started line).map (Option.map recast.block)
        (List.map recast.diagnostic) := by
  simp only [Outline.readTopLevel, h.text, h.raw, h.number, h.heading_ofLine, recast.countBraces]
  split
  · cases started
    · exact congrArg (Prod.mk _) (h.unlessForm _ rfl)
    · rfl
  case h_9 => split <;> rfl
  all_goals exact congrArg (Prod.mk _) (h.unlessForm _ rfl)

theorem Relates.readInside (block : Block) :
    Outline.readInside (recast.block block) line' =
      (Outline.readInside block line).map (Option.map recast.block)
        (List.map recast.diagnostic) := by
  cases block with
  | rule heading hasWhen hasThen =>
    by_cases hend : line.text.fold = endKey
    · cases hasThen <;> simp [Outline.readInside, Recast.block, h.text, h.number, hend,
        Problem.reworded, Recast.heading]
    · simp [Outline.readInside, Recast.block, h.text, h.number, hend, recast.readRuleLine]
  | query heading =>
    by_cases hend : line.text.fold = endKey <;>
      simp [Outline.readInside, Recast.block, h.text, hend]
  | declare heading =>
    by_cases hend : line.text.fold = endKey
    · simp [Outline.readInside, Recast.block, h.text, hend]
    · by_cases hform : (Statement.fieldForm.accepts line.text ||
          Statement.annotation.accepts line.text) = true <;>
        simp [Outline.readInside, Recast.block, h.text, h.number, h.raw, hend, hform,
          Problem.reworded, Recast.heading]
  | function heading depth opened =>
    simp [Outline.readInside, Recast.block, h.text, recast.countBraces]

/-- **One line with its change.** It is read like the line, from a state with the same change. -/
theorem Relates.step (outline : Outline) :
    (recast.outline outline).step line' =
      (outline.step line).map recast.outline (List.map recast.diagnostic) := by
  by_cases htext : line.text = []
  · simp [Outline.step, h.text, htext]
  · have htext' : line'.text ≠ [] := by rwa [h.text]
    obtain ⟨_ | block, started⟩ := outline
    · simp [Outline.step, htext, htext', Recast.outline, h.readTopLevel]
    · by_cases hblock : block.keyword = .function
      · cases block with
        | function heading depth opened =>
          simp [Outline.step, htext, h.text, Recast.outline, Recast.block, recast.countBraces]
        | _ => cases hblock
      · have houtline : recast.outline ⟨some block, started⟩ =
            ⟨some (recast.block block), started⟩ := rfl
        have hblock' : (recast.block block).keyword ≠ .function := by rwa [keyword_block]
        rw [houtline, Outline.step_of_block hblock' htext', Outline.step_of_block hblock htext,
          h.text, h.number]
        cases Outline.opener? line.text.fold with
        | some next =>
          simp [Recast.outline, h.readTopLevel, Problem.reworded, Recast.heading]
        | none => simp [Recast.outline, h.readInside]

end

/-! ### Runs -/

theorem atEnd (outline : Outline) :
    (recast.outline outline).atEnd = outline.atEnd.map recast.diagnostic := by
  obtain ⟨block, started⟩ := outline
  rcases block with _ | ⟨heading, hasWhen, hasThen⟩ | heading | heading | ⟨heading, depth, opened⟩
  case some.function => cases opened <;> rfl
  all_goals rfl

/-- **A document with its change.** The outline reports the same problems, with the same change. -/
theorem diagnose {lines lines' : List CodeLine} (h : List.Forall₂ recast.Relates lines lines')
    (outline : Outline) :
    (recast.outline outline).diagnose lines' = (outline.diagnose lines).map recast.diagnostic := by
  induction h generalizing outline with
  | nil => exact recast.atEnd outline
  | cons hline _ ih =>
    rw [Outline.diagnose, hline.step, Outline.diagnose, List.map_append]
    exact congrArg _ (ih _)

end Recast

/-! ### Places of brackets -/

def Located.moved {α : Type} (move : Position → Position) (located : Located α) : Located α :=
  { located with position := move located.position }

def Nesting.moved (move : Position → Position) : Nesting → Nesting
  | .broken closer => .broken (closer.moved move)
  | .pending openers => .pending (openers.map (Located.moved move))

theorem Nesting.read_moved (move : Position → Position) (openers : List (Located Bracket))
    (delimiters : List (Located Delimiter)) :
    read (openers.map (Located.moved move)) (delimiters.map (Located.moved move)) =
      (read openers delimiters).moved move := by
  fun_induction read openers delimiters with
  | case1 => rfl
  | case2 openers bracket position rest ih => exact ih
  | case3 => rfl
  | case4 innermost openers position rest ih => simpa [read, Located.moved] using ih
  | case5 innermost openers bracket position rest hvalue =>
    simp [read, hvalue, Located.moved, Nesting.moved]

end Culprit
