import Culprit.Proofs.Pattern.Matching
import Mathlib.Data.List.Forall2

/-!
# Texts made of parts

A grammar says of which parts a text is put together, in which order, and which of them may be left
out or repeated. A pattern is built the same way, so a pattern defines the kind of text that the
grammar describes as soon as the patterns inside it define the parts.
-/

namespace Culprit

namespace Text

/-- A text that can be cut into pieces, one for each of the given parts in turn. -/
def MadeOf (parts : List (Text → Prop)) (text : Text) : Prop :=
  ∃ pieces : List Text, text = pieces.flatten ∧
    List.Forall₂ (fun part piece => part piece) parts pieces

/-- A part that may be left out. -/
def Perhaps (Part : Text → Prop) (text : Text) : Prop := text = [] ∨ Part text

/-- A part any number of times. -/
def Repeats (Part : Text → Prop) (text : Text) : Prop :=
  ∃ pieces : List Text, text = pieces.flatten ∧ ∀ piece ∈ pieces, Part piece

@[simp] theorem madeOf_nil {text : Text} : MadeOf [] text ↔ text = [] := by
  simp [MadeOf]

theorem madeOf_cons {Part : Text → Prop} {parts : List (Text → Prop)} {text : Text} :
    MadeOf (Part :: parts) text ↔
      ∃ front back, text = front ++ back ∧ Part front ∧ MadeOf parts back := by
  constructor
  · rintro ⟨_, rfl, hpieces⟩
    obtain ⟨piece, pieces, hpiece, hrest, rfl⟩ := List.forall₂_cons_left_iff.mp hpieces
    exact ⟨piece, pieces.flatten, rfl, hpiece, pieces, rfl, hrest⟩
  · rintro ⟨front, _, rfl, hfront, pieces, rfl, hpieces⟩
    exact ⟨front :: pieces, rfl, .cons hfront hpieces⟩

@[simp] theorem madeOf_singleton {Part : Text → Prop} {text : Text} :
    MadeOf [Part] text ↔ Part text := by
  simp [madeOf_cons]

/-- With anything at all as the last part, a beginning of the text is made of the others. -/
theorem madeOf_concat_true {parts : List (Text → Prop)} {text : Text} :
    MadeOf (parts ++ [fun _ => True]) text ↔ ∃ head, head <+: text ∧ MadeOf parts head := by
  induction parts generalizing text with
  | nil => simp
  | cons Part parts ih =>
    simp only [List.cons_append, madeOf_cons, ih]
    constructor
    · rintro ⟨front, _, rfl, hfront, head, hhead, hparts⟩
      exact ⟨front ++ head, List.prefix_append_right_inj .. |>.mpr hhead, front, head, rfl,
        hfront, hparts⟩
    · rintro ⟨_, ⟨rest, rfl⟩, front, head, rfl, hfront, hparts⟩
      exact ⟨front, head ++ rest, List.append_assoc .., hfront, head, List.prefix_append ..,
        hparts⟩

end Text

namespace Pattern

/-- The pattern fits the texts of the given kind, and no others. -/
def Defines (pattern : Pattern) (Kind : Text → Prop) : Prop :=
  ∀ text, pattern.Matches text ↔ Kind text

namespace Defines

variable {first second : Pattern} {First Second : Text → Prop}

theorem accepts_iff (h : first.Defines First) (text : Text) :
    first.accepts text = true ↔ First text :=
  (Pattern.accepts_iff first text).trans (h text)

theorem only (c : Char) : (one (.only c)).Defines (· = [c]) := fun _ => matches_only

theorem literal (word : Text) : (Pattern.literal word).Defines (· = word) :=
  fun _ => matches_literal

theorem anything : (many (one .any)).Defines fun _ => True :=
  fun _ => matches_many_one.trans (iff_true_intro fun _ _ => rfl)

theorem optional (h : first.Defines First) :
    (Pattern.optional first).Defines (Text.Perhaps First) :=
  fun text => matches_optional.trans (or_congr_right (h text))

theorem many (h : first.Defines First) : (Pattern.many first).Defines (Text.Repeats First) := by
  intro text
  simp only [matches_many, Text.Repeats, h _]

theorem either (hfirst : first.Defines First) (hsecond : second.Defines Second) :
    (Pattern.either first second).Defines fun text => First text ∨ Second text :=
  fun text => or_congr (hfirst text) (hsecond text)

theorem inOrder {patterns : List Pattern} {parts : List (Text → Prop)}
    (h : List.Forall₂ Defines patterns parts) : (inOrder patterns).Defines (Text.MadeOf parts) := by
  induction h with
  | nil => exact fun text => Text.madeOf_nil.symm
  | cons hfirst _ ih =>
    intro text
    rw [Text.madeOf_cons]
    exact exists₂_congr fun front back => and_congr_right' (and_congr (hfirst front) (ih back))

theorem seq (hfirst : first.Defines First) (hsecond : second.Defines Second) :
    (Pattern.seq first second).Defines (Text.MadeOf [First, Second]) := by
  intro text
  rw [Text.madeOf_cons, matches_seq]
  exact exists₂_congr fun front back => and_congr_right'
    (and_congr (hfirst front) ((hsecond back).trans Text.madeOf_singleton.symm))

end Defines
end Pattern
end Culprit
