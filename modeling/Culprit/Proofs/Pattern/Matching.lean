import Culprit.Pattern.Basic
import Mathlib.Data.List.Basic

/-!
# Matching decides what a pattern means

`Pattern.Matches` speaks of ways to cut a text, and the matching replaces patterns by their
continuations. Both agree on every text: a pattern fits a text that starts with a character exactly
when one of its continuations fits the rest, whatever the ways are in which the pattern could be
cut. Statements about the form of a line can therefore be read off the pattern.
-/

namespace Culprit.Pattern

@[simp] theorem matches_done {text : Text} : Matches .done text ↔ text = [] := Iff.rfl

@[simp] theorem matches_one {kind : CharClass} {text : Text} :
    Matches (.one kind) text ↔ ∃ c, kind.holds c = true ∧ text = [c] := Iff.rfl

theorem matches_seq {first second : Pattern} {text : Text} :
    Matches (.seq first second) text ↔
      ∃ front back, text = front ++ back ∧ first.Matches front ∧ second.Matches back := Iff.rfl

theorem matches_either {left right : Pattern} {text : Text} :
    Matches (.either left right) text ↔ left.Matches text ∨ right.Matches text := Iff.rfl

theorem matches_many {body : Pattern} {text : Text} :
    Matches (.many body) text ↔
      ∃ pieces : List Text, text = pieces.flatten ∧ ∀ piece ∈ pieces, body.Matches piece := Iff.rfl

theorem fitsNothing_iff (pattern : Pattern) : pattern.fitsNothing = true ↔ pattern.Matches [] := by
  induction pattern with
  | done => simp [fitsNothing]
  | one kind => simp [fitsNothing]
  | seq first second ihFirst ihSecond =>
    simp [fitsNothing, matches_seq, ihFirst, ihSecond]
  | either left right ihLeft ihRight =>
    simp [fitsNothing, matches_either, ihLeft, ihRight]
  | many body =>
    simp only [fitsNothing, matches_many, true_iff]
    exact ⟨[], rfl, by simp⟩

/-- A sequence that fits a text with a first character takes it from its first part, unless that
part fits nothing. -/
theorem matches_seq_cons {first second : Pattern} {c : Char} {rest : Text} :
    Matches (.seq first second) (c :: rest) ↔
      (∃ front back, rest = front ++ back ∧ first.Matches (c :: front) ∧ second.Matches back) ∨
        first.Matches [] ∧ second.Matches (c :: rest) := by
  rw [matches_seq]
  constructor
  · rintro ⟨front, back, happend, hfirst, hsecond⟩
    rcases List.cons_eq_append_iff.mp happend with ⟨rfl, rfl⟩ | ⟨front, rfl, rfl⟩
    · exact .inr ⟨hfirst, hsecond⟩
    · exact .inl ⟨front, back, rfl, hfirst, hsecond⟩
  · rintro (⟨front, back, rfl, hfirst, hsecond⟩ | ⟨hfirst, hsecond⟩)
    · exact ⟨c :: front, back, rfl, hfirst, hsecond⟩
    · exact ⟨[], c :: rest, rfl, hfirst, hsecond⟩

/-- A repetition that fits a text with a first character takes it in a first piece that is not
empty; empty pieces before that one can be left out. -/
theorem matches_many_cons {body : Pattern} {c : Char} {rest : Text} :
    Matches (.many body) (c :: rest) ↔
      ∃ front back, rest = front ++ back ∧ body.Matches (c :: front) ∧
        Matches (.many body) back := by
  constructor
  · rintro ⟨pieces, happend, hpieces⟩
    -- Empty pieces are skipped; the first other one starts with the character.
    induction pieces with
    | nil => simp at happend
    | cons piece pieces ih =>
      rw [List.flatten_cons] at happend
      rcases List.cons_eq_append_iff.mp happend with ⟨rfl, hrest⟩ | ⟨front, rfl, rfl⟩
      · exact ih hrest.symm fun piece hpiece => hpieces piece (List.mem_cons_of_mem _ hpiece)
      · exact ⟨front, pieces.flatten, rfl, hpieces _ List.mem_cons_self,
          pieces, rfl, fun piece hpiece => hpieces piece (List.mem_cons_of_mem _ hpiece)⟩
  · rintro ⟨front, back, rfl, hfront, pieces, rfl, hpieces⟩
    refine ⟨(c :: front) :: pieces, rfl, fun piece hpiece => ?_⟩
    rcases List.mem_cons.mp hpiece with rfl | hmem
    · exact hfront
    · exact hpieces piece hmem

/-- The continuations of a pattern say what the rest of a text has to fit. -/
theorem matches_cons_iff (c : Char) (pattern : Pattern) (rest : Text) :
    pattern.Matches (c :: rest) ↔ ∃ next ∈ pattern.continuations c, next.Matches rest := by
  induction pattern generalizing rest with
  | done => simp [continuations]
  | one kind =>
    by_cases hkind : kind.holds c = true <;> simp [continuations, hkind]
  | seq first second ihFirst ihSecond =>
    rw [matches_seq_cons]
    simp only [continuations, List.mem_append, or_and_right, exists_or, List.mem_map]
    refine or_congr ?_ ?_
    · simp only [ihFirst]
      constructor
      · rintro ⟨front, back, rfl, ⟨next, hnext, hfront⟩, hback⟩
        exact ⟨_, ⟨next, hnext, rfl⟩, front, back, rfl, hfront, hback⟩
      · rintro ⟨_, ⟨next, hnext, rfl⟩, front, back, rfl, hfront, hback⟩
        exact ⟨front, back, rfl, ⟨next, hnext, hfront⟩, hback⟩
    · rw [ihSecond, ← fitsNothing_iff]
      by_cases hfits : first.fitsNothing = true <;> simp [hfits]
  | either left right ihLeft ihRight =>
    simp only [matches_either, continuations, List.mem_append, or_and_right, exists_or, ihLeft,
      ihRight]
  | many body ih =>
    rw [matches_many_cons]
    simp only [continuations, List.mem_map, ih]
    constructor
    · rintro ⟨front, back, rfl, ⟨next, hnext, hfront⟩, hback⟩
      exact ⟨_, ⟨next, hnext, rfl⟩, front, back, rfl, hfront, hback⟩
    · rintro ⟨_, ⟨next, hnext, rfl⟩, front, back, rfl, hfront, hback⟩
      exact ⟨front, back, rfl, ⟨next, hnext, hfront⟩, hback⟩

theorem anyAccepts_iff (candidates : List Pattern) (text : Text) :
    anyAccepts candidates text = true ↔ ∃ pattern ∈ candidates, pattern.Matches text := by
  -- Each character of the text replaces the candidates by their continuations.
  induction text generalizing candidates with
  | nil => simp [anyAccepts, fitsNothing_iff]
  | cons c rest ih =>
    simp only [anyAccepts, ih, matches_cons_iff, List.mem_eraseDups, List.mem_flatMap]
    constructor
    · rintro ⟨next, ⟨pattern, hpattern, hnext⟩, hrest⟩
      exact ⟨pattern, hpattern, next, hnext, hrest⟩
    · rintro ⟨pattern, hpattern, next, hnext, hrest⟩
      exact ⟨next, ⟨pattern, hpattern, hnext⟩, hrest⟩

/-- The test for a pattern decides whether the pattern fits. -/
theorem accepts_iff (pattern : Pattern) (text : Text) :
    pattern.accepts text = true ↔ pattern.Matches text := by
  simp [accepts, anyAccepts_iff]

/-! ### Options and repeated characters -/

theorem matches_only {c : Char} {text : Text} : Matches (.one (.only c)) text ↔ text = [c] := by
  simp [CharClass.holds]

theorem matches_optional {body : Pattern} {text : Text} :
    Matches (optional body) text ↔ text = [] ∨ body.Matches text := or_comm

theorem matches_many_one {kind : CharClass} {text : Text} :
    Matches (.many (.one kind)) text ↔ ∀ c ∈ text, kind.holds c = true := by
  constructor
  · rintro ⟨pieces, rfl, hpieces⟩ c hc
    obtain ⟨piece, hpiece, hmem⟩ := List.mem_flatten.mp hc
    obtain ⟨d, hd, rfl⟩ := hpieces piece hpiece
    rwa [List.mem_singleton.mp hmem]
  · intro hall
    refine ⟨text.map fun c => [c], ?_, fun piece hpiece => ?_⟩
    · rw [← List.flatMap_def, List.flatMap_singleton']
    · obtain ⟨c, hc, rfl⟩ := List.mem_map.mp hpiece
      exact ⟨c, hall c hc, rfl⟩

theorem matches_atLeastOnce_one {kind : CharClass} {text : Text} :
    Matches (atLeastOnce (.one kind)) text ↔ text ≠ [] ∧ ∀ c ∈ text, kind.holds c = true := by
  constructor
  · rintro ⟨_, rest, rfl, ⟨c, hc, rfl⟩, hrest⟩
    exact ⟨by simp, List.forall_mem_cons.mpr ⟨hc, matches_many_one.mp hrest⟩⟩
  · rintro ⟨hne, hall⟩
    obtain ⟨c, rest, rfl⟩ := List.exists_cons_of_ne_nil hne
    obtain ⟨hc, hrest⟩ := List.forall_mem_cons.mp hall
    exact ⟨[c], rest, rfl, ⟨c, hc, rfl⟩, matches_many_one.mpr hrest⟩

/-! ### Fixed words -/

theorem matches_literal {word text : Text} : Matches (literal word) text ↔ text = word := by
  induction word generalizing text with
  | nil => simp [literal]
  | cons c word ih =>
    have hcons : literal (c :: word) = .seq (.one (.only c)) (literal word) := rfl
    rw [hcons, matches_seq]
    constructor
    · rintro ⟨front, back, rfl, ⟨d, hd, rfl⟩, hback⟩
      rw [ih.mp hback]
      simpa [CharClass.holds] using hd
    · rintro rfl
      exact ⟨[c], word, rfl, ⟨c, by simp [CharClass.holds], rfl⟩, ih.mpr rfl⟩

/-- A text that fits a word and something after it starts with the word. -/
theorem exists_of_matches_seq_literal {word text : Text} {rest : Pattern}
    (h : Matches (.seq (literal word) rest) text) :
    ∃ back, text = word ++ back ∧ rest.Matches back := by
  obtain ⟨front, back, rfl, hfront, hback⟩ := h
  exact ⟨back, by rw [matches_literal.mp hfront], hback⟩

end Culprit.Pattern
