import Culprit.Proofs.Rules.Reading
import Mathlib.Algebra.Group.Nat.Even
import Mathlib.Order.Bounds.Image

/-!
# Which quote closes a literal

A literal is read from its opening quote on, and each backslash takes the next character along.
Seen from a quote, all that counts are the backslashes that stand directly before it: the reader
has taken them in pairs, so the quote is one that it looks at exactly when their number is even.
The quote that closes the literal is the first such one, and there is none if the reader runs off
the line.
-/

namespace Culprit.Text

/-- The number of backslashes that a text ends in. -/
def finalBackslashes (text : Text) : Nat := (text.reverse.takeWhile (· == '\\')).length

/-- At this place of a line, behind the opening quote, stands the same quote, and directly before it
an even number of backslashes that are not before the opening quote. -/
structure Closes (quote : Char) (text : Text) (start place : Nat) : Prop where
  behind : start < place
  quote_eq : text[place]? = some quote
  even : Even (finalBackslashes ((text.take place).drop (start + 1)))

/-- The same, counted from the first character behind the opening quote. -/
structure ClosesBehind (quote : Char) (rest : Text) (index : Nat) : Prop where
  quote_eq : rest[index]? = some quote
  even : Even (finalBackslashes (rest.take index))

/-! ### Backslashes at the end -/

theorem finalBackslashes_append (front rest : Text) :
    finalBackslashes (front ++ rest) =
      if finalBackslashes rest = rest.length then rest.length + finalBackslashes front
      else finalBackslashes rest := by
  rw [finalBackslashes, List.reverse_append, List.takeWhile_append, List.length_reverse,
    apply_ite List.length, List.length_append, List.length_reverse]
  rfl

theorem finalBackslashes_cons {c : Char} (hescape : c ≠ '\\') (rest : Text) :
    finalBackslashes (c :: rest) = finalBackslashes rest := by
  have hnone : finalBackslashes [c] = 0 := by simp [finalBackslashes, hescape]
  rw [← List.singleton_append, finalBackslashes_append, hnone]
  split
  · rename_i hall
    exact hall.symm
  · rfl

/-- An escape in front keeps the number even or odd: both of its characters are counted, or none. -/
theorem even_finalBackslashes_escape (c : Char) (rest : Text) :
    Even (finalBackslashes ('\\' :: c :: rest)) ↔ Even (finalBackslashes rest) := by
  have hescape : Even (finalBackslashes ['\\', c]) := by
    by_cases hc : c = '\\'
    · rw [hc]
      decide
    · simp [finalBackslashes, hc]
  have happend : '\\' :: c :: rest = ['\\', c] ++ rest := rfl
  rw [happend, finalBackslashes_append]
  split
  · rename_i hall
    rw [Nat.even_add, hall]
    exact ⟨fun h => h.mpr hescape, fun h => iff_of_true h hescape⟩
  · rfl

/-! ### The reader of a literal -/

section

variable {quote c : Char} {rest : Text}

theorem setOf_closesBehind_escape (hquote : quote ≠ '\\') (c : Char) (rest : Text) :
    {index | ClosesBehind quote ('\\' :: c :: rest) index} =
      (· + 2) '' {index | ClosesBehind quote rest index} := by
  ext index
  constructor
  · rintro ⟨hindex, heven⟩
    rcases index with _ | _ | index
    · exact absurd (Option.some.inj hindex) hquote.symm
    · exact absurd heven (by rw [List.take_succ_cons, List.take_zero]; decide)
    · exact ⟨index, ⟨hindex, (even_finalBackslashes_escape c _).mp heven⟩, rfl⟩
  · rintro ⟨index, ⟨hindex, heven⟩, rfl⟩
    exact ⟨hindex, (even_finalBackslashes_escape c _).mpr heven⟩

theorem setOf_closesBehind_cons (hescape : c ≠ '\\') (hne : c ≠ quote) (rest : Text) :
    {index | ClosesBehind quote (c :: rest) index} =
      (· + 1) '' {index | ClosesBehind quote rest index} := by
  ext index
  constructor
  · rintro ⟨hindex, heven⟩
    rcases index with _ | index
    · exact absurd (Option.some.inj hindex) hne
    · rw [List.take_succ_cons, finalBackslashes_cons hescape] at heven
      exact ⟨index, ⟨hindex, heven⟩, rfl⟩
  · rintro ⟨index, ⟨hindex, heven⟩, rfl⟩
    exact ⟨hindex, by rwa [List.take_succ_cons, finalBackslashes_cons hescape]⟩

/-- The reader stops at the first quote that closes the literal. -/
theorem isLeast_of_literalLength? (hquote : quote ≠ '\\') {length : Nat}
    (h : literalLength? quote rest = some length) :
    IsLeast {index | ClosesBehind quote rest index} length := by
  have hshift (count : Nat) : Monotone (· + count) := fun _ _ h => Nat.add_le_add_right h count
  fun_induction literalLength? quote rest generalizing length with
  | case1 => simp at h
  | case2 => simp at h
  | case3 c rest ih =>
    obtain ⟨inner, hinner, rfl⟩ := Option.map_eq_some_iff.mp h
    rw [setOf_closesBehind_escape hquote]
    exact (hshift 2).map_isLeast (ih hinner)
  | case4 rest =>
    obtain rfl : 0 = length := by simpa using h
    exact ⟨⟨rfl, by simp [finalBackslashes]⟩, fun index _ => index.zero_le⟩
  | case5 c rest hlast hescape hne ih =>
    obtain ⟨inner, hinner, rfl⟩ := Option.map_eq_some_iff.mp h
    rw [setOf_closesBehind_cons (ne_backslash hlast hescape) hne]
    exact (hshift 1).map_isLeast (ih hinner)

/-- The reader runs off the line only if no quote closes the literal. -/
theorem setOf_closesBehind_of_literalLength? (hquote : quote ≠ '\\')
    (h : literalLength? quote rest = none) : {index | ClosesBehind quote rest index} = ∅ := by
  fun_induction literalLength? quote rest with
  | case1 => exact Set.eq_empty_of_forall_notMem fun index hcloses => by simpa using hcloses.quote_eq
  | case2 =>
    refine Set.eq_empty_of_forall_notMem fun index hcloses => ?_
    have := hcloses.quote_eq
    rcases index with _ | index
    · exact hquote (Option.some.inj this).symm
    · simp at this
  | case3 c rest ih =>
    rw [setOf_closesBehind_escape hquote, ih (Option.map_eq_none_iff.mp h), Set.image_empty]
  | case4 => simp at h
  | case5 c rest hlast hescape hne ih =>
    rw [setOf_closesBehind_cons (ne_backslash hlast hescape) hne,
      ih (Option.map_eq_none_iff.mp h), Set.image_empty]

end

/-! ### The literal in its line -/

theorem drop_eq_cons {text : Text} {start : Nat} {quote : Char}
    (hstart : text[start]? = some quote) : text.drop start = quote :: text.drop (start + 1) := by
  obtain ⟨hlt, rfl⟩ := List.getElem?_eq_some_iff.mp hstart
  exact List.drop_eq_getElem_cons hlt

theorem literalEnd?_eq_map {text : Text} {start : Nat} {quote : Char}
    (hstart : text[start]? = some quote) :
    text.literalEnd? start =
      (literalLength? quote (text.drop (start + 1))).map (start + 1 + ·) := by
  rw [literalEnd?, drop_eq_cons hstart]

theorem setOf_closes (quote : Char) (text : Text) (start : Nat) :
    {place | Closes quote text start place} =
      (start + 1 + ·) '' {index | ClosesBehind quote (text.drop (start + 1)) index} := by
  have hiff (index : Nat) : Closes quote text start (start + 1 + index) ↔
      ClosesBehind quote (text.drop (start + 1)) index := by
    constructor
    · rintro ⟨-, hquote, heven⟩
      rw [List.drop_take, Nat.add_sub_cancel_left] at heven
      exact ⟨by rwa [List.getElem?_drop], heven⟩
    · rintro ⟨hquote, heven⟩
      refine ⟨by omega, by rwa [List.getElem?_drop] at hquote, ?_⟩
      rwa [List.drop_take, Nat.add_sub_cancel_left]
  ext place
  constructor
  · intro hcloses
    obtain ⟨index, rfl⟩ := Nat.exists_eq_add_of_le hcloses.behind
    exact ⟨index, (hiff index).mp hcloses, rfl⟩
  · rintro ⟨index, hcloses, rfl⟩
    exact (hiff index).mpr hcloses

/-- No place closes a literal whose reader runs off the line. -/
theorem setOf_closes_of_literalLength? {text : Text} {start : Nat} {quote : Char}
    (hquote : isQuote quote = true) (h : literalLength? quote (text.drop (start + 1)) = none) :
    {place | Closes quote text start place} = ∅ := by
  rw [setOf_closes, setOf_closesBehind_of_literalLength? (ne_backslash_of_isQuote hquote) h,
    Set.image_empty]

/-- **The closing quote.** Where a quote opens a literal in a line, the literal ends at the first
later place with the same quote and an even number of backslashes between them that stand directly
before that place. It has no end in the line exactly if there is no such place. -/
theorem literalEnd?_eq_iff {text : Text} {start : Nat} {quote : Char}
    (hstart : text[start]? = some quote) (hquote : isQuote quote = true) :
    (∀ place, text.literalEnd? start = some place ↔
        IsLeast {place | Closes quote text start place} place) ∧
      (text.literalEnd? start = none ↔ ∀ place, ¬Closes quote text start place) := by
  have hshift : Monotone (start + 1 + ·) := fun _ _ h => Nat.add_le_add_left h _
  have hnone : (∀ place, ¬Closes quote text start place) ↔
      {place | Closes quote text start place} = ∅ := Set.eq_empty_iff_forall_notMem.symm
  rw [literalEnd?_eq_map hstart, hnone]
  cases hlength : literalLength? quote (text.drop (start + 1)) with
  | none =>
    rw [setOf_closes_of_literalLength? hquote hlength]
    exact ⟨fun place => iff_of_false nofun fun hleast => hleast.1, iff_of_true rfl rfl⟩
  | some length =>
    have hleast := hshift.map_isLeast
      (isLeast_of_literalLength? (ne_backslash_of_isQuote hquote) hlength)
    rw [setOf_closes]
    refine ⟨fun place => ⟨?_, fun hplace => ?_⟩, iff_of_false nofun hleast.nonempty.ne_empty⟩
    · rintro ⟨⟩
      exact hleast
    · exact congrArg some (hleast.unique hplace)

/-- A line with an escaped quote in its first literal, whose second literal ends in an escape. -/
def escapedLine : Text := "go(\"a\\\\\\\"'\\\\\") 'b\\'".toList

theorem closes_escapedLine :
    IsLeast {place | Closes '"' escapedLine 3 place} 12 ∧
      ∀ place, ¬Closes '\'' escapedLine 15 place :=
  ⟨((literalEnd?_eq_iff (by decide) (by decide)).1 12).mp (by decide),
    (literalEnd?_eq_iff (by decide) (by decide)).2.mp (by decide)⟩

end Culprit.Text
