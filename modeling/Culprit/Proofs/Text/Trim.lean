import Culprit.Rules.Keyword
import Mathlib.Data.List.TakeWhile

/-!
# Trimmed texts and keys

Trimming takes blank characters away from the two ends and nothing else. A character that is not
blank stops it from both sides, so what stands before such a character is trimmed at its front
only, whatever comes behind.
-/

namespace Culprit.Text

theorem dropFront_append_cons {property : Char → Bool} {c : Char} (hc : property c = false)
    (front back : Text) :
    dropFront property (front ++ c :: back) = dropFront property front ++ c :: back := by
  induction front with
  | nil => simp [dropFront, hc]
  | cons d front ih =>
    cases hd : property d <;> simp_all [dropFront]

theorem dropBack_append_cons {property : Char → Bool} {c : Char} (hc : property c = false)
    (front back : Text) :
    dropBack property (front ++ c :: back) = front ++ c :: dropBack property back := by
  have hfront := dropFront_append_cons hc back.reverse front.reverse
  simp only [dropFront] at hfront
  simp [dropBack, hfront]

theorem trim_append_cons {c : Char} (hc : isBlank c = false) (front back : Text) :
    trim (front ++ c :: back) = dropFront isBlank front ++ c :: dropBack isBlank back := by
  rw [trim, dropEnds, dropFront_append_cons hc, dropBack_append_cons hc]

/-- Blank characters around its trimmed form make up a text. -/
theorem exists_trim (text : Text) :
    ∃ front back, isBlankText front = true ∧ isBlankText back = true ∧
      text = front ++ trim text ++ back := by
  refine ⟨text.takeWhile isBlank, ((dropFront isBlank text).reverse.takeWhile isBlank).reverse,
    List.all_takeWhile, ?_, ?_⟩
  · rw [isBlankText, List.all_reverse]
    exact List.all_takeWhile
  · have hback : trim text ++ ((dropFront isBlank text).reverse.takeWhile isBlank).reverse =
        dropFront isBlank text := by
      rw [trim, dropEnds, dropBack, ← List.reverse_append, List.takeWhile_append_dropWhile,
        List.reverse_reverse]
    rw [List.append_assoc, hback, dropFront, List.takeWhile_append_dropWhile]

theorem trim_eq_nil_iff {text : Text} : trim text = [] ↔ isBlankText text = true := by
  constructor
  · intro hnil
    obtain ⟨front, back, hfront, hback, htext⟩ := exists_trim text
    rw [htext, hnil, List.append_nil, isBlankText, List.all_append]
    simp only [isBlankText] at hfront hback
    simp [hfront, hback]
  · intro hblank
    have hfront : dropFront isBlank text = [] := by
      simpa [dropFront, List.dropWhile_eq_nil_iff, isBlankText] using hblank
    rw [trim, dropEnds, hfront, dropBack_nil]

theorem count_trim {c : Char} (hc : isBlank c = false) (text : Text) :
    (trim text).count c = text.count c := by
  obtain ⟨front, back, hfront, hback, htext⟩ := exists_trim text
  have hnotMem : ∀ blank : Text, isBlankText blank = true → blank.count c = 0 := by
    intro blank hblank
    rw [List.count_eq_zero]
    intro hmem
    have := List.all_eq_true.mp hblank c hmem
    simp [hc] at this
  calc (trim text).count c = (front ++ trim text ++ back).count c := by
        simp [hnotMem front hfront, hnotMem back hback]
    _ = text.count c := by rw [← htext]

/-! ### Keys -/

@[simp] theorem fold_append (first second : Text) :
    Text.fold (first ++ second) = first.fold ++ second.fold := by
  simp [Text.fold]

@[simp] theorem fold_cons (c : Char) (text : Text) :
    Text.fold (c :: text) = Culprit.smallLetter c :: text.fold := rfl

@[simp] theorem fold_nil : Text.fold [] = [] := rfl

theorem key_append_cons {c : Char} (hc : isBlank c = false) (front back : Text) :
    Text.key (front ++ c :: back) =
      (dropFront isBlank front).fold ++ Culprit.smallLetter c :: (dropBack isBlank back).fold := by
  rw [Text.key, trim_append_cons hc, fold_append, fold_cons]

theorem key_eq_nil_iff {text : Text} : text.key = [] ↔ isBlankText text = true := by
  rw [← trim_eq_nil_iff, Text.key, Text.fold, List.map_eq_nil_iff]

/-- A prefix that lacks a character ends before its first occurrence. -/
theorem prefix_append_cons_iff {word front back : Text} {c : Char} (hc : c ∉ word) :
    word <+: front ++ c :: back ↔ word <+: front := by
  constructor
  · intro hbegins
    rcases List.prefix_or_prefix_of_prefix hbegins (List.prefix_append front (c :: back)) with
      hword | hfront
    · exact hword
    · obtain ⟨more, rfl⟩ := hfront
      rw [List.prefix_append_right_inj] at hbegins
      rcases more with _ | ⟨d, more⟩
      · simp
      · obtain ⟨rfl, -⟩ := List.cons_prefix_cons.mp hbegins
        simp at hc
  · exact fun hbegins => hbegins.trans (List.prefix_append front (c :: back))

end Culprit.Text
