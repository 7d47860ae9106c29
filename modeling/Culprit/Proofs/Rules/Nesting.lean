import Culprit.Rules.Check
import Mathlib.Data.List.Basic

/-!
# Open brackets, apart from their places

Places say where a bracket is reported and never decide whether it nests. Reading delimiters
without their places composes: what is open behind two stretches is what the second one makes of
the brackets that the first one leaves open. A reading that succeeds keeps count, so the number of
open brackets of a kind is the number of its openers less that of its closers.
-/

namespace Culprit

namespace Nesting

/-- The kinds of the brackets that are open at the end, if the sequence does not break. -/
def kinds? : Nesting → Option (List Bracket)
  | .broken _ => none
  | .pending openers => some (openers.map Located.value)

/-- Reads delimiters without their places, with the given brackets already open. -/
def readKinds : List Bracket → List Delimiter → Option (List Bracket)
  | openers, [] => some openers
  | openers, .opening bracket :: rest => readKinds (bracket :: openers) rest
  | [], .closing _ :: _ => none
  | innermost :: openers, .closing bracket :: rest =>
    if innermost = bracket then readKinds openers rest else none

theorem kinds?_read (openers : List (Located Bracket)) (delimiters : List (Located Delimiter)) :
    (read openers delimiters).kinds? =
      readKinds (openers.map Located.value) (delimiters.map Located.value) := by
  fun_induction read openers delimiters with
  | case1 => rfl
  | case2 openers bracket position rest ih => simpa [readKinds] using ih
  | case3 => rfl
  | case4 innermost openers position rest ih => simpa [readKinds] using ih
  | case5 innermost openers bracket position rest hvalue => simp [readKinds, hvalue, kinds?]

theorem readKinds_append (openers : List Bracket) (first second : List Delimiter) :
    readKinds openers (first ++ second) =
      (readKinds openers first).bind fun after => readKinds after second := by
  fun_induction readKinds openers first with
  | case1 => rfl
  | case2 openers bracket rest ih => simpa [readKinds] using ih
  | case3 => rfl
  | case4 openers bracket rest ih => simpa [readKinds] using ih
  | case5 innermost openers bracket rest hne => simp [readKinds, hne]

theorem exists_of_readKinds_append {openers after : List Bracket} {first second : List Delimiter}
    (h : readKinds openers (first ++ second) = some after) :
    ∃ middle, readKinds openers first = some middle ∧ readKinds middle second = some after := by
  rw [readKinds_append] at h
  exact Option.bind_eq_some_iff.mp h

/-- A stretch that is read without a break is left behind with what it leaves open. -/
theorem read_append {openers after : List (Located Bracket)}
    {first : List (Located Delimiter)} (hfirst : read openers first = .pending after)
    (second : List (Located Delimiter)) : read openers (first ++ second) = read after second := by
  fun_induction read openers first with
  | case1 openers =>
    obtain rfl : openers = after := by simpa using hfirst
    rfl
  | case2 openers bracket position rest ih => exact ih hfirst
  | case3 => simp at hfirst
  | case4 innermost openers position rest ih => simpa [read] using ih hfirst
  | case5 => simp at hfirst

/-- By how much delimiters open more brackets of a kind than they close. -/
def balance (bracket : Bracket) (delimiters : List Delimiter) : Int :=
  (delimiters.count (.opening bracket) : Int) - (delimiters.count (.closing bracket) : Int)

@[simp] theorem balance_append (bracket : Bracket) (first second : List Delimiter) :
    balance bracket (first ++ second) = balance bracket first + balance bracket second := by
  simp only [balance, List.count_append, Int.natCast_add]
  omega

theorem count_of_readKinds {openers after : List Bracket} {delimiters : List Delimiter}
    (h : readKinds openers delimiters = some after) (bracket : Bracket) :
    (after.count bracket : Int) = openers.count bracket + balance bracket delimiters := by
  fun_induction readKinds openers delimiters with
  | case1 openers =>
    obtain rfl : openers = after := by simpa using h
    simp [balance]
  | case2 openers opened rest ih =>
    have hrest := ih h
    by_cases heq : opened = bracket <;>
      simp [balance, heq] at hrest ⊢ <;> omega
  | case3 => simp at h
  | case4 openers closed rest ih =>
    have hrest := ih h
    by_cases heq : closed = bracket <;>
      simp [balance, heq] at hrest ⊢ <;> omega
  | case5 => simp at h

theorem readKinds_replicate (bracket : Bracket) (depth : Nat) :
    readKinds (List.replicate depth bracket) (List.replicate depth (.closing bracket)) =
      some [] := by
  induction depth with
  | zero => rfl
  | succ depth ih => simpa [List.replicate_succ, readKinds] using ih

end Nesting

/-! ### The delimiters of a text -/

/-- The delimiters among the characters of a text. -/
def Text.delimiters (text : Text) : List Delimiter := text.filterMap Delimiter.ofChar?

@[simp] theorem Text.delimiters_append (first second : Text) :
    Text.delimiters (first ++ second) = first.delimiters ++ second.delimiters :=
  List.filterMap_append

theorem Delimiter.ofChar?_eq_some_iff {c : Char} {delimiter : Delimiter} :
    ofChar? c = some delimiter ↔ c = delimiter.toChar := by
  constructor
  · fun_cases ofChar? c <;> rintro ⟨⟩ <;> rfl
  · rintro rfl
    exact ofChar?_toChar delimiter

theorem Text.count_delimiters (text : Text) (delimiter : Delimiter) :
    text.delimiters.count delimiter = text.count delimiter.toChar := by
  induction text with
  | nil => rfl
  | cons c rest ih =>
    rw [delimiters] at ih ⊢
    by_cases hc : c = delimiter.toChar
    · rw [List.filterMap_cons_some (Delimiter.ofChar?_eq_some_iff.mpr hc), hc]
      simpa using ih
    · rw [List.count_cons_of_ne hc, ← ih]
      cases h : Delimiter.ofChar? c with
      | none => rw [List.filterMap_cons_none h]
      | some other =>
        rw [List.filterMap_cons_some h, List.count_cons_of_ne]
        rintro rfl
        exact hc (Delimiter.ofChar?_eq_some_iff.mp h)

@[simp] theorem Text.braceBalance_append (first second : Text) :
    Text.braceBalance (first ++ second) = first.braceBalance + second.braceBalance := by
  simp only [braceBalance, List.count_append, Int.natCast_add]
  omega

theorem Text.balance_delimiters (text : Text) :
    Nesting.balance .curly text.delimiters = text.braceBalance := by
  simp only [Nesting.balance, count_delimiters]
  rfl

theorem CodeLine.map_value_delimiters (line : CodeLine) :
    line.delimiters.map Located.value = line.stripped.text.delimiters := by
  simp only [delimiters, StrippedText.text, Text.delimiters, List.map_filterMap,
    List.filterMap_map]
  congr 1
  funext c
  cases h : Delimiter.ofChar? c.char <;> simp [h]

end Culprit
