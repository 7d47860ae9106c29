import Culprit.Proofs.Oracle.Asking
import Culprit.Search
import Mathlib.Data.Nat.Init

/-!
# Two searches side by side

A search learns of its oracle only by two questions: whether a document is accepted, and what its
first error is. Let two oracles answer these alike, when they are asked in sessions that stand in
some relation, and let the answers keep the relation. Then the two searches take the same turns:
they end with the same result, and their sessions are still related. What is written to the log must
not matter to the relation, since an oracle that fails is logged and one that rejects is not. The
two searches may even be of two sources, as long as these have as many lines and are judged alike at
each of them.
-/

namespace Culprit

variable {σ τ α β : Type} {rel : Session σ → Session τ → Prop}

namespace Session

/-- Log records do not matter to a relation of sessions. -/
structure IgnoresLogs (rel : Session σ → Session τ → Prop) : Prop where
  left : ∀ {first second}, rel first second → ∀ record, rel (first.logged record) second
  right : ∀ {first second}, rel first second → ∀ record, rel first (second.logged record)

theorem ignoresLogs_true : IgnoresLogs fun (_ : Session σ) (_ : Session τ) => True :=
  ⟨fun _ _ => trivial, fun _ _ => trivial⟩

/-- In related sessions the two actions give the same value and leave related sessions. -/
def Alike (rel : Session σ → Session τ → Prop) (first : StateM (Session σ) α)
    (second : StateM (Session τ) α) : Prop :=
  ∀ one two, rel one two →
    (first.run one).1 = (second.run two).1 ∧ rel (first.run one).2 (second.run two).2

namespace Alike

theorem pure (value : α) : Alike rel (pure value) (pure value) :=
  fun _ _ hrel => ⟨rfl, hrel⟩

theorem bind {first : StateM (Session σ) α} {second : StateM (Session τ) α}
    {firstNext : α → StateM (Session σ) β} {secondNext : α → StateM (Session τ) β}
    (h : Alike rel first second) (hnext : ∀ value, Alike rel (firstNext value) (secondNext value)) :
    Alike rel (first >>= firstNext) (second >>= secondNext) := by
  intro one two hrel
  obtain ⟨hvalue, hafter⟩ := h one two hrel
  rw [run_bind_eq first, run_bind_eq second, hvalue]
  exact hnext _ _ _ hafter

theorem log (hlogs : IgnoresLogs rel) (level : LogLevel) (component : Component)
    (message : String) :
    Alike rel (Session.log level component message) (Session.log level component message) :=
  fun _ _ hrel => ⟨rfl, hlogs.right (hlogs.left hrel _) _⟩

end Alike
end Session

namespace Locator

open Session

/-! ### Two sources -/

/-- The two searches, each of a source of its own, are asked and answered alike at every index. -/
structure SearchAlike (rel : Session σ → Session τ → Prop) (first : Locator σ) (second : Locator τ)
    (source source' : Text) : Prop where
  ignoresLogs : IgnoresLogs rel
  isBlankText : source'.isBlankText = source.isBlankText
  length : source'.contentLines.length = source.contentLines.length
  accepts : Alike rel (Session.accepts first.oracle source) (Session.accepts second.oracle source')
  isValidUpTo : ∀ last, Alike rel (first.isValidUpTo source.contentLines last)
    (second.isValidUpTo source'.contentLines last)
  report : ∀ index, Alike rel (first.report source.contentLines index)
    (second.report source'.contentLines index)

section

variable {first : Locator σ} {second : Locator τ} {lines lines' : List Text}

theorem isValidUpTo_alike {last : Nat}
    (hblank : (second.completer lines' last).isBlankText = (first.completer lines last).isBlankText)
    (haccepts : Alike rel (Session.accepts first.oracle (first.completer lines last))
      (Session.accepts second.oracle (second.completer lines' last))) :
    Alike rel (first.isValidUpTo lines last) (second.isValidUpTo lines' last) := by
  unfold Locator.isValidUpTo
  by_cases hshown : (first.completer lines last).isBlankText = true
  · simp only [hblank, if_pos hshown]
    exact .pure true
  · simp only [hblank, if_neg hshown]
    exact haccepts

theorem report_alike {index : Nat}
    (hcontent : Text.trim (lines'.getD index []) = Text.trim (lines.getD index []))
    (hmessage : Alike rel (Session.firstMessage first.oracle (first.completer lines index))
      (Session.firstMessage second.oracle (second.completer lines' index))) :
    Alike rel (first.report lines index) (second.report lines' index) := by
  unfold Locator.report
  rw [hcontent]
  exact hmessage.bind fun _ => .pure _

/-- The searches probe the same prefixes, since each turn follows from the answers so far. -/
theorem bisect_alike (hlogs : IgnoresLogs rel)
    (hvalid : ∀ last, Alike rel (first.isValidUpTo lines last) (second.isValidUpTo lines' last))
    (low high : Nat) : Alike rel (first.bisect lines low high) (second.bisect lines' low high) := by
  induction hsize : high - low using Nat.strong_induction_on generalizing low high with
  | _ size ih =>
    rw [Locator.bisect, Locator.bisect]
    by_cases hlt : low < high
    · rw [if_pos hlt, if_pos hlt]
      refine (hvalid _).bind fun valid => ?_
      cases valid with
      | true =>
        refine (Alike.log hlogs _ _ _).bind fun _ => ?_
        exact (ih _ (by omega) _ high rfl).bind fun search => .pure _
      | false =>
        refine (Alike.log hlogs _ _ _).bind fun _ => ?_
        exact (ih _ (by omega) low _ rfl).bind fun search => .pure _
    · rw [if_neg hlt, if_neg hlt]
      exact .pure _

theorem SearchAlike.locate {source source' : Text}
    (h : SearchAlike rel first second source source') :
    Alike rel (first.locate (some source)) (second.locate (some source')) := by
  unfold Locator.locate
  by_cases hblank : Text.isBlankText source = true
  · simp only [h.isBlankText, if_pos hblank]
    exact .pure _
  · simp only [h.isBlankText, if_neg hblank, h.length]
    refine h.accepts.bind fun accepted => ?_
    cases accepted with
    | true => exact (Alike.log h.ignoresLogs _ _ _).bind fun _ => .pure _
    | false =>
      refine (bisect_alike h.ignoresLogs h.isValidUpTo _ _).bind fun search => ?_
      refine (h.report _).bind fun fault => ?_
      exact (Alike.log h.ignoresLogs _ _ _).bind fun _ => .pure _

end

/-! ### Two oracles -/

/-- The two oracles answer the questions of a search alike. -/
structure AnswerAlike (rel : Session σ → Session τ → Prop) (first : Oracle σ) (second : Oracle τ) :
    Prop where
  ignoresLogs : IgnoresLogs rel
  accepts : ∀ document, Alike rel (Session.accepts first document) (Session.accepts second document)
  firstMessage : ∀ document,
    Alike rel (Session.firstMessage first document) (Session.firstMessage second document)

namespace AnswerAlike

variable {first : Oracle σ} {second : Oracle τ}

theorem isValidUpTo (h : AnswerAlike rel first second) (completer : Completer) (lines : List Text)
    (last : Nat) :
    Alike rel ((⟨first, completer⟩ : Locator σ).isValidUpTo lines last)
      ((⟨second, completer⟩ : Locator τ).isValidUpTo lines last) :=
  isValidUpTo_alike rfl (h.accepts _)

theorem report (h : AnswerAlike rel first second) (completer : Completer) (lines : List Text)
    (index : Nat) :
    Alike rel ((⟨first, completer⟩ : Locator σ).report lines index)
      ((⟨second, completer⟩ : Locator τ).report lines index) :=
  report_alike rfl (h.firstMessage _)

theorem searchAlike (h : AnswerAlike rel first second) (completer : Completer) (source : Text) :
    SearchAlike rel (⟨first, completer⟩ : Locator σ) (⟨second, completer⟩ : Locator τ) source
      source where
  ignoresLogs := h.ignoresLogs
  isBlankText := rfl
  length := rfl
  accepts := h.accepts source
  isValidUpTo := h.isValidUpTo completer source.contentLines
  report := h.report completer source.contentLines

/-- **Searches with oracles that answer alike are alike.** -/
theorem locate (h : AnswerAlike rel first second) (completer : Completer) (source : Option Text) :
    Alike rel ((⟨first, completer⟩ : Locator σ).locate source)
      ((⟨second, completer⟩ : Locator τ).locate source) := by
  cases source with
  | none => exact .pure _
  | some source => exact (h.searchAlike completer source).locate

end AnswerAlike
end Locator
end Culprit
