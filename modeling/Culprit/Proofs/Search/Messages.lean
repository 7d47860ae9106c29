import Culprit.Proofs.Completion.Whole
import Culprit.Proofs.Rules.BlankLines
import Culprit.Proofs.Service.Agreement

/-!
# What the message of a fault says

A search ends at a prefix that was judged not valid, or at the whole source, which nobody judged in
its completed form. The message is the first error of the completed prefix. With the built-in oracle
there is such an error in the first case, and in the second one unless the completion makes the
source valid. A completion that adds nothing cannot, because the empty lines at the end of a source
are all that its content leaves out, and the check does not mind them.
-/

namespace Culprit

variable {σ : Type}

/-! ### Rendered problems -/

theorem Diagnostic.head?_render (diagnostic : Diagnostic) :
    diagnostic.render.toList.head? = some '[' := by
  have hfront : "[line ".toList = '[' :: "line ".toList := rfl
  simp only [render, String.toList_append, hfront, List.cons_append, List.head?_cons]

theorem Diagnostic.render_ne_unknownError (diagnostic : Diagnostic) :
    diagnostic.render ≠ unknownError := by
  intro heq
  have hhead := diagnostic.head?_render
  rw [heq] at hhead
  exact absurd hhead (by decide)

theorem Diagnostic.orUnknown_render (diagnostic : Diagnostic) :
    orUnknown diagnostic.render = diagnostic.render := by
  refine if_neg fun hempty => ?_
  have hhead := diagnostic.head?_render
  rw [hempty] at hhead
  cases hhead

/-! ### The message of a search -/

namespace Locator

/-- What a search with an oracle reports in a source that it does not accept: the message is made of
the oracle's answer about the reported prefix, which it does not accept either, unless that is the
prefix of all lines. -/
theorem exists_run_locate_of_answers {locator : Locator σ}
    {answers : Text → Except NoVerdict (List String)} (h : locator.oracle.Answers answers)
    {source : Text} (hshown : source.isBlankText = false) (hrejected : answers source ≠ .ok [])
    (session : Session σ) :
    ∃ fault, ((locator.locate (some source)).run session).1 = .ok (some fault) ∧
      1 ≤ fault.line ∧ fault.line ≤ source.contentLines.length ∧
      let document := locator.completer source.contentLines (fault.line - 1 : Nat)
      (fault.line = source.contentLines.length ∨ answers document ≠ .ok []) ∧
        fault.message = match answers document with
          | .ok messages => orUnknown (messages.head?.getD "")
          | .error reason => orUnknown reason.message := by
  obtain ⟨asked, hasked⟩ :
      ∃ asked, (Session.accepts locator.oracle source).run session = (false, asked) :=
    ⟨_, Prod.ext ((h.judges source session).trans (decide_eq_false hrejected)) rfl⟩
  obtain ⟨search, final, record, -, hprobed, hout, hfound, hrun⟩ :=
    locator.exists_search_of_rejected hshown hasked
  refine ⟨_, congrArg Prod.fst hrun, Nat.succ_pos _, hfound, ?_, h.run_firstMessage _ _⟩
  refine hout.reached.imp (fun hlast => by simp only; omega) fun hprobe => ?_
  have hrejects : Rejects locator.completer (fun document => decide (answers document = .ok []))
      source.contentLines search.found := by
    have hjudged := (hprobed.verdict_iff h.judges _ hprobe).not
    simpa using hjudged
  exact of_decide_eq_false hrejects.2

end Locator

/-! ### The built-in oracle -/

/-- The message of a fault is the first problem that the check finds in a document. -/
def Fault.Quotes (fault : Fault) (document : Text) : Prop :=
  ∃ first rest, check document = first :: rest ∧ fault.message = first.render

/-- The message that is given when the oracle names no error says so. -/
theorem Fault.quotes_or_unknown {fault : Fault} {document : Text}
    (hmessage : fault.message = orUnknown ((lexicalErrors document).head?.getD "")) :
    if check document = [] then fault.message = unknownError
    else fault.Quotes document ∧ fault.message ≠ unknownError := by
  unfold Fault.Quotes
  rw [hmessage, lexicalErrors]
  rcases check document with _ | ⟨first, rest⟩
  · rfl
  · have hfirst := first.orUnknown_render
    exact ⟨⟨first, rest, rfl, hfirst⟩, fun heq => first.render_ne_unknownError (hfirst ▸ heq)⟩

/-- Of a rejected source, only a completion that closes a region can make an accepted document. -/
theorem Completion.scan_ne_nil_of_check_complete {completion : Completion} {source : Text}
    (hshown : source.isBlankText = false) (hrejected : check source ≠ [])
    (hcompleted : check (completion.complete source.contentLines
      (source.contentLines.length - 1 : Nat)) = []) :
    completion = .structural ∧ Regions.scan source.contentLines ≠ [] := by
  have hpos : 0 < source.contentLines.length :=
    List.length_pos_iff.mpr (Text.contentLines_ne_nil hshown)
  have hfirst : firstLines source.contentLines (source.contentLines.length - 1 : Nat) =
      source.contentLines := by
    rw [firstLines_natCast, Nat.sub_add_cancel hpos, List.take_length]
  rw [← check_unlines_contentLines hshown] at hrejected
  rw [complete, hfirst] at hcompleted
  cases completion with
  | naive => exact absurd hcompleted hrejected
  | structural =>
    refine ⟨rfl, fun hscan => hrejected ?_⟩
    rwa [ofLines, hscan, Regions.closingSuffix, List.flatMap_nil, List.append_nil] at hcompleted

namespace Finder

theorem exists_run_locate_lexical (completion : Completion) {source : Text}
    (hshown : source.isBlankText = false) (hrejected : check source ≠ []) (session : Session σ) :
    ∃ fault, ((locate ⟨.lexical σ, completion⟩ (some source)).run session).1 = .ok (some fault) ∧
      1 ≤ fault.line ∧ fault.line ≤ source.contentLines.length ∧
      if fault.line = source.contentLines.length ∧
          check (completion.complete source.contentLines
            (source.contentLines.length - 1 : Nat)) = [] then
        fault.message = unknownError
      else
        fault.Quotes (completion.complete source.contentLines (fault.line - 1 : Nat)) ∧
          fault.message ≠ unknownError := by
  have hquiet : ∀ document,
      (Except.ok (lexicalErrors document) : Except NoVerdict _) = .ok [] ↔ check document = [] := by
    simp [lexicalErrors]
  have hanswers : (Finder.locator ⟨.lexical σ, completion⟩).oracle.Answers fun document =>
      .ok (lexicalErrors document) := Oracle.answers_lexical σ
  obtain ⟨fault, hrun, hpos, hle, hreached, hmessage⟩ :=
    Locator.exists_run_locate_of_answers hanswers hshown (mt (hquiet source).mp hrejected) session
  have hsaid := Fault.quotes_or_unknown hmessage
  refine ⟨fault, hrun, hpos, hle, ?_⟩
  by_cases hlast : fault.line = source.contentLines.length ∧
      check (completion.complete source.contentLines (source.contentLines.length - 1 : Nat)) = []
  · rw [if_pos hlast]
    rw [hlast.1] at hsaid
    exact (if_pos hlast.2).mp hsaid
  · have hproblem :
        check (completion.complete source.contentLines (fault.line - 1 : Nat)) ≠ [] := by
      intro hnone
      have hend : fault.line = source.contentLines.length :=
        hreached.resolve_right (not_not.mpr ((hquiet _).mpr hnone))
      exact hlast ⟨hend, hend ▸ hnone⟩
    rw [if_neg hlast]
    exact (if_neg hproblem).mp hsaid

/-- **The message is real.** Take a source that is not blank and that the check rejects. A search
over raw prefixes reports the first problem of the prefix that ends in the blamed line. A search
over completed prefixes reports the first problem of the completed prefix, unless the last line is
blamed and the completion of the whole source is accepted; then, and only then, it knows of no
problem to report, and the source ends with a region open. -/
theorem locate_quotes {source : Text} (hshown : source.isBlankText = false)
    (hrejected : check source ≠ []) (session : Session σ) :
    let lines := source.contentLines
    (∃ fault,
      ((locate ⟨.lexical σ, .naive⟩ (some source)).run session).1 = .ok (some fault) ∧
        1 ≤ fault.line ∧ fault.line ≤ lines.length ∧
        fault.Quotes (Completion.naive.complete lines (fault.line - 1 : Nat)) ∧
        fault.message ≠ unknownError) ∧
      ∃ fault,
        ((locate ⟨.lexical σ, .structural⟩ (some source)).run session).1 = .ok (some fault) ∧
          1 ≤ fault.line ∧ fault.line ≤ lines.length ∧
          if fault.line = lines.length ∧
              check (Completion.structural.complete lines (lines.length - 1 : Nat)) = [] then
            Regions.scan lines ≠ [] ∧ fault.message = unknownError
          else
            fault.Quotes (Completion.structural.complete lines (fault.line - 1 : Nat)) ∧
              fault.message ≠ unknownError := by
  dsimp only
  obtain ⟨raw, hraw, hrawPos, hrawLe, hrawSaid⟩ :=
    exists_run_locate_lexical .naive hshown hrejected session
  obtain ⟨fault, hrun, hpos, hle, hsaid⟩ :=
    exists_run_locate_lexical .structural hshown hrejected session
  have hnaive : ¬(raw.line = source.contentLines.length ∧
      check (Completion.naive.complete source.contentLines
        (source.contentLines.length - 1 : Nat)) = []) := by
    rintro ⟨-, haccepted⟩
    cases (Completion.scan_ne_nil_of_check_complete hshown hrejected haccepted).1
  rw [if_neg hnaive] at hrawSaid
  refine ⟨⟨raw, hraw, hrawPos, hrawLe, hrawSaid⟩, fault, hrun, hpos, hle, ?_⟩
  by_cases hlast : fault.line = source.contentLines.length ∧
      check (Completion.structural.complete source.contentLines
        (source.contentLines.length - 1 : Nat)) = []
  · rw [if_pos hlast] at hsaid ⊢
    exact ⟨(Completion.scan_ne_nil_of_check_complete hshown hrejected hlast.2).2, hsaid⟩
  · rw [if_neg hlast] at hsaid ⊢
    exact hsaid

/-- A function whose body is never closed. -/
def unclosedBodySource : Text := "package a;\nfunction int f() \x7b\nreturn 1;".toList

/-- The raw prefix that ends in the header is rejected for its brace. Completed prefixes all have
it closed, so the last line is blamed and nothing can be said against it. -/
theorem locate_quotes_unclosedBodySource :
    unclosedBodySource.isBlankText = false ∧ check unclosedBodySource ≠ [] ∧
      (∃ fault, ((locate ⟨.lexical Unit, .naive⟩ (some unclosedBodySource)).run (.start ())).1 =
          .ok (some fault) ∧ fault.line = 2 ∧
        fault.Quotes "package a;\nfunction int f() \x7b".toList) ∧
      ∃ fault, ((locate ⟨.lexical Unit, .structural⟩ (some unclosedBodySource)).run (.start ())).1 =
          .ok (some fault) ∧ fault.line = 3 ∧
        Regions.scan unclosedBodySource.contentLines ≠ [] ∧ fault.message = unknownError := by
  have hshown : unclosedBodySource.isBlankText = false := by decide
  have hrejected : check unclosedBodySource ≠ [] := by decide +kernel
  obtain ⟨⟨raw, hraw, -, -, hquotes, -⟩, fault, hrun, -, -, hsaid⟩ :=
    locate_quotes hshown hrejected (.start ())
  obtain ⟨hrawLine, hline, hlast⟩ :
      ((locate ⟨.lexical Unit, .naive⟩ (some unclosedBodySource)).run (.start ())).1.map
          (·.map Fault.line) = .ok (some 2) ∧
        ((locate ⟨.lexical Unit, .structural⟩ (some unclosedBodySource)).run (.start ())).1.map
          (·.map Fault.line) = .ok (some 3) ∧
        check (Completion.structural.complete unclosedBodySource.contentLines (3 - 1 : Nat)) =
          [] := by
    decide +kernel
  rw [hraw] at hrawLine
  rw [hrun] at hline
  have hrawLine : raw.line = 2 := by simpa [Except.map] using hrawLine
  have hline : fault.line = 3 := by simpa [Except.map] using hline
  have hlength : unclosedBodySource.contentLines.length = 3 := by decide +kernel
  rw [hrawLine] at hquotes
  rw [hlength, if_pos ⟨hline, hlast⟩] at hsaid
  exact ⟨hshown, hrejected, ⟨raw, hraw, hrawLine, hquotes⟩, fault, hrun, hline, hsaid⟩

end Finder
end Culprit
