import Culprit.Proofs.Search.Crashes
import Culprit.Proofs.Search.LineWise
import Mathlib.Data.Nat.Log

/-!
# What a search asks

Asking is what a search costs. It asks about the whole source first, and if that is not valid, about
prefixes of it, each a different one and none of them the last, and in the end for the message of
the fault that it reports. Each probe leaves at most the larger half of a range, so their number is
bounded by the binary logarithm of the number of lines; a probe of a blank prefix costs nothing. The
questions are counted twice: the journal lists them, and the state of the oracle is what just these
questions make of it, so that nothing is asked without being written down.
-/

namespace Culprit

variable {σ : Type}

/-! ### Asked questions -/

/-- The state of an oracle behind a question, whatever the answer is. -/
def Oracle.stateBehind (oracle : Oracle σ) (state : σ) : Question × Text → σ
  | (.errors, document) => ((oracle.errors document).run state).2
  | (.isValid, document) => ((oracle.isValid document).run state).2
  | (.firstError, document) => ((oracle.firstError document).run state).2

namespace Session

/-- From one session to another the oracle has been asked just these questions, in this order. -/
structure Asks (oracle : Oracle σ) (session : Session σ) (questions : List (Question × Text))
    (final : Session σ) : Prop where
  journal : final.journal.questions = session.journal.questions ++ questions
  state : final.oracle = questions.foldl oracle.stateBehind session.oracle

variable {oracle : Oracle σ} {session middle final : Session σ}
  {first second : List (Question × Text)}

theorem Asks.nothing (oracle : Oracle σ) (session : Session σ) : Asks oracle session [] session :=
  ⟨(List.append_nil _).symm, rfl⟩

theorem Asks.append (hfirst : Asks oracle session first middle)
    (hsecond : Asks oracle middle second final) : Asks oracle session (first ++ second) final where
  journal := by rw [hsecond.journal, hfirst.journal, List.append_assoc]
  state := by rw [hsecond.state, hfirst.state, List.foldl_append]

theorem Asks.logged (h : Asks oracle session first final) (record : LogRecord) :
    Asks oracle session first (final.logged record) :=
  ⟨(questions_logged final record).trans h.journal, h.state⟩

theorem asks_accepts (oracle : Oracle σ) (document : Text) (session : Session σ) :
    Asks oracle session [(.isValid, document)] ((accepts oracle document).run session).2 := by
  have hasking : Asks oracle session [(.isValid, document)]
      (session.asking .isValid document ((oracle.isValid document).run session.oracle).2) :=
    ⟨questions_asking _ _ _ _, rfl⟩
  rw [run_accepts_eq]
  rcases hanswer : (oracle.isValid document).run session.oracle with ⟨failure | accepted, state⟩ <;>
    rw [hanswer] at hasking
  · exact hasking.logged _
  · exact hasking

theorem asks_firstMessage (oracle : Oracle σ) (document : Text) (session : Session σ) :
    Asks oracle session [(.firstError, document)]
      ((firstMessage oracle document).run session).2 := by
  have hasking : Asks oracle session [(.firstError, document)]
      (session.asking .firstError document ((oracle.firstError document).run session.oracle).2) :=
    ⟨questions_asking _ _ _ _, rfl⟩
  rw [run_firstMessage_eq]
  rcases hanswer : (oracle.firstError document).run session.oracle with ⟨_ | message, state⟩ <;>
    rw [hanswer] at hasking
  · exact hasking.logged _
  · exact hasking

end Session

open Session

/-! ### Halving a range -/

theorem clog_two_succ {size : Nat} (hpos : 0 < size) :
    Nat.clog 2 (size + 1) = Nat.clog 2 (size / 2 + 1) + 1 := by
  rw [Nat.clog_of_one_lt (by omega) (by omega)]
  congr 2
  omega

namespace Search

/-- The probes of a search are at different indices of a range without its last one, and there are
no more of them than it takes to halve the range down to one index. -/
structure Halves (search : Search) (low high : Nat) : Prop where
  nodup : (search.probes.map Prod.fst).Nodup
  range : ∀ index ∈ search.probes.map Prod.fst, low ≤ index ∧ index < high
  length_le : search.probes.length ≤ Nat.clog 2 (high - low + 1)

variable {search : Search} {low middle high : Nat}

theorem halves_self (index : Nat) : (⟨index, []⟩ : Search).Halves index index where
  nodup := List.nodup_nil
  range := by simp
  length_le := Nat.zero_le _

/-- A probe leaves a part of the range without the probed index, of half the size at most. -/
theorem Halves.after_probe {first last : Nat} (h : search.Halves first last) (hlow : low ≤ first)
    (hhigh : last ≤ high) (houtside : middle < first ∨ last ≤ middle)
    (hmiddle : low ≤ middle ∧ middle < high) (hhalf : last - first ≤ (high - low) / 2)
    (verdict : Bool) : (search.after (middle, verdict)).Halves low high where
  nodup := by
    refine List.nodup_cons.mpr ⟨fun hmem => ?_, h.nodup⟩
    have := h.range middle hmem
    omega
  range := by
    refine List.forall_mem_cons.mpr ⟨hmiddle, fun index hmem => ?_⟩
    have := h.range index hmem
    omega
  length_le := by
    have hbound := h.length_le.trans (Nat.clog_mono_right 2 (Nat.succ_le_succ hhalf))
    rw [clog_two_succ (by omega)]
    exact Nat.succ_le_succ hbound

end Search

namespace Locator

variable {locator : Locator σ} {lines : List Text} {session final : Session σ}
  {probes : List (Nat × Bool)}

theorem halves_outcome (locator : Locator σ) (lines : List Text) (low high : Nat)
    (hle : low ≤ high) (session : Session σ) :
    (locator.outcome lines low high session).1.Halves low high := by
  -- The same recursion as that of the search, without a look at the answers.
  induction hsize : high - low using Nat.strong_induction_on generalizing low high session with
  | _ size ih =>
    rcases Nat.eq_or_lt_of_le hle with heq | hlt
    · subst heq
      rw [outcome_of_le locator lines le_rfl session]
      exact Search.halves_self low
    · obtain ⟨middle, hmiddle⟩ : ∃ middle, middle = low + (high - low) / 2 := ⟨_, rfl⟩
      rcases hverdict : (locator.isValidUpTo lines middle).run session with ⟨verdict, judged⟩
      cases verdict with
      | true =>
        obtain ⟨message, hrun⟩ := outcome_of_valid locator lines hmiddle hlt hverdict
        rw [hrun]
        exact (ih _ (by omega) (middle + 1) high (by omega) _ rfl).after_probe (by omega) le_rfl
          (.inl middle.lt_succ_self) (by omega) (by omega) true
      | false =>
        obtain ⟨message, hrun⟩ := outcome_of_invalid locator lines hmiddle hlt hverdict
        rw [hrun]
        exact (ih _ (by omega) low middle (by omega) _ rfl).after_probe le_rfl (by omega)
          (.inr le_rfl) (by omega) (by omega) false

/-! ### The questions of a run -/

/-- The probed indices that the oracle is asked about: those whose documents are not blank. -/
def askedIndices (locator : Locator σ) (lines : List Text) (probes : List (Nat × Bool)) :
    List Nat :=
  (probes.map Prod.fst).filter fun last => !(locator.completer lines last).isBlankText

/-- The question whether the prefix up to an index is valid. -/
def prefixQuestion (locator : Locator σ) (lines : List Text) (last : Nat) : Question × Text :=
  (.isValid, locator.completer lines last)

theorem asks_isValidUpTo (locator : Locator σ) (lines : List Text) (last : Nat)
    (session : Session σ) :
    Asks locator.oracle session
      (if (locator.completer lines last).isBlankText then [] else
        [locator.prefixQuestion lines last])
      ((locator.isValidUpTo lines last).run session).2 := by
  unfold isValidUpTo
  by_cases hblank : (locator.completer lines last).isBlankText = true
  · simp only [if_pos hblank]
    exact .nothing _ _
  · simp only [if_neg hblank]
    exact asks_accepts _ _ _

theorem Probed.asks (h : Probed locator lines session probes final) :
    Asks locator.oracle session
      ((locator.askedIndices lines probes).map (locator.prefixQuestion lines)) final := by
  induction h with
  | none session => exact .nothing _ session
  | @first session judged final last verdict probes message hjudged hrest ih =>
    have hprobe := locator.asks_isValidUpTo lines last session
    rw [hjudged] at hprobe
    have hrun := (hprobe.logged ⟨.debug, .locator, message⟩).append ih
    by_cases hblank : (locator.completer lines last).isBlankText = true
    · simpa [askedIndices, hblank] using hrun
    · simpa [askedIndices, hblank] using hrun

theorem isBlankText_of_run_isValidUpTo {last : Nat} {judged : Session σ}
    (h : (locator.isValidUpTo lines last).run session = (false, judged)) :
    (locator.completer lines last).isBlankText = false := by
  by_contra hblank
  rw [isValidUpTo, if_pos (by simpa using hblank)] at h
  cases (Prod.mk.inj h).1

/-- A prefix that is judged not valid is not blank. -/
theorem Probed.isBlankText_eq_false (h : Probed locator lines session probes final) {last : Nat}
    (hprobe : (last, false) ∈ probes) : (locator.completer lines last).isBlankText = false := by
  induction h with
  | none => simp at hprobe
  | first message hjudged hrest ih =>
    rcases List.mem_cons.mp hprobe with heq | hmem
    · obtain ⟨rfl, rfl⟩ := Prod.mk.inj heq
      exact isBlankText_of_run_isValidUpTo hjudged
    · exact ih hmem

end Locator

/-! ### Blank documents -/

/-- A source and its content show the same. -/
theorem Text.all_isBlankText_contentLines (source : Text) :
    source.contentLines.all isBlankText = source.isBlankText := by
  obtain ⟨count, hlines⟩ := contentLines_append source
  have hempty : (List.replicate count ([] : Text)).all isBlankText = true := by simp
  rw [← congrArg isBlankText (unlines_lines source), isBlankText_unlines, hlines,
    List.all_append, hempty, Bool.and_true]

/-- The whole source shows something, and so does its completion. -/
theorem Completion.isBlankText_complete_of_last (completion : Completion) {source : Text}
    (hshown : source.isBlankText = false) {last : Nat}
    (hlast : last + 1 = source.contentLines.length) :
    (completion.complete source.contentLines last).isBlankText = false := by
  obtain ⟨suffix, hdocument, -⟩ := completion.exists_ofLines_eq source.contentLines
  rw [complete, firstLines_natCast, hlast, List.take_length, hdocument, Text.isBlankText_unlines,
    List.all_append, Text.all_isBlankText_contentLines, hshown, Bool.false_and]

theorem Session.isValid_ne_of_run_accepts {oracle : Oracle σ} {document : Text}
    {session asked : Session σ} (h : (accepts oracle document).run session = (false, asked)) :
    ((oracle.isValid document).run session.oracle).1 ≠ .ok true := by
  intro hvalid
  have hrun := Locator.run_accepts oracle document session
  rw [h, hvalid] at hrun
  cases hrun

namespace Locator

/-- The prefix that a search ends with was judged not valid, or it is the whole source. -/
theorem Probed.isBlankText_found {completion : Completion} {source : Text} {search : Search}
    (hcompleter : locator.completer = completion.complete) (hshown : source.isBlankText = false)
    (hprobed : Probed locator source.contentLines session search.probes final)
    (hout : search.SinglesOut 0 (source.contentLines.length - 1)) :
    (locator.completer source.contentLines search.found).isBlankText = false := by
  have hpos : 0 < source.contentLines.length :=
    List.length_pos_iff.mpr (Text.contentLines_ne_nil hshown)
  rcases hout.reached with hlast | hprobe
  · rw [hcompleter]
    exact completion.isBlankText_complete_of_last hshown (by omega)
  · exact hprobed.isBlankText_eq_false hprobe

/-- **What a search asks.** Take a source that is not blank and any oracle and completer. The first
question is whether the source is valid, and if the oracle says so, it is the only one, and nothing
is blamed. Otherwise some prefixes follow, all different, none of them the whole, and at most as
many as the binary logarithm of the number of lines, rounded up; and the last question is for the
first error of the prefix that ends in the blamed line. With either completion no question is about
a blank document. -/
theorem locate_asks (locator : Locator σ) (source : Text) (session : Session σ)
    (hshown : source.isBlankText = false) :
    ∃ (found : Option Fault) (final : Session σ) (indices : List Nat)
      (questions : List (Question × Text)),
      let lines := source.contentLines
      (locator.locate (some source)).run session = (.ok found, final) ∧
        Asks locator.oracle session questions final ∧
        (found = none ↔ ((locator.oracle.isValid source).run session.oracle).1 = .ok true) ∧
        (match found with
          | none => questions = [(.isValid, source)]
          | some fault => 1 ≤ fault.line ∧ fault.line ≤ lines.length ∧
            questions = (.isValid, source) ::
              (indices.map fun last => (.isValid, locator.completer lines (last : Nat))) ++
                [(.firstError, locator.completer lines (fault.line - 1 : Nat))]) ∧
        indices.Nodup ∧
        (∀ last ∈ indices, last < lines.length - 1) ∧
        indices.length ≤ Nat.clog 2 lines.length ∧
        ∀ completion : Completion, locator.completer = completion.complete →
          ∀ question ∈ questions, question.2.isBlankText = false := by
  have hfirst := asks_accepts locator.oracle source session
  rcases haccepted : (accepts locator.oracle source).run session with ⟨accepted, asked⟩
  rw [haccepted] at hfirst
  cases accepted with
  | true =>
    obtain ⟨state, hvalid, -⟩ := exists_of_run_accepts_eq_true haccepted
    refine ⟨none, _, [], _, locator.run_locate_of_accepted hshown haccepted, hfirst.logged _,
      iff_of_true rfl (congrArg Prod.fst hvalid), rfl, List.nodup_nil, by simp, Nat.zero_le _, ?_⟩
    simpa using fun _ _ => hshown
  | false =>
    obtain ⟨search, searched, record, houtcome, hprobed, hout, hfound, hrun⟩ :=
      locator.exists_search_of_rejected hshown haccepted
    have hhalves := locator.halves_outcome source.contentLines 0
      (source.contentLines.length - 1) (Nat.zero_le _) asked
    rw [houtcome] at hhalves
    have hlast := asks_firstMessage locator.oracle
      (locator.completer source.contentLines search.found) searched
    have hsize : source.contentLines.length - 1 - 0 + 1 = source.contentLines.length := by omega
    refine ⟨_, _, locator.askedIndices source.contentLines search.probes, _, hrun,
      ((hfirst.append hprobed.asks).append hlast).logged _,
      iff_of_false (by simp) (isValid_ne_of_run_accepts haccepted),
      ⟨Nat.succ_pos _, hfound, rfl⟩, ?_, ?_, ?_, ?_⟩
    · exact hhalves.nodup.filter _
    · exact fun last hmem => (hhalves.range last (List.mem_of_mem_filter hmem)).2
    · calc (locator.askedIndices source.contentLines search.probes).length
          ≤ (search.probes.map Prod.fst).length := List.length_filter_le _ _
        _ = search.probes.length := List.length_map _
        _ ≤ Nat.clog 2 source.contentLines.length := hsize ▸ hhalves.length_le
    · intro completion hcompleter question hquestion
      rcases List.mem_append.mp hquestion with hfront | hend
      · rcases List.mem_cons.mp hfront with rfl | hprobe
        · exact hshown
        · obtain ⟨last, hmem, rfl⟩ := List.mem_map.mp hprobe
          simpa [prefixQuestion] using (List.mem_filter.mp hmem).2
      · obtain rfl := List.mem_singleton.mp hend
        exact hprobed.isBlankText_found hcompleter hshown hout

/-- Two lines behind three empty ones. -/
def lowSource : Text := "\n\n\na!\nb".toList

/-- The middle of five lines is blank, so of their prefixes only that of four lines is asked about;
three would have been allowed. -/
theorem locate_asks_lowSource :
    let questions := ((loudness.locate (some lowSource)).run (.start ())).2.journal.questions
    lowSource.isBlankText = false ∧
      questions = [(.isValid, lowSource), (.isValid, "\n\n\na!".toList),
        (.firstError, "\n\n\na!".toList)] ∧
      ∃ indices : List Nat, indices.Nodup ∧ (∀ last ∈ indices, last < 4) ∧ indices.length ≤ 3 ∧
        questions = (.isValid, lowSource) ::
          (indices.map fun last => (.isValid, Completion.naive.complete lowSource.contentLines
            (last : Nat))) ++ [(.firstError, "\n\n\na!".toList)] := by
  intro questions
  have hshown : lowSource.isBlankText = false := by decide
  obtain ⟨found, final, indices, asked, hrun, hasks, -, hasked, hnodup, hrange, hlength, -⟩ :=
    locate_asks loudness lowSource (.start ()) hshown
  obtain ⟨hlocated, hquestions⟩ :
      ((loudness.locate (some lowSource)).run (.start ())).1 =
          .ok (some ⟨"a!".toList, 4, "loud"⟩) ∧
        questions = [(.isValid, lowSource), (.isValid, "\n\n\na!".toList),
          (.firstError, "\n\n\na!".toList)] := by decide +kernel
  have hlines : lowSource.contentLines.length = 5 := by decide +kernel
  have hclog : Nat.clog 2 5 = 3 := by decide +kernel
  have hjournal : questions = asked := (congrArg (·.2.journal.questions) hrun).trans hasks.journal
  rw [hrun] at hlocated
  obtain rfl : found = _ := Except.ok.inj hlocated
  rw [hlines] at hrange hlength
  exact ⟨hshown, hquestions, indices, hnodup, hrange, hclog ▸ hlength,
    hjournal.trans hasked.2.2⟩

end Locator
end Culprit
