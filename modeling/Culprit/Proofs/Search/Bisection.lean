import Culprit.Proofs.Oracle.Asking
import Culprit.Proofs.Text.Lines
import Culprit.Search
import Mathlib.Order.Bounds.Basic

/-!
# Where a search ends

Nothing is assumed of the oracle: it may contradict itself, keep a state, or fail at any question.
So the search is described by the answers that it got. A run is a chain of probes, each judged in
the session that the one before it left, and the index that a run ends with is singled out by
these judgements: all probed prefixes before it are valid, all others are not, and its two
neighbouring prefixes were probed unless they lie outside of the range. Only when the judgements
are those of a monotone predicate does this make the index the least rejected one.
-/

namespace Culprit

/-- The probes of a search over the indices from `low` to `high` single out the index that is
found: the valid ones are those before it, and both sides of it were looked at unless an end of
the range spares the look. -/
structure Search.SinglesOut (search : Search) (low high : Nat) : Prop where
  low_le : low ≤ search.found
  le_high : search.found ≤ high
  judged : ∀ probe ∈ search.probes, probe.2 = true ↔ probe.1 < search.found
  before : search.found = low ∨ (search.found - 1, true) ∈ search.probes
  reached : search.found = high ∨ (search.found, false) ∈ search.probes

namespace Search

theorem singlesOut_self (index : Nat) : (⟨index, []⟩ : Search).SinglesOut index index where
  low_le := le_rfl
  le_high := le_rfl
  judged := by simp
  before := .inl rfl
  reached := .inl rfl

theorem SinglesOut.after_valid {search : Search} {low middle high : Nat}
    (h : search.SinglesOut (middle + 1) high) (hlow : low ≤ middle) :
    (search.after (middle, true)).SinglesOut low high where
  low_le := by
    have := h.low_le
    simp only [after]
    omega
  le_high := h.le_high
  judged := by
    have := h.low_le
    simpa [after] using ⟨by omega, by simpa using h.judged⟩
  before := by
    right
    rcases h.before with hfound | hprobe
    · simp [after, hfound]
    · exact List.mem_cons_of_mem _ hprobe
  reached := h.reached.imp_right (List.mem_cons_of_mem _)

theorem SinglesOut.after_invalid {search : Search} {low middle high : Nat}
    (h : search.SinglesOut low middle) (hhigh : middle ≤ high) :
    (search.after (middle, false)).SinglesOut low high where
  low_le := h.low_le
  le_high := h.le_high.trans hhigh
  judged := by
    have := h.le_high
    simpa [after] using ⟨by omega, by simpa using h.judged⟩
  before := h.before.imp_right (List.mem_cons_of_mem _)
  reached := by
    right
    rcases h.reached with hfound | hprobe
    · simp [after, hfound]
    · exact List.mem_cons_of_mem _ hprobe

/-- When the judgements are those of a predicate that never turns back to valid, the found index
is the least one that is not valid, or the last one if no other is not valid. -/
theorem SinglesOut.isLeast_or_eq_high {search : Search} {low high : Nat}
    (h : search.SinglesOut low high) {rejected : Nat → Prop}
    (hprobes : ∀ probe ∈ search.probes, probe.2 = true ↔ ¬rejected probe.1)
    (hmono : ∀ first last, first ≤ last → last ≤ high → rejected first → rejected last) :
    IsLeast {index | low ≤ index ∧ index ≤ high ∧ rejected index} search.found ∨
      search.found = high ∧ ∀ index, low ≤ index → index < high → ¬rejected index := by
  -- An earlier rejected index would make the prefix just before the found one rejected too.
  have hbelow : ∀ index, low ≤ index → index < search.found → ¬rejected index := by
    intro index hlow hlt hrejected
    rcases h.before with hfound | hprobe
    · omega
    · have hle := h.le_high
      refine (hprobes _ hprobe).mp rfl (hmono index _ ?_ ?_ hrejected) <;> simp only <;> omega
  rcases h.reached with hfound | hprobe
  · exact .inr ⟨hfound, hfound ▸ hbelow⟩
  · left
    have hrejected : rejected search.found := by
      have := (hprobes _ hprobe).not
      simpa using this
    refine ⟨⟨h.low_le, h.le_high, hrejected⟩, ?_⟩
    rintro index ⟨hlow, -, hindex⟩
    by_contra hlt
    exact hbelow index hlow (by omega) hindex

end Search

namespace Locator

variable {σ : Type}

/-- The probes of a run that leads from one session to another, each with the judgement that it
got in the session reached by then. Between two probes only the log is written. -/
inductive Probed (locator : Locator σ) (lines : List Text) :
    Session σ → List (Nat × Bool) → Session σ → Prop
  | none (session : Session σ) : Probed locator lines session [] session
  | first {session judged final : Session σ} {last : Nat} {verdict : Bool}
      {probes : List (Nat × Bool)} (message : String)
      (hjudged : (locator.isValidUpTo lines last).run session = (verdict, judged))
      (hrest : Probed locator lines ((Session.log .debug .locator message).run judged).2
        probes final) :
      Probed locator lines session ((last, verdict) :: probes) final

abbrev outcome (locator : Locator σ) (lines : List Text) (low high : Nat) (session : Session σ) :
    Search × Session σ :=
  (locator.bisect lines low high).run session

theorem outcome_of_le (locator : Locator σ) (lines : List Text) {low high : Nat}
    (hle : high ≤ low) (session : Session σ) :
    locator.outcome lines low high session = (⟨high, []⟩, session) := by
  rw [outcome, bisect, if_neg (by omega)]
  rfl

theorem outcome_of_valid (locator : Locator σ) (lines : List Text) {low middle high : Nat}
    (hmiddle : middle = low + (high - low) / 2) (hlt : low < high) {session judged : Session σ}
    (hvalid : (locator.isValidUpTo lines middle).run session = (true, judged)) :
    ∃ message, locator.outcome lines low high session =
      let rest := locator.outcome lines (middle + 1) high
        ((Session.log .debug .locator message).run judged).2
      (rest.1.after (middle, true), rest.2) := by
  subst hmiddle
  rw [outcome, bisect, if_pos hlt]
  simp only [StateT.run_bind, hvalid]
  exact ⟨_, rfl⟩

theorem outcome_of_invalid (locator : Locator σ) (lines : List Text) {low middle high : Nat}
    (hmiddle : middle = low + (high - low) / 2) (hlt : low < high) {session judged : Session σ}
    (hinvalid : (locator.isValidUpTo lines middle).run session = (false, judged)) :
    ∃ message, locator.outcome lines low high session =
      let rest := locator.outcome lines low middle
        ((Session.log .debug .locator message).run judged).2
      (rest.1.after (middle, false), rest.2) := by
  subst hmiddle
  rw [outcome, bisect, if_pos hlt]
  simp only [StateT.run_bind, hinvalid]
  exact ⟨_, rfl⟩

/-- Whatever the oracle answers, a search records the judgements that it got, and they single out
the index that it ends with. -/
theorem outcome_spec (locator : Locator σ) (lines : List Text) (low high : Nat) (hle : low ≤ high)
    (session : Session σ) :
    Probed locator lines session (locator.outcome lines low high session).1.probes
        (locator.outcome lines low high session).2 ∧
      (locator.outcome lines low high session).1.SinglesOut low high := by
  -- The range shrinks at each probe, to a half that may keep its middle.
  induction hsize : high - low using Nat.strong_induction_on generalizing low high session with
  | _ size ih =>
    rcases Nat.eq_or_lt_of_le hle with heq | hlt
    · subst heq
      rw [outcome_of_le locator lines le_rfl session]
      exact ⟨.none session, Search.singlesOut_self low⟩
    · obtain ⟨middle, hmiddle⟩ : ∃ middle, middle = low + (high - low) / 2 := ⟨_, rfl⟩
      rcases hverdict : (locator.isValidUpTo lines middle).run session with ⟨verdict, judged⟩
      cases verdict with
      | true =>
        obtain ⟨message, hrun⟩ := outcome_of_valid locator lines hmiddle hlt hverdict
        obtain ⟨hprobed, hout⟩ := ih (high - (middle + 1)) (by omega) (middle + 1) high (by omega)
          ((Session.log .debug .locator message).run judged).2 rfl
        rw [hrun]
        exact ⟨.first message hverdict hprobed, hout.after_valid (by omega)⟩
      | false =>
        obtain ⟨message, hrun⟩ := outcome_of_invalid locator lines hmiddle hlt hverdict
        obtain ⟨hprobed, hout⟩ := ih (middle - low) (by omega) low middle (by omega)
          ((Session.log .debug .locator message).run judged).2 rfl
        rw [hrun]
        exact ⟨.first message hverdict hprobed, hout.after_invalid (by omega)⟩

/-- An oracle whose verdict on a document never changes. -/
def Judges (oracle : Oracle σ) (accepted : Text → Bool) : Prop :=
  ∀ document session, ((Session.accepts oracle document).run session).1 = accepted document

theorem run_accepts (oracle : Oracle σ) (document : Text) (session : Session σ) :
    ((Session.accepts oracle document).run session).1 =
      match ((oracle.isValid document).run session.oracle).1 with
      | .ok accepted => accepted
      | .error _ => false := by
  rw [Session.run_accepts_eq]
  rcases (oracle.isValid document).run session.oracle with ⟨failure | accepted, state⟩ <;> rfl

/-- An oracle that lists the errors of a document without looking at its state judges by whether
there are any. -/
theorem judges_ofErrors (name : String) (errors : Text → List String)
    (close : StateM σ (Except Failure Unit)) :
    Judges (.ofErrors name (fun document => return .ok (errors document)) close)
      fun document => (errors document).isEmpty := by
  intro document session
  rw [run_accepts]
  rfl

/-- Whether a verdict on documents rejects the prefix up to an index. Blank documents are not put
to it. -/
def Rejects (completer : Completer) (accepted : Text → Bool) (lines : List Text) (last : Nat) :
    Prop :=
  (completer lines last).isBlankText = false ∧ accepted (completer lines last) = false

instance (completer : Completer) (accepted : Text → Bool) (lines : List Text) (last : Nat) :
    Decidable (Rejects completer accepted lines last) :=
  inferInstanceAs (Decidable (_ ∧ _))

theorem run_isValidUpTo_of_judges {locator : Locator σ} {accepted : Text → Bool}
    (hjudges : Judges locator.oracle accepted) (lines : List Text) (last : Nat)
    (session : Session σ) :
    ((locator.isValidUpTo lines last).run session).1 = true ↔
      ¬Rejects locator.completer accepted lines last := by
  unfold isValidUpTo Rejects
  by_cases hblank : (locator.completer lines last).isBlankText = true
  · simp only [hblank]
    exact iff_of_true rfl (by simp)
  · simp only [if_neg hblank, hjudges (locator.completer lines last) session]
    simp [hblank]

theorem Probed.verdict_iff {locator : Locator σ} {lines : List Text} {accepted : Text → Bool}
    (hjudges : Judges locator.oracle accepted) {session final : Session σ}
    {probes : List (Nat × Bool)} (h : Probed locator lines session probes final) :
    ∀ probe ∈ probes, probe.2 = true ↔ ¬Rejects locator.completer accepted lines probe.1 := by
  induction h with
  | none => simp
  | first message hjudged hrest ih =>
    intro probe hprobe
    rcases List.mem_cons.mp hprobe with rfl | hmem
    · rw [← run_isValidUpTo_of_judges hjudges lines _ _, hjudged]
    · exact ih probe hmem

/-! ### The whole run -/

/-- Without a source, or with a blank one, nothing is asked. -/
theorem run_locate_of_blank (locator : Locator σ) {source : Option Text}
    (hblank : (source.getD []).isBlankText = true) (session : Session σ) :
    (locator.locate source).run session = (.error .noSource, session) := by
  cases source with
  | none => rfl
  | some source =>
    rw [Option.getD_some] at hblank
    rw [locate, if_pos hblank]
    rfl

theorem run_locate_of_accepted (locator : Locator σ) {source : Text} {session asked : Session σ}
    (hshown : source.isBlankText = false)
    (haccepted : (Session.accepts locator.oracle source).run session = (true, asked)) :
    (locator.locate (some source)).run session =
      (.ok none, asked.logged ⟨.debug, .locator,
        "Source validates as a whole; nothing to locate"⟩) := by
  rw [locate, if_neg (by simp [hshown]), StateT.run_bind, haccepted]
  rfl

theorem run_report (locator : Locator σ) (lines : List Text) (index : Nat) (session : Session σ) :
    (locator.report lines index).run session =
      let asked := (Session.firstMessage locator.oracle (locator.completer lines index)).run session
      (⟨Text.trim (lines.getD index []), index + 1, asked.1⟩, asked.2) := rfl

/-- A source that is not accepted as a whole is searched, and the fault is reported from the
session in which the search ends. -/
theorem run_locate_of_rejected (locator : Locator σ) {source : Text} {session asked : Session σ}
    (hshown : source.isBlankText = false)
    (hrejected : (Session.accepts locator.oracle source).run session = (false, asked)) :
    (locator.locate (some source)).run session =
      let lines := source.contentLines
      let searched := locator.outcome lines 0 (lines.length - 1) asked
      let reported := (locator.report lines searched.1.found).run searched.2
      (.ok (some reported.1), ((Session.log .info .locator
        ("Located fault at line " ++ toString reported.1.line ++ ": "
          ++ reported.1.message)).run reported.2).2) := by
  rw [locate, if_neg (by simp [hshown]), StateT.run_bind, hrejected]
  rfl

/-- What is known of the search of such a source: its probes, the index that they single out, and
the question for the message, with which the run ends. -/
theorem exists_search_of_rejected (locator : Locator σ) {source : Text} {session asked : Session σ}
    (hshown : source.isBlankText = false)
    (hrejected : (Session.accepts locator.oracle source).run session = (false, asked)) :
    ∃ search final record,
      let lines := source.contentLines
      let answered := (Session.firstMessage locator.oracle
        (locator.completer lines search.found)).run final
      locator.outcome lines 0 (lines.length - 1) asked = (search, final) ∧
        Probed locator lines asked search.probes final ∧
        search.SinglesOut 0 (lines.length - 1) ∧ search.found < lines.length ∧
        (locator.locate (some source)).run session =
          (.ok (some ⟨(lines.getD search.found []).trim, search.found + 1, answered.1⟩),
            answered.2.logged record) := by
  have hpos : 0 < source.contentLines.length :=
    List.length_pos_iff.mpr (Text.contentLines_ne_nil hshown)
  obtain ⟨hprobed, hout⟩ := locator.outcome_spec source.contentLines 0
    (source.contentLines.length - 1) (Nat.zero_le _) asked
  have hrun := locator.run_locate_of_rejected hshown hrejected
  simp only [run_report] at hrun
  rcases houtcome : locator.outcome source.contentLines 0 (source.contentLines.length - 1) asked
    with ⟨search, final⟩
  rw [houtcome] at hprobed hout hrun
  have hfound : search.found ≤ source.contentLines.length - 1 := hout.le_high
  exact ⟨search, final, _, houtcome, hprobed, hout, by omega, hrun⟩

theorem Judges.run_locate_eq_none {locator : Locator σ} {accepted : Text → Bool}
    (hjudges : Judges locator.oracle accepted) {source : Text} (hshown : source.isBlankText = false)
    (haccepted : accepted source = true) (session : Session σ) :
    ((locator.locate (some source)).run session).1 = .ok none := by
  obtain ⟨asked, hasked⟩ :
      ∃ asked, (Session.accepts locator.oracle source).run session = (true, asked) :=
    ⟨_, Prod.ext ((hjudges source session).trans haccepted) rfl⟩
  rw [locator.run_locate_of_accepted hshown hasked]

theorem Judges.exists_run_locate_eq_fault {locator : Locator σ} {accepted : Text → Bool}
    (hjudges : Judges locator.oracle accepted) {source : Text} (hshown : source.isBlankText = false)
    (hrejected : accepted source = false) (session : Session σ) :
    ∃ fault, ((locator.locate (some source)).run session).1 = .ok (some fault) := by
  obtain ⟨asked, hasked⟩ :
      ∃ asked, (Session.accepts locator.oracle source).run session = (false, asked) :=
    ⟨_, Prod.ext ((hjudges source session).trans hrejected) rfl⟩
  rw [locator.run_locate_of_rejected hshown hasked]
  exact ⟨_, rfl⟩

/-- With a verdict that rejects every prefix longer than a rejected one, a search over all lines
finds the least rejected prefix, or the last one if none before it is rejected. -/
theorem found_isLeast_or_eq_last {locator : Locator σ} {accepted : Text → Bool}
    (hjudges : Judges locator.oracle accepted) {lines : List Text} (hpos : 0 < lines.length)
    (hmono : ∀ first last, first ≤ last → last < lines.length →
      Rejects locator.completer accepted lines first →
      Rejects locator.completer accepted lines last) (session : Session σ) :
    let found := (locator.outcome lines 0 (lines.length - 1) session).1.found
    IsLeast {index | index < lines.length ∧ Rejects locator.completer accepted lines index} found ∨
      found = lines.length - 1 ∧
        ∀ index < lines.length - 1, ¬Rejects locator.completer accepted lines index := by
  obtain ⟨hprobed, hout⟩ := locator.outcome_spec lines 0 (lines.length - 1) (Nat.zero_le _) session
  refine (hout.isLeast_or_eq_high (hprobed.verdict_iff hjudges) ?_).imp ?_ ?_
  · exact fun first last hle hlast => hmono first last hle (by omega)
  · refine fun hleast => ⟨⟨?_, hleast.1.2.2⟩, fun index hindex => hleast.2 ?_⟩
    · have := hout.le_high
      omega
    · exact ⟨Nat.zero_le _, by have := hindex.1; omega, hindex.2⟩
  · exact fun hlast => ⟨hlast.1, fun index => hlast.2 index (Nat.zero_le _)⟩

/-- **Where a search ends.** Let the whole source be not accepted, whatever else the oracle
answers or fails to answer, and whatever documents are made of the prefixes. The run then is the
question about the whole source, the probes of a search, the question for the message and a last
log record; the fault is at the index that the judgements of these very probes single out. If the
judgements are those of a verdict that rejects every prefix longer than a rejected one, then the
index is the least rejected one, or the last if none before it is rejected. -/
theorem locate_singlesOut (locator : Locator σ) (source : Text) (session : Session σ)
    (hshown : source.isBlankText = false)
    (hrejected : ((Session.accepts locator.oracle source).run session).1 = false) :
    ∃ (search : Search) (final : Session σ) (fault : Fault),
      let lines := source.contentLines
      let asked := (Session.firstMessage locator.oracle
        (locator.completer lines search.found)).run final
      (locator.locate (some source)).run session =
          (.ok (some fault), ((Session.log .info .locator ("Located fault at line "
            ++ toString fault.line ++ ": " ++ fault.message)).run asked.2).2) ∧
        Probed locator lines ((Session.accepts locator.oracle source).run session).2
          search.probes final ∧
        search.SinglesOut 0 (lines.length - 1) ∧
        fault.line = search.found + 1 ∧
        search.found < lines.length ∧
        fault.content = (lines.getD search.found []).trim ∧
        fault.message = asked.1 ∧
        ∀ accepted : Text → Bool, Judges locator.oracle accepted →
          (∀ first last, first ≤ last → last < lines.length →
            Rejects locator.completer accepted lines first →
            Rejects locator.completer accepted lines last) →
          IsLeast {index | index < lines.length ∧ Rejects locator.completer accepted lines index}
              search.found ∨
            search.found = lines.length - 1 ∧
              ∀ index < lines.length - 1, ¬Rejects locator.completer accepted lines index := by
  obtain ⟨asked, hasked⟩ :
      ∃ asked, (Session.accepts locator.oracle source).run session = (false, asked) :=
    ⟨_, Prod.ext hrejected rfl⟩
  have hpos : 0 < source.contentLines.length :=
    List.length_pos_iff.mpr (Text.contentLines_ne_nil hshown)
  obtain ⟨hprobed, hout⟩ := locator.outcome_spec source.contentLines 0
    (source.contentLines.length - 1) (Nat.zero_le _) asked
  refine ⟨_, _, _, run_locate_of_rejected locator hshown hasked, ?_, hout, rfl, ?_, rfl, rfl, ?_⟩
  · rw [hasked]
    exact hprobed
  · have := hout.le_high
    omega
  · exact fun accepted hjudges hmono => found_isLeast_or_eq_last hjudges hpos hmono asked

/-- A search ends between a prefix that is not rejected, or no lines at all, and one that is, or all
lines. -/
theorem Judges.exists_run_locate_between {locator : Locator σ} {accepted : Text → Bool}
    (hjudges : Judges locator.oracle accepted) {source : Text}
    (hshown : source.isBlankText = false) (hrejected : accepted source = false)
    (session : Session σ) :
    let lines := source.contentLines
    ∃ fault, ((locator.locate (some source)).run session).1 = .ok (some fault) ∧
      ∃ index, ∃ hindex : index < lines.length,
        fault.line = index + 1 ∧ fault.content = lines[index].trim ∧
        (index = 0 ∨ ¬Rejects locator.completer accepted lines (index - 1)) ∧
        (index + 1 = lines.length ∨ Rejects locator.completer accepted lines index) := by
  dsimp only
  obtain ⟨asked, hasked⟩ :
      ∃ asked, (Session.accepts locator.oracle source).run session = (false, asked) :=
    ⟨_, Prod.ext ((hjudges source session).trans hrejected) rfl⟩
  obtain ⟨search, final, record, -, hprobed, hout, hfound, hrun⟩ :=
    locator.exists_search_of_rejected hshown hasked
  have hverdict := hprobed.verdict_iff hjudges
  refine ⟨_, congrArg Prod.fst hrun, search.found, hfound, rfl, ?_, ?_, ?_⟩
  · rw [List.getD_eq_getElem?_getD, List.getElem?_eq_getElem hfound, Option.getD_some]
  · exact hout.before.imp_right fun hprobe => (hverdict _ hprobe).mp rfl
  · refine hout.reached.imp (fun hlast => by omega) fun hprobe => ?_
    have hjudged := (hverdict _ hprobe).not
    simpa using hjudged

/-- A line is blamed when every prefix that ends before it is judged valid, and no other is. -/
theorem run_locate_of_rejects_iff (locator : Locator σ) {accepted : Text → Bool}
    (hjudges : Judges locator.oracle accepted) {source : Text} (hshown : source.isBlankText = false)
    (hrejected : accepted source = false) {index : Nat}
    (hindex : index < source.contentLines.length)
    (hrejects : ∀ last < source.contentLines.length,
      Rejects locator.completer accepted source.contentLines last ↔ index ≤ last)
    (session : Session σ) :
    ∃ fault, ((locator.locate (some source)).run session).1 = .ok (some fault) ∧
      fault.line = index + 1 ∧ fault.content = (source.contentLines.getD index []).trim := by
  obtain ⟨fault, hrun, found, hfound, hline, hcontent, hbefore, hreached⟩ :=
    hjudges.exists_run_locate_between hshown hrejected session
  rw [hrejects (found - 1) (by omega)] at hbefore
  rw [hrejects found hfound] at hreached
  obtain rfl : found = index := by omega
  refine ⟨fault, hrun, hline, hcontent.trans ?_⟩
  rw [List.getD_eq_getElem?_getD, List.getElem?_eq_getElem hfound, Option.getD_some]

/-- The errors of a document by an oracle that only minds exclamation marks. -/
def loudErrors (document : Text) : List String := if document.contains '!' then ["loud"] else []

/-- The search with that oracle over raw prefixes. -/
def loudness : Locator Unit where
  oracle := .ofErrors "loudness" (fun document => return .ok (loudErrors document)) (return .ok ())
  completer := Completion.naive.complete

/-- Of three lines the one with the exclamation mark is found. -/
theorem locate_singlesOut_loudness :
    Text.isBlankText "a\nb!\nc".toList = false ∧
      ((Session.accepts loudness.oracle "a\nb!\nc".toList).run (Session.start ())).1 = false ∧
      ∃ fault, ((loudness.locate (some "a\nb!\nc".toList)).run (Session.start ())).1 =
        .ok (some fault) ∧ fault.line = 2 ∧ fault.content = "b!".toList := by
  refine ⟨rfl, rfl, ?_⟩
  obtain ⟨search, final, fault, hrun, -, -, hline, -, hcontent, -, hleast⟩ :=
    locate_singlesOut loudness "a\nb!\nc".toList (Session.start ()) rfl rfl
  have hlines : Text.contentLines "a\nb!\nc".toList = [['a'], ['b', '!'], ['c']] := rfl
  have hrejects : ∀ index < 3, Rejects loudness.completer (fun text => (loudErrors text).isEmpty)
      [['a'], ['b', '!'], ['c']] index ↔ 1 ≤ index := by decide
  rw [hlines] at hcontent hleast
  have hfound : search.found = 1 := by
    rcases hleast _ (judges_ofErrors _ loudErrors _) fun first last hle hlast hfirst =>
        (hrejects last hlast).mpr
          (((hrejects first (hle.trans_lt hlast)).mp hfirst).trans hle) with hmin | ⟨-, hnone⟩
    · exact le_antisymm (hmin.2 ⟨by decide, (hrejects 1 (by decide)).mpr le_rfl⟩)
        ((hrejects _ hmin.1.1).mp hmin.1.2)
    · exact absurd ((hrejects 1 (by decide)).mpr le_rfl) (hnone 1 (by decide))
  exact ⟨fault, by rw [hrun], by omega, by rw [hcontent, hfound]; rfl⟩

end Locator
end Culprit
