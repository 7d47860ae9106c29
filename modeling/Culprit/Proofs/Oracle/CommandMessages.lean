import Culprit.Oracle.Command
import Culprit.Proofs.Text.Trim

/-!
# The messages of a verifier command

The messages are cut from the two streams of a command at once, with a line feed between them, and
cutting does not commute with that: behind a line that has not ended the line feed ends it, and
behind a boundary, or in front of everything, it makes an empty line. Cut into pieces instead, of
which one stands behind the last boundary in any case, the streams come apart at the line feed. The
pieces are the lines and perhaps an empty one, and a message is made only of what shows something,
so the two ways of cutting give the same messages.
-/

namespace Culprit

namespace Text

/-! ### What a text shows -/

/-- The characters of a text that are not blank. -/
def shown (text : Text) : Text := text.filter fun c => !isBlank c

@[simp] theorem shown_nil : shown [] = [] := rfl

@[simp] theorem shown_append (first second : Text) :
    shown (first ++ second) = shown first ++ shown second := List.filter_append first second

theorem shown_eq_nil_iff {text : Text} : shown text = [] ↔ isBlankText text = true := by
  simp [shown, isBlankText, List.filter_eq_nil_iff]

/-- Trimming takes nothing but blanks away. -/
theorem shown_trim (text : Text) : shown (trim text) = shown text := by
  obtain ⟨front, back, hfront, hback, htext⟩ := exists_trim text
  calc shown (trim text) = shown (front ++ trim text ++ back) := by
        rw [shown_append, shown_append, shown_eq_nil_iff.mpr hfront, shown_eq_nil_iff.mpr hback,
          List.nil_append, List.append_nil]
    _ = shown text := by rw [← htext]

theorem isBlankText_trim (text : Text) : isBlankText (trim text) = isBlankText text := by
  rw [Bool.eq_iff_iff, ← shown_eq_nil_iff, shown_trim, shown_eq_nil_iff]

theorem isEmpty_trim (text : Text) : (trim text).isEmpty = isBlankText text := by
  rw [Bool.eq_iff_iff, List.isEmpty_iff, trim_eq_nil_iff]

theorem mem_of_mem_trim {text : Text} {c : Char} (hc : c ∈ trim text) : c ∈ text := by
  obtain ⟨front, back, -, -, htext⟩ := exists_trim text
  rw [htext]
  simp [hc]

/-! ### The lines of an output -/

theorem exists_outputLines_cons (c : Char) (rest : Text) :
    ∃ line others, outputLines (c :: rest) = line :: others := by
  rw [outputLines]
  split
  · exact ⟨_, _, rfl⟩
  · split <;> exact ⟨_, _, rfl⟩

/-- The pieces of an output between its boundaries are its lines, and an empty one if it is empty or
ends in a boundary. -/
theorem splitOnP_eq_outputLines (output : Text) :
    output.splitOnP isLineBoundary =
      outputLines output ++ if output.getLast?.all isLineBoundary then [[]] else [] := by
  induction output with
  | nil => rfl
  | cons c rest ih =>
    rw [List.splitOnP_cons_eq_if_modifyHead, ih, outputLines]
    rcases rest with _ | ⟨next, rest⟩
    · cases hc : isLineBoundary c <;> simp [outputLines, hc]
    · rw [List.getLast?_cons_cons]
      cases hc : isLineBoundary c with
      | true => rfl
      | false =>
        obtain ⟨line, others, hlines⟩ := exists_outputLines_cons next rest
        rw [hlines]
        rfl

/-- Cutting takes nothing away but what it cuts at. -/
theorem flatten_splitOnP (property : Char → Bool) (text : Text) :
    (text.splitOnP property).flatten = text.filter fun c => !property c := by
  induction text with
  | nil => rfl
  | cons c rest ih =>
    obtain ⟨piece, others, hpieces⟩ :=
      List.exists_cons_of_ne_nil (List.splitOnP_ne_nil property rest)
    rw [hpieces, List.flatten_cons] at ih
    rw [List.splitOnP_cons_eq_if_modifyHead, hpieces]
    cases hc : property c <;> simp [hc, ih]

/-- What ends a line is blank itself. -/
theorem isBlank_of_isLineBoundary {c : Char} (hc : isLineBoundary c = true) : isBlank c = true := by
  simp only [isLineBoundary, isBlank, Bool.or_eq_true, Bool.and_eq_true, decide_eq_true_eq,
    beq_iff_eq] at hc ⊢
  omega

/-- The lines of an output that show something, each without the blanks around it. -/
def shownLines (output : Text) : List Text :=
  ((output.splitOnP isLineBoundary).filter fun piece => !isBlankText piece).map trim

theorem shownLines_eq_outputLines (output : Text) :
    shownLines output = ((outputLines output).filter fun line => !isBlankText line).map trim := by
  rw [shownLines, splitOnP_eq_outputLines, List.filter_append]
  split <;> simp

/-- A boundary between two outputs keeps their lines apart, whether or not it ends a line. -/
theorem shownLines_append {c : Char} (hc : isLineBoundary c = true) (first second : Text) :
    shownLines (first ++ c :: second) = shownLines first ++ shownLines second := by
  rw [shownLines, List.splitOnP_append_cons first second hc, List.filter_append, List.map_append,
    shownLines, shownLines]

theorem of_mem_shownLines {output line : Text} (hline : line ∈ shownLines output) :
    isBlankText line = false ∧ ∀ c ∈ line, isLineBoundary c = false := by
  obtain ⟨piece, hpiece, rfl⟩ := List.mem_map.mp hline
  obtain ⟨hcut, hshows⟩ := List.mem_filter.mp hpiece
  refine ⟨by simpa [isBlankText_trim] using hshows, fun c hc => ?_⟩
  have hkept : c ∈ (output.splitOnP isLineBoundary).flatten :=
    List.mem_flatten.mpr ⟨piece, hcut, mem_of_mem_trim hc⟩
  rw [flatten_splitOnP] at hkept
  simpa using (List.mem_filter.mp hkept).2

/-- Nothing is lost with the pieces that are left out and the blanks that are trimmed off. -/
theorem shown_flatten_map_trim (pieces : List Text) :
    shown ((pieces.filter fun piece => !isBlankText piece).map trim).flatten =
      shown pieces.flatten := by
  induction pieces with
  | nil => rfl
  | cons piece others ih =>
    rw [List.flatten_cons, shown_append, ← ih]
    cases hblank : isBlankText piece with
    | true => simp [hblank, shown_eq_nil_iff.mpr hblank]
    | false => simp [hblank, shown_trim]

/-- The shown lines show what the output shows, in the same order. -/
theorem shown_flatten_shownLines (output : Text) :
    shown (shownLines output).flatten = shown output := by
  rw [shownLines, shown_flatten_map_trim, flatten_splitOnP, shown, List.filter_filter]
  refine List.filter_congr fun c _ => ?_
  cases hc : isLineBoundary c with
  | true => simp [isBlank_of_isLineBoundary hc]
  | false => simp

end Text

namespace Command

open Text (shown shownLines)

variable {σ : Type}

/-! ### The messages of a run -/

theorem messageLines_eq (output : Text) :
    messageLines output = (shownLines output).map String.ofList := by
  have hkept : ((fun line : Text => !line.isEmpty) ∘ Text.trim) =
      fun line => !Text.isBlankText line := by
    funext line
    rw [Function.comp_apply, Text.isEmpty_trim]
  rw [messageLines, Text.shownLines_eq_outputLines, List.filter_map, hkept]

theorem messages_eq (errors output : Text) :
    let found := shownLines errors ++ shownLines output
    messages errors output = if found = [] then [""] else found.map String.ofList := by
  intro found
  have hfound : messageLines (errors ++ ['\n'] ++ output) = found.map String.ofList := by
    rw [messageLines_eq, List.append_assoc, List.singleton_append, Text.shownLines_append rfl]
  rw [messages, hfound]
  simp

/-! ### The answer of a run -/

variable {run : Runner σ} {setup : Setup} {name : Text} {arguments : List Text} {document : Text}
  {status : Int} {errors output : Bytes}

/-- Words that can be run are, and the answer is read off the outcome. -/
theorem run_ask_eq (hwords : setup.words = name :: arguments)
    (hzero : '\x00' ∉ (name :: arguments).flatten) (state : σ) :
    ((ask run setup document).run state).1 =
      ((run name arguments (Utf8.encode document) setup.limit.value).run state).1.answer name
        setup.limit := by
  rw [ask, hwords]
  simp only
  rw [if_neg (by simpa using hzero)]
  rfl

/-- **The messages of a command are the lines that it wrote.** Let a run of the command end with a
status that is not zero. The errors of the document are the lines of the error stream that show
something, trimmed and in their order, and behind them those of the output; if there are none, then
they are a single empty message. No line shows nothing or goes on beyond a boundary, and all that
the two streams show is in the lines, in the same order. -/
theorem run_errors_of_ended (hwords : setup.words = name :: arguments)
    (hzero : '\x00' ∉ (name :: arguments).flatten)
    {state : σ}
    (hended : ((run name arguments (Utf8.encode document) setup.limit.value).run state).1 =
      .ended status errors output)
    (hstatus : status ≠ 0) :
    let found := shownLines (decodeOutput errors) ++ shownLines (decodeOutput output)
    (((oracle run setup).errors document).run state).1 =
        .ok (if found = [] then [""] else found.map String.ofList) ∧
      (∀ line ∈ found, line.isBlankText = false ∧ ∀ c ∈ line, Text.isLineBoundary c = false) ∧
      shown found.flatten = shown (decodeOutput errors ++ decodeOutput output) := by
  intro found
  refine ⟨?_, fun line hline => ?_, ?_⟩
  · have hreply : (((oracle run setup).errors document).run state).1 =
        ((ask run setup document).run state).1.map Answer.messages := rfl
    rw [hreply, run_ask_eq hwords hzero, hended, Outcome.answer, Except.map, Answer.messages,
      if_neg hstatus, messages_eq]
  · rcases List.mem_append.mp hline with hfirst | hsecond
    · exact Text.of_mem_shownLines hfirst
    · exact Text.of_mem_shownLines hsecond
  · rw [List.flatten_append, Text.shown_append, Text.shown_append, Text.shown_flatten_shownLines,
      Text.shown_flatten_shownLines]

/-- Every program ends with this status and writes these texts as its errors and its output. -/
def ending (status : Int) (errors output : String) : Runner Unit := fun _ _ _ _ =>
  return .ended status (Utf8.encode errors.toList) (Utf8.encode output.toList)

/-- An error stream that ends within a line, in front of an output that begins with a boundary, and
two streams of blanks and boundaries only. -/
theorem run_errors_of_ended_unfinished :
    let setup : Setup := ⟨["verify".toList], .whole 30⟩
    let unfinished := ending 3 " no type\u2028\x1c\t\r\nno end" "\x0b at 3\u0085"
    let silent := ending 1 " \x1e" "\u2029\r"
    (((oracle unfinished setup).errors ['x']).run ()).1 = .ok ["no type", "no end", "at 3"] ∧
      (((oracle silent setup).errors ['x']).run ()).1 = .ok [""] := by
  intro setup unfinished silent
  have hwords : setup.words = ["verify".toList] := rfl
  have hended : ∀ status errors output,
      ((ending status errors output "verify".toList [] (Utf8.encode ['x'])
          setup.limit.value).run ()).1 =
        .ended status (Utf8.encode errors.toList) (Utf8.encode output.toList) :=
    fun _ _ _ => rfl
  constructor
  · rw [(run_errors_of_ended hwords (by decide) (hended 3 _ _) (by decide)).1]
    decide +kernel
  · rw [(run_errors_of_ended hwords (by decide) (hended 1 _ _) (by decide)).1]
    decide +kernel

end Command
end Culprit
