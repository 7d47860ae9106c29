import Culprit.Oracle.Lexical
import Culprit.Proofs.Rules.ClosingQuote
import Culprit.Proofs.Rules.Delimiters

/-!
# Where diagnostics point

A diagnostic gets its place in one of four readings, and some of them carry it a long way: past the
lines of a comment that never ends, past all that an open bracket encloses, from the header of a
block to the end of the document. What it speaks of stands at that place in the source, and sorting
only changes the order, so the first diagnostic is one with the earliest place.
-/

namespace Culprit

/-- The position is that of a character: a line of the source and a column of this line. -/
structure Text.HasPlace (source : Text) (position : Position) : Prop where
  one_le_line : 1 ≤ position.line
  line_le : position.line ≤ source.lines.length
  one_le_column : 1 ≤ position.column
  column_le : ∃ line, source.lines[position.line - 1]? = some line ∧ position.column ≤ line.length

/-- A mark that begins a comment stands at a column of a line, counted from the given one, and no
mark that ends it stands behind it. -/
def Text.LeavesOpen (line : Text) (first column : Nat) : Prop :=
  ∃ front back, line = front ++ '/' :: '*' :: back ∧ column = first + front.length ∧
    ¬['*', '/'] <:+: back

/-- The same for lines that are numbered from the given number on: the comment is closed neither in
its line nor in any line behind it. -/
def LeavesOpen (first : Nat) (lines : List Text) (position : Position) : Prop :=
  ∃ before line behind, lines = before ++ line :: behind ∧
    position.line = first + before.length ∧ Text.LeavesOpen line 1 position.column ∧
    ∀ later ∈ behind, ¬['*', '/'] <:+: later

/-- What stands at the place of a diagnostic is what its problem speaks of. -/
def Diagnostic.PointsInto (source : Text) (found : Diagnostic) : Prop :=
  match found.problem with
  | .unexpectedCloser bracket =>
    source.charAt? found.position = some bracket.closer ∧
      found.problem.message = "Unexpected '" ++ String.ofList [bracket.closer] ++ "'"
  | .unclosedOpener bracket =>
    source.charAt? found.position = some bracket.opener ∧
      found.problem.message = "Unclosed '" ++ String.ofList [bracket.opener] ++ "' (expected '" ++
        String.ofList [bracket.closer] ++ "' before end of input)"
  | .unterminatedString =>
    ∃ line quote, source.lines[found.position.line - 1]? = some line ∧
      source.charAt? found.position = some quote ∧ isQuote quote = true ∧
      ∀ place, ¬Text.Closes quote line (found.position.column - 1) place
  | .unterminatedComment => LeavesOpen 1 source.lines found.position
  | _ =>
    found.position.column = 1 ∧
      ∃ line ∈ stripLines source.lines, line.number = found.position.line ∧ line.text ≠ []

/-! ### Literals that are not closed -/

/-- The column that is kept for a literal is that of its quote, whose reader runs off the line. -/
theorem Text.exists_of_unclosedQuote_strip {number column place : Nat}
    {openComment : Option Position} {text : Text}
    (h : (text.strip number column openComment).unclosedQuote = some place) :
    ∃ offset quote, place = column + offset ∧ text[offset]? = some quote ∧ isQuote quote = true ∧
      literalLength? quote (text.drop (offset + 1)) = none := by
  -- As for the characters of code, every case goes on behind some characters.
  fun_induction Text.strip number column openComment text with
  | case1 => simp [StrippedText.nothing] at h
  | case2 column rest opened ih =>
    obtain ⟨offset, quote, hplace, hchar, hquote⟩ := ih h
    exact ⟨offset + 2, quote, by omega, hchar, hquote⟩
  | case3 column c rest opened hclose ih =>
    obtain ⟨offset, quote, hplace, hchar, hquote⟩ := ih h
    exact ⟨offset + 1, quote, by omega, hchar, hquote⟩
  | case4 => simp [StrippedText.nothing] at h
  | case5 column rest ih =>
    obtain ⟨offset, quote, hplace, hchar, hquote⟩ := ih h
    exact ⟨offset + 2, quote, by omega, hchar, hquote⟩
  | case6 column c rest hline hblock hquote hlength =>
    exact ⟨0, c, (Option.some.inj h).symm, rfl, hquote, hlength⟩
  | case7 column c rest hline hblock hquote length hlength ih =>
    obtain ⟨offset, quote, hplace, hchar, hisQuote, hopen⟩ := ih h
    rw [List.getElem?_drop] at hchar
    rw [List.drop_drop] at hopen
    exact ⟨length + 1 + offset + 1, quote, by omega, hchar, hisQuote, hopen⟩
  | case8 column c rest hline hblock hquote ih =>
    obtain ⟨offset, quote, hplace, hchar, hquote⟩ := ih h
    exact ⟨offset + 1, quote, by omega, hchar, hquote⟩

/-! ### Comments that are not closed -/

theorem Text.LeavesOpen.behind {rest : Text} (front : Text) {first column : Nat}
    (h : rest.LeavesOpen (first + front.length) column) :
    (front ++ rest).LeavesOpen first column := by
  obtain ⟨between, back, rfl, rfl, hback⟩ := h
  refine ⟨front ++ between, back, by rw [List.append_assoc], ?_, hback⟩
  rw [List.length_append, Nat.add_assoc]

/-- A comment that is open behind a line was open before it, or it begins in the line. -/
theorem Text.openComment_strip_eq_some {number column : Nat} {before : Option Position}
    {opened : Position} {line : Text}
    (h : (line.strip number column before).openComment = some opened) :
    before = some opened ∧ ¬['*', '/'] <:+: line ∨
      opened.line = number ∧ line.LeavesOpen column opened.column := by
  fun_induction Text.strip number column before line with
  | case1 column before => exact .inl ⟨h, by simp⟩
  | case2 column rest earlier ih =>
    obtain ⟨hnone, -⟩ | ⟨hline, hopen⟩ := ih h
    · cases hnone
    · exact .inr ⟨hline, hopen.behind ['*', '/']⟩
  | case3 column c rest earlier hclose ih =>
    obtain ⟨hsame, hrest⟩ | ⟨hline, hopen⟩ := ih h
    · refine .inl ⟨hsame, fun hinfix => ?_⟩
      rcases List.infix_cons_iff.mp hinfix with ⟨tail, htail⟩ | hinfix
      · obtain ⟨hc, hnext⟩ := List.cons.inj htail
        exact hclose tail hc.symm hnext.symm
      · exact hrest hinfix
    · exact .inr ⟨hline, hopen.behind [c]⟩
  | case4 => simp [StrippedText.nothing] at h
  | case5 column rest ih =>
    obtain ⟨hsame, hrest⟩ | ⟨hline, hopen⟩ := ih h
    · obtain rfl := Option.some.inj hsame
      exact .inr ⟨rfl, [], rest, rfl, rfl, hrest⟩
    · exact .inr ⟨hline, hopen.behind ['/', '*']⟩
  | case6 => simp at h
  | case7 column c rest hline hblock hquote length hlength ih =>
    obtain ⟨hnone, -⟩ | ⟨hline, hopen⟩ := ih h
    · cases hnone
    · have hlong : (c :: rest.take (length + 1)).length = length + 2 := by
        have hlt := length_lt_of_literalLength? hlength
        rw [List.length_cons, List.length_take]
        omega
      have hwhole : c :: rest = c :: rest.take (length + 1) ++ rest.drop (length + 1) := by
        rw [List.cons_append, List.take_append_drop]
      rw [hwhole]
      exact .inr ⟨hline, .behind _ (by rwa [hlong])⟩
  | case8 column c rest hline hblock hquote ih =>
    obtain ⟨hnone, -⟩ | ⟨hline, hopen⟩ := ih h
    · cases hnone
    · exact .inr ⟨hline, hopen.behind [c]⟩

theorem LeavesOpen.cons {first : Nat} {rest : List Text} {position : Position} (line : Text)
    (h : LeavesOpen (first + 1) rest position) : LeavesOpen first (line :: rest) position := by
  obtain ⟨before, current, behind, rfl, hnumber, hopen, hbehind⟩ := h
  refine ⟨line :: before, current, behind, rfl, ?_, hopen, hbehind⟩
  rw [hnumber, List.length_cons]
  omega

/-- A comment that is open behind some lines was open before them, or it begins in one of them. -/
theorem openCommentAfter_eq_some {number : Nat} {before : Option Position} {opened : Position}
    {lines : List Text} (h : openCommentAfter (stripLinesFrom number before lines) = some opened) :
    (before = some opened ∧ ∀ line ∈ lines, ¬['*', '/'] <:+: line) ∨
      LeavesOpen number lines opened := by
  induction lines generalizing number before with
  | nil => cases h
  | cons line rest ih =>
    -- What is open behind the first line and not closed by the others is told by that line.
    have hfirst : (line.strip number 1 before).openComment = some opened →
        (∀ later ∈ rest, ¬['*', '/'] <:+: later) →
          (before = some opened ∧ ∀ each ∈ line :: rest, ¬['*', '/'] <:+: each) ∨
            LeavesOpen number (line :: rest) opened := by
      intro hopened hrest
      obtain ⟨hbefore, hline⟩ | ⟨hnumber, hopen⟩ := Text.openComment_strip_eq_some hopened
      · exact .inl ⟨hbefore, List.forall_mem_cons.mpr ⟨hline, hrest⟩⟩
      · exact .inr ⟨[], line, rest, rfl, hnumber, hopen, hrest⟩
    rw [stripLinesFrom] at h
    cases rest with
    | nil => exact hfirst h (List.forall_mem_nil _)
    | cons next rest =>
      obtain ⟨hopened, hrest⟩ | hopen := ih h
      · exact hfirst hopened hrest
      · exact .inr (hopen.cons line)

/-! ### Each kind of diagnostic -/

theorem Text.HasPlace.of_charAt? {source : Text} {position : Position} {c : Char}
    (h : source.charAt? position = some c) : source.HasPlace position := by
  obtain ⟨line, column⟩ := position
  rcases line with _ | line
  · cases h
  · rcases column with _ | column
    · cases h
    · obtain ⟨text, htext, hc⟩ := Option.bind_eq_some_iff.mp h
      have hline := (List.getElem?_eq_some_iff.mp htext).1
      have hcolumn := (List.getElem?_eq_some_iff.mp hc).1
      exact ⟨by simp, hline, by simp, text, htext, hcolumn⟩

theorem LeavesOpen.charAt? {source : Text} {position : Position}
    (h : LeavesOpen 1 source.lines position) : source.charAt? position = some '/' := by
  obtain ⟨line, column⟩ := position
  obtain ⟨before, _, behind, hlines, rfl, ⟨front, back, rfl, rfl, -⟩, -⟩ := h
  rw [Nat.add_comm 1, Nat.add_comm 1, Text.charAt?, hlines]
  simp

/-- What the outline reports points at the beginning of a line with code. -/
theorem Diagnostic.pointsInto_iff_of_ofOutline {source : Text} {found : Diagnostic}
    (hproblem : found.problem.OfOutline) :
    found.PointsInto source ↔ found.position.column = 1 ∧
      ∃ line ∈ stripLines source.lines, line.number = found.position.line ∧ line.text ≠ [] := by
  obtain ⟨problem, position⟩ := found
  cases problem with
  | unterminatedString => cases hproblem
  | unterminatedComment => cases hproblem
  | unexpectedCloser bracket => cases hproblem
  | unclosedOpener bracket => cases hproblem
  | _ => rfl

section

variable {source : Text} {found : Diagnostic}

theorem points_of_mem_unclosedLiterals
    (hfound : found ∈ unclosedLiterals (stripLines source.lines)) :
    source.HasPlace found.position ∧ found.PointsInto source := by
  obtain ⟨line, hline, hquoted⟩ := List.mem_filterMap.mp hfound
  obtain ⟨column, hcolumn, rfl⟩ := Option.map_eq_some_iff.mp hquoted
  obtain ⟨index, before, hnumber, hsource, hstripped⟩ := exists_of_mem_stripLinesFrom hline
  rw [hstripped] at hcolumn
  obtain ⟨offset, quote, rfl, hquote, hisQuote, hopen⟩ :=
    Text.exists_of_unclosedQuote_strip hcolumn
  have hnumber' : line.number = index + 1 := by omega
  have hchar : source.charAt? ⟨line.number, 1 + offset⟩ = some quote := by
    rw [hnumber', Nat.add_comm 1 offset, Text.charAt?, hsource]
    exact hquote
  have hline' : source.lines[line.number - 1]? = some line.source := by
    rwa [hnumber', Nat.add_sub_cancel]
  have hnone := Set.eq_empty_iff_forall_notMem.mp
    (Text.setOf_closes_of_literalLength? hisQuote hopen)
  rw [← Nat.add_sub_cancel_left 1 offset] at hnone
  exact ⟨.of_charAt? hchar, line.source, quote, hline', hchar, hisQuote, hnone⟩

theorem points_of_mem_unclosedComment
    (hfound : found ∈ unclosedComment (stripLines source.lines)) :
    source.HasPlace found.position ∧ found.PointsInto source := by
  obtain ⟨opened, hopened, rfl⟩ := List.mem_map.mp hfound
  obtain ⟨hnone, -⟩ | hopen := openCommentAfter_eq_some (Option.mem_toList.mp hopened)
  · cases hnone
  · exact ⟨.of_charAt? hopen.charAt?, hopen⟩

theorem points_of_mem_nestingProblems
    (hfound : found ∈ nestingProblems (stripLines source.lines)) :
    source.HasPlace found.position ∧ found.PointsInto source := by
  rw [nestingProblems_stripLines] at hfound
  cases hread : Nesting.read [] source.placedDelimiters with
  | broken closer =>
    simp only [hread, List.mem_singleton] at hfound
    subst hfound
    obtain ⟨front, after, behind, hword, -⟩ := Nesting.exists_of_read_eq_broken hread
    have hchar := charAt?_of_mem_placedDelimiters
      (hword ▸ List.mem_append_right front List.mem_cons_self)
    exact ⟨.of_charAt? hchar, hchar, by cases closer.value <;> rfl⟩
  | pending openers =>
    simp only [hread] at hfound
    obtain ⟨opener, hopener, rfl⟩ := List.mem_map.mp hfound
    have hunmatched : opener ∈ unmatched source.placedDelimiters := by
      rwa [← reverse_eq_unmatched_of_read hread, List.mem_reverse]
    have hchar := charAt?_of_mem_placedDelimiters
      ((unmatched_sublist _).subset (List.mem_map_of_mem hunmatched))
    exact ⟨.of_charAt? hchar, hchar, by cases opener.value <;> rfl⟩

theorem points_of_mem_diagnose
    (hfound : found ∈ Outline.start.diagnose (stripLines source.lines)) :
    source.HasPlace found.position ∧ found.PointsInto source := by
  obtain ⟨hproblem, hcolumn, ⟨block, hnone, -⟩ | ⟨line, hline, htext, hnumber⟩⟩ :=
    Outline.ofLine_of_mem_diagnose hfound
  · cases hnone
  · refine ⟨?_, (found.pointsInto_iff_of_ofOutline hproblem).mpr
      ⟨hcolumn, line, hline, hnumber.symm, htext⟩⟩
    obtain ⟨index, before, hindex, hsource, hstripped⟩ := exists_of_mem_stripLinesFrom hline
    cases hchars : line.source with
    | nil =>
      rw [CodeLine.text, hstripped, hchars] at htext
      simp [Text.strip, StrippedText.nothing, StrippedText.text] at htext
    | cons c rest =>
      have hposition : found.position = ⟨index + 1, 1⟩ := by
        rw [Nat.add_comm index 1, ← hindex, ← hnumber, ← hcolumn]
      have hchar : source.charAt? found.position = some c := by
        rw [hposition, Text.charAt?, hsource, hchars]
        rfl
      exact .of_charAt? hchar

end

/-! ### All diagnostics -/

/-- **Diagnostics point at what they speak of.** Each one has the place of a character of the
source. An unexpected or unclosed bracket stands there, the very one that the message names; or the
quote of a literal, with no quote behind it on the line that would close it; or a mark that begins a
comment, with no mark behind it that would end it; and what the outline reports points at the
beginning of a line that has code. The diagnostics are in the order of their places, so the first
error is that of one with the earliest place. -/
theorem check_pointsInto (σ : Type) (source : Text) :
    (∀ found ∈ check source, source.HasPlace found.position ∧ found.PointsInto source) ∧
      (check source).Pairwise
        (fun first second => first.position.notAfter second.position = true) ∧
      (∀ state, (Oracle.lexical σ).firstError source state =
        (.ok ((check source).head?.map fun found => found.render), state)) ∧
      ∀ first ∈ (check source).head?, ∀ found ∈ check source,
        first.position.notAfter found.position = true := by
  have hsorted := pairwise_check source
  refine ⟨fun found hfound => ?_, hsorted, fun state => ?_, fun first hfirst found hfound => ?_⟩
  · rw [check, diagnoseLines, List.mem_mergeSort, List.mem_append, List.mem_append,
      List.mem_append] at hfound
    obtain ((hliteral | hcomment) | hnesting) | houtline := hfound
    · exact points_of_mem_unclosedLiterals hliteral
    · exact points_of_mem_unclosedComment hcomment
    · exact points_of_mem_nestingProblems hnesting
    · exact points_of_mem_diagnose houtline
  · have hhead : (lexicalErrors source).head? =
        (check source).head?.map fun found => found.render := List.head?_map
    rw [← hhead]
    rfl
  · obtain ⟨rest, hrest⟩ := List.head?_eq_some_iff.mp hfirst
    rw [hrest] at hfound hsorted
    rcases List.mem_cons.mp hfound with rfl | hlater
    · exact (Position.notAfter_iff _ _).mpr (.inr ⟨rfl, le_rfl⟩)
    · exact (List.pairwise_cons.mp hsorted).1 found hlater

end Culprit
