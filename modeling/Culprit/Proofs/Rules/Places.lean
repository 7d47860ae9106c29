import Culprit.Proofs.Rules.Nesting
import Culprit.Proofs.Rules.Reading
import Mathlib.Data.List.Basic

/-!
# Where code stands

Stripping takes characters away and keeps, for each one that is left, the column it stood at. So the
places of the delimiters of a document point into its source, whatever comments and literals stand
between them, and reading the document from its beginning meets each place once.
-/

namespace Culprit

/-- The character at a place of a source. -/
def Text.charAt? (source : Text) : Position → Option Char
  | ⟨line + 1, column + 1⟩ => source.lines[line]?.bind (·[column]?)
  | _ => none

/-- A reader meets the first place before the second. -/
def Position.Before (first second : Position) : Prop :=
  first.line < second.line ∨ first.line = second.line ∧ first.column < second.column

theorem Position.Before.notAfter {first second : Position} (h : first.Before second) :
    first.notAfter second = true := by
  rw [notAfter_iff]
  unfold Before at h
  omega

theorem Position.Before.ne {first second : Position} (h : first.Before second) :
    first ≠ second := by
  rintro rfl
  unfold Before at h
  omega

theorem Position.eq_of_notAfter {first second : Position} (hfirst : first.notAfter second = true)
    (hsecond : second.notAfter first = true) : first = second := by
  rw [notAfter_iff] at hfirst hsecond
  obtain ⟨line, column⟩ := first
  obtain ⟨line', column'⟩ := second
  simp only [mk.injEq] at *
  omega

/-! ### Columns -/

theorem Text.getElem?_of_literalLength? {quote : Char} {text : Text} {length : Nat}
    (h : literalLength? quote text = some length) : text[length]? = some quote := by
  fun_induction literalLength? quote text generalizing length with
  | case1 => simp at h
  | case2 => simp at h
  | case3 c rest ih =>
    obtain ⟨inner, hinner, rfl⟩ := Option.map_eq_some_iff.mp h
    exact ih hinner
  | case4 rest =>
    obtain rfl : 0 = length := by simpa using h
    rfl
  | case5 c rest hlast hescape hne ih =>
    obtain ⟨inner, hinner, rfl⟩ := Option.map_eq_some_iff.mp h
    exact ih hinner

/-- Each character of code stands in the line at the column that is kept for it. -/
theorem Text.exists_of_mem_code_strip {number column : Nat} {openComment : Option Position}
    {text : Text} {c : CodeChar} (hc : c ∈ (text.strip number column openComment).code) :
    ∃ offset, c.column = column + offset ∧ text[offset]? = some c.char := by
  -- Every case of stripping goes on behind some characters, by whose number the offset moves.
  fun_induction Text.strip number column openComment text with
  | case1 => simp [StrippedText.nothing] at hc
  | case2 column rest opened ih =>
    obtain ⟨offset, hcolumn, hchar⟩ := ih hc
    exact ⟨offset + 2, by omega, hchar⟩
  | case3 column d rest opened hclose ih =>
    obtain ⟨offset, hcolumn, hchar⟩ := ih hc
    exact ⟨offset + 1, by omega, hchar⟩
  | case4 => simp [StrippedText.nothing] at hc
  | case5 column rest ih =>
    obtain ⟨offset, hcolumn, hchar⟩ := ih hc
    exact ⟨offset + 2, by omega, hchar⟩
  | case6 => simp at hc
  | case7 column d rest hline hblock hquote length hlength ih =>
    rcases List.mem_cons.mp hc with rfl | hc
    · exact ⟨0, rfl, rfl⟩
    · rcases List.mem_cons.mp hc with rfl | hc
      · have hcloses : rest[length]? = some d := getElem?_of_literalLength? hlength
        exact ⟨length + 1, by simp only; omega, by simpa using hcloses⟩
      · obtain ⟨offset, hcolumn, hchar⟩ := ih hc
        refine ⟨length + 1 + offset + 1, by omega, ?_⟩
        rwa [List.getElem?_drop] at hchar
  | case8 column d rest hline hblock hquote ih =>
    rcases List.mem_cons.mp hc with rfl | hc
    · exact ⟨0, rfl, rfl⟩
    · obtain ⟨offset, hcolumn, hchar⟩ := ih hc
      exact ⟨offset + 1, by omega, hchar⟩

theorem Text.pairwise_column_strip (number column : Nat) (openComment : Option Position)
    (line : Text) : (line.strip number column openComment).code.Pairwise
      fun first second => first.column < second.column := by
  fun_induction Text.strip number column openComment line with
  | case1 => exact .nil
  | case2 column rest opened ih => exact ih
  | case3 column d rest opened hclose ih => exact ih
  | case4 => exact .nil
  | case5 column rest ih => exact ih
  | case6 => exact .nil
  | case7 column d rest hline hblock hquote length hlength ih =>
    have hbehind : ∀ c ∈ (Text.strip number (column + length + 2) none
        (rest.drop (length + 1))).code, column + length + 1 < c.column := by
      intro c hc
      obtain ⟨offset, hcolumn, -⟩ := exists_of_mem_code_strip hc
      omega
    refine .cons ?_ (.cons hbehind ih)
    intro c hc
    rcases List.mem_cons.mp hc with rfl | hc
    · simp only
      omega
    · have := hbehind c hc
      simp only
      omega
  | case8 column d rest hline hblock hquote ih =>
    refine .cons ?_ ih
    intro c hc
    obtain ⟨offset, hcolumn, -⟩ := exists_of_mem_code_strip hc
    simp only
    omega

/-! ### Lines -/

theorem exists_of_mem_stripLinesFrom {number : Nat} {openComment : Option Position}
    {lines : List Text} {line : CodeLine} (hline : line ∈ stripLinesFrom number openComment lines) :
    ∃ index before, line.number = number + index ∧ lines[index]? = some line.source ∧
      line.stripped = line.source.strip line.number 1 before := by
  induction lines generalizing number openComment with
  | nil => simp [stripLinesFrom] at hline
  | cons first rest ih =>
    rcases List.mem_cons.mp hline with rfl | hline
    · exact ⟨0, openComment, rfl, rfl, rfl⟩
    · obtain ⟨index, before, hnumber, hsource, hstripped⟩ := ih hline
      exact ⟨index + 1, before, by omega, hsource, hstripped⟩

theorem pairwise_number_stripLinesFrom (number : Nat) (openComment : Option Position)
    (lines : List Text) : (stripLinesFrom number openComment lines).Pairwise
      fun first second => first.number < second.number := by
  induction lines generalizing number openComment with
  | nil => exact .nil
  | cons first rest ih =>
    refine .cons (fun line hline => ?_) (ih _ _)
    obtain ⟨index, -, hnumber, -⟩ := exists_of_mem_stripLinesFrom hline
    simp only
    omega

/-! ### Delimiters -/

theorem CodeLine.exists_of_mem_delimiters {line : CodeLine} {delimiter : Located Delimiter}
    (h : delimiter ∈ line.delimiters) :
    ∃ c ∈ line.stripped.code, c.char = delimiter.value.toChar ∧
      delimiter.position = ⟨line.number, c.column⟩ := by
  obtain ⟨c, hc, hdelimiter⟩ := List.mem_filterMap.mp h
  obtain ⟨value, hvalue, rfl⟩ := Option.map_eq_some_iff.mp hdelimiter
  exact ⟨c, hc, Delimiter.ofChar?_eq_some_iff.mp hvalue, rfl⟩

/-- The delimiters of a source, with their places. -/
def Text.placedDelimiters (source : Text) : List (Located Delimiter) :=
  (stripLines source.lines).flatMap CodeLine.delimiters

/-- Each delimiter stands in the source at its place. -/
theorem charAt?_of_mem_placedDelimiters {source : Text} {delimiter : Located Delimiter}
    (h : delimiter ∈ source.placedDelimiters) :
    source.charAt? delimiter.position = some delimiter.value.toChar := by
  obtain ⟨line, hline, hdelimiter⟩ := List.mem_flatMap.mp h
  obtain ⟨c, hc, hchar, hposition⟩ := CodeLine.exists_of_mem_delimiters hdelimiter
  obtain ⟨index, before, hnumber, hsource, hstripped⟩ := exists_of_mem_stripLinesFrom hline
  rw [hstripped] at hc
  obtain ⟨offset, hcolumn, hoffset⟩ := Text.exists_of_mem_code_strip hc
  rw [hposition, hnumber, hcolumn, Nat.add_comm 1 index, Nat.add_comm 1 offset, Text.charAt?,
    hsource, Option.bind_some, hoffset, hchar]

/-- The delimiters are listed in the order of their places, so no place is listed twice. -/
theorem pairwise_placedDelimiters (source : Text) :
    source.placedDelimiters.Pairwise fun first second => first.position.Before second.position := by
  rw [Text.placedDelimiters, List.pairwise_flatMap]
  refine ⟨fun line hline => ?_, ?_⟩
  · obtain ⟨index, before, -, -, hstripped⟩ := exists_of_mem_stripLinesFrom hline
    rw [CodeLine.delimiters, List.pairwise_filterMap, hstripped]
    refine (Text.pairwise_column_strip _ _ _ _).imp ?_
    intro c d hlt one hone two htwo
    obtain ⟨-, -, rfl⟩ := Option.map_eq_some_iff.mp hone
    obtain ⟨-, -, rfl⟩ := Option.map_eq_some_iff.mp htwo
    exact .inr ⟨rfl, hlt⟩
  · refine (pairwise_number_stripLinesFrom 1 none source.lines).imp ?_
    intro first second hlt one hone two htwo
    obtain ⟨c, -, -, hfirst⟩ := CodeLine.exists_of_mem_delimiters hone
    obtain ⟨d, -, -, hsecond⟩ := CodeLine.exists_of_mem_delimiters htwo
    rw [hfirst, hsecond]
    exact .inl hlt

end Culprit
