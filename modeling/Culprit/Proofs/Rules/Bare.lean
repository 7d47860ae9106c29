import Culprit.Proofs.Rules.Document
import Culprit.Region.Basic

/-!
# Sources that say the same raw and as code

Some readers of a document look at its code, others at its lines as they were written. On a bare
source they see the same structure: it has no comments, no braces in literals, and no blank
characters but spaces and line feeds. The key of a line and that of its code are then equal up to
the first quote, so no keyword tells them apart, and they have the same braces.
-/

namespace Culprit

namespace Text

/-- A source without comments, without braces in its literals, and blank only in spaces and line
feeds. -/
structure Bare (source : Text) : Prop where
  comments : ∀ line ∈ source.lines, ∀ c ∈ roles false line, c.2 ≠ .comment
  literals : ∀ line ∈ source.lines, ∀ c ∈ roles false line, c.2 = .body → c.1 ≠ '{' ∧ c.1 ≠ '}'
  blanks : ∀ c ∈ source, isBlank c = true → c = ' ' ∨ c = '\n'

instance (source : Text) : Decidable source.Bare :=
  decidable_of_iff
    ((∀ line ∈ source.lines, ∀ c ∈ roles false line,
        c.2 ≠ .comment ∧ (c.2 = .body → c.1 ≠ '{' ∧ c.1 ≠ '}')) ∧
      source.all (fun c => !isBlank c || c == ' ' || c == '\n') = true)
    ⟨fun h => ⟨fun line hline c hc => (h.1 line hline c hc).1,
        fun line hline c hc => (h.1 line hline c hc).2,
        fun c hc hblank => by simpa [hblank] using List.all_eq_true.mp h.2 c hc⟩,
      fun h => ⟨fun line hline c hc => ⟨h.comments line hline c hc, h.literals line hline c hc⟩,
        List.all_eq_true.mpr fun c hc => by
          cases hblank : isBlank c with
          | false => rfl
          | true => simpa using h.blanks c hc hblank⟩⟩

/-- What the lines of a bare source are when all its literals are closed. -/
structure BareLine (line : Text) : Prop where
  clear : Clear line
  literals : ∀ c ∈ roles false line, c.2 = .body → c.1 ≠ '{' ∧ c.1 ≠ '}'
  blanks : ∀ c ∈ line, isBlank c = true → c = ' '

theorem clear_of_unclosedQuote {lines : List Text} (number : Nat)
    (hcomments : ∀ line ∈ lines, ∀ c ∈ roles false line, c.2 ≠ .comment)
    (hquotes : ∀ line ∈ stripLinesFrom number none lines, line.stripped.unclosedQuote = none) :
    ∀ line ∈ lines, Clear line := by
  induction lines generalizing number with
  | nil => simp
  | cons line rest ih =>
    have hfirst : ∀ c ∈ roles false line, c.2 ≠ .unclosed :=
      (unclosedQuote_strip_eq_none_iff number 1 none line).mp (hquotes _ List.mem_cons_self)
    have hline : Clear line :=
      clear_of_roles fun c hc => ⟨hcomments line List.mem_cons_self c hc, hfirst c hc⟩
    rw [stripLinesFrom_cons hline] at hquotes
    have hrest := ih (number + 1) (fun line hmem => hcomments line (List.mem_cons_of_mem _ hmem))
      fun line hmem => hquotes line (List.mem_cons_of_mem _ hmem)
    simpa [hline] using hrest

theorem Bare.bareLine {source : Text} (hbare : source.Bare) (haccepted : check source = []) :
    ∀ line ∈ source.lines, BareLine line := by
  intro line hline
  refine ⟨?_, hbare.literals line hline, fun c hc hblank => ?_⟩
  · exact clear_of_unclosedQuote 1 hbare.comments
      (unclosedLiterals_eq_nil_iff.mp (check_eq_nil_iff.mp haccepted).1) line hline
  · obtain ⟨hmem, hfeed⟩ := mem_of_mem_lines hline hc
    exact (hbare.blanks c hmem hblank).resolve_right hfeed

/-! ### Keys -/

/-- A clear line and its code are equal, or have the first quote in the same place. -/
theorem Clear.codeOf_split {line : Text} (h : Clear line) :
    codeOf (roles false line) = line ∨
      ∃ front quote back codeBack, isQuote quote = true ∧ line = front ++ quote :: back ∧
        codeOf (roles false line) = front ++ quote :: codeBack := by
  induction h with
  | nil => exact .inl (by simp [roles])
  | @code c rest hquote hline hblock hrest ih =>
    rw [roles_code hquote hline hblock, codeOf_cons_code]
    rcases ih with hsame | ⟨front, quote, back, codeBack, hopen, hback, hcode⟩
    · exact .inl (by rw [hsame])
    · exact .inr ⟨c :: front, quote, back, codeBack, hopen, by rw [hback]; rfl, by rw [hcode]; rfl⟩
  | @literal quote body rest hquote hbody hrest ih =>
    rw [roles_literal hquote hbody, codeOf_cons_code]
    exact .inr ⟨[], quote, _, _, hquote, rfl, rfl⟩

theorem smallLetter_of_isQuote {c : Char} (hquote : isQuote c = true) :
    Culprit.smallLetter c = c ∧ isBlank c = false := by
  rcases by simpa [isQuote] using hquote with rfl | rfl <;> decide

namespace BareLine

variable {line : Text}

theorem key_split (h : BareLine line) (number : Nat) :
    (CodeLine.alone number line).text.fold = line.key ∨
      ∃ front quote back codeBack, isQuote quote = true ∧ line.key = front ++ quote :: back ∧
        (CodeLine.alone number line).text.fold = front ++ quote :: codeBack := by
  rw [CodeLine.text_alone]
  rcases h.clear.codeOf_split with hsame | ⟨front, quote, back, codeBack, hquote, hline, hcode⟩
  · exact .inl (by rw [hsame, key])
  · obtain ⟨hsmall, hblank⟩ := smallLetter_of_isQuote hquote
    refine .inr ⟨(dropFront isBlank front).fold, quote, (dropBack isBlank back).fold,
      (dropBack isBlank codeBack).fold, hquote, ?_, ?_⟩
    · rw [hline, key_append_cons hblank, hsmall]
    · rw [hcode, trim_append_cons hblank, fold_append, fold_cons, hsmall]

theorem fold_text_eq_iff (h : BareLine line) (number : Nat) (word : Text)
    (hword : word.any isQuote = false) :
    (CodeLine.alone number line).text.fold = word ↔ line.key = word := by
  rcases h.key_split number with hsame | ⟨front, quote, back, codeBack, hquote, hkey, hcode⟩
  · rw [hsame]
  · have hne : ∀ back, front ++ quote :: back ≠ word := by
      rintro back rfl
      simp [hquote] at hword
    rw [hkey, hcode]
    exact iff_of_false (hne codeBack) (hne back)

theorem prefix_fold_text_iff (h : BareLine line) (number : Nat) {word : Text}
    (hword : word.any isQuote = false) :
    word <+: (CodeLine.alone number line).text.fold ↔ word <+: line.key := by
  rcases h.key_split number with hsame | ⟨front, quote, back, codeBack, hquote, hkey, hcode⟩
  · rw [hsame]
  · have hnotMem : quote ∉ word := by
      intro hmem
      exact List.any_eq_false.mp hword quote hmem hquote
    rw [hkey, hcode, prefix_append_cons_iff hnotMem, prefix_append_cons_iff hnotMem]

theorem text_eq_nil_iff (h : BareLine line) (number : Nat) :
    (CodeLine.alone number line).text = [] ↔ line.key = [] := by
  rw [← h.fold_text_eq_iff number [] rfl, Text.fold, List.map_eq_nil_iff]

theorem count_text (h : BareLine line) (number : Nat) {c : Char} (hbrace : c = '{' ∨ c = '}') :
    (CodeLine.alone number line).text.count c = line.count c := by
  have hblank : isBlank c = false := by rcases hbrace with rfl | rfl <;> rfl
  rw [CodeLine.text_alone, count_trim hblank, h.clear.count_line]
  rintro p hp hbody rfl
  have := h.literals p hp hbody
  tauto

theorem mem_of_mem_text (number : Nat) {c : Char}
    (hc : c ∈ (CodeLine.alone number line).text) : c ∈ line := by
  rw [CodeLine.text_alone] at hc
  obtain ⟨front, back, -, -, hcode⟩ := exists_trim (codeOf (roles false line))
  have hmem : c ∈ codeOf (roles false line) := by
    rw [hcode]
    simp [hc]
  rw [← map_fst_roles false line]
  exact ((List.filter_sublist).map Prod.fst).mem hmem

end BareLine
end Text

/-! ### Headers -/

/-- How a header starts: the keyword and a space. -/
def Keyword.spaced (keyword : Keyword) : Text := keyword.spelling.toList ++ [' ']

theorem Keyword.any_isQuote_spaced (keyword : Keyword) : keyword.spaced.any isQuote = false := by
  cases keyword <;> decide

theorem Keyword.spelling_prefix_of_spaced {keyword : Keyword} {key : Text}
    (h : keyword.spaced <+: key) : keyword.spelling.toList <+: key :=
  (List.prefix_append _ _).trans h

theorem headerKeyword?_eq_some_iff {key : Text} {keyword : Keyword} :
    headerKeyword? key = some keyword ↔ keyword.spaced <+: key := by
  have hspaced : ∀ other, headerKeyword? key = some other → other.spaced <+: key := by
    intro other hfound
    simpa [Keyword.spaced] using List.find?_some hfound
  refine ⟨hspaced keyword, fun hbegins => ?_⟩
  cases hfound : headerKeyword? key with
  | none =>
    have := List.find?_eq_none.mp hfound keyword (by cases keyword <;> decide)
    exact absurd (by simpa [Keyword.spaced] using hbegins) this
  | some other =>
    rw [Keyword.eq_of_isPrefix (Keyword.spelling_prefix_of_spaced (hspaced other hfound))
      (Keyword.spelling_prefix_of_spaced hbegins)]

theorem headerKeyword?_eq_none_iff {key : Text} :
    headerKeyword? key = none ↔ ∀ keyword : Keyword, ¬keyword.spaced <+: key := by
  rw [Option.eq_none_iff_forall_not_mem]
  simp only [Option.mem_def, headerKeyword?_eq_some_iff]

theorem Outline.not_opens_of_opener? {key : Text} (hopener : opener? key = none)
    (keyword : Keyword) : ¬keyword.Opens key := by
  rintro ⟨c, rest, rfl, hblank⟩
  have hword : Text.firstWord (keyword.spelling.toList ++ c :: rest) = keyword.spelling.toList := by
    have hsolid : ∀ d ∈ keyword.spelling.toList, (!Text.isBlank d) = true := by
      rw [← List.all_eq_true]
      cases keyword <;> rfl
    obtain ⟨first, more, hspelling⟩ := List.exists_cons_of_ne_nil (l := keyword.spelling.toList)
      (by cases keyword <;> decide)
    have hfirst : Text.isBlank first = false := by
      simpa using hsolid first (hspelling ▸ List.mem_cons_self)
    have hfront : Text.dropFront Text.isBlank (keyword.spelling.toList ++ c :: rest) =
        keyword.spelling.toList ++ c :: rest := by
      rw [hspelling, List.cons_append]
      exact Text.dropFront_append_cons hfirst [] (more ++ c :: rest)
    rw [Text.firstWord, hfront, List.takeWhile_append_of_pos hsolid,
      List.takeWhile_cons_of_neg (by simp [hblank]), List.append_nil]
  have hne : keyword.spelling.toList ++ c :: rest ≠ keyword.spelling.toList := by simp
  simp [opener?, hword, Keyword.ofWord?_spelling, hne] at hopener

theorem Outline.not_spaced_of_opener? {key : Text} (hopener : opener? key = none)
    (keyword : Keyword) : ¬keyword.spaced <+: key := by
  rintro ⟨rest, rfl⟩
  exact not_opens_of_opener? hopener keyword ⟨' ', rest, by simp [Keyword.spaced], rfl⟩

namespace Text.BareLine

variable {line : Text}

theorem headerKeyword?_of_opens (h : BareLine line) (number : Nat) {keyword : Keyword}
    (hopens : keyword.Opens (CodeLine.alone number line).text) :
    headerKeyword? line.key = some keyword := by
  obtain ⟨c, rest, htext, hblank⟩ := hopens
  obtain rfl : c = ' ' :=
    h.blanks c (mem_of_mem_text number (by rw [htext]; simp)) hblank
  rw [headerKeyword?_eq_some_iff, ← h.prefix_fold_text_iff number keyword.any_isQuote_spaced, htext]
  exact ⟨Text.fold rest, by simp [Keyword.spaced, Culprit.smallLetter]⟩

theorem headerKeyword?_of_opener? (h : BareLine line) (number : Nat)
    (hopener : Outline.opener? (CodeLine.alone number line).text.fold = none) :
    headerKeyword? line.key = none := by
  rw [headerKeyword?_eq_none_iff]
  intro keyword hbegins
  rw [← h.prefix_fold_text_iff number keyword.any_isQuote_spaced] at hbegins
  exact Outline.not_spaced_of_opener? hopener keyword hbegins

theorem headerKeyword?_of_statement (h : BareLine line) (number : Nat) {word : Text}
    (hword : word ∈ Statement.words)
    (hbegins : word <+: (CodeLine.alone number line).text.fold) :
    headerKeyword? line.key = none := by
  rw [headerKeyword?_eq_none_iff]
  intro keyword hheader
  rw [← h.prefix_fold_text_iff number keyword.any_isQuote_spaced] at hheader
  exact Keyword.not_prefix_of_statement hword hbegins (Keyword.spelling_prefix_of_spaced hheader)

end Text.BareLine
end Culprit
