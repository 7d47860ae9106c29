import Culprit.Proofs.Rules.Document
import Culprit.Proofs.Text.Padding
import Culprit.Region.Basic

/-!
# What blanks at the ends of lines do to a reading

Blanks behind a line are read in the state that the line ends in. In a comment, behind a line
comment and in a literal that is not closed they are dropped with the rest; in code they are kept,
and nothing looks at them: they are no delimiters, and the code of a line is trimmed before it is
judged. A backslash at the end of a line may take the first of them along, but no blank closes a
literal. So all that a check reads of a line is as before, and so is the state of the open regions.
-/

namespace Culprit

/-! ### Blank characters mean nothing to a scanner -/

theorem Text.isQuote_of_isBlank {c : Char} (hc : isBlank c = true) : isQuote c = false := by
  by_contra hquote
  have hquotes : c = '"' ∨ c = '\'' := by
    rw [Bool.not_eq_false, isQuote, Bool.or_eq_true, beq_iff_eq, beq_iff_eq] at hquote
    exact hquote
  rcases hquotes with rfl | rfl <;> exact absurd hc (by decide)

theorem Text.ne_of_isBlank {c d : Char} (hc : isBlank c = true) (hd : isBlank d = false) :
    c ≠ d := by
  rintro rfl
  simp [hd] at hc

theorem Delimiter.ofChar?_of_isBlank {c : Char} (hc : Text.isBlank c = true) :
    ofChar? c = none := by
  rw [Option.eq_none_iff_forall_not_mem]
  intro delimiter hdelimiter
  rw [Option.mem_def, ofChar?_eq_some_iff] at hdelimiter
  have hsolid : Text.isBlank delimiter.toChar = false := by
    rcases delimiter with bracket | bracket <;> cases bracket <;> rfl
  exact Text.ne_of_isBlank hc hsolid hdelimiter

namespace Text

variable {blanks : Text} (hblanks : isBlankText blanks = true)

include hblanks

theorem isBlank_of_mem {c : Char} (hc : c ∈ blanks) : isBlank c = true :=
  List.all_eq_true.mp hblanks c hc

theorem literalLength?_of_isBlankText {quote : Char} (hquote : isQuote quote = true) :
    literalLength? quote blanks = none := by
  induction blanks with
  | nil => rfl
  | cons c rest ih =>
    have hc : isBlank c = true := isBlank_of_mem hblanks List.mem_cons_self
    have hrest : isBlankText rest = true := by
      rw [isBlankText_cons, hc, Bool.true_and] at hblanks
      exact hblanks
    have hne : c ≠ quote := by
      rintro rfl
      simp [isQuote_of_isBlank hc] at hquote
    rw [literalLength?_cons (ne_of_isBlank hc rfl), if_neg hne, ih hrest]
    rfl

/-- Blanks close no literal, not even behind a backslash. -/
theorem literalLength?_append_blanks {quote : Char} (hquote : isQuote quote = true) {text : Text}
    (hopen : literalLength? quote text = none) : literalLength? quote (text ++ blanks) = none := by
  fun_induction literalLength? quote text with
  | case1 => exact literalLength?_of_isBlankText hblanks hquote
  | case2 =>
    cases blanks with
    | nil => rfl
    | cons c rest =>
      have hrest : isBlankText rest = true := by
        rw [isBlankText_cons, Bool.and_eq_true] at hblanks
        exact hblanks.2
      simp [literalLength?, literalLength?_of_isBlankText hrest hquote]
  | case3 c rest ih =>
    have hrest : literalLength? quote rest = none := by simpa using hopen
    simp [literalLength?, ih hrest]
  | case4 => simp at hopen
  | case5 c rest hlast hescape hne ih =>
    have hrest : literalLength? quote rest = none := by simpa using hopen
    rw [List.cons_append, literalLength?_cons (ne_backslash hlast hescape), if_neg hne, ih hrest]
    rfl

/-- Blanks alone are code or part of a comment. -/
theorem strip_of_isBlankText (number column : Nat) (openComment : Option Position) :
    ∃ padding : List CodeChar, (∀ c ∈ padding, isBlank c.char = true) ∧
      blanks.strip number column openComment = ⟨padding, none, openComment⟩ := by
  induction blanks generalizing column with
  | nil => exact ⟨[], by simp, by simp [strip, StrippedText.nothing]⟩
  | cons c rest ih =>
    have hc : isBlank c = true := isBlank_of_mem hblanks List.mem_cons_self
    have hstar : c ≠ '*' := ne_of_isBlank hc rfl
    have hslash : c ≠ '/' := ne_of_isBlank hc rfl
    have hrest : isBlankText rest = true := by
      rw [isBlankText_cons, hc, Bool.true_and] at hblanks
      exact hblanks
    obtain ⟨padding, hpadding, hstrip⟩ := ih hrest (column + 1)
    cases openComment with
    | some opened =>
      refine ⟨padding, hpadding, ?_⟩
      rw [← hstrip, strip]
      simp [hstar]
    | none =>
      refine ⟨⟨c, column⟩ :: padding, by simpa [hc] using hpadding, ?_⟩
      rw [strip] <;> simp [hslash, isQuote_of_isBlank hc, hstrip, StrippedText.push]

theorem ne_cons_of_isBlank {c : Char} (hc : isBlank c = false) (tail : Text) :
    blanks ≠ c :: tail := by
  rintro rfl
  have hblank : isBlank c = true := isBlank_of_mem hblanks List.mem_cons_self
  simp [hc] at hblank

/-- **Blanks behind a line.** Stripping drops them, or keeps them as code behind the code of the
line. -/
theorem strip_append_blanks (number column : Nat) (openComment : Option Position) (line : Text) :
    ∃ padding : List CodeChar, (∀ c ∈ padding, isBlank c.char = true) ∧
      (line ++ blanks).strip number column openComment =
        { line.strip number column openComment with
          code := (line.strip number column openComment).code ++ padding } := by
  -- A mark of two characters is never completed by a blank.
  have hmark : ∀ {first second c : Char} {rest : Text},
      (∀ tail, c = first → rest = second :: tail → False) → isBlank second = false →
        ∀ tail, c = first → rest ++ blanks = second :: tail → False := by
    intro first second c rest hnone hsecond
    exact no_mark_append hnone fun _ _ tail => ne_cons_of_isBlank hblanks hsecond tail
  fun_induction Text.strip number column openComment line with
  | case1 column openComment =>
    simpa [StrippedText.nothing] using strip_of_isBlankText hblanks number column openComment
  | case2 column rest opened ih => simpa [strip] using ih
  | case3 column c rest opened hclose ih =>
    have hstrip := strip_comment number column opened (hmark hclose rfl)
    rw [List.cons_append, hstrip]
    exact ih
  | case4 => exact ⟨[], by simp, by simp [strip, StrippedText.nothing]⟩
  | case5 column rest ih => simpa [strip] using ih
  | case6 column c rest hline hblock hquote hlength =>
    have hopen := literalLength?_append_blanks hblanks hquote hlength
    refine ⟨[], by simp, ?_⟩
    rw [List.cons_append, strip_unclosed number column hquote hopen]
    rfl
  | case7 column c rest hline hblock hquote length hlength ih =>
    obtain ⟨padding, hpadding, hstrip⟩ := ih
    have hclosed := literalLength?_append blanks hlength
    have hdrop : (rest ++ blanks).drop (length + 1) = rest.drop (length + 1) ++ blanks :=
      List.drop_append_of_le_length (length_lt_of_literalLength? hlength)
    refine ⟨padding, hpadding, ?_⟩
    rw [List.cons_append, strip_literal number column hquote hclosed, hdrop, hstrip]
    rfl
  | case8 column c rest hline hblock hquote ih =>
    obtain ⟨padding, hpadding, hstrip⟩ := ih
    have hcode : isQuote c = false := by simpa using hquote
    refine ⟨padding, hpadding, ?_⟩
    rw [List.cons_append, strip_code number column hcode (hmark hline rfl) (hmark hblock rfl),
      hstrip]
    rfl

end Text

/-! ### Lines that are read alike -/

namespace CodeLine

/-- Everything that a check reads of the two lines is the same. -/
structure ReadAlike (first second : CodeLine) : Prop where
  number : second.number = first.number
  text : second.text = first.text
  raw : second.raw = first.raw
  delimiters : second.delimiters = first.delimiters
  unclosedQuote : second.stripped.unclosedQuote = first.stripped.unclosedQuote
  openComment : second.stripped.openComment = first.stripped.openComment

/-- A padded line is read like the line. -/
theorem readAlike_of_padded {line padded : Text} (h : Text.Padded line padded) (number : Nat)
    (openComment : Option Position) :
    ReadAlike ⟨number, line, line.strip number 1 openComment⟩
      ⟨number, padded, padded.strip number 1 openComment⟩ := by
  have htrim : padded.trim = line.trim := h.trim_eq
  obtain ⟨blanks, hblanks, -, rfl⟩ := h
  obtain ⟨padding, hpadding, hstrip⟩ :=
    Text.strip_append_blanks hblanks number 1 openComment line
  have hblank : Text.isBlankText (padding.map CodeChar.char) = true := by
    simpa [Text.isBlankText] using hpadding
  refine ⟨rfl, ?_, htrim, ?_, ?_, ?_⟩
  · simp only [text, StrippedText.text, hstrip, List.map_append]
    exact Text.trim_append_of_isBlankText hblank _
  · have hnone : ∀ c ∈ padding, Delimiter.ofChar? c.char = none :=
      fun c hc => Delimiter.ofChar?_of_isBlank (hpadding c hc)
    simpa [delimiters, hstrip] using hnone
  · simp only [hstrip]
  · simp only [hstrip]

end CodeLine

theorem forall₂_readAlike_stripLinesFrom {lines padded : List Text}
    (h : List.Forall₂ Text.Padded lines padded) (number : Nat) (openComment : Option Position) :
    List.Forall₂ CodeLine.ReadAlike (stripLinesFrom number openComment lines)
      (stripLinesFrom number openComment padded) := by
  induction h generalizing number openComment with
  | nil => exact .nil
  | cons hline _ ih =>
    have hread := CodeLine.readAlike_of_padded hline number openComment
    have hopen := hread.openComment
    simp only [stripLinesFrom]
    simp only at hopen
    rw [hopen]
    exact .cons hread (ih _ _)

section

variable {first second : CodeLine} {lines lines' : List CodeLine}

theorem Outline.step_of_readAlike (h : first.ReadAlike second) (outline : Outline) :
    outline.step second = outline.step first := by
  simp only [step, readTopLevel, readInside, unlessForm, Heading.ofLine, h.number, h.text, h.raw]

theorem Outline.diagnose_of_readAlike (h : List.Forall₂ CodeLine.ReadAlike lines lines')
    (outline : Outline) : outline.diagnose lines' = outline.diagnose lines := by
  induction h generalizing outline with
  | nil => rfl
  | cons hline _ ih => rw [diagnose, diagnose, step_of_readAlike hline, ih]

/-- A check of lines that are read alike finds the same, word by word and place by place. -/
theorem diagnoseLines_of_readAlike (h : List.Forall₂ CodeLine.ReadAlike lines lines') :
    diagnoseLines lines' = diagnoseLines lines := by
  have hliterals : unclosedLiterals lines' = unclosedLiterals lines := by
    have hmap := map_eq_of_forall₂ h (fun line => (line.number, line.stripped.unclosedQuote))
      fun _ _ hline => Prod.ext hline.number hline.unclosedQuote
    rw [unclosedLiterals_eq, unclosedLiterals_eq, hmap]
  have hcomment : openCommentAfter lines' = openCommentAfter lines := by
    have hmap := map_eq_of_forall₂ h (fun line => line.stripped.openComment)
      fun _ _ hline => hline.openComment
    rw [openCommentAfter_eq, openCommentAfter_eq, hmap]
  have hdelimiters : lines'.flatMap CodeLine.delimiters = lines.flatMap CodeLine.delimiters := by
    have hmap := map_eq_of_forall₂ h CodeLine.delimiters fun _ _ hline => hline.delimiters
    rw [List.flatMap_def, List.flatMap_def, hmap]
  have houtline : Outline.start.diagnose lines' = Outline.start.diagnose lines :=
    Outline.diagnose_of_readAlike h .start
  rw [diagnoseLines, diagnoseLines, hliterals, houtline]
  simp only [unclosedComment, nestingProblems, hcomment, hdelimiters]

end

/-- **A source of padded lines is checked like the source.** -/
theorem check_of_padded {source padded : Text}
    (h : List.Forall₂ Text.Padded source.lines padded.lines) : check padded = check source :=
  diagnoseLines_of_readAlike (forall₂_readAlike_stripLinesFrom h 1 none)

theorem check_unlines_of_padded {lines padded : List Text}
    (hlines : ∀ line ∈ lines, '\n' ∉ line) (h : List.Forall₂ Text.Padded lines padded) :
    check (Text.unlines padded) = check (Text.unlines lines) := by
  by_cases hnil : lines = []
  · subst hnil
    rw [List.forall₂_nil_left_iff.mp h]
  · have hnil' : padded ≠ [] := by
      rintro rfl
      exact hnil (List.forall₂_nil_right_iff.mp h)
    apply check_of_padded
    rw [Text.lines_unlines hnil hlines,
      Text.lines_unlines hnil' (Text.newline_notMem_of_padded h hlines)]
    exact h

/-! ### Open regions -/

theorem Regions.feed_of_padded {line padded : Text} (h : line.Padded padded) (regions : Regions) :
    regions.feed padded = regions.feed line := by
  have hbraces : padded.braces = line.braces := by
    rw [Text.braces, Text.braces, h.count_eq rfl, h.count_eq rfl]
  have hcount : ∀ depth opened outer,
      countBraces depth opened padded outer = countBraces depth opened line outer := by
    intro depth opened outer
    rw [countBraces, countBraces, hbraces]
  have hinside : ∀ key, readInside padded key regions = readInside line key regions := by
    intro key
    unfold readInside
    rw [hbraces]
  have hopen : ∀ keyword outer,
      openRegion keyword padded outer = openRegion keyword line outer := by
    intro keyword outer
    cases keyword with
    | function => exact hcount 0 false outer
    | _ => rfl
  unfold feed
  rw [h.key_eq]
  split
  · exact hcount _ _ _
  · split
    · exact hopen _ _
    · exact hinside _

theorem Regions.scan_of_padded {lines padded : List Text}
    (h : List.Forall₂ Text.Padded lines padded) : scan padded = scan lines := by
  unfold scan
  generalize ([] : Regions) = regions
  induction h generalizing regions with
  | nil => rfl
  | cons hline _ ih => rw [List.foldl_cons, List.foldl_cons, feed_of_padded hline, ih]

end Culprit
