import Culprit.Proofs.Rules.Reading

/-!
# Where stripping looks at code

Stripping reads a line in one of three ways: as code, inside of a comment, or inside of a literal.
The columns at which it looks at code are those where a comment or a literal may begin. At such a
column the line can be cut: what stands in front of it has been turned into code that stays as it
is, and what stands behind it is stripped as if the line began there. The one thing that the two
parts can make together is a mark of two characters, when the first part ends in a slash.
-/

namespace Culprit

namespace StrippedText

/-- A stripped rest of a line behind more code. -/
def behind (code : List CodeChar) (stripped : StrippedText) : StrippedText :=
  { stripped with code := code ++ stripped.code }

theorem push_behind (char : Char) (column : Nat) (code : List CodeChar)
    (stripped : StrippedText) :
    (stripped.behind code).push char column = stripped.behind (⟨char, column⟩ :: code) := rfl

/-- The same code, whatever its columns and the columns of what is left open. -/
structure SameCode (first second : StrippedText) : Prop where
  text : second.text = first.text
  unclosedQuote : second.unclosedQuote.isSome = first.unclosedQuote.isSome
  openComment : second.openComment.map Position.line = first.openComment.map Position.line

namespace SameCode

variable {first second : StrippedText}

theorem refl (stripped : StrippedText) : SameCode stripped stripped := ⟨rfl, rfl, rfl⟩

theorem push (h : SameCode first second) (char : Char) (column column' : Nat) :
    SameCode (first.push char column) (second.push char column') :=
  ⟨congrArg (char :: ·) h.text, h.unclosedQuote, h.openComment⟩

theorem behind (h : SameCode first second) (code : List CodeChar) :
    SameCode (first.behind code) (second.behind code) := by
  refine ⟨?_, h.unclosedQuote, h.openComment⟩
  have htext := h.text
  simp only [StrippedText.text] at htext
  simp only [StrippedText.text, StrippedText.behind, List.map_append, htext]

end SameCode
end StrippedText

namespace Text

/-! ### Columns of code -/

/-- The columns at which stripping looks at code: outside of comments and literals, and not behind a
literal that is not closed. The column behind the last character is one of them if code could go on
there. -/
def codeColumns (column : Nat) (inComment : Bool) (line : Text) : List Nat :=
  match line, inComment with
  | [], true => []
  | [], false => [column]
  | '*' :: '/' :: rest, true => codeColumns (column + 2) false rest
  | _ :: rest, true => codeColumns (column + 1) true rest
  | '/' :: '/' :: _, false => [column]
  | '/' :: '*' :: rest, false => column :: codeColumns (column + 2) true rest
  | c :: rest, false =>
    if isQuote c then
      match literalLength? c rest with
      | none => [column]
      | some length => column :: codeColumns (column + length + 2) false (rest.drop (length + 1))
    else column :: codeColumns (column + 1) false rest
termination_by line.length

/-- In a comment no code begins before its end mark. -/
theorem le_of_mem_codeColumns {column place : Nat} {inComment : Bool} {line : Text}
    (h : place ∈ codeColumns column inComment line) : column + inComment.toNat ≤ place := by
  have hcons : ∀ {column next : Nat} {inside : Bool} {later : List Nat}, column ≤ next →
      place ∈ column :: later → (place ∈ later → next + inside.toNat ≤ place) →
        column + false.toNat ≤ place := by
    intro column next inside later hnext hplace hlater
    rcases List.mem_cons.mp hplace with rfl | hrest
    · simp
    · have hplace := hlater hrest
      rw [Bool.toNat_false]
      omega
  fun_induction codeColumns column inComment line with
  | case1 => simp at h
  | case2 => simp_all
  | case3 column rest ih =>
    have hplace := ih h
    rw [Bool.toNat_true]
    omega
  | case4 column c rest hclose ih =>
    have hplace := ih h
    rw [Bool.toNat_true] at hplace ⊢
    omega
  | case5 => simp_all
  | case6 column rest ih => exact hcons (by omega) h ih
  | case7 => simp_all
  | case8 column c rest hline hblock hquote length hlength ih => exact hcons (by omega) h ih
  | case9 column c rest hline hblock hquote ih => exact hcons (by omega) h ih

theorem literalLength?_take_append {quote : Char} {text : Text} {length : Nat} (more : Text)
    (h : literalLength? quote text = some length) :
    literalLength? quote (text.take (length + 1) ++ more) = some length := by
  fun_induction literalLength? quote text generalizing length with
  | case1 => simp at h
  | case2 => simp at h
  | case3 c rest ih =>
    obtain ⟨inner, hinner, rfl⟩ := Option.map_eq_some_iff.mp h
    simp [literalLength?, ih hinner]
  | case4 rest hlast hescape =>
    obtain rfl : 0 = length := by simpa using h
    rw [List.take_succ_cons, List.cons_append,
      literalLength?_cons (ne_backslash hlast hescape), if_pos rfl]
  | case5 c rest hlast hescape hne ih =>
    obtain ⟨inner, hinner, rfl⟩ := Option.map_eq_some_iff.mp h
    rw [List.take_succ_cons, List.cons_append,
      literalLength?_cons (ne_backslash hlast hescape), if_neg hne, ih hinner]
    rfl

/-- What may follow a first part of a line without making a mark with its last character. -/
def Follows (front back : Text) : Prop :=
  front.getLast? = some '/' → ∀ tail, back ≠ '/' :: tail ∧ back ≠ '*' :: tail

theorem Follows.of_append {front back : Text} (before : Text)
    (h : Follows (before ++ front) back) : Follows front back := by
  intro hlast
  apply h
  rw [List.getLast?_append, hlast]
  rfl

/-! ### Cutting a line -/

/-- The first part of a line ends at a column of code. It has been turned into the given code, and
what follows is stripped as if the line began there. -/
structure CutsAt (number column : Nat) (openComment : Option Position) (front : Text) (place : Nat)
    (code : List CodeChar) : Prop where
  place_eq : place = column + front.length
  strip_append : ∀ back, Follows front back →
    (front ++ back).strip number column openComment = (back.strip number place none).behind code

namespace CutsAt

variable {number column place : Nat} {front : Text} {done : List CodeChar}

theorem here (number column : Nat) : CutsAt number column none [] column [] :=
  ⟨rfl, fun _ _ => rfl⟩

theorem closeComment (opened : Position) (h : CutsAt number (column + 2) none front place done) :
    CutsAt number column (some opened) ('*' :: '/' :: front) place done := by
  refine ⟨?_, fun back hfollows => ?_⟩
  · rw [h.place_eq, List.length_cons, List.length_cons]
    omega
  · have hrest := h.strip_append back (.of_append ['*', '/'] hfollows)
    rw [List.cons_append, List.cons_append, strip, hrest]

theorem comment {c : Char} {opened : Position} (hnonempty : front ≠ [])
    (hclose : ∀ tail, c = '*' → front = '/' :: tail → False)
    (h : CutsAt number (column + 1) (some opened) front place done) :
    CutsAt number column (some opened) (c :: front) place done := by
  refine ⟨?_, fun back hfollows => ?_⟩
  · rw [h.place_eq, List.length_cons]
    omega
  · have hrest := h.strip_append back (.of_append [c] hfollows)
    have hclose' : ∀ tail, c = '*' → front ++ back = '/' :: tail → False :=
      no_mark_append hclose fun hnil => absurd hnil hnonempty
    rw [List.cons_append, strip_comment number column opened hclose', hrest]

theorem openComment (h : CutsAt number (column + 2) (some ⟨number, column⟩) front place done) :
    CutsAt number column none ('/' :: '*' :: front) place done := by
  refine ⟨?_, fun back hfollows => ?_⟩
  · rw [h.place_eq, List.length_cons, List.length_cons]
    omega
  · have hrest := h.strip_append back (.of_append ['/', '*'] hfollows)
    rw [List.cons_append, List.cons_append, strip, hrest]

theorem literal {c : Char} {rest : Text} {length : Nat} (hquote : isQuote c = true)
    (hlength : literalLength? c rest = some length)
    (h : CutsAt number (column + length + 2) none front place done) :
    CutsAt number column none (c :: (rest.take (length + 1) ++ front)) place
      (⟨c, column⟩ :: ⟨c, column + length + 1⟩ :: done) := by
  have hshort : (rest.take (length + 1)).length = length + 1 := by
    have hlt := length_lt_of_literalLength? hlength
    rw [List.length_take]
    omega
  refine ⟨?_, fun back hfollows => ?_⟩
  · rw [h.place_eq, List.length_cons, List.length_append, hshort]
    omega
  · have hfollows' := Follows.of_append (c :: rest.take (length + 1)) hfollows
    have hclosed := literalLength?_take_append (front ++ back) hlength
    rw [List.cons_append, List.append_assoc, strip_literal number column hquote hclosed,
      List.drop_left' hshort, h.strip_append back hfollows', StrippedText.push_behind,
      StrippedText.push_behind]

theorem code {c : Char} (hquote : isQuote c = false)
    (hline : ∀ tail, c = '/' → front = '/' :: tail → False)
    (hblock : ∀ tail, c = '/' → front = '*' :: tail → False)
    (h : CutsAt number (column + 1) none front place done) :
    CutsAt number column none (c :: front) place (⟨c, column⟩ :: done) := by
  refine ⟨?_, fun back hfollows => ?_⟩
  · rw [h.place_eq, List.length_cons]
    omega
  · have hrest := h.strip_append back (.of_append [c] hfollows)
    -- A slash that ends the first part is no mark with the character behind it.
    have halone : front = [] → c = '/' → ∀ tail, back ≠ '/' :: tail ∧ back ≠ '*' :: tail := by
      rintro rfl rfl
      exact hfollows rfl
    have hline' := no_mark_append hline fun hnil hc tail => (halone hnil hc tail).1
    have hblock' := no_mark_append hblock fun hnil hc tail => (halone hnil hc tail).2
    rw [List.cons_append, strip_code number column hquote hline' hblock', hrest,
      StrippedText.push_behind]

end CutsAt

/-- **A line can be cut where it is code.** -/
theorem exists_cutsAt (number : Nat) {column place : Nat} {openComment : Option Position}
    {line : Text} (h : place ∈ codeColumns column openComment.isSome line) :
    ∃ front back code, line = front ++ back ∧
      CutsAt number column openComment front place code := by
  have hhere : ∀ (column : Nat) (line : Text), ∃ front back code, line = front ++ back ∧
      CutsAt number column none front column code :=
    fun column line => ⟨[], line, [], rfl, .here number column⟩
  have hmark : ∀ {first second c : Char} {front back : Text},
      (∀ tail, c = first → front ++ back = second :: tail → False) →
        ∀ tail, c = first → front = second :: tail → False := by
    intro first second c front back hnone tail hc hfront
    exact hnone (tail ++ back) hc (by rw [hfront, List.cons_append])
  fun_induction Text.strip number column openComment line with
  | case1 column openComment =>
    cases openComment with
    | none =>
      obtain rfl : place = column := by simpa [codeColumns] using h
      exact hhere place []
    | some opened => simp [codeColumns] at h
  | case2 column rest opened ih =>
    obtain ⟨front, back, code, rfl, hcut⟩ := ih (by simpa [codeColumns] using h)
    exact ⟨_, back, code, rfl, hcut.closeComment opened⟩
  | case3 column c rest opened hclose ih =>
    have hrest : place ∈ codeColumns (column + 1) true rest := by
      simpa [codeColumns, hclose] using h
    obtain ⟨front, back, code, rfl, hcut⟩ := ih hrest
    -- The comment is still open behind the character, so its end mark stands in the first part.
    have hnonempty : front ≠ [] := by
      rintro rfl
      have hle := le_of_mem_codeColumns hrest
      rw [hcut.place_eq, List.length_nil, Bool.toNat_true] at hle
      omega
    exact ⟨_, back, code, rfl, hcut.comment hnonempty (hmark hclose)⟩
  | case4 column rest =>
    obtain rfl : place = column := by simpa [codeColumns] using h
    exact hhere place _
  | case5 column rest ih =>
    rw [Option.isSome_none, codeColumns, List.mem_cons] at h
    rcases h with rfl | hrest
    · exact hhere place _
    · obtain ⟨front, back, code, rfl, hcut⟩ := ih hrest
      exact ⟨_, back, code, rfl, hcut.openComment⟩
  | case6 column c rest hline hblock hquote hlength =>
    obtain rfl : place = column := by simpa [codeColumns, hquote, hlength] using h
    exact hhere place _
  | case7 column c rest hline hblock hquote length hlength ih =>
    have hcolumns : place = column ∨
        place ∈ codeColumns (column + length + 2) false (rest.drop (length + 1)) := by
      simpa [codeColumns, hquote, hlength] using h
    rcases hcolumns with rfl | hrest
    · exact hhere place _
    · obtain ⟨front, back, code, hdrop, hcut⟩ := ih hrest
      refine ⟨_, back, _, ?_, hcut.literal hquote hlength⟩
      rw [List.cons_append, List.append_assoc, ← hdrop, List.take_append_drop]
  | case8 column c rest hline hblock hquote ih =>
    have hcolumns : place = column ∨ place ∈ codeColumns (column + 1) false rest := by
      simpa [codeColumns, hquote] using h
    rcases hcolumns with rfl | hrest
    · exact hhere place _
    · obtain ⟨front, back, code, rfl, hcut⟩ := ih hrest
      have hcode : isQuote c = false := by simpa using hquote
      exact ⟨_, back, _, rfl, hcut.code hcode (hmark hline) (hmark hblock)⟩

/-- The cut at a column behind a given first part. -/
theorem cutsAt_of_mem_codeColumns (number : Nat) {column : Nat} {openComment : Option Position}
    {front back : Text}
    (h : column + front.length ∈ codeColumns column openComment.isSome (front ++ back)) :
    ∃ code, CutsAt number column openComment front (column + front.length) code := by
  obtain ⟨front', back', code, hline, hcut⟩ := exists_cutsAt number h
  have hlength : front.length = front'.length := by
    have hplace := hcut.place_eq
    omega
  obtain ⟨rfl, -⟩ := List.append_inj hline hlength
  exact ⟨code, hcut⟩

/-! ### Code that stays as it is -/

/-- Columns and the place of an open comment make no difference to the code of a line. -/
theorem strip_sameCode (number column column' : Nat) {openComment openComment' : Option Position}
    (h : openComment'.map Position.line = openComment.map Position.line) (line : Text) :
    (line.strip number column openComment).SameCode (line.strip number column' openComment') := by
  fun_induction Text.strip number column openComment line generalizing column' openComment' with
  | case1 column openComment =>
    simp only [strip, StrippedText.nothing]
    exact ⟨rfl, rfl, h⟩
  | case2 column rest opened ih =>
    obtain ⟨opened', rfl, -⟩ := Option.map_eq_some_iff.mp h
    rw [strip]
    exact ih (column' + 2) rfl
  | case3 column c rest opened hclose ih =>
    obtain ⟨opened', rfl, -⟩ := Option.map_eq_some_iff.mp h
    rw [strip_comment number column' opened' hclose]
    exact ih (column' + 1) h
  | case4 =>
    obtain rfl := Option.map_eq_none_iff.mp h
    rw [strip]
    exact .refl _
  | case5 column rest ih =>
    obtain rfl := Option.map_eq_none_iff.mp h
    rw [strip]
    exact ih (column' + 2) rfl
  | case6 column c rest hline hblock hquote hlength =>
    obtain rfl := Option.map_eq_none_iff.mp h
    rw [strip_unclosed number column' hquote hlength]
    exact ⟨rfl, rfl, rfl⟩
  | case7 column c rest hline hblock hquote length hlength ih =>
    obtain rfl := Option.map_eq_none_iff.mp h
    rw [strip_literal number column' hquote hlength]
    exact ((ih (column' + length + 2) rfl).push _ _ _).push _ _ _
  | case8 column c rest hline hblock hquote ih =>
    obtain rfl := Option.map_eq_none_iff.mp h
    rw [strip_code number column' (by simpa using hquote) hline hblock]
    exact (ih (column' + 1) rfl).push _ _ _

/-! ### Edits that the code does not see -/

/-- The text of a comment ends where its end mark stands for the first time. -/
theorem strip_remark (number : Nat) (opened : Position) {remark : Text}
    (hremark : ¬['*', '/'] <:+: remark) (column : Nat) (back : Text) :
    (remark ++ '*' :: '/' :: back).strip number column (some opened) =
      back.strip number (column + remark.length + 2) none := by
  induction remark generalizing column with
  | nil => rw [List.nil_append, strip, List.length_nil, Nat.add_zero]
  | cons c rest ih =>
    have hclose : ∀ tail, c = '*' → rest ++ '*' :: '/' :: back = '/' :: tail → False := by
      apply no_mark_append
      · rintro tail rfl rfl
        exact hremark ⟨[], tail, rfl⟩
      · simp
    have hrest : ¬['*', '/'] <:+: rest :=
      fun hmark => hremark (hmark.trans (List.suffix_cons c rest).isInfix)
    rw [List.cons_append, strip_comment number column opened hclose, ih hrest, List.length_cons]
    congr 1
    omega

/-- A body without escapes and without the quote of its literal is closed by the next quote. -/
theorem literalLength?_body {quote : Char} (hquote : isQuote quote = true) {body : Text}
    (hescape : '\\' ∉ body) (hfree : quote ∉ body) (back : Text) :
    literalLength? quote (body ++ quote :: back) = some body.length := by
  induction body with
  | nil => exact literalLength?_self hquote back
  | cons c rest ih =>
    rw [List.mem_cons, not_or] at hescape hfree
    rw [List.cons_append, literalLength?_cons (Ne.symm hescape.1), if_neg (Ne.symm hfree.1),
      ih hescape.2 hfree.2, List.length_cons, Option.map_some]

/-- A line is changed where its code does not see it. A comment may begin at any column of code but
one behind a slash, with which it would make another mark; a literal keeps its quotes. -/
inductive IdleEdit (inComment : Bool) : Text → Text → Prop
  /-- A block comment that ends on the line. -/
  | blockComment (front back remark : Text)
      (hplace : front.length + 1 ∈ codeColumns 1 inComment (front ++ back))
      (hslash : front.getLast? ≠ some '/') (hline : '\n' ∉ remark)
      (hremark : ¬['*', '/'] <:+: remark) :
      IdleEdit inComment (front ++ back) (front ++ '/' :: '*' :: (remark ++ '*' :: '/' :: back))
  /-- A comment that runs to the end of the line. -/
  | lineComment (line remark : Text)
      (hplace : line.length + 1 ∈ codeColumns 1 inComment line)
      (hslash : line.getLast? ≠ some '/') (hline : '\n' ∉ remark) :
      IdleEdit inComment line (line ++ '/' :: '/' :: remark)
  /-- Another body of a literal. -/
  | literal (front body body' back : Text) (quote : Char)
      (hplace : front.length + 1 ∈
        codeColumns 1 inComment (front ++ quote :: (body ++ quote :: back)))
      (hquote : isQuote quote = true)
      (hbody : literalLength? quote (body ++ quote :: back) = some body.length)
      (hline : '\n' ∉ body') (hescape : '\\' ∉ body') (hfree : quote ∉ body') :
      IdleEdit inComment (front ++ quote :: (body ++ quote :: back))
        (front ++ quote :: (body' ++ quote :: back))

namespace IdleEdit

theorem newline_notMem {inComment : Bool} {line line' : Text} (h : IdleEdit inComment line line')
    (hnewline : '\n' ∉ line) : '\n' ∉ line' := by
  cases h with
  | blockComment front back remark hplace hslash hline hremark => simp_all
  | lineComment line remark hplace hslash hline => simp_all
  | literal front body body' back quote hplace hquote hbody hline hescape hfree => simp_all

/-- **An idle edit leaves the code of a line as it is.** -/
theorem strip_sameCode {openComment : Option Position} {line line' : Text}
    (h : IdleEdit openComment.isSome line line') (number : Nat) :
    (line.strip number 1 openComment).SameCode (line'.strip number 1 openComment) := by
  cases h with
  | blockComment front back remark hplace hslash hline hremark =>
    obtain ⟨code, hcut⟩ := cutsAt_of_mem_codeColumns number (Nat.add_comm _ 1 ▸ hplace)
    have hfollows : ∀ back, Follows front back := fun back hlast => absurd hlast hslash
    rw [hcut.strip_append _ (hfollows _), hcut.strip_append _ (hfollows _), strip,
      strip_remark number _ hremark]
    exact (Text.strip_sameCode number _ _ rfl back).behind code
  | lineComment line remark hplace hslash hline =>
    have hplace' : line.length + 1 ∈ codeColumns 1 openComment.isSome (line ++ []) := by
      rwa [List.append_nil]
    obtain ⟨code, hcut⟩ := cutsAt_of_mem_codeColumns number (Nat.add_comm _ 1 ▸ hplace')
    have hfollows : ∀ back, Follows line back := fun back hlast => absurd hlast hslash
    have hline := hcut.strip_append [] (hfollows [])
    rw [List.append_nil] at hline
    rw [hline, hcut.strip_append _ (hfollows _), strip, strip]
    exact .refl _
  | literal front body body' back quote hplace hquote hbody hline hescape hfree =>
    obtain ⟨code, hcut⟩ := cutsAt_of_mem_codeColumns number (Nat.add_comm _ 1 ▸ hplace)
    have hfollows : ∀ rest, Follows front (quote :: rest) := by
      intro rest _ tail
      constructor <;> rintro ⟨⟩ <;> exact absurd hquote (by decide)
    have hbody' := literalLength?_body hquote hescape hfree back
    have hrest : ∀ body : Text, (body ++ quote :: back).drop (body.length + 1) = back := by
      intro body
      rw [List.drop_append, List.drop_eq_nil_of_le (by omega), Nat.add_sub_cancel_left]
      rfl
    rw [hcut.strip_append _ (hfollows _), hcut.strip_append _ (hfollows _),
      strip_literal number _ hquote hbody, strip_literal number _ hquote hbody', hrest, hrest]
    exact (((Text.strip_sameCode number _ _ rfl back).push _ _ _).push _ _ _).behind code

end IdleEdit

end Text
end Culprit
