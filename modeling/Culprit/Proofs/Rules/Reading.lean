import Culprit.Rules.Code
import Mathlib.Data.List.Basic

/-!
# What the characters of a line are read as

Stripping a line keeps some of its characters. Here each character of the line gets a role, so that
statements can speak of comments and literal bodies by their characters; the code of a line is what
is left when only the characters of code are kept. A line is clear when it has no comment and all
its literals are closed. Clear lines are cut into characters of code and literals, and facts about
them are proved along that cut.
-/

namespace Culprit

/-- What a character of a line is read as. -/
inductive Role
  /-- Code; the quotes around a literal count as code. -/
  | code
  /-- A character between the quotes of a literal. -/
  | body
  /-- A character of a literal that is not closed on its line. -/
  | unclosed
  | comment
  deriving DecidableEq, Repr

namespace Text

/-- The characters of a line with their roles, where a comment may be open before the line. -/
def roles (inComment : Bool) (line : Text) : List (Char × Role) :=
  match line, inComment with
  | [], _ => []
  | '*' :: '/' :: rest, true => ('*', .comment) :: ('/', .comment) :: roles false rest
  | c :: rest, true => (c, .comment) :: roles true rest
  | '/' :: '/' :: rest, false => ('/', .comment) :: ('/', .comment) :: rest.map (·, .comment)
  | '/' :: '*' :: rest, false => ('/', .comment) :: ('*', .comment) :: roles true rest
  | c :: rest, false =>
    if isQuote c then
      match literalLength? c rest with
      | none => (c, .unclosed) :: rest.map (·, .unclosed)
      | some length =>
        (c, .code) :: (rest.take length).map (·, .body)
          ++ (c, .code) :: roles false (rest.drop (length + 1))
    else (c, .code) :: roles false rest
termination_by line.length

/-- The characters that are read as code. -/
def codeOf (read : List (Char × Role)) : Text :=
  (read.filter fun c => c.2 = .code).map Prod.fst

@[simp] theorem codeOf_nil : codeOf [] = [] := rfl

@[simp] theorem codeOf_cons_code (c : Char) (read : List (Char × Role)) :
    codeOf ((c, .code) :: read) = c :: codeOf read := rfl

@[simp] theorem codeOf_cons {role : Role} (hrole : role ≠ .code) (c : Char)
    (read : List (Char × Role)) : codeOf ((c, role) :: read) = codeOf read := by
  simp [codeOf, hrole]

@[simp] theorem codeOf_append (first second : List (Char × Role)) :
    codeOf (first ++ second) = codeOf first ++ codeOf second := by
  simp [codeOf]

@[simp] theorem codeOf_map {role : Role} (hrole : role ≠ .code) (text : Text) :
    codeOf (text.map (·, role)) = [] := by
  simp [codeOf, hrole]

/-! ### Literals -/

/-- Outside of an escape, a character closes the literal or belongs to its body. -/
theorem literalLength?_cons {quote c : Char} (hescape : c ≠ '\\') (rest : Text) :
    literalLength? quote (c :: rest) =
      if c = quote then some 0 else (literalLength? quote rest).map (· + 1) := by
  rw [literalLength?] <;> simp [hescape]

theorem eq_of_literalLength? {quote : Char} {text : Text} {length : Nat}
    (h : literalLength? quote text = some length) :
    text = text.take length ++ quote :: text.drop (length + 1) := by
  fun_induction literalLength? quote text generalizing length with
  | case1 => simp at h
  | case2 => simp at h
  | case3 c rest ih =>
    obtain ⟨inner, hinner, rfl⟩ := Option.map_eq_some_iff.mp h
    simpa using ih hinner
  | case4 rest =>
    obtain rfl : 0 = length := by simpa using h
    simp
  | case5 c rest hlast hescape hne ih =>
    obtain ⟨inner, hinner, rfl⟩ := Option.map_eq_some_iff.mp h
    simpa using ih hinner

theorem length_lt_of_literalLength? {quote : Char} {text : Text} {length : Nat}
    (h : literalLength? quote text = some length) : length < text.length := by
  have hlengths := congrArg List.length (eq_of_literalLength? h)
  simp only [List.length_append, List.length_take, List.length_cons, List.length_drop] at hlengths
  omega

theorem ne_backslash {c : Char} {rest : Text} (hlast : c = '\\' → rest = [] → False)
    (hescape : ∀ next tail, c = '\\' → rest = next :: tail → False) : c ≠ '\\' := by
  rintro rfl
  rcases rest with _ | ⟨next, tail⟩
  · exact hlast rfl rfl
  · exact hescape next tail rfl rfl

/-- What follows a closed literal does not change where it ends. -/
theorem literalLength?_append {quote : Char} {text : Text} {length : Nat} (more : Text)
    (h : literalLength? quote text = some length) :
    literalLength? quote (text ++ more) = some length := by
  fun_induction literalLength? quote text generalizing length with
  | case1 => simp at h
  | case2 => simp at h
  | case3 c rest ih =>
    obtain ⟨inner, hinner, rfl⟩ := Option.map_eq_some_iff.mp h
    simp [literalLength?, ih hinner]
  | case4 rest hlast hescape =>
    rw [List.cons_append, literalLength?_cons (ne_backslash hlast hescape), if_pos rfl, ← h]
  | case5 c rest hlast hescape hne ih =>
    obtain ⟨inner, hinner, rfl⟩ := Option.map_eq_some_iff.mp h
    rw [List.cons_append, literalLength?_cons (ne_backslash hlast hescape), if_neg hne, ih hinner]
    rfl

theorem ne_slash_of_isQuote {c : Char} (hquote : isQuote c = true) : c ≠ '/' := by
  rintro rfl
  exact absurd hquote (by decide)

theorem ne_backslash_of_isQuote {c : Char} (hquote : isQuote c = true) : c ≠ '\\' := by
  rintro rfl
  exact absurd hquote (by decide)

theorem literalLength?_self {quote : Char} (hquote : isQuote quote = true) (rest : Text) :
    literalLength? quote (quote :: rest) = some 0 := by
  rw [literalLength?_cons (ne_backslash_of_isQuote hquote), if_pos rfl]

/-! ### Stripping, one step at a time -/

section

variable (number column : Nat) {c : Char} {rest : Text}

theorem strip_code (hquote : isQuote c = false)
    (hline : ∀ tail, c = '/' → rest = '/' :: tail → False)
    (hblock : ∀ tail, c = '/' → rest = '*' :: tail → False) :
    Text.strip number column none (c :: rest) =
      (Text.strip number (column + 1) none rest).push c column := by
  rw [strip, if_neg (by simp [hquote])]
  · exact hline
  · exact hblock

theorem strip_comment (opened : Position) (hclose : ∀ tail, c = '*' → rest = '/' :: tail → False) :
    Text.strip number column (some opened) (c :: rest) =
      Text.strip number (column + 1) (some opened) rest := by
  rw [strip]
  exact hclose

theorem strip_literal (hquote : isQuote c = true) {length : Nat}
    (hlength : literalLength? c rest = some length) :
    Text.strip number column none (c :: rest) =
      ((Text.strip number (column + length + 2) none (rest.drop (length + 1))).push
        c (column + length + 1)).push c column := by
  have hslash : c ≠ '/' := ne_slash_of_isQuote hquote
  rw [strip, if_pos hquote, hlength] <;> simp [hslash]

theorem strip_unclosed (hquote : isQuote c = true) (hlength : literalLength? c rest = none) :
    Text.strip number column none (c :: rest) = ⟨[], some column, none⟩ := by
  have hslash : c ≠ '/' := ne_slash_of_isQuote hquote
  rw [strip, if_pos hquote, hlength] <;> simp [hslash]

end

/-- Two characters that are no mark together are none when something else follows, as long as it
makes no mark with a character that was the last one. -/
theorem no_mark_append {first second c : Char} {rest : Text}
    (h : ∀ tail, c = first → rest = second :: tail → False) {more : Text}
    (hmore : rest = [] → c = first → ∀ tail, more = second :: tail → False) :
    ∀ tail, c = first → rest ++ more = second :: tail → False := by
  intro tail hc hboth
  cases rest with
  | nil => exact hmore rfl hc tail hboth
  | cons next rest =>
    obtain ⟨rfl, -⟩ := List.cons.inj hboth
    exact h rest hc rfl

/-! ### Roles and stripping -/

theorem map_fst_roles (inComment : Bool) (line : Text) :
    (roles inComment line).map Prod.fst = line := by
  fun_induction roles inComment line with
  | case1 => rfl
  | case2 => simp_all
  | case3 => simp_all
  | case4 => simp [Function.comp_def]
  | case5 => simp_all
  | case6 => simp [Function.comp_def]
  | case7 c rest hline hblock hquote length hlength ih =>
    simpa [Function.comp_def, ih] using (eq_of_literalLength? hlength).symm
  | case8 => simp_all

theorem text_strip (number column : Nat) (openComment : Option Position) (line : Text) :
    (line.strip number column openComment).text = codeOf (line.roles openComment.isSome) := by
  fun_induction Text.strip number column openComment line with
  | case1 => simp [roles, StrippedText.nothing, StrippedText.text]
  | case2 column rest opened ih => simpa [roles] using ih
  | case3 column c rest opened hclose ih => simpa [roles, hclose] using ih
  | case4 => simp [roles, StrippedText.nothing, StrippedText.text]
  | case5 column rest ih => simpa [roles] using ih
  | case6 column c rest hline hblock hquote hlength =>
    simp [roles, hquote, hlength, StrippedText.text]
  | case7 column c rest hline hblock hquote length hlength ih =>
    simpa [-List.map_take, roles, hquote, hlength, StrippedText.text, StrippedText.push] using ih
  | case8 column c rest hline hblock hquote ih =>
    simpa [roles, hquote, StrippedText.text, StrippedText.push] using ih

/-- A line leaves no literal open exactly when none of its characters is read as belonging to a
literal that is not closed. -/
theorem unclosedQuote_strip_eq_none_iff (number column : Nat) (openComment : Option Position)
    (line : Text) :
    (line.strip number column openComment).unclosedQuote = none ↔
      ∀ c ∈ line.roles openComment.isSome, c.2 ≠ .unclosed := by
  fun_induction Text.strip number column openComment line with
  | case1 => simp [roles, StrippedText.nothing]
  | case2 column rest opened ih => simpa [roles] using ih
  | case3 column c rest opened hclose ih => simpa [roles, hclose] using ih
  | case4 => simp [roles, StrippedText.nothing]
  | case5 column rest ih => simpa [roles] using ih
  | case6 column c rest hline hblock hquote hlength => simp [roles, hquote, hlength]
  | case7 column c rest hline hblock hquote length hlength ih =>
    simpa [-List.map_take, roles, hquote, hlength, StrippedText.push, or_imp, forall_and] using ih
  | case8 column c rest hline hblock hquote ih =>
    simpa [roles, hquote, StrippedText.push] using ih

/-! ### Clear lines -/

/-- A line without comments whose literals are all closed, cut into characters of code and
literals. -/
inductive Clear : Text → Prop
  | nil : Clear []
  | code {c : Char} {rest : Text} (hquote : isQuote c = false)
      (hline : ∀ tail, c = '/' → rest = '/' :: tail → False)
      (hblock : ∀ tail, c = '/' → rest = '*' :: tail → False) (hrest : Clear rest) :
      Clear (c :: rest)
  | literal {quote : Char} {body rest : Text} (hquote : isQuote quote = true)
      (hbody : literalLength? quote (body ++ quote :: rest) = some body.length)
      (hrest : Clear rest) : Clear (quote :: (body ++ quote :: rest))

theorem roles_code {c : Char} {rest : Text} (hquote : isQuote c = false)
    (hline : ∀ tail, c = '/' → rest = '/' :: tail → False)
    (hblock : ∀ tail, c = '/' → rest = '*' :: tail → False) :
    roles false (c :: rest) = (c, .code) :: roles false rest := by
  simp [roles, hquote]

theorem roles_literal {quote : Char} {body rest : Text} (hquote : isQuote quote = true)
    (hbody : literalLength? quote (body ++ quote :: rest) = some body.length) :
    roles false (quote :: (body ++ quote :: rest)) =
      (quote, .code) :: (body.map (·, .body) ++ (quote, .code) :: roles false rest) := by
  have hslash := ne_slash_of_isQuote hquote
  rw [roles] <;> simp_all

theorem clear_of_roles {line : Text}
    (hroles : ∀ c ∈ roles false line, c.2 ≠ .comment ∧ c.2 ≠ .unclosed) : Clear line := by
  generalize hstart : false = inComment at hroles
  fun_induction roles inComment line with
  | case1 => exact .nil
  | case2 => simp at hstart
  | case3 => simp at hstart
  | case4 => simp at hroles
  | case5 => simp at hroles
  | case6 => simp at hroles
  | case7 c rest hline hblock hquote length hlength ih =>
    have heq := eq_of_literalLength? hlength
    have hlen : (rest.take length).length = length := by
      have := congrArg List.length heq
      simp only [List.length_append, List.length_take, List.length_cons, List.length_drop] at this ⊢
      omega
    rw [heq]
    refine .literal hquote (by rw [← heq, hlength, hlen]) (ih rfl fun p hp => hroles p ?_)
    simp [hp]
  | case8 c rest hline hblock hquote ih =>
    exact .code (by simpa using hquote) hline hblock
      (ih rfl fun p hp => hroles p (List.mem_cons_of_mem _ hp))

namespace Clear

variable {line : Text}

theorem roles_eq (h : Clear line) : ∀ c ∈ roles false line, c.2 = .code ∨ c.2 = .body := by
  induction h with
  | nil => simp [roles]
  | code hquote hline hblock hrest ih => simpa [roles_code hquote hline hblock] using ih
  | literal hquote hbody hrest ih =>
    simpa [roles_literal hquote hbody, or_imp, forall_and] using ih

theorem unclosedQuote_strip (h : Clear line) (number column : Nat) :
    (line.strip number column none).unclosedQuote = none := by
  refine (unclosedQuote_strip_eq_none_iff number column none line).mpr fun c hc hrole => ?_
  rcases h.roles_eq c hc with hcode | hbody <;> simp_all

theorem openComment_strip (h : Clear line) (number column : Nat) :
    (line.strip number column none).openComment = none := by
  induction h generalizing column with
  | nil => simp [strip, StrippedText.nothing]
  | @code c rest hquote hline hblock hrest ih =>
    simpa [strip, hquote, StrippedText.push] using ih (column + 1)
  | @literal quote body rest hquote hbody hrest ih =>
    have hslash := ne_slash_of_isQuote hquote
    rw [strip] <;> simp_all [StrippedText.push]

theorem count_line (h : Clear line) {c : Char}
    (hbody : ∀ p ∈ roles false line, p.2 = .body → p.1 ≠ c) :
    line.count c = (codeOf (roles false line)).count c := by
  -- What is counted on the left is put in terms of the roles, over which the induction is.
  conv_lhs => rw [← map_fst_roles false line]
  have hroles := h.roles_eq
  revert hroles hbody
  induction roles false line with
  | nil => simp
  | cons p read ih =>
    obtain ⟨d, role⟩ := p
    intro hbody hroles
    have hrest := ih (fun p hp => hbody p (List.mem_cons_of_mem _ hp))
      (fun p hp => hroles p (List.mem_cons_of_mem _ hp))
    rcases hroles _ List.mem_cons_self with hcode | hrole
    · obtain rfl : role = .code := hcode
      simp [List.count_cons, hrest]
    · obtain rfl : role = .body := hrole
      have hd : d ≠ c := hbody _ List.mem_cons_self rfl
      simp [hd, hrest]

theorem roles_concat (h : Clear line) {c : Char} (hquote : isQuote c = false) (hslash : c ≠ '/')
    (hstar : c ≠ '*') : roles false (line ++ [c]) = roles false line ++ [(c, .code)] := by
  induction h with
  | nil => simp [roles, hquote]
  | @code d rest hd hline hblock hrest ih =>
    rw [List.cons_append, roles_code hd, roles_code hd hline hblock, ih]
    · rfl
    all_goals
      intro tail hd heq
      rcases rest with _ | ⟨next, rest⟩
      · simp_all
      · simp_all
  | @literal quote body rest hopen hbody hrest ih =>
    have happend := literalLength?_append [c] hbody
    rw [List.append_assoc, List.cons_append] at happend
    rw [List.cons_append, List.append_assoc, List.cons_append, roles_literal hopen happend,
      roles_literal hopen hbody, ih]
    simp

end Clear
end Text
end Culprit
