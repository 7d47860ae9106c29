import Culprit.Proofs.Rules.Places
import Culprit.Proofs.Rules.SameCode
import Mathlib.Algebra.Group.Nat.Even

/-!
# Code that stripping leaves as it is

What stripping takes out of a line joins characters that stood apart, so it could make marks or
literals that the line does not have. It does not: a comment begins with a slash, hence what stands
before it does not end in one, and a literal leaves its two quotes behind. The code of a line is in a
normal form, in which no two characters are a mark and quotes stand in pairs. Stripping changes
nothing about such a text, so a document of code lines is read as the document that they come from.
-/

namespace Culprit

namespace Text

/-- Code without marks of comments, whose quotes stand in pairs. -/
inductive Reduced : Text → Prop
  | nil : Reduced []
  | code {c : Char} {rest : Text} (hquote : isQuote c = false)
      (hline : ∀ tail, c = '/' → rest = '/' :: tail → False)
      (hblock : ∀ tail, c = '/' → rest = '*' :: tail → False) (hrest : Reduced rest) :
      Reduced (c :: rest)
  | literal {quote : Char} {rest : Text} (hquote : isQuote quote = true) (hrest : Reduced rest) :
      Reduced (quote :: quote :: rest)

/-! ### The code of a line is reduced -/

/-- A line that does not begin with a slash begins like its code, if it has any. -/
theorem head?_text_strip (number column : Nat) {c : Char} (hslash : c ≠ '/') (rest : Text) :
    ∀ first ∈ (Text.strip number column none (c :: rest)).text.head?, first = c := by
  intro first hfirst
  cases hquote : isQuote c with
  | false =>
    rw [strip_code number column hquote (fun _ hc => absurd hc hslash)
      fun _ hc => absurd hc hslash] at hfirst
    exact (Option.some.inj hfirst).symm
  | true =>
    cases hlength : literalLength? c rest with
    | none =>
      rw [strip_unclosed number column hquote hlength] at hfirst
      cases hfirst
    | some length =>
      rw [strip_literal number column hquote hlength] at hfirst
      exact (Option.some.inj hfirst).symm

/-- A slash of code makes no mark with the code behind it. -/
theorem no_mark_strip (number column : Nat) {c mark : Char} {rest : Text}
    (hline : ∀ tail, c = '/' → rest = '/' :: tail → False)
    (hmark : ∀ tail, c = '/' → rest = mark :: tail → False) :
    ∀ tail, c = '/' → (rest.strip number column none).text = mark :: tail → False := by
  rintro tail rfl htext
  cases rest with
  | nil => simp [strip, StrippedText.nothing, StrippedText.text] at htext
  | cons next rest =>
    have hslash : next ≠ '/' := by
      rintro rfl
      exact hline rest rfl rfl
    have hhead := head?_text_strip number column hslash rest mark (by rw [htext]; rfl)
    exact hmark rest rfl (by rw [hhead])

theorem reduced_strip (number column : Nat) (openComment : Option Position) (line : Text) :
    Reduced (line.strip number column openComment).text := by
  fun_induction Text.strip number column openComment line with
  | case1 => exact .nil
  | case2 column rest opened ih => exact ih
  | case3 column c rest opened hclose ih => exact ih
  | case4 => exact .nil
  | case5 column rest ih => exact ih
  | case6 => exact .nil
  | case7 column c rest hline hblock hquote length hlength ih => exact .literal hquote ih
  | case8 column c rest hline hblock hquote ih =>
    have hcode : isQuote c = false := by simpa using hquote
    exact .code hcode (no_mark_strip _ _ hline hline) (no_mark_strip _ _ hline hblock) ih

/-! ### Reduced code -/

namespace Reduced

variable {code : Text}

/-- Stripping finds nothing to take out. -/
theorem text_strip (h : Reduced code) (number column : Nat) :
    (code.strip number column none).text = code := by
  induction h generalizing column with
  | nil => simp [strip, StrippedText.nothing, StrippedText.text]
  | @code c rest hquote hline hblock hrest ih =>
    rw [strip_code number column hquote hline hblock]
    exact congrArg (c :: ·) (ih (column + 1))
  | @literal quote rest hquote hrest ih =>
    rw [strip_literal number column hquote (literalLength?_self hquote rest)]
    exact congrArg (quote :: quote :: ·) (ih (column + 2))

theorem clear (h : Reduced code) : Clear code := by
  induction h with
  | nil => exact .nil
  | code hquote hline hblock hrest ih => exact .code hquote hline hblock ih
  | @literal quote rest hquote hrest ih =>
    exact @Clear.literal quote [] rest hquote (literalLength?_self hquote rest) ih

/-- No comment begins in it. -/
theorem not_isInfix (h : Reduced code) : ¬['/', '/'] <:+: code ∧ ¬['/', '*'] <:+: code := by
  have hcons : ∀ {mark c : Char} {rest : Text},
      (∀ tail, c = '/' → rest = mark :: tail → False) → ¬['/', mark] <:+: rest →
        ¬['/', mark] <:+: c :: rest := by
    intro mark c rest hmark hrest hinfix
    rcases List.infix_cons_iff.mp hinfix with ⟨tail, htail⟩ | hinfix
    · obtain ⟨hc, hnext⟩ := List.cons.inj htail
      exact hmark tail hc.symm hnext.symm
    · exact hrest hinfix
  induction h with
  | nil => simp
  | code hquote hline hblock hrest ih => exact ⟨hcons hline ih.1, hcons hblock ih.2⟩
  | @literal quote rest hquote hrest ih =>
    have hslash : ∀ {mark : Char} {rest : Text} (tail : Text), quote = '/' →
        rest = mark :: tail → False := fun _ hc => absurd hc (ne_slash_of_isQuote hquote)
    exact ⟨hcons hslash (hcons hslash ih.1), hcons hslash (hcons hslash ih.2)⟩

/-- Each quote is one of two equal ones next to each other, with an even number of quotes before
them. -/
theorem exists_pair (h : Reduced code) {place : Nat} {quote : Char}
    (hplace : code[place]? = some quote) (hquote : isQuote quote = true) :
    ∃ front back, code = front ++ quote :: quote :: back ∧ Even (front.countP isQuote) ∧
      (place = front.length ∨ place = front.length + 1) := by
  induction h generalizing place with
  | nil => simp at hplace
  | @code c rest hcode hline hblock hrest ih =>
    rcases place with _ | place
    · rw [Option.some.inj hplace, hquote] at hcode
      cases hcode
    · obtain ⟨front, back, rfl, heven, hpair⟩ := ih hplace
      refine ⟨c :: front, back, rfl, ?_, ?_⟩
      · rwa [List.countP_cons_of_neg (by simp [hcode])]
      · rw [List.length_cons]
        omega
  | @literal first rest hfirst hrest ih =>
    rcases place with _ | _ | place
    · obtain rfl : first = quote := Option.some.inj hplace
      exact ⟨[], rest, rfl, by simp, .inl rfl⟩
    · obtain rfl : first = quote := Option.some.inj hplace
      exact ⟨[], rest, rfl, by simp, .inr rfl⟩
    · obtain ⟨front, back, rfl, heven, hpair⟩ := ih hplace
      refine ⟨first :: first :: front, back, rfl, ?_, ?_⟩
      · rwa [List.countP_cons_of_pos hfirst, List.countP_cons_of_pos hfirst, Nat.even_add_one,
          Nat.even_add_one, not_not]
      · rw [List.length_cons, List.length_cons]
        omega

end Reduced

end Text

/-! ### Documents of code lines -/

/-- The code lines of a document. -/
def codeLines (lines : List Text) : List Text :=
  (stripLines lines).map fun line => line.stripped.text

theorem reduced_of_mem_codeLines {lines : List Text} {code : Text}
    (hcode : code ∈ codeLines lines) : code.Reduced := by
  obtain ⟨line, hline, rfl⟩ := List.mem_map.mp hcode
  obtain ⟨index, before, -, -, hstripped⟩ := exists_of_mem_stripLinesFrom hline
  rw [hstripped]
  exact Text.reduced_strip _ _ _ _

/-- A code line is stripped to itself, whatever was open before the line that it comes from. -/
theorem map_text_stripLinesFrom (number : Nat) (openComment : Option Position)
    (lines : List Text) :
    ((stripLinesFrom number none
        ((stripLinesFrom number openComment lines).map fun line => line.stripped.text)).map
          fun line => (line.number, line.stripped.text)) =
      (stripLinesFrom number openComment lines).map fun line =>
        (line.number, line.stripped.text) := by
  induction lines generalizing number openComment with
  | nil => rfl
  | cons line rest ih =>
    have hreduced := Text.reduced_strip number 1 openComment line
    rw [stripLinesFrom, List.map_cons, stripLinesFrom_cons hreduced.clear, List.map_cons, ih,
      List.map_cons, CodeLine.alone, hreduced.text_strip]

/-- **The code of a document is in normal form.** There is one code line for each line; in none of
them does a comment begin, and each quote is one of two equal ones next to each other, with an even
number of quotes before them. Read again, the code lines are their own code, no literal and no
comment is left open, and the same is said of the brackets, in the same lines and the same order. -/
theorem codeLines_normal (lines : List Text) :
    (codeLines lines).length = lines.length ∧
      (∀ code ∈ codeLines lines, ¬['/', '/'] <:+: code ∧ ¬['/', '*'] <:+: code) ∧
      (∀ code ∈ codeLines lines, ∀ place quote, code[place]? = some quote → isQuote quote = true →
        ∃ front back, code = front ++ quote :: quote :: back ∧ Even (front.countP isQuote) ∧
          (place = front.length ∨ place = front.length + 1)) ∧
      codeLines (codeLines lines) = codeLines lines ∧
      unclosedLiterals (stripLines (codeLines lines)) = [] ∧
      unclosedComment (stripLines (codeLines lines)) = [] ∧
      (nestingProblems (stripLines (codeLines lines))).map Diagnostic.issue =
        (nestingProblems (stripLines lines)).map Diagnostic.issue := by
  have hreduced : ∀ code ∈ codeLines lines, code.Reduced := fun _ => reduced_of_mem_codeLines
  have hclear : ∀ code ∈ codeLines lines, code.Clear := fun code hcode =>
    (hreduced code hcode).clear
  have hagain := map_text_stripLinesFrom 1 none lines
  have htexts : codeLines (codeLines lines) = codeLines lines := by
    have hsecond := congrArg (List.map Prod.snd) hagain
    rw [List.map_map, List.map_map] at hsecond
    exact hsecond
  have hlength : (codeLines lines).length = lines.length := by
    rw [codeLines, List.length_map, length_stripLines]
  exact ⟨hlength, fun code hcode => (hreduced code hcode).not_isInfix,
    fun code hcode place quote => (hreduced code hcode).exists_pair, htexts,
    unclosedLiterals_of_clear hclear, unclosedComment_of_clear hclear,
    issue_nestingProblems_of_map_eq hagain⟩

-- Slashes and a quote in literals, a quote and a bracket in a comment over two lines.
example : codeLines (["go('//', \"\\\"\") /* \" (", "*/ / /**/ / 1"].map String.toList) =
    ["go('', \"\") ", " /  / 1"].map String.toList := by
  decide +kernel

end Culprit
