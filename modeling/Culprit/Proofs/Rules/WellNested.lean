import Culprit.Proofs.Rules.Nesting
import Mathlib.Data.Nat.Init

/-!
# Well-nested words

A word of delimiters is well nested when it is put together from pairs of brackets around
well-nested words. Nothing in that speaks of a stack. Reading with a stack decides it all the same:
a word is well nested when the reading ends with nothing open, and it is the beginning of a
well-nested word when the reading does not break. What is open at the end are the openers that no
later closer matches, where a closer matches an opener if the word between them is well nested.
-/

namespace Culprit

/-- Words in which every bracket that is opened is closed by its own kind, inside out. -/
inductive WellNested : List Delimiter → Prop
  | nil : WellNested []
  | enclose (bracket : Bracket) {inner : List Delimiter} (hinner : WellNested inner) :
      WellNested (.opening bracket :: (inner ++ [.closing bracket]))
  | append {first second : List Delimiter} (hfirst : WellNested first)
      (hsecond : WellNested second) : WellNested (first ++ second)

/-- A word that begins some well-nested word. -/
def Viable (word : List Delimiter) : Prop := ∃ rest, WellNested (word ++ rest)

/-- An opener with this word behind it is matched: some closer of its kind has a well-nested word in
front of it. -/
def Matched (bracket : Bracket) (behind : List Delimiter) : Prop :=
  ∃ inner rest, behind = inner ++ .closing bracket :: rest ∧ WellNested inner

/-! ### Reading well-nested words -/

section Kinds

open Nesting

variable {word : List Delimiter}

/-- A well-nested word is read without a trace, whatever is open before it. -/
theorem WellNested.readKinds_append (h : WellNested word) (openers : List Bracket)
    (rest : List Delimiter) : readKinds openers (word ++ rest) = readKinds openers rest := by
  induction h generalizing openers rest with
  | nil => rfl
  | enclose bracket hinner ih => simp [readKinds, ih]
  | append hfirst hsecond ihfirst ihsecond => rw [List.append_assoc, ihfirst, ihsecond]

/-- A bracket that is not open any more at the end was closed behind a well-nested word. -/
theorem exists_inner_of_readKinds {bracket : Bracket} {openers after : List Bracket}
    (h : readKinds (bracket :: openers) word = some after)
    (hclosed : after.length ≤ openers.length) :
    ∃ inner rest, word = inner ++ .closing bracket :: rest ∧ WellNested inner ∧
      readKinds openers rest = some after := by
  -- An opener at the front is closed first; what follows its closer is a shorter word again.
  induction hsize : word.length using Nat.strong_induction_on generalizing word bracket openers with
  | _ size ih =>
    rcases word with _ | ⟨opened | closed, rest⟩
    · obtain rfl : bracket :: openers = after := by simpa [readKinds] using h
      rw [List.length_cons] at hclosed
      omega
    · rw [List.length_cons] at hsize
      have hopened : readKinds (opened :: bracket :: openers) rest = some after := h
      obtain ⟨inner, behind, rfl, hinner, hbehind⟩ :=
        ih rest.length (by omega) hopened (Nat.le_succ_of_le hclosed) rfl
      rw [List.length_append, List.length_cons] at hsize
      obtain ⟨between, rest, rfl, hbetween, hrest⟩ :=
        ih behind.length (by omega) hbehind hclosed rfl
      exact ⟨.opening opened :: (inner ++ [.closing opened]) ++ between, rest, by simp,
        .append (.enclose opened hinner) hbetween, hrest⟩
    · by_cases heq : bracket = closed
      · rw [readKinds, if_pos heq] at h
        exact ⟨[], rest, by simp [heq], .nil, h⟩
      · simp [readKinds, heq] at h

theorem wellNested_iff_readKinds : WellNested word ↔ readKinds [] word = some [] := by
  constructor
  · intro h
    rw [← List.append_nil word, h.readKinds_append]
    rfl
  · intro h
    induction hsize : word.length using Nat.strong_induction_on generalizing word with
    | _ size ih =>
      rcases word with _ | ⟨opened | closed, rest⟩
      · exact .nil
      · rw [List.length_cons] at hsize
        obtain ⟨inner, behind, rfl, hinner, hbehind⟩ := exists_inner_of_readKinds h (Nat.le_refl _)
        rw [List.length_append, List.length_cons] at hsize
        simpa using (WellNested.enclose opened hinner).append (ih _ (by omega) hbehind rfl)
      · simp [readKinds] at h

instance : DecidablePred WellNested := fun _ => decidable_of_iff' _ wellNested_iff_readKinds

/-- Closing what is open, the innermost first, completes a word that can be completed. -/
theorem readKinds_closers (openers : List Bracket) :
    readKinds openers (openers.map .closing) = some [] := by
  induction openers with
  | nil => rfl
  | cons bracket openers ih => simpa [readKinds] using ih

theorem viable_iff_readKinds : Viable word ↔ (readKinds [] word).isSome = true := by
  constructor
  · rintro ⟨rest, hrest⟩
    obtain ⟨openers, hopeners, -⟩ :=
      exists_of_readKinds_append (wellNested_iff_readKinds.mp hrest)
    rw [hopeners]
    rfl
  · intro h
    obtain ⟨openers, hopeners⟩ := Option.isSome_iff_exists.mp h
    refine ⟨openers.map .closing, wellNested_iff_readKinds.mpr ?_⟩
    rw [Nesting.readKinds_append, hopeners, Option.bind_some, readKinds_closers]

instance : DecidablePred Viable := fun _ => decidable_of_iff' _ viable_iff_readKinds

theorem Viable.of_isPrefix (h : Viable word) {front : List Delimiter} (hfront : front <+: word) :
    Viable front := by
  obtain ⟨rest, hrest⟩ := h
  obtain ⟨behind, rfl⟩ := hfront
  exact ⟨behind ++ rest, by rwa [← List.append_assoc]⟩

theorem WellNested.viable (h : WellNested word) : Viable word := ⟨[], by rwa [List.append_nil]⟩

/-! ### Matched openers -/

theorem matched_iff_take {bracket : Bracket} {behind : List Delimiter} :
    Matched bracket behind ↔ ∃ count < behind.length,
      behind[count]? = some (.closing bracket) ∧ WellNested (behind.take count) := by
  constructor
  · rintro ⟨inner, rest, rfl, hinner⟩
    exact ⟨inner.length, by simp, by simp, by simpa using hinner⟩
  · rintro ⟨count, hcount, hcloser, hinner⟩
    rw [List.getElem?_eq_getElem hcount, Option.some_inj] at hcloser
    exact ⟨behind.take count, behind.drop (count + 1), by simp [← hcloser], hinner⟩

instance (bracket : Bracket) (behind : List Delimiter) : Decidable (Matched bracket behind) :=
  decidable_of_iff' _ matched_iff_take

/-- A word that can be completed closes nothing that was open before it. -/
theorem Viable.not_matched (h : Viable word) (bracket : Bracket) : ¬Matched bracket word := by
  rintro ⟨inner, rest, rfl, hinner⟩
  rw [viable_iff_readKinds, hinner.readKinds_append] at h
  simp [readKinds] at h

end Kinds

/-! ### Openers with their places -/

namespace Nesting

variable {openers after : List (Located Bracket)} {word : List (Located Delimiter)}

theorem read_append_below (h : read openers word = .pending after)
    (below : List (Located Bracket)) :
    read (openers ++ below) word = .pending (after ++ below) := by
  fun_induction read openers word with
  | case1 openers =>
    obtain rfl : openers = after := by simpa using h
    rfl
  | case2 openers bracket position rest ih => exact ih h
  | case3 => simp at h
  | case4 innermost openers position rest ih => simpa [read] using ih h
  | case5 => simp at h

/-- A reading that breaks does so at its first closer that fits nothing. -/
theorem exists_of_read_eq_broken {closer : Located Bracket}
    (h : read openers word = .broken closer) :
    ∃ front after behind, word = front ++ ⟨.closing closer.value, closer.position⟩ :: behind ∧
      read openers front = .pending after ∧
      ∀ opener ∈ after.head?, opener.value ≠ closer.value := by
  fun_induction read openers word with
  | case1 => simp at h
  | case2 openers bracket position rest ih =>
    obtain ⟨front, after, behind, rfl, hfront, hafter⟩ := ih h
    exact ⟨⟨.opening bracket, position⟩ :: front, after, behind, rfl, hfront, hafter⟩
  | case3 bracket position rest =>
    obtain rfl : ⟨bracket, position⟩ = closer := by simpa using h
    exact ⟨[], [], rest, rfl, rfl, by simp⟩
  | case4 innermost openers position rest ih =>
    obtain ⟨front, after, behind, rfl, hfront, hafter⟩ := ih h
    exact ⟨⟨.closing innermost.value, position⟩ :: front, after, behind, rfl,
      by simpa [read] using hfront, hafter⟩
  | case5 innermost openers bracket position rest hvalue =>
    obtain rfl : ⟨bracket, position⟩ = closer := by simpa using h
    exact ⟨[], innermost :: openers, rest, rfl, rfl, by simpa using hvalue⟩

theorem readKinds_of_read (h : read openers word = .pending after) :
    readKinds (openers.map Located.value) (word.map Located.value) =
      some (after.map Located.value) := by
  rw [← kinds?_read, h]
  rfl

/-- An opener that is read stays open to the end, or a closer of the word behind it matches it. -/
theorem read_cons_cases {opener : Located Bracket}
    (h : read (opener :: openers) word = .pending after) :
    (¬Matched opener.value (word.map Located.value) ∧
        ∃ above, read [] word = .pending above ∧ after = above ++ opener :: openers) ∨
      ∃ inner position rest, word = inner ++ ⟨.closing opener.value, position⟩ :: rest ∧
        WellNested (inner.map Located.value) ∧ read openers rest = .pending after := by
  cases hread : read [] word with
  | pending above =>
    left
    have hviable : Viable (word.map Located.value) :=
      viable_iff_readKinds.mpr (Option.isSome_of_eq_some (readKinds_of_read hread))
    refine ⟨hviable.not_matched _, above, rfl, ?_⟩
    have hall := read_append_below hread (opener :: openers)
    rw [List.nil_append, h] at hall
    simpa using hall
  | broken closer =>
    -- Alone the word breaks at a closer. With the opener below it does not, so it is its match.
    right
    obtain ⟨front, above, behind, rfl, hfront, hfits⟩ := exists_of_read_eq_broken hread
    have hall := read_append_below hfront (opener :: openers)
    rw [List.nil_append] at hall
    rw [read_append hall] at h
    rcases above with _ | ⟨innermost, above⟩
    · by_cases heq : opener.value = closer.value
      · rw [List.nil_append, read, if_pos heq] at h
        exact ⟨front, closer.position, behind, by rw [heq],
          wellNested_iff_readKinds.mpr (readKinds_of_read hfront), h⟩
      · simp [read, heq] at h
    · have hne : innermost.value ≠ closer.value := hfits innermost (by simp)
      simp [read, hne] at h

end Nesting

/-- The openers of a word that no closer matches, in the order of the word. -/
def unmatched : List (Located Delimiter) → List (Located Bracket)
  | [] => []
  | ⟨.opening bracket, position⟩ :: behind =>
    if Matched bracket (behind.map Located.value) then unmatched behind
    else ⟨bracket, position⟩ :: unmatched behind
  | ⟨.closing _, _⟩ :: behind => unmatched behind

/-- Each of them is an opener of the word, at its place. -/
theorem unmatched_sublist (word : List (Located Delimiter)) :
    ((unmatched word).map fun opener =>
      (⟨.opening opener.value, opener.position⟩ : Located Delimiter)).Sublist word := by
  fun_induction unmatched word with
  | case1 => exact List.Sublist.slnil
  | case2 bracket position behind hmatched ih => exact ih.cons _
  | case3 bracket position behind hmatched ih => exact ih.cons_cons _
  | case4 bracket position behind ih => exact ih.cons _

/-- All openers of a well-nested word are matched in it, and what follows it changes nothing. -/
theorem unmatched_append_of_wellNested {kinds : List Delimiter} (hkinds : WellNested kinds)
    {word : List (Located Delimiter)} (hword : word.map Located.value = kinds)
    (rest : List (Located Delimiter)) : unmatched (word ++ rest) = unmatched rest := by
  induction hkinds generalizing word rest with
  | nil => rw [List.map_eq_nil_iff.mp hword, List.nil_append]
  | append hfirst hsecond ihfirst ihsecond =>
    obtain ⟨first, second, rfl, hone, htwo⟩ := List.map_eq_append_iff.mp hword
    rw [List.append_assoc, ihfirst hone, ihsecond htwo]
  | @enclose bracket inner hinner ih =>
    obtain ⟨⟨opener, position⟩, others, rfl, hopener, hothers⟩ := List.map_eq_cons_iff.mp hword
    obtain ⟨inside, last, rfl, hinside, hlast⟩ := List.map_eq_append_iff.mp hothers
    obtain ⟨⟨closer, place⟩, nothing, rfl, hcloser, hnone⟩ := List.map_eq_cons_iff.mp hlast
    obtain rfl := List.map_eq_nil_iff.mp hnone
    obtain rfl : opener = .opening bracket := hopener
    obtain rfl : closer = .closing bracket := hcloser
    have hmatched : Matched bracket
        ((inside ++ (⟨.closing bracket, place⟩ : Located Delimiter) :: rest).map Located.value) :=
      ⟨inner, rest.map Located.value, by simp [hinside], hinner⟩
    rw [List.cons_append, List.append_assoc, List.singleton_append, unmatched, if_pos hmatched,
      ih hinside]
    rfl

/-- **What stays open.** At the end of a word that does not break, the open brackets are the
unmatched ones. -/
theorem reverse_eq_unmatched_of_read {word : List (Located Delimiter)}
    {after : List (Located Bracket)} (h : Nesting.read [] word = .pending after) :
    after.reverse = unmatched word := by
  induction hsize : word.length using Nat.strong_induction_on generalizing word after with
  | _ size ih =>
    rcases word with _ | ⟨⟨opened | closed, position⟩, behind⟩
    · obtain rfl : [] = after := by simpa [Nesting.read] using h
      rfl
    · rw [List.length_cons] at hsize
      rcases Nesting.read_cons_cases h with
        ⟨hfree, above, habove, rfl⟩ | ⟨inner, place, rest, rfl, hinner, hrest⟩
      · rw [unmatched, if_neg hfree, ← ih behind.length (by omega) habove rfl]
        simp
      · rw [List.length_append, List.length_cons] at hsize
        have henclosed : unmatched
            (⟨.opening opened, position⟩ :: (inner ++ [⟨.closing opened, place⟩]) ++ rest) =
              unmatched rest :=
          unmatched_append_of_wellNested (hinner.enclose opened) (by simp) rest
        rw [ih rest.length (by omega) hrest rfl, ← henclosed]
        simp
    · simp [Nesting.read] at h

/-- **Where a word breaks.** A word that begins no well-nested one breaks at a closer, and the
stretch up to this closer is the shortest that begins no well-nested word. -/
theorem exists_of_not_viable {word : List (Located Delimiter)}
    (h : ¬Viable (word.map Located.value)) :
    ∃ front bracket position behind, word = front ++ ⟨.closing bracket, position⟩ :: behind ∧
      Nesting.read [] word = .broken ⟨bracket, position⟩ ∧
      ∀ stretch, stretch <+: word.map Located.value →
        (¬Viable stretch ↔ front.length < stretch.length) := by
  cases hread : Nesting.read [] word with
  | pending after =>
    refine absurd (viable_iff_readKinds.mpr ?_) h
    exact Option.isSome_of_eq_some (Nesting.readKinds_of_read hread)
  | broken closer =>
    obtain ⟨front, after, behind, rfl, hfront, hfits⟩ := Nesting.exists_of_read_eq_broken hread
    refine ⟨front, closer.value, closer.position, behind, rfl, rfl, fun stretch hstretch => ?_⟩
    have hviable : Viable (front.map Located.value) :=
      viable_iff_readKinds.mpr (Option.isSome_of_eq_some (Nesting.readKinds_of_read hfront))
    have hbroken : ¬Viable (front.map Located.value ++ [.closing closer.value]) := by
      have hreads := Nesting.readKinds_of_read hfront
      rw [List.map_nil] at hreads
      rw [viable_iff_readKinds, Nesting.readKinds_append, hreads, Option.bind_some]
      rcases after with _ | ⟨innermost, after⟩
      · simp [Nesting.readKinds]
      · have hne : innermost.value ≠ closer.value := hfits innermost (by simp)
        simp [Nesting.readKinds, hne]
    rw [List.map_append, List.map_cons] at hstretch
    constructor
    · intro hnot
      by_contra hle
      refine hnot (hviable.of_isPrefix ?_)
      exact List.prefix_of_prefix_length_le hstretch (List.prefix_append _ _) (by simpa using hle)
    · intro hlt hstretchViable
      refine hbroken (hstretchViable.of_isPrefix ?_)
      have hbegins : front.map Located.value ++ [.closing closer.value] <+:
          front.map Located.value ++ .closing closer.value :: behind.map Located.value :=
        ⟨behind.map Located.value, by simp⟩
      refine List.prefix_of_prefix_length_le hbegins hstretch ?_
      simpa [Nat.succ_le_iff] using hlt

end Culprit
