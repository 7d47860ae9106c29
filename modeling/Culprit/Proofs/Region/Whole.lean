import Culprit.Proofs.Region.FunctionExtent
import Mathlib.Data.Nat.Find

/-!
# Lines that leave nothing open

Whether any region is open behind some lines can be read off the lines as they were written, without
following the open regions: the lines have to be made up of whole regions, with other lines between
them. A whole region goes from its header to an `end`, with whole regions inside of it; a function
goes from its header to the line that closes it, whatever the lines between look like. Outside of
all regions an `end` is a line like any other.
-/

namespace Culprit

/-- The last line closes the function that begins with the first one, and no earlier one does. -/
def EndsFunction (lines : List Text) : Prop :=
  IsLeast {index | ClosesAt lines index} (lines.length - 1)

/-- Lines that close every region that they open. Inside of a region they do not close it. -/
inductive Whole : (inside : Bool) → List Text → Prop
  | nil {inside : Bool} : Whole inside []
  | line {inside : Bool} {line : Text} {rest : List Text} (hheader : headerKeyword? line.key = none)
      (hend : inside = true → line.key ≠ endKey) (hrest : Whole inside rest) :
      Whole inside (line :: rest)
  | block {inside : Bool} {keyword : Keyword} {header last : Text} {body rest : List Text}
      (hheader : headerKeyword? header.key = some keyword) (hkeyword : keyword ≠ .function)
      (hbody : Whole true body) (hlast : last.key = endKey) (hrest : Whole inside rest) :
      Whole inside (header :: body ++ last :: rest)
  | function {inside : Bool} {header : Text} {body rest : List Text}
      (hheader : headerKeyword? header.key = some .function)
      (hends : EndsFunction (header :: body)) (hrest : Whole inside rest) :
      Whole inside (header :: body ++ rest)

namespace Regions

/-- The keywords of the open regions. They alone decide which regions are opened and closed. -/
def kinds (regions : Regions) : List Keyword := regions.map Region.keyword

variable {regions regions' : Regions} {line : Text} {lines : List Text}

@[simp] theorem kinds_nil : kinds [] = [] := rfl

@[simp] theorem kinds_cons (region : Region) (outer : Regions) :
    kinds (region :: outer) = region.keyword :: outer.kinds := rfl

@[simp] theorem kinds_eq_nil_iff : regions.kinds = [] ↔ regions = [] := List.map_eq_nil_iff

theorem isOpaque_eq_false_iff :
    regions.isOpaque = false ↔ regions.kinds.head? ≠ some .function := by
  rcases regions with _ | ⟨_ | _ | _ | _, outer⟩ <;> simp [isOpaque, Region.keyword]

theorem isOpaque_eq_false_of_kinds_eq (hbody : regions.isOpaque = false)
    (hkinds : regions'.kinds = regions.kinds) : regions'.isOpaque = false := by
  rw [isOpaque_eq_false_iff] at hbody ⊢
  rwa [hkinds]

/-! ### One line -/

theorem feed_of_isOpaque_eq_false (hbody : regions.isOpaque = false)
    (hheader : headerKeyword? line.key = none) :
    feed regions line = readInside line line.key regions := by
  fun_cases feed regions line with
  | case1 => cases hbody
  | case2 _ _ keyword hsome => simp [hheader] at hsome
  | case3 => rfl

theorem feed_header {keyword : Keyword} (hbody : regions.isOpaque = false)
    (hheader : headerKeyword? line.key = some keyword) (hkeyword : keyword ≠ .function) :
    feed regions line = .opened keyword :: regions := by
  fun_cases feed regions line with
  | case1 => cases hbody
  | case2 _ _ found hsome =>
    obtain rfl : found = keyword := by simpa [hheader] using hsome.symm
    cases found with
    | function => exact absurd rfl hkeyword
    | _ => rfl
  | case3 _ _ hnone => simp [hheader] at hnone

/-- A line that is neither a header nor the end of a region leaves all regions of their kinds. -/
theorem kinds_feed_of_line (hbody : regions.isOpaque = false)
    (hheader : headerKeyword? line.key = none) (hend : regions = [] ∨ line.key ≠ endKey) :
    (feed regions line).kinds = regions.kinds := by
  rw [feed_of_isOpaque_eq_false hbody hheader]
  fun_cases readInside line line.key regions with
  | case3 | case6 | case8 => simp_all
  | _ => rfl

theorem kinds_feed_of_end {region : Region} (hbody : isOpaque (region :: regions) = false)
    (hend : line.key = endKey) : (feed (region :: regions) line).kinds = regions.kinds := by
  have hheader : headerKeyword? line.key = none := by rw [hend]; rfl
  have hwords : endKey ≠ whenKey ∧ endKey ≠ thenKey := by decide
  rw [feed_of_isOpaque_eq_false hbody hheader, hend]
  rw [isOpaque_cons_eq_false_iff] at hbody
  cases region with
  | function depth opened => exact absurd rfl hbody
  | _ => simp [readInside, hwords]

theorem foldl_feed_of_endsFunction {header : Text} {body : List Text}
    (hbody : regions.isOpaque = false) (hheader : headerKeyword? header.key = some .function)
    (hends : EndsFunction (header :: body)) : (header :: body).foldl feed regions = regions := by
  have htake := ((foldl_feed_function hbody hheader body).1 _ hends).1
  rwa [List.take_of_length_le (by simp)] at htake

/-! ### Whole regions close what they open -/

theorem kinds_foldl_feed_of_whole {inside : Bool} (h : Whole inside lines)
    (hbody : regions.isOpaque = false) (hinside : regions = [] ∨ inside = true) :
    (lines.foldl feed regions).kinds = regions.kinds := by
  induction h generalizing regions with
  | nil => rfl
  | line hheader hend hrest ih =>
    have hkinds := kinds_feed_of_line hbody hheader (hinside.imp_right hend)
    rw [List.foldl_cons, ih (isOpaque_eq_false_of_kinds_eq hbody hkinds), hkinds]
    rwa [← kinds_eq_nil_iff, hkinds, kinds_eq_nil_iff]
  | @block inside keyword header last body rest hheader hkeyword _ hlast _ ihbody ihrest =>
    have hopened : isOpaque (.opened keyword :: regions) = false := by
      rw [isOpaque_cons_eq_false_iff]
      cases keyword with
      | function => exact absurd rfl hkeyword
      | _ => simp [Region.opened, Region.keyword]
    have hinner := ihbody hopened (.inr rfl)
    rw [List.foldl_append, List.foldl_cons, List.foldl_cons, feed_header hbody hheader hkeyword]
    generalize hafter : body.foldl feed (.opened keyword :: regions) = after at hinner ⊢
    have hclosed := isOpaque_eq_false_of_kinds_eq hopened hinner
    rcases after with _ | ⟨region, outer⟩
    · cases hinner
    · have hkinds : (feed (region :: outer) last).kinds = regions.kinds :=
        (kinds_feed_of_end hclosed hlast).trans (List.cons.inj hinner).2
      rw [ihrest (isOpaque_eq_false_of_kinds_eq hbody hkinds), hkinds]
      rwa [← kinds_eq_nil_iff, hkinds, kinds_eq_nil_iff]
  | function hheader hends _ ih =>
    rw [List.foldl_append, foldl_feed_of_endsFunction hbody hheader hends]
    exact ih hbody hinside

/-- Lines that leave nothing open by themselves may still close the one region they stand in, by an
`end` that closes nothing else. -/
theorem kinds_foldl_feed_of_length_le_one {inside : Bool} (h : Whole inside lines)
    (hbody : regions.isOpaque = false) (hone : regions.kinds.length ≤ 1) :
    (lines.foldl feed regions).kinds = [] ∨
      (lines.foldl feed regions).kinds = regions.kinds := by
  induction h generalizing regions with
  | nil => exact .inr rfl
  | @line inside line rest hheader _ _ ih =>
    rw [List.foldl_cons]
    by_cases hend : regions = [] ∨ line.key ≠ endKey
    · have hkinds := kinds_feed_of_line hbody hheader hend
      rw [← hkinds]
      exact ih (isOpaque_eq_false_of_kinds_eq hbody hkinds) (hkinds ▸ hone)
    · obtain ⟨hopen, hends⟩ : regions ≠ [] ∧ line.key = endKey := by simpa using hend
      obtain ⟨region, outer, rfl⟩ := List.exists_cons_of_ne_nil hopen
      obtain rfl : outer = [] := by simpa [kinds] using hone
      have hclosed : feed [region] line = [] :=
        kinds_eq_nil_iff.mp (kinds_feed_of_end hbody hends)
      rw [hclosed]
      exact .inl ((ih rfl (by simp)).elim id id)
  | @block inside keyword header last body rest hheader hkeyword hinner hlast _ _ ih =>
    have hblock : Whole true (header :: body ++ [last]) :=
      .block hheader hkeyword hinner hlast .nil
    have hkinds := kinds_foldl_feed_of_whole hblock hbody (.inr rfl)
    have hsplit : header :: body ++ last :: rest = (header :: body ++ [last]) ++ rest := by simp
    rw [hsplit, List.foldl_append, ← hkinds]
    exact ih (isOpaque_eq_false_of_kinds_eq hbody hkinds) (hkinds ▸ hone)
  | function hheader hends _ ih =>
    rw [List.foldl_append, foldl_feed_of_endsFunction hbody hheader hends]
    exact ih hbody hone

/-! ### What closes everything is made up of whole regions -/

/-- Lines that close a number of regions open around them, and leave nothing open themselves. -/
def Finishes : Nat → List Text → Prop
  | 0, lines => Whole false lines
  | count + 1, lines => ∃ body last rest,
      lines = body ++ last :: rest ∧ Whole true body ∧ last.key = endKey ∧ Finishes count rest

theorem Finishes.append {count : Nat} (h : Finishes count lines) (first : List Text)
    (hfirst : ∀ rest, Whole (count != 0) rest → Whole (count != 0) (first ++ rest)) :
    Finishes count (first ++ lines) := by
  cases count with
  | zero => exact hfirst lines h
  | succ count =>
    obtain ⟨body, last, rest, rfl, hbody, hlast, hrest⟩ := h
    exact ⟨first ++ body, last, rest, by simp, hfirst body hbody, hlast, hrest⟩

theorem closesAt_append_iff {front back : List Text} {index : Nat} (hindex : index < front.length) :
    ClosesAt (front ++ back) index ↔ ClosesAt front index := by
  have hbehind : index < (front ++ back).length := by
    rw [List.length_append]
    omega
  rw [closesAt_iff hindex, closesAt_iff hbehind, List.getElem_append_left hindex,
    List.take_append_of_le_length hindex.le]

/-- Behind the header of a function that is closed at all there are its own lines first. -/
theorem exists_endsFunction {header : Text} (h : ∃ index, ClosesAt (header :: lines) index) :
    ∃ body rest, lines = body ++ rest ∧ EndsFunction (header :: body) := by
  let last := Nat.find h
  have hcloses : ClosesAt (header :: lines) last := Nat.find_spec h
  have hlast : last < (header :: lines).length := hcloses.1
  rw [List.length_cons, Nat.lt_succ_iff] at hlast
  have hbody : (header :: lines.take last).length = last + 1 := by simpa using hlast
  have hsplit : header :: lines = header :: lines.take last ++ lines.drop last := by simp
  refine ⟨lines.take last, lines.drop last, (List.take_append_drop _ _).symm, ?_⟩
  rw [EndsFunction, hbody, Nat.add_sub_cancel]
  constructor
  · rwa [hsplit, closesAt_append_iff (by omega)] at hcloses
  · intro index hindex
    apply Nat.find_min' h
    rw [hsplit]
    exact (closesAt_append_iff hindex.1).mpr hindex

theorem isOpaque_eq_false_of_notMem (h : Keyword.function ∉ regions.kinds) :
    regions.isOpaque = false := by
  rw [isOpaque_eq_false_iff]
  intro hhead
  exact h (List.mem_of_mem_head? hhead)

theorem finishes_of_foldl_feed_eq_nil (hregions : Keyword.function ∉ regions.kinds)
    (hclosed : lines.foldl feed regions = []) : Finishes regions.kinds.length lines := by
  have hbody := isOpaque_eq_false_of_notMem hregions
  -- By induction on the number of lines: the first one begins a region, ends one, or does neither,
  -- and a function is left behind as a whole.
  induction hlength : lines.length using Nat.strong_induction_on generalizing lines regions with
  | _ length ih =>
    subst hlength
    rcases lines with _ | ⟨line, rest⟩
    · obtain rfl : regions = [] := hclosed
      exact .nil
    have hfeed : rest.foldl feed (feed regions line) = [] := hclosed
    cases hheader : headerKeyword? line.key with
    | none =>
      by_cases hend : regions = [] ∨ line.key ≠ endKey
      · have hkinds := kinds_feed_of_line hbody hheader hend
        have hrest := ih rest.length (by simp) (hkinds ▸ hregions) hfeed
          (isOpaque_eq_false_of_kinds_eq hbody hkinds) rfl
        rw [hkinds] at hrest
        refine hrest.append [line] fun more hmore => .line hheader ?_ hmore
        intro hinside
        exact hend.resolve_left (by rintro rfl; simp at hinside)
      · obtain ⟨hopen, hends⟩ : regions ≠ [] ∧ line.key = endKey := by simpa using hend
        obtain ⟨region, outer, rfl⟩ := List.exists_cons_of_ne_nil hopen
        have hkinds := kinds_feed_of_end hbody hends
        have houter : Keyword.function ∉ kinds outer := by
          intro hmem
          exact hregions (.tail _ hmem)
        have hrest := ih rest.length (by simp) (hkinds ▸ houter) hfeed
          (isOpaque_eq_false_of_notMem (hkinds ▸ houter)) rfl
        rw [hkinds] at hrest
        exact ⟨[], line, rest, rfl, .nil, hends, hrest⟩
    | some keyword =>
      by_cases hkeyword : keyword = .function
      · subst hkeyword
        by_cases hcloses : ∃ index, ClosesAt (line :: rest) index
        · obtain ⟨body, more, rfl, hends⟩ := exists_endsFunction hcloses
          have hmore : more.foldl feed regions = [] := by
            rwa [← List.cons_append, List.foldl_append,
              foldl_feed_of_endsFunction hbody hheader hends] at hclosed
          have hshorter : more.length < (line :: (body ++ more)).length := by
            rw [List.length_cons, List.length_append]
            omega
          have hrest := ih more.length hshorter hregions hmore hbody rfl
          exact hrest.append (line :: body) fun others hothers =>
            .function hheader hends hothers
        · have hopen := (foldl_feed_function hbody hheader rest).2 (not_exists.mp hcloses)
          rw [hopen] at hclosed
          cases hclosed
      · have hopened := feed_header hbody hheader hkeyword
        have hopenedKeyword : (Region.opened keyword).keyword = keyword := by cases keyword <;> rfl
        have hmore : Keyword.function ∉ (feed regions line).kinds := by
          rw [hopened, kinds_cons, hopenedKeyword]
          simpa [eq_comm] using And.intro hkeyword hregions
        have hinside := ih rest.length (by simp) hmore hfeed (isOpaque_eq_false_of_notMem hmore) rfl
        rw [hopened, kinds_cons, List.length_cons] at hinside
        obtain ⟨body, last, more, rfl, hinner, hlast, hrest⟩ := hinside
        have hblock := hrest.append (line :: body ++ [last]) fun others hothers => by
          simpa using Whole.block hheader hkeyword hinner hlast hothers
        simpa using hblock

/-- **Nothing is open behind lines exactly when they are made up of whole regions.** -/
theorem scan_eq_nil_iff_whole : scan lines = [] ↔ Whole false lines := by
  refine ⟨@finishes_of_foldl_feed_eq_nil [] lines (by simp), ?_⟩
  intro h
  exact kinds_eq_nil_iff.mp (kinds_foldl_feed_of_whole h rfl (.inl rfl))

/-! ### Lines in which little looks like a header -/

theorem whole_of_forall_eq_none (h : ∀ line ∈ lines, headerKeyword? line.key = none) :
    Whole false lines := by
  induction lines with
  | nil => exact .nil
  | cons line rest ih =>
    rw [List.forall_mem_cons] at h
    exact .line h.1 (by simp) (ih h.2)

/-- Braces that are not more opened than closed close a function somewhere: at the last line that
has one, if not before. -/
theorem exists_closesAt (hsum : Text.braceSum lines ≤ 0)
    (hbrace : ∃ line ∈ lines, '{' ∈ line ∨ '}' ∈ line) : ∃ index, ClosesAt lines index := by
  induction lines using List.reverseRecOn with
  | nil => simp at hbrace
  | append_singleton lines line ih =>
    by_cases hline : '{' ∈ line ∨ '}' ∈ line
    · exact ⟨lines.length, (closesAt_iff (by simp)).mpr (by simpa using ⟨hline, hsum⟩)⟩
    · have hsame : Text.braceSum (lines ++ [line]) = Text.braceSum lines := by
        rw [not_or] at hline
        simp [Text.braceSum, Text.braceBalance, List.count_eq_zero.mpr hline.1,
          List.count_eq_zero.mpr hline.2]
      obtain ⟨index, hcloses⟩ := ih (hsame ▸ hsum) (by simpa [hline] using hbrace)
      exact ⟨index, (closesAt_append_iff hcloses.1).mpr hcloses⟩

theorem whole_of_functionHeader {header : Text} {body : List Text}
    (hheader : ∀ keyword, headerKeyword? header.key = some keyword → keyword = .function)
    (hbody : ∀ line ∈ body, headerKeyword? line.key = none)
    (hsum : headerKeyword? header.key ≠ none → Text.braceSum (header :: body) ≤ 0)
    (hbrace : ∃ line ∈ header :: body, '{' ∈ line ∨ '}' ∈ line) : Whole false (header :: body) := by
  cases hfound : headerKeyword? header.key with
  | none => exact whole_of_forall_eq_none (List.forall_mem_cons.mpr ⟨hfound, hbody⟩)
  | some keyword =>
    obtain rfl := hheader keyword hfound
    have hcloses := exists_closesAt (hsum (by simp [hfound])) hbrace
    obtain ⟨own, rest, rfl, hends⟩ := exists_endsFunction hcloses
    exact .function hfound hends
      (whole_of_forall_eq_none fun line hline => hbody line (List.mem_append_right own hline))

end Regions
end Culprit
