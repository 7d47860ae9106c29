import Culprit.Proofs.Region.Closing
import Mathlib.Data.List.Induction

/-!
# What lines can leave open

A line touches the innermost region only: it leaves the open regions as they are, changes the
innermost one, opens one inside of it, or closes it. Nothing is opened inside a function, because
its body is opaque. So a function can only be innermost, and that is where the flags that look for
a function anywhere among the open regions find it.
-/

namespace Culprit.Regions

/-- The innermost region is a function. -/
def isOpaque : Regions → Bool
  | .function _ _ :: _ => true
  | _ => false

theorem exists_of_isOpaque {regions : Regions} (h : regions.isOpaque = true) :
    ∃ depth opened outer, regions = .function depth opened :: outer := by
  fun_cases isOpaque regions with
  | case1 depth opened outer => exact ⟨depth, opened, outer, rfl⟩
  | case2 => simp [isOpaque] at h

theorem isOpaque_cons_eq_false_iff {region : Region} {outer : Regions} :
    isOpaque (region :: outer) = false ↔ region.keyword ≠ .function := by
  cases region <;> simp [isOpaque, Region.keyword]

/-- What one line may do to the open regions. -/
inductive Step : Regions → Regions → Prop
  | kept (regions : Regions) : Step regions regions
  /-- The innermost region becomes another one of its kind. -/
  | changed {region next : Region} (hkind : next.keyword = region.keyword) (outer : Regions) :
      Step (region :: outer) (next :: outer)
  /-- A region is opened, but not in a function. -/
  | opened (region : Region) {regions : Regions} (hbody : regions.isOpaque = false) :
      Step regions (region :: regions)
  | closed (region : Region) (outer : Regions) : Step (region :: outer) outer

/-- What is true of the open regions behind any lines. -/
structure WellFormed (regions : Regions) : Prop where
  sound : ∀ region ∈ regions, region.Sound
  /-- A function has no region inside of it. -/
  innermost : ∀ region ∈ regions.tail, region.keyword ≠ .function

/-! ### One line -/

theorem step_countBraces (depth : Int) (opened : Bool) (line : Text) (outer : Regions) :
    Step (.function depth opened :: outer) (countBraces depth opened line outer) := by
  simp only [countBraces]
  split
  · exact .closed _ outer
  · exact .changed (by rfl) outer

theorem step_openRegion (keyword : Keyword) (line : Text) {regions : Regions}
    (hbody : regions.isOpaque = false) : Step regions (openRegion keyword line regions) := by
  cases keyword with
  | function =>
    -- A function whose braces balance in its header is closed as soon as it is opened.
    simp only [openRegion, countBraces]
    split
    · exact .kept regions
    · exact .opened _ hbody
  | _ => exact .opened _ hbody

theorem step_readInside (line key : Text) (regions : Regions) :
    Step regions (readInside line key regions) := by
  fun_cases readInside line key regions with
  | case1 | case2 | case4 => exact .changed (by rfl) _
  | case3 | case6 | case8 => exact .closed _ _
  | _ => exact .kept _

/-- **A line touches the innermost region only**, whatever regions are open. -/
theorem step_feed (regions : Regions) (line : Text) : Step regions (feed regions line) := by
  fun_cases feed regions line with
  | case1 depth opened outer => exact step_countBraces depth opened line outer
  | case2 regions hfunction keyword =>
    refine step_openRegion keyword line ?_
    rcases regions with _ | ⟨region, outer⟩
    · rfl
    · rw [isOpaque_cons_eq_false_iff]
      cases region with
      | function depth opened => exact absurd rfl (hfunction depth opened outer)
      | _ => simp [Region.keyword]
  | case3 => exact step_readInside line line.key _

/-! ### Any lines -/

theorem Step.innermost {before after : Regions} (h : Step before after)
    (hbefore : ∀ region ∈ before.tail, region.keyword ≠ .function) :
    ∀ region ∈ after.tail, region.keyword ≠ .function := by
  cases h with
  | kept => exact hbefore
  | changed hkind outer => exact hbefore
  | closed region outer => exact fun other hmem => hbefore other (List.mem_of_mem_tail hmem)
  | opened region hbody =>
    cases before with
    | nil => simp
    | cons innermost outer =>
      exact List.forall_mem_cons.mpr ⟨isOpaque_cons_eq_false_iff.mp hbody, hbefore⟩

theorem WellFormed.feed {regions : Regions} (h : WellFormed regions) (line : Text) :
    WellFormed (regions.feed line) :=
  ⟨sound_of_mem_feed h.sound line, (step_feed regions line).innermost h.innermost⟩

theorem wellFormed_scan (lines : List Text) : WellFormed (scan lines) := by
  induction lines using List.reverseRecOn with
  | nil => exact ⟨by simp [scan], by simp [scan]⟩
  | append_singleton lines line ih =>
    rw [scan_append]
    exact ih.feed line

/-- A search for a function that finds one has found the innermost region. -/
theorem WellFormed.innermost?_function {regions : Regions} (h : WellFormed regions) :
    regions.innermost? .function = if regions.isOpaque then regions.head? else none := by
  rcases regions with _ | ⟨region, outer⟩
  · rfl
  · cases hbody : isOpaque (region :: outer) with
    | true =>
      cases region with
      | function depth opened => rfl
      | _ => cases hbody
    | false =>
      rw [isOpaque_cons_eq_false_iff] at hbody
      simpa [innermost?, hbody] using h.innermost

/-- **What any lines leave open is well-formed, and the next line is read locally.** A function is
innermost, it counts no fewer braces than none, and its body has been opened exactly when it counts
some; a rule without its consequence counts none. So the flag for a function tells whether the
innermost region is one, and the count of braces is that of this region, or zero. One more line
leaves the regions as they are, changes the innermost one, opens one inside of it or closes it, and
none further out is touched. -/
theorem scan_wellFormed (lines : List Text) :
    let regions := scan lines
    regions.WellFormed ∧ regions.isInside .function = regions.isOpaque ∧
      (∀ depth opened outer, regions = .function depth opened :: outer →
        regions.functionDepth = depth) ∧
      (regions.isOpaque = false → regions.functionDepth = 0) ∧
      ∀ line, Step regions (regions.feed line) := by
  intro regions
  have hwell : regions.WellFormed := wellFormed_scan lines
  have hfound := hwell.innermost?_function
  refine ⟨hwell, ?_, ?_, fun hbody => ?_, step_feed regions⟩
  · rw [isInside, hfound]
    cases hbody : regions.isOpaque with
    | false => rfl
    | true =>
      obtain ⟨depth, opened, outer, hregions⟩ := exists_of_isOpaque hbody
      rw [hregions]
      rfl
  · intro depth opened outer hregions
    rw [functionDepth, hfound, hregions]
    rfl
  · rw [functionDepth, hfound, hbody]
    rfl

end Culprit.Regions
