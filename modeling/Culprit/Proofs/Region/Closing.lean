import Culprit.Region.Basic
import Mathlib.Data.List.Basic

/-!
# The closing suffix closes

The lines that would close the open regions are chosen from the regions alone, while each of them
is read as any other line is, in whatever state the lines before it leave. That they close what they
should rests on what the open regions can be: a function has been opened exactly when it has braces
open, and a rule counts no braces before its consequence. Such a region is closed by its lines and
not by fewer, with nothing done to the regions around it, so a stack is closed region by region.
-/

namespace Culprit

/-- What is true of a region that is open behind some lines. -/
def Region.Sound : Region → Prop
  | .rule _ hasThen depth => hasThen = false → depth = 0
  | .query => True
  | .declare => True
  | .function depth opened => 0 ≤ depth ∧ (opened = true ↔ 0 < depth)

theorem Region.sound_opened (keyword : Keyword) : (Region.opened keyword).Sound := by
  cases keyword <;> simp [opened, Sound]

namespace Regions

/-! ### Open regions are sound -/

/-- A function that stays open behind a line has braces open or has not met one. -/
theorem sound_of_mem_countBraces {depth : Int} {opened : Bool} {line : Text} {outer : Regions}
    (hfunction : (Region.function depth opened).Sound) (houter : ∀ region ∈ outer, region.Sound) :
    ∀ region ∈ countBraces depth opened line outer, region.Sound := by
  obtain ⟨hdepth, hopened⟩ := hfunction
  unfold countBraces
  dsimp only [Text.braces]
  by_cases hclosed : depth + (line.count '{' : Int) - (line.count '}' : Int) ≤ 0 ∧
      (line.count '{' ≠ 0 ∨ line.count '}' ≠ 0)
  · rw [if_pos hclosed]
    exact houter
  · rw [if_neg hclosed, List.forall_mem_cons]
    refine ⟨⟨by omega, ?_⟩, houter⟩
    simp only [Bool.or_eq_true, decide_eq_true_eq, hopened]
    omega

theorem sound_of_mem_readInside {line key : Text} {regions : Regions}
    (hregions : ∀ region ∈ regions, region.Sound) :
    ∀ region ∈ readInside line key regions, region.Sound := by
  fun_cases readInside line key regions with
  | case10 => exact hregions
  | _ => simp_all [Region.Sound]

theorem sound_of_mem_feed {regions : Regions} (hregions : ∀ region ∈ regions, region.Sound)
    (line : Text) : ∀ region ∈ feed regions line, region.Sound := by
  fun_cases feed regions line with
  | case1 depth opened outer =>
    rw [List.forall_mem_cons] at hregions
    exact sound_of_mem_countBraces hregions.1 hregions.2
  | case2 _ _ keyword _ =>
    cases keyword with
    | function => exact sound_of_mem_countBraces (Region.sound_opened .function) hregions
    | _ => exact List.forall_mem_cons.mpr ⟨Region.sound_opened _, hregions⟩
  | case3 => exact sound_of_mem_readInside hregions

theorem sound_of_mem_scan (lines : List Text) : ∀ region ∈ scan lines, region.Sound := by
  have hfold : ∀ regions : Regions, (∀ region ∈ regions, region.Sound) →
      ∀ region ∈ lines.foldl feed regions, region.Sound := by
    induction lines with
    | nil => exact fun _ hregions => hregions
    | cons line rest ih => exact fun _ hregions => ih _ (sound_of_mem_feed hregions line)
  exact hfold [] (by simp)

/-! ### Closing one region -/

/-- Lines that close a region, the last of them and none before it, and leave the regions around it
as they are. -/
inductive Closes (outer : Regions) : Region → List Text → Prop
  | last {region : Region} {line : Text} (hfeed : feed (region :: outer) line = outer) :
      Closes outer region [line]
  | more {region next : Region} {line : Text} {rest : List Text}
      (hfeed : feed (region :: outer) line = next :: outer) (hrest : Closes outer next rest) :
      Closes outer region (line :: rest)

namespace Closes

variable {outer : Regions} {region : Region} {lines : List Text}

theorem foldl_feed (h : Closes outer region lines) :
    lines.foldl feed (region :: outer) = outer := by
  induction h with
  | last hfeed => exact hfeed
  | more hfeed hrest ih => rw [List.foldl_cons, hfeed, ih]

theorem foldl_feed_of_isPrefix (h : Closes outer region lines) {front : List Text}
    (hfront : front <+: lines) (hne : front ≠ lines) :
    ∃ next, front.foldl feed (region :: outer) = next :: outer := by
  induction h generalizing front with
  | @last region line hfeed =>
    rcases front with _ | ⟨first, front⟩
    · exact ⟨region, rfl⟩
    · obtain ⟨rfl, hnil⟩ := List.cons_prefix_cons.mp hfront
      exact absurd (by rw [List.prefix_nil.mp hnil]) hne
  | @more region next line rest hfeed hrest ih =>
    rcases front with _ | ⟨first, front⟩
    · exact ⟨region, rfl⟩
    · obtain ⟨rfl, hmore⟩ := List.cons_prefix_cons.mp hfront
      rw [List.foldl_cons, hfeed]
      exact ih hmore fun heq => hne (by rw [heq])

end Closes

section Lines

variable {outer : Regions} {hasWhen hasThen : Bool} {depth : Int}

theorem feed_rule_whenKey :
    feed (.rule hasWhen hasThen depth :: outer) whenKey = .rule true hasThen depth :: outer := by
  have hkey : whenKey.key = whenKey ∧ headerKeyword? whenKey = none := by decide
  simp [feed, hkey, readInside]

theorem feed_rule_thenKey :
    feed (.rule hasWhen hasThen depth :: outer) thenKey = .rule hasWhen true depth :: outer := by
  have hkey : thenKey.key = thenKey ∧ headerKeyword? thenKey = none ∧ thenKey ≠ whenKey := by decide
  simp [feed, hkey, readInside]

theorem feed_rule_closer :
    feed (.rule hasWhen true depth :: outer) ['}'] = .rule hasWhen true (depth - 1) :: outer := by
  have hkey : Text.key ['}'] = ['}'] ∧ headerKeyword? ['}'] = none ∧ ['}'] ≠ whenKey ∧
      ['}'] ≠ thenKey ∧ ['}'] ≠ endKey := by decide
  simp [feed, hkey, readInside, Text.braces]

/-- The word for the end closes any region but a function. -/
theorem feed_endKey {region : Region} (hregion : region.keyword ≠ .function) :
    feed (region :: outer) endKey = outer := by
  have hkey : endKey.key = endKey ∧ headerKeyword? endKey = none ∧ endKey ≠ whenKey ∧
      endKey ≠ thenKey := by decide
  cases region with
  | function depth opened => exact absurd rfl hregion
  | _ => simp [feed, hkey, readInside]

theorem closes_closers_of_rule (count : Nat) :
    Closes outer (.rule hasWhen true depth) (List.replicate count ['}'] ++ [endKey]) := by
  induction count generalizing depth with
  | zero => exact .last (feed_endKey (by simp [Region.keyword]))
  | succ count ih => exact .more feed_rule_closer ih

theorem closes_closers_of_function {count : Nat} (hcount : 0 < count) :
    Closes outer (.function count true) (List.replicate count ['}']) := by
  induction count with
  | zero => omega
  | succ count ih =>
    rw [List.replicate_succ]
    rcases Nat.eq_zero_or_pos count with rfl | hpos
    · exact .last (by simp [feed, countBraces, Text.braces])
    · refine .more ?_ (ih hpos)
      simp [feed, countBraces, Text.braces, Nat.ne_of_gt hpos]

theorem closes_closingLines {region : Region} (hregion : region.Sound) :
    Closes outer region region.closingLines := by
  cases region with
  | rule hasWhen hasThen depth =>
    -- Behind the words for its clauses the rule has both, and its braces come next.
    have hthen : ∀ hasWhen, Closes outer (.rule hasWhen hasThen depth)
        ((if hasThen then [] else [thenKey]) ++ List.replicate depth.toNat ['}'] ++ [endKey]) := by
      intro hasWhen
      cases hasThen with
      | true => exact closes_closers_of_rule depth.toNat
      | false => exact .more feed_rule_thenKey (closes_closers_of_rule depth.toNat)
    cases hasWhen with
    | true => exact hthen true
    | false => exact .more feed_rule_whenKey (hthen true)
  | query => exact .last (feed_endKey (by simp [Region.keyword]))
  | declare => exact .last (feed_endKey (by simp [Region.keyword]))
  | function depth opened =>
    obtain ⟨hdepth, hopened⟩ := hregion
    obtain ⟨count, rfl⟩ := Int.eq_ofNat_of_zero_le hdepth
    cases opened with
    | true => simpa [Region.closingLines] using closes_closers_of_function (by simpa using hopened)
    | false =>
      obtain rfl : count = 0 := by simpa using hopened
      exact .last (by simp [feed, countBraces, Text.braces])

end Lines

/-! ### Closing all of them -/

theorem foldl_feed_closingSuffix_take {regions : Regions}
    (hregions : ∀ region ∈ regions, region.Sound) (count : Nat) :
    (closingSuffix (regions.take count)).foldl feed regions = regions.drop count := by
  induction regions generalizing count with
  | nil => simp [closingSuffix]
  | cons region outer ih =>
    rw [List.forall_mem_cons] at hregions
    cases count with
    | zero => rfl
    | succ count =>
      have hsplit : closingSuffix ((region :: outer).take (count + 1)) =
          region.closingLines ++ closingSuffix (outer.take count) := by
        simp [closingSuffix]
      rw [hsplit, List.foldl_append, (closes_closingLines hregions.1).foldl_feed,
        ih hregions.2, List.drop_succ_cons]

theorem foldl_feed_ne_nil_of_isPrefix {regions : Regions}
    (hregions : ∀ region ∈ regions, region.Sound) {front : List Text}
    (hfront : front <+: regions.closingSuffix) (hne : front ≠ regions.closingSuffix) :
    front.foldl feed regions ≠ [] := by
  induction regions generalizing front with
  | nil => exact absurd (List.prefix_nil.mp hfront) hne
  | cons region outer ih =>
    rw [List.forall_mem_cons] at hregions
    have hcloses : Closes outer region region.closingLines := closes_closingLines hregions.1
    have hsplit : closingSuffix (region :: outer) = region.closingLines ++ closingSuffix outer :=
      List.flatMap_cons
    rw [hsplit] at hfront hne
    by_cases hclosed : region.closingLines <+: front
    · obtain ⟨more, rfl⟩ := hclosed
      rw [List.foldl_append, hcloses.foldl_feed]
      exact ih hregions.2 ((List.prefix_append_right_inj _).mp hfront) fun heq => hne (by rw [heq])
    · have hfew : front <+: region.closingLines :=
        (List.prefix_or_prefix_of_prefix hfront (List.prefix_append _ _)).resolve_right hclosed
      obtain ⟨next, hnext⟩ := hcloses.foldl_feed_of_isPrefix hfew
        fun heq => hclosed (heq ▸ List.prefix_rfl)
      rw [hnext]
      exact List.cons_ne_nil _ _

theorem scan_append (first second : List Text) :
    scan (first ++ second) = second.foldl feed (scan first) :=
  List.foldl_append

end Regions

end Culprit
