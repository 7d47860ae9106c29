import Culprit.Proofs.Region.Reachable
import Culprit.Rules.Outline
import Mathlib.Order.Bounds.Basic

/-!
# From the header of a function to the line that closes it

In a function only braces are read, so what lines make of it is told by their braces alone: by how
many more of them open than close, and by whether any opens at all. The function is closed by the
first line that has a brace and behind which no more have opened than closed. What stood around the
function is then open again as it was, whatever words the lines have.
-/

namespace Culprit

/-- By how much lines open more braces than they close. -/
def Text.braceSum (lines : List Text) : Int := Text.braceBalance lines.flatten

/-- The line at an index has a brace, and behind it the lines leave none open. -/
def ClosesAt (lines : List Text) (index : Nat) : Prop :=
  ∃ h : index < lines.length, ('{' ∈ lines[index] ∨ '}' ∈ lines[index]) ∧
    Text.braceSum (lines.take (index + 1)) ≤ 0

instance (lines : List Text) (index : Nat) : Decidable (ClosesAt lines index) :=
  inferInstanceAs (Decidable (∃ _, _))

/-- A function as it stands behind its header and further lines. -/
def functionRegion (lines : List Text) : Region :=
  .function (Text.braceSum lines) (lines.any fun line => line.contains '{')

namespace Regions

variable {regions : Regions} {lines : List Text} {stop : Nat}

/-! ### One line -/

theorem countBraces_functionRegion (lines : List Text) (line : Text) (outer : Regions) :
    countBraces (Text.braceSum lines) (lines.any fun line => line.contains '{') line outer =
      if ('{' ∈ line ∨ '}' ∈ line) ∧ Text.braceSum (lines ++ [line]) ≤ 0 then outer
      else functionRegion (lines ++ [line]) :: outer := by
  have hsum : Text.braceSum (lines ++ [line]) =
      Text.braceSum lines + (line.count '{' : Int) - (line.count '}' : Int) := by
    simp only [Text.braceSum, Text.braceBalance, List.flatten_append, List.flatten_singleton,
      List.count_append, Int.natCast_add]
    omega
  have hbrace : ∀ c, line.count c ≠ 0 ↔ c ∈ line := fun c => by
    rw [ne_eq, List.count_eq_zero, not_not]
  simp only [countBraces, Text.braces, functionRegion, hsum, hbrace, List.any_append, List.any_cons,
    List.any_nil, Bool.or_false, List.contains_eq_mem, and_comm]

theorem feed_functionRegion (lines : List Text) (line : Text) (outer : Regions) :
    feed (functionRegion lines :: outer) line =
      if ('{' ∈ line ∨ '}' ∈ line) ∧ Text.braceSum (lines ++ [line]) ≤ 0 then outer
      else functionRegion (lines ++ [line]) :: outer :=
  countBraces_functionRegion lines line outer

/-- The header of a function opens it outside of another one, unless its braces close it. -/
theorem feed_functionHeader {header : Text} (houtside : regions.isOpaque = false)
    (hheader : headerKeyword? header.key = some .function) :
    feed regions header =
      if ('{' ∈ header ∨ '}' ∈ header) ∧ Text.braceSum [header] ≤ 0 then regions
      else functionRegion [header] :: regions := by
  have hopens : feed regions header = openRegion .function header regions := by
    fun_cases feed regions header with
    | case1 => cases houtside
    | case2 _ _ keyword hother =>
      obtain rfl : keyword = .function := by simpa [hheader] using hother.symm
      rfl
    | case3 _ _ hnone => simp [hheader] at hnone
  exact hopens.trans (countBraces_functionRegion [] header regions)

/-! ### Further lines -/

theorem closesAt_iff (hstop : stop < lines.length) :
    ClosesAt lines stop ↔ ('{' ∈ lines[stop] ∨ '}' ∈ lines[stop]) ∧
      Text.braceSum (lines.take stop ++ [lines[stop]]) ≤ 0 := by
  rw [← List.take_succ_eq_append_getElem hstop]
  exact ⟨fun ⟨_, hcloses⟩ => hcloses, fun hcloses => ⟨hstop, hcloses⟩⟩

/-- Behind its header a function is open up to the first line that closes it. -/
theorem foldl_feed_take_succ (houtside : regions.isOpaque = false) (hlength : 0 < lines.length)
    (hheader : headerKeyword? lines[0].key = some .function) (hstop : stop < lines.length)
    (hopen : ∀ index < stop, ¬ClosesAt lines index) :
    (lines.take (stop + 1)).foldl feed regions =
      if ClosesAt lines stop then regions
      else functionRegion (lines.take (stop + 1)) :: regions := by
  induction stop with
  | zero =>
    simp only [closesAt_iff hlength, List.take_succ_eq_append_getElem hlength]
    exact feed_functionHeader houtside hheader
  | succ stop ih =>
    have hbefore := ih (by omega) fun index hindex => hopen index (by omega)
    rw [if_neg (hopen stop (by omega))] at hbefore
    rw [List.take_succ_eq_append_getElem hstop, List.foldl_append, hbefore]
    simp only [closesAt_iff hstop]
    exact feed_functionRegion _ _ regions

/-- **A function extends to the first line at which its braces balance**, and no further. Let lines
begin with the header of a function, outside of another one. Up to the first line that has a brace
and behind which none is left open, they change nothing but that function, and behind this line the
regions are what they were before the header. Without such a line the function is still open at the
end, with the braces of all lines counted. -/
theorem foldl_feed_function {header : Text} (houtside : regions.isOpaque = false)
    (hheader : headerKeyword? header.key = some .function) (body : List Text) :
    let lines := header :: body
    (∀ last, IsLeast {index | ClosesAt lines index} last →
      (lines.take (last + 1)).foldl feed regions = regions ∧
        ∀ index < last, (lines.take (index + 1)).foldl feed regions ≠ regions) ∧
    ((∀ index, ¬ClosesAt lines index) →
      lines.foldl feed regions = functionRegion lines :: regions) := by
  intro lines
  have htake {stop : Nat} := @foldl_feed_take_succ regions lines stop houtside (by simp [lines])
    hheader
  refine ⟨fun last ⟨(hcloses : ClosesAt lines last), hleast⟩ => ?_, fun hopen => ?_⟩
  · have hlast : last < lines.length := hcloses.1
    have hopen : ∀ index < last, ¬ClosesAt lines index := fun index hindex hearlier =>
      hindex.not_ge (hleast hearlier)
    refine ⟨by rw [htake hlast hopen, if_pos hcloses], fun index hindex => ?_⟩
    rw [htake (hindex.trans hlast) fun earlier hearlier => hopen earlier (hearlier.trans hindex),
      if_neg (hopen index hindex)]
    exact List.cons_ne_self _ _
  · have hlast : body.length < lines.length := by simp [lines]
    have hend := htake hlast fun index _ => hopen index
    rwa [if_neg (hopen body.length), List.take_of_length_le (by simp [lines])] at hend

/-- Lines of a function that look like those of other blocks, and one that closes a brace before it
opens another. -/
def wordyBody : List Text :=
  ["rule \"inner\"", "\x7b", "end \x7d \x7b", "then", "\x7d", "end"].map String.toList

theorem foldl_feed_function_wordyBody :
    let regions : Regions := [.rule true true 2]
    let header : Text := " Function int f()".toList
    regions.isOpaque = false ∧ headerKeyword? header.key = some .function ∧
      IsLeast {index | ClosesAt (header :: wordyBody) index} 5 ∧
      ((header :: wordyBody).take 6).foldl feed regions = regions ∧
      (∀ index, ¬ClosesAt (header :: wordyBody.take 4) index) ∧
      (header :: wordyBody.take 4).foldl feed regions = .function 1 true :: regions := by
  intro regions header
  have houtside : regions.isOpaque = false := rfl
  have hheader : headerKeyword? header.key = some .function := by decide +kernel
  have hearlier : ∀ index < 5, ¬ClosesAt (header :: wordyBody) index := by decide +kernel
  have hleast : IsLeast {index | ClosesAt (header :: wordyBody) index} 5 :=
    ⟨by decide +kernel, fun index hcloses => not_lt.mp fun hlt => hearlier index hlt hcloses⟩
  have hopen : ∀ index, ¬ClosesAt (header :: wordyBody.take 4) index := by
    have hnone : ∀ index < 5, ¬ClosesAt (header :: wordyBody.take 4) index := by decide +kernel
    exact fun index hcloses => hnone index hcloses.1 hcloses
  exact ⟨houtside, hheader, hleast,
    ((foldl_feed_function houtside hheader wordyBody).1 5 hleast).1, hopen,
    (foldl_feed_function houtside hheader (wordyBody.take 4)).2 hopen⟩

end Regions
end Culprit
