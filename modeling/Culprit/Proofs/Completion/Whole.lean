import Culprit.Proofs.Completion.Structural
import Culprit.Proofs.Region.Closing

/-!
# Documents that are complete

A document behind which no region is open is left as it is by the structural completion. A completed
document is one: its suffix closes what the prefix leaves open, so completing twice is completing
once.
-/

namespace Culprit

namespace Completion

theorem firstLines_length_sub_one (lines : List Text) :
    firstLines lines (lines.length - 1) = lines := by
  have hcount : (lines.length : Int) - 1 + 1 = lines.length := by omega
  have hpos : ¬(lines.length : Int) < 0 := by omega
  simp only [firstLines, hcount, if_neg hpos, Int.toNat_natCast, List.take_length]

theorem mem_of_mem_firstLines {lines : List Text} {last : Int} {line : Text}
    (hline : line ∈ firstLines lines last) : line ∈ lines := by
  unfold firstLines at hline
  dsimp only at hline
  by_cases hcount : last + 1 < 0
  · rw [if_pos hcount] at hline
    exact List.mem_of_mem_take hline
  · rw [if_neg hcount] at hline
    exact List.mem_of_mem_take hline

theorem complete_of_scan_eq_nil {lines : List Text} (hscan : Regions.scan lines = []) :
    structural.complete lines (lines.length - 1) = Text.unlines lines := by
  rw [complete, firstLines_length_sub_one, ofLines, hscan, Regions.closingSuffix, List.flatMap_nil,
    List.append_nil]

/-- Cutting a document into lines and joining them loses nothing, also when it has no lines. -/
theorem complete_lines_unlines {lines : List Text} (hlines : ∀ line ∈ lines, '\n' ∉ line)
    (hscan : Regions.scan lines = []) :
    structural.complete (Text.unlines lines).lines ((Text.unlines lines).lines.length - 1) =
      Text.unlines lines := by
  rcases lines with _ | ⟨line, rest⟩
  · rfl
  · rw [Text.lines_unlines (List.cons_ne_nil line rest) hlines]
    exact complete_of_scan_eq_nil hscan

end Completion

/-- **The suffix closes, innermost first and no earlier.** Read behind the lines that it is made
for, the closing suffix leaves nothing open. The part of it that belongs to the innermost regions
leaves the others as they are, and no part of it leaves nothing open. So a completed document is
complete. -/
theorem scan_append_closingSuffix (lines : List Text) :
    Regions.scan (lines ++ (Regions.scan lines).closingSuffix) = [] ∧
      (∀ count, Regions.scan (lines ++ Regions.closingSuffix ((Regions.scan lines).take count)) =
        (Regions.scan lines).drop count) ∧
      (∀ front, front <+: (Regions.scan lines).closingSuffix →
        front ≠ (Regions.scan lines).closingSuffix → Regions.scan (lines ++ front) ≠ []) ∧
      ((∀ line ∈ lines, '\n' ∉ line) → ∀ last : Int,
        let document := Completion.structural.complete lines last
        Completion.structural.complete document.lines (document.lines.length - 1) = document) := by
  have hcloses : ∀ lines : List Text,
      Regions.scan (lines ++ (Regions.scan lines).closingSuffix) = [] := by
    intro lines
    have hall := Regions.foldl_feed_closingSuffix_take (Regions.sound_of_mem_scan lines)
      (Regions.scan lines).length
    rwa [List.take_length, List.drop_length, ← Regions.scan_append] at hall
  refine ⟨hcloses lines, fun count => ?_, fun front hfront hne => ?_, fun hlines last => ?_⟩
  · rw [Regions.scan_append]
    exact Regions.foldl_feed_closingSuffix_take (Regions.sound_of_mem_scan lines) count
  · rw [Regions.scan_append]
    exact Regions.foldl_feed_ne_nil_of_isPrefix (Regions.sound_of_mem_scan lines) hfront hne
  · refine Completion.complete_lines_unlines (fun line hline => ?_) (hcloses _)
    rcases List.mem_append.mp hline with hfirst | hsuffix
    · exact hlines line (Completion.mem_of_mem_firstLines hfirst)
    · exact (clear_of_mem_closingWords (mem_closingWords_of_mem_closingSuffix hsuffix)).1

/-- A function inside the consequence of a rule that has no `when`, both with braces open. -/
def nestedLines : List Text :=
  ["rule \"r\"", "then", "if (x) \x7b", "function int f() \x7b", "while (y) \x7b"].map String.toList

/-- Two braces close the function and leave the rule as it is; without its `end` the rule stays
open. -/
theorem scan_append_closingSuffix_nestedLines :
    Regions.scan nestedLines = [.function 2 true, .rule false true 1] ∧
      Regions.scan (nestedLines ++ [['}'], ['}']]) = [.rule false true 1] ∧
      Regions.scan (nestedLines ++ [['}'], ['}'], whenKey, ['}']]) ≠ [] ∧
      Regions.scan (nestedLines ++ [['}'], ['}'], whenKey, ['}'], endKey]) = [] := by
  have hscan : Regions.scan nestedLines = [.function 2 true, .rule false true 1] := by decide
  obtain ⟨hcloses, htake, hfront, -⟩ := scan_append_closingSuffix nestedLines
  rw [hscan] at hcloses hfront
  have hinner := htake 1
  rw [hscan] at hinner
  exact ⟨hscan, hinner, hfront _ ⟨[endKey], rfl⟩ (by decide), hcloses⟩

end Culprit
