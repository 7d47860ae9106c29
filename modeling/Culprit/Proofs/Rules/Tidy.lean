import Culprit.Proofs.Region.Mirror

/-!
# Documents that can be cut at any line

A prefix of a document can be closed by a few lines if its open brackets are known from its open
block. In a tidy document this is so: round and square brackets are closed on their line, braces
are used in the consequences of rules and in functions only, and a rule closes its own. Outside of
such bodies no bracket is then open, and in them the regions count exactly the braces that are open.
-/

namespace Culprit

/-- Whether braces may be open in a block: in a function, and in a rule that has its
consequence. -/
def Block.holdsBraces : Option Block → Bool
  | some (.rule _ _ hasThen) => hasThen
  | some (.function _ _ _) => true
  | _ => false

/-- The heading of the rule that is open. -/
def Block.ruleHeading? : Option Block → Option Heading
  | some (.rule heading _ _) => some heading
  | _ => none

/-- A document whose brackets stay on their lines or in the bodies of its blocks. -/
structure Tidy (lines : List CodeLine) : Prop where
  /-- Behind every line only braces are open. -/
  curly : ∀ count ≤ lines.length, ∀ bracket ∈ (openBrackets? (lines.take count)).getD [],
    bracket = .curly
  /-- A line with a brace belongs to the consequence of a rule or to a function. -/
  bodies : ∀ index (hindex : index < lines.length),
    '{' ∈ lines[index].text ∨ '}' ∈ lines[index].text →
      Block.holdsBraces (blockBehind lines index) = true ∨
        blockBehind lines index = none ∧ Keyword.function.Opens lines[index].text
  /-- From its header to its end a rule closes as many braces as it opens. -/
  rules : ∀ index < lines.length, ∀ heading ∈ Block.ruleHeading? (blockBehind lines index),
    blockBehind lines (index + 1) = none →
      braceTotal ((lines.take (index + 1)).drop (heading.line - 1)) = 0

instance (lines : List CodeLine) : Decidable (Tidy lines) :=
  decidable_of_iff
    ((∀ count ≤ lines.length, ∀ bracket ∈ (openBrackets? (lines.take count)).getD [],
        bracket = .curly) ∧
      (∀ index (hindex : index < lines.length),
        '{' ∈ lines[index].text ∨ '}' ∈ lines[index].text →
          Block.holdsBraces (blockBehind lines index) = true ∨
            blockBehind lines index = none ∧ Keyword.function.Opens lines[index].text) ∧
      ∀ index < lines.length, ∀ heading ∈ Block.ruleHeading? (blockBehind lines index),
        blockBehind lines (index + 1) = none →
          braceTotal ((lines.take (index + 1)).drop (heading.line - 1)) = 0)
    ⟨fun ⟨hcurly, hbodies, hrules⟩ => ⟨hcurly, hbodies, hrules⟩,
      fun h => ⟨h.curly, h.bodies, h.rules⟩⟩

/-- The braces that are open in a document fit its open block. -/
structure Block.Fits (total : Int) (block : Option Block) : Prop where
  counts : Counts total block
  idle : holdsBraces block = false → total = 0

theorem Text.braceBalance_eq_zero {text : Text} (hnone : ¬('{' ∈ text ∨ '}' ∈ text)) :
    text.braceBalance = 0 := by
  obtain ⟨hopens, hcloses⟩ := not_or.mp hnone
  rw [braceBalance, List.count_eq_zero.mpr hopens, List.count_eq_zero.mpr hcloses]
  rfl

theorem Keyword.Opens.eq {first second : Keyword} {text : Text} (hfirst : first.Opens text)
    (hsecond : second.Opens text) : first = second :=
  eq_of_isPrefix hfirst.prefix_fold hsecond.prefix_fold

/-- A function that a line closes has closed exactly its own braces. -/
theorem Outline.total_eq_zero_of_countBraces {heading : Heading} {total : Int} {opened : Bool}
    {text : Text} (htotal : 0 ≤ total + text.braceBalance)
    (hclosed : Block.holdsBraces (countBraces heading total opened text) = false) :
    total + text.braceBalance = 0 := by
  simp only [countBraces] at hclosed
  split at hclosed
  · rename_i hzero
    have := (Bool.and_eq_true_iff.mp hzero).2
    simp only [decide_eq_true_eq] at this
    omega
  · simp [Block.holdsBraces] at hclosed

/-- A line that has braces only where a block may hold them leaves none open elsewhere. -/
theorem Outline.Reads.idle {line : CodeLine} {block block' : Option Block} {total : Int}
    (hreads : Reads line block block') (hfits : Block.Fits total block)
    (htotal : 0 ≤ total + line.text.braceBalance)
    (hbodies : '{' ∈ line.text ∨ '}' ∈ line.text →
      Block.holdsBraces block = true ∨ block = none ∧ Keyword.function.Opens line.text)
    (hrule : ∀ heading hasWhen hasThen, block = some (.rule heading hasWhen hasThen) →
      block' = none → total + line.text.braceBalance = 0)
    (hidle : Block.holdsBraces block' = false) : total + line.text.braceBalance = 0 := by
  -- Where neither the block nor the line may have braces, nothing is open and nothing is opened.
  have hnothing : Block.holdsBraces block = false →
      (block = none → ¬Keyword.function.Opens line.text) →
        total + line.text.braceBalance = 0 := by
    intro hblock hopens
    rw [hfits.idle hblock, Text.braceBalance_eq_zero, Int.add_zero]
    intro hbrace
    rcases hbodies hbrace with h | ⟨hnone, h⟩
    · simp [hblock] at h
    · exact hopens hnone h
  cases hreads with
  | blank htext =>
    rw [htext, hfits.idle hidle]
    rfl
  | statement hword hbegins =>
    exact hnothing rfl fun _ h => Keyword.not_prefix_of_statement hword hbegins h.prefix_fold
  | ruleHeader hopens => exact hnothing rfl fun _ h => by cases hopens.eq h
  | queryHeader hopens => exact hnothing rfl fun _ h => by cases hopens.eq h
  | declareHeader hopens => exact hnothing rfl fun _ h => by cases hopens.eq h
  | functionHeader hopens =>
    obtain rfl := hfits.idle rfl
    exact total_eq_zero_of_countBraces htotal hidle
  | functionLine =>
    obtain ⟨rfl, -⟩ := hfits.counts _ _ _ rfl
    exact total_eq_zero_of_countBraces htotal hidle
  | ruleWhen hkey => exact hnothing rfl (by simp)
  | ruleThen hkey => simp [Block.holdsBraces] at hidle
  | ruleEnd hkey => exact hrule _ _ _ rfl rfl
  | ruleLine hwhen hthen hend hopener => exact hnothing hidle (by simp)
  | queryEnd hkey => exact hnothing rfl (by simp)
  | queryLine hend hopener => exact hnothing rfl (by simp)
  | declareEnd hkey => exact hnothing rfl (by simp)
  | declareLine hend hopener hform => exact hnothing rfl (by simp)

theorem Outline.Reads.heading_of_rule {line : CodeLine} {block block' : Option Block}
    (hreads : Reads line block block') {heading : Heading} {hasWhen hasThen : Bool}
    (hrule : block' = some (.rule heading hasWhen hasThen)) :
    block = none ∧ heading = .ofLine line ∨
      ∃ hadWhen hadThen, block = some (.rule heading hadWhen hadThen) := by
  cases hreads with
  | ruleHeader hopens =>
    cases hrule
    exact .inl ⟨rfl, rfl⟩
  | functionHeader hopens => simp [countBraces] at hrule
  | functionLine => simp [countBraces] at hrule
  | _ => simp_all

/-! ### A whole document -/

section Document

variable {lines : List Text} (htidy : Tidy (stripLines lines))
  (hnest : openBrackets? (stripLines lines) = some [])
  (hquiet : Outline.start.diagnose (stripLines lines) = [])

include htidy hnest hquiet

/-- Behind each number of lines, the braces that are open fit the open block. What was open where
a rule started is closed again. -/
theorem Tidy.fits (hclear : ∀ line ∈ lines, Text.Clear line) {count : Nat}
    (hcount : count ≤ lines.length) :
    Block.Fits (braceTotal ((stripLines lines).take count)) (blockBehind (stripLines lines) count) ∧
      ∀ heading hasWhen hasThen,
        blockBehind (stripLines lines) count = some (.rule heading hasWhen hasThen) →
          heading.line ≤ count ∧ braceTotal ((stripLines lines).take (heading.line - 1)) = 0 := by
  have hlength := length_stripLines lines
  -- A rule closes what was opened since its header, so where it started is carried along.
  induction count with
  | zero => exact ⟨⟨by simp [Block.Counts], fun _ => rfl⟩, by simp⟩
  | succ index ih =>
    obtain ⟨hfits, hstart⟩ := ih (by omega)
    have hindex : index < (stripLines lines).length := by omega
    have hreads := reads_getElem hquiet hindex
    have htake := List.take_succ_eq_append_getElem hindex
    have htotal := braceTotal_take_nonneg hnest (index + 1)
    have hclosed := htidy.rules index hindex
    rw [htake, braceTotal_append, braceTotal_singleton] at htotal ⊢
    refine ⟨⟨hreads.counts hfits.counts fun hnone _ => hfits.idle (by rw [hnone]; rfl), ?_⟩, ?_⟩
    · refine hreads.idle hfits htotal (htidy.bodies index hindex) ?_
      intro heading hasWhen hasThen hrule hnone
      obtain ⟨hline, hzero⟩ := hstart heading hasWhen hasThen hrule
      have hsplit := List.take_append_drop (heading.line - 1) ((stripLines lines).take (index + 1))
      rw [List.take_take, Nat.min_eq_left (by omega)] at hsplit
      rw [← braceTotal_singleton, ← braceTotal_append, ← htake, ← hsplit, braceTotal_append, hzero,
        hclosed heading (by rw [hrule]; rfl) hnone, Int.add_zero]
    · intro heading hasWhen hasThen hrule
      rcases hreads.heading_of_rule hrule with ⟨hnone, rfl⟩ | ⟨hadWhen, hadThen, hrule'⟩
      · rw [getElem_stripLines hclear (by omega)]
        exact ⟨le_rfl, hfits.idle (by rw [hnone]; rfl)⟩
      · obtain ⟨hline, hzero⟩ := hstart heading hadWhen hadThen hrule'
        exact ⟨by omega, hzero⟩

theorem Tidy.scan_eq_ofBlock_braceTotal (hlines : ∀ line ∈ lines, line.BareLine) {count : Nat}
    (hcount : count ≤ lines.length) :
    Regions.scan (lines.take count) =
      .ofBlock (braceTotal ((stripLines lines).take count))
        (blockBehind (stripLines lines) count) := by
  have hclear : ∀ line ∈ lines, Text.Clear line := fun line hmem => (hlines line hmem).clear
  have hlength := length_stripLines lines
  induction count with
  | zero => rfl
  | succ index ih =>
    have hreads := reads_getElem hquiet (show index < (stripLines lines).length by omega)
    have hbodies := htidy.bodies index (by omega)
    have htotal := braceTotal_take_nonneg hnest (index + 1)
    have hfits := (htidy.fits hnest hquiet hclear (show index ≤ lines.length by omega)).1
    have hfits' := (htidy.fits hnest hquiet hclear hcount).1
    rw [take_succ_stripLines hclear hcount, braceTotal_append, braceTotal_singleton]
      at htotal hfits' ⊢
    rw [getElem_stripLines hclear hcount] at hreads hbodies
    rw [scan_take_succ hcount, ih (by omega)]
    refine hreads.feed (hlines _ (List.getElem_mem _)) hfits.counts htotal
      (fun hnone _ => hfits.idle (by rw [hnone]; rfl))
      (fun _ heading hrule => hfits'.idle (by rw [hrule]; rfl)) ?_
    intro heading hasWhen hasThen hrule
    cases hasThen with
    | true => rfl
    | false =>
      rw [Text.braceBalance_eq_zero, Int.add_zero, if_neg (by simp)]
      intro hbrace
      simpa [hrule, Block.holdsBraces] using hbodies hbrace

end Document

/-- Behind each number of lines of a tidy document, as many braces are open as the lines open more
than they close, and nothing else is. -/
theorem Tidy.openBrackets?_take {lines : List CodeLine} (htidy : Tidy lines)
    (hnest : openBrackets? lines = some []) {count : Nat} (hcount : count ≤ lines.length) :
    openBrackets? (lines.take count) =
      some (List.replicate (braceTotal (lines.take count)).toNat .curly) := by
  obtain ⟨openers, hopeners⟩ := exists_openBrackets?_take hnest count
  have hbrackets := htidy.curly count hcount
  rw [hopeners, Option.getD_some] at hbrackets
  have hcurly : openers = List.replicate openers.length .curly :=
    List.eq_replicate_of_mem hbrackets
  have hcount := count_curly_of_openBrackets? hopeners
  rw [hcurly, List.count_replicate_self] at hcount
  rw [hopeners, ← hcount, Int.toNat_natCast, ← hcurly]

end Culprit
