import Culprit.Proofs.Rules.Bare

/-!
# The open regions mirror the outline

Two readers follow the blocks of a document, the outline by its code and the regions by its lines as
they were written. On a bare source that is accepted both see the same headers and ends, line by
line. They differ on the braces of a function: the outline closes it only once a brace has been
opened, the regions at any brace that leaves none open. These are the same as long as the braces
open in a function are all that are open in the document, because brackets that nest never close
more than has been opened.
-/

namespace Culprit

/-- The region that stands for a block. A block does not tell the braces that are open in the
consequence of a rule. -/
def Block.region (braces : Int) : Block → Region
  | .rule _ hasWhen hasThen => .rule hasWhen hasThen braces
  | .query _ => .query
  | .declare _ => .declare
  | .function _ depth opened => .function depth opened

/-- The regions that stand for what the outline has open: none, or the one of its block. -/
def Regions.ofBlock (braces : Int) (block : Option Block) : Regions :=
  (block.map (Block.region braces)).toList

@[simp] theorem Regions.ofBlock_none (braces : Int) : ofBlock braces none = [] := rfl

@[simp] theorem Regions.ofBlock_some (braces : Int) (block : Block) :
    ofBlock braces (some block) = [block.region braces] := rfl

/-- In a function, the braces that are open are all that are open in the document, and the body
has been opened exactly when there are any. -/
def Block.Counts (total : Int) (block : Option Block) : Prop :=
  ∀ heading depth opened, block = some (.function heading depth opened) →
    depth = total ∧ (opened = true ↔ 0 < total)

/-! ### Braces of a function -/

section Braces

variable {total : Int} {opened : Bool}

theorem Block.counts_countBraces (heading : Heading) {text : Text}
    (hopened : opened = true ↔ 0 < total) :
    Counts (total + text.braceBalance) (Outline.countBraces heading total opened text) := by
  intro heading' depth opened' hblock
  obtain ⟨rfl, rfl, hopen⟩ := Outline.eq_of_countBraces_eq_some hblock
  refine ⟨rfl, hopen, fun hpos => ?_⟩
  by_contra hclosed
  obtain ⟨hnot, hnone⟩ := by simpa using hclosed
  have hcount : text.count '{' = 0 := List.count_eq_zero.mpr hnone
  simp only [hnot, Bool.false_eq_true, false_iff] at hopened
  unfold Text.braceBalance at hpos
  omega

/-- Both readers close a function at the same line. -/
theorem Regions.countBraces_eq_ofBlock (heading : Heading) (braces : Int) {line text : Text}
    (hopens : text.count '{' = line.count '{') (hcloses : text.count '}' = line.count '}')
    (hopened : opened = true ↔ 0 < total) (htotal : 0 ≤ total + text.braceBalance) :
    countBraces total opened line [] =
      ofBlock braces (Outline.countBraces heading total opened text) := by
  have hcontains : text.contains '{' = decide (line.count '{' ≠ 0) := by
    rw [← hopens]
    simp [List.count_eq_zero]
  have hbalance : total + text.braceBalance =
      total + (line.count '{' : Int) - (line.count '}' : Int) := by
    rw [Text.braceBalance, hopens, hcloses]
    omega
  obtain ⟨depth, hdepth⟩ : ∃ depth, depth = total + (line.count '{' : Int) - line.count '}' :=
    ⟨_, rfl⟩
  rw [hbalance, ← hdepth] at htotal
  simp only [countBraces, Outline.countBraces, Text.braces, hcontains, hbalance, ← hdepth]
  by_cases hclosed : depth ≤ 0
  · by_cases hopen : opened = true
    · have hbraces : line.count '{' ≠ 0 ∨ line.count '}' ≠ 0 := by
        have := hopened.mp hopen
        omega
      simp [hclosed, hopen, hbraces]
    · -- No brace is open, so a line that opens none cannot close one either.
      have hnot : ¬0 < total := fun hpos => hopen (hopened.mpr hpos)
      by_cases hopens : line.count '{' = 0
      · have hcloses : line.count '}' = 0 := by omega
        simp [hopen, hopens, hcloses, Block.region]
      · simp [hclosed, hopens]
  · by_cases hopens : line.count '{' = 0 <;> simp [hclosed, hopens, Block.region]

end Braces

/-! ### One line -/

/-- The count of a function is kept by every line. A function starts where no bracket is open. -/
theorem Outline.Reads.counts {line : CodeLine} {block block' : Option Block} {total : Int}
    (hreads : Reads line block block') (hcounts : Block.Counts total block)
    (hheader : block = none → Keyword.function.Opens line.text → total = 0) :
    Block.Counts (total + line.text.braceBalance) block' := by
  cases hreads with
  | blank htext => simpa [htext, Text.braceBalance] using hcounts
  | functionHeader hopens =>
    obtain rfl := hheader rfl hopens
    have hclosed : false = true ↔ (0 : Int) < 0 := by simp
    simpa using Block.counts_countBraces (.ofLine line) hclosed
  | functionLine =>
    obtain ⟨rfl, hopened⟩ := hcounts _ _ _ rfl
    exact Block.counts_countBraces _ hopened
  | _ =>
    intro heading depth opened hblock
    simp at hblock

namespace Regions

theorem feed_of_headerKeyword?_eq_none {regions : Regions} {line : Text}
    (hregions : ∀ depth opened outer, regions ≠ .function depth opened :: outer)
    (hheader : headerKeyword? line.key = none) :
    feed regions line = readInside line line.key regions := by
  rcases regions with _ | ⟨_ | _ | _ | ⟨depth, opened⟩, outer⟩
  case cons.function => exact absurd rfl (hregions depth opened outer)
  all_goals simp [feed, hheader]

theorem feed_nil_of_headerKeyword? {keyword : Keyword} {line : Text}
    (hheader : headerKeyword? line.key = some keyword) :
    feed [] line = openRegion keyword line [] := by
  simp [feed, hheader]

/-- A blank line leaves every region as it is. -/
theorem feed_of_isBlankText (regions : Regions) {line : Text} (hblank : line.isBlankText = true) :
    feed regions line = regions := by
  have hnone : ∀ c, Text.isBlank c = false → line.count c = 0 := by
    intro c hc
    rw [List.count_eq_zero]
    intro hmem
    simp [List.all_eq_true.mp hblank c hmem] at hc
  have hopens : line.count '{' = 0 := hnone '{' rfl
  have hcloses : line.count '}' = 0 := hnone '}' rfl
  have hkey : line.key = [] := Text.key_eq_nil_iff.mpr hblank
  have hkeys : [] ≠ whenKey ∧ [] ≠ thenKey ∧ [] ≠ endKey := by decide
  rcases regions with _ | ⟨⟨hasWhen, hasThen, depth⟩ | _ | _ | ⟨depth, opened⟩, outer⟩
  case cons.function => simp [feed, countBraces, Text.braces, hopens, hcloses]
  all_goals
    rw [feed_of_headerKeyword?_eq_none (by simp) (by rw [hkey]; rfl), hkey]
    simp [readInside, hkeys, Text.braces, hopens, hcloses]

end Regions

/-- **One line for both readers.** A line that the outline reads without diagnostics makes the
regions mirror what the outline then has open. Only the braces that a region counts in the
consequence of a rule are not known from the outline. -/
theorem Outline.Reads.feed {line : Text} {number : Nat} {block block' : Option Block}
    {total braces braces' : Int} (hreads : Reads (.alone number line) block block')
    (hline : line.BareLine) (hcounts : Block.Counts total block)
    (htotal : 0 ≤ total + (CodeLine.alone number line).text.braceBalance)
    (hheader : block = none → Keyword.function.Opens (CodeLine.alone number line).text → total = 0)
    (hopen : block = none → ∀ heading, block' = some (.rule heading false false) → braces' = 0)
    (hrule : ∀ heading hasWhen hasThen, block = some (.rule heading hasWhen hasThen) →
      braces' = if hasThen then braces + (CodeLine.alone number line).text.braceBalance
        else braces) :
    Regions.feed (.ofBlock braces block) line = .ofBlock braces' block' := by
  have hopens := hline.count_text number (c := '{') (.inl rfl)
  have hcloses := hline.count_text number (c := '}') (.inr rfl)
  have hwhenKey := hline.fold_text_eq_iff number whenKey (by decide)
  have hthenKey := hline.fold_text_eq_iff number thenKey (by decide)
  have hendKey := hline.fold_text_eq_iff number endKey (by decide)
  cases hreads with
  | blank htext =>
    have hkey : line.key = [] := (hline.text_eq_nil_iff number).mp htext
    have hbalance : (CodeLine.alone number line).text.braceBalance = 0 := by rw [htext]; rfl
    rw [htext] at hopens hcloses
    rw [Regions.feed_of_isBlankText _ (Text.key_eq_nil_iff.mp hkey)]
    rcases block with _ | ⟨heading, hasWhen, hasThen⟩ | heading | heading | ⟨heading, depth, opened⟩
    case some.rule =>
      have hbraces := hrule _ _ _ rfl
      rw [hbalance, Int.add_zero, ite_self] at hbraces
      rw [hbraces]
    all_goals rfl
  | statement hword hbegins =>
    have hnone := hline.headerKeyword?_of_statement number hword hbegins
    simp [Regions.feed, hnone, Regions.readInside]
  | ruleHeader hkeyword =>
    have hsome := hline.headerKeyword?_of_opens number hkeyword
    simp [Regions.feed_nil_of_headerKeyword? hsome, Regions.openRegion, Region.opened, Block.region,
      hopen rfl _ rfl]
  | queryHeader hkeyword =>
    have hsome := hline.headerKeyword?_of_opens number hkeyword
    simp [Regions.feed_nil_of_headerKeyword? hsome, Regions.openRegion, Region.opened, Block.region]
  | declareHeader hkeyword =>
    have hsome := hline.headerKeyword?_of_opens number hkeyword
    simp [Regions.feed_nil_of_headerKeyword? hsome, Regions.openRegion, Region.opened, Block.region]
  | functionHeader hkeyword =>
    obtain rfl := hheader rfl hkeyword
    have hsome := hline.headerKeyword?_of_opens number hkeyword
    rw [Regions.ofBlock_none, Regions.feed_nil_of_headerKeyword? hsome, Regions.openRegion]
    exact Regions.countBraces_eq_ofBlock _ braces' hopens hcloses (by simp) htotal
  | functionLine =>
    obtain ⟨rfl, hopened⟩ := hcounts _ _ _ rfl
    exact Regions.countBraces_eq_ofBlock _ braces' hopens hcloses hopened htotal
  | @ruleWhen heading hkey =>
    rw [hwhenKey] at hkey
    have hbraces := hrule _ _ _ rfl
    rw [Regions.feed_of_headerKeyword?_eq_none (by simp [Block.region]) (by rw [hkey]; rfl), hkey]
    simp [Regions.readInside, Block.region, hbraces]
  | @ruleThen heading hasWhen hkey =>
    rw [hthenKey] at hkey
    have hbraces := hrule _ _ _ rfl
    have hne : thenKey ≠ whenKey := by decide
    rw [Regions.feed_of_headerKeyword?_eq_none (by simp [Block.region]) (by rw [hkey]; rfl), hkey]
    simp [Regions.readInside, Block.region, hbraces, hne]
  | @ruleEnd heading hasWhen hkey =>
    rw [hendKey] at hkey
    have hne : endKey ≠ whenKey ∧ endKey ≠ thenKey := by decide
    rw [Regions.feed_of_headerKeyword?_eq_none (by simp [Block.region]) (by rw [hkey]; rfl), hkey]
    simp [Regions.readInside, Block.region, hne]
  | @ruleLine heading hasWhen hasThen hwhen hthen hend hopener =>
    rw [ne_eq, hwhenKey] at hwhen
    rw [ne_eq, hthenKey] at hthen
    rw [ne_eq, hendKey] at hend
    have hbraces := hrule _ _ _ rfl
    rw [Regions.feed_of_headerKeyword?_eq_none (by simp [Block.region])
      (hline.headerKeyword?_of_opener? number hopener)]
    cases hasThen
    · simp [Regions.readInside, Block.region, hwhen, hthen, hend, hbraces]
    · simp [Regions.readInside, Block.region, hwhen, hthen, hend, hbraces, Text.braces,
        Text.braceBalance, hopens, hcloses]
      omega
  | queryEnd hkey =>
    rw [hendKey] at hkey
    rw [Regions.feed_of_headerKeyword?_eq_none (by simp [Block.region]) (by rw [hkey]; rfl), hkey]
    simp [Regions.readInside, Block.region]
  | queryLine hend hopener =>
    rw [ne_eq, hendKey] at hend
    rw [Regions.feed_of_headerKeyword?_eq_none (by simp [Block.region])
      (hline.headerKeyword?_of_opener? number hopener)]
    simp [Regions.readInside, Block.region, hend]
  | declareEnd hkey =>
    rw [hendKey] at hkey
    rw [Regions.feed_of_headerKeyword?_eq_none (by simp [Block.region]) (by rw [hkey]; rfl), hkey]
    simp [Regions.readInside, Block.region]
  | declareLine hend hopener hform =>
    rw [ne_eq, hendKey] at hend
    rw [Regions.feed_of_headerKeyword?_eq_none (by simp [Block.region])
      (hline.headerKeyword?_of_opener? number hopener)]
    simp [Regions.readInside, Block.region, hend]

/-! ### A whole document -/

/-- Every bracket opened before the header of a function is closed before that line. -/
def FunctionsStandFree (lines : List CodeLine) : Prop :=
  ∀ index (hindex : index < lines.length), blockBehind lines index = none →
    Keyword.function.Opens lines[index].text → openBrackets? (lines.take index) = some []

instance (lines : List CodeLine) : Decidable (FunctionsStandFree lines) :=
  inferInstanceAs (Decidable (∀ index (_ : index < lines.length), _ → _ → _))

theorem FunctionsStandFree.braceTotal_eq_zero {lines : List CodeLine} (h : FunctionsStandFree lines)
    {index : Nat} (hindex : index < lines.length) (hnone : blockBehind lines index = none)
    (hopens : Keyword.function.Opens lines[index].text) : braceTotal (lines.take index) = 0 := by
  rw [← count_curly_of_openBrackets? (h index hindex hnone hopens)]
  rfl

theorem counts_blockBehind {lines : List CodeLine} (hquiet : Outline.start.diagnose lines = [])
    (hfree : FunctionsStandFree lines) {count : Nat} (hcount : count ≤ lines.length) :
    Block.Counts (braceTotal (lines.take count)) (blockBehind lines count) := by
  induction count with
  | zero => simp [Block.Counts]
  | succ index ih =>
    rw [List.take_succ_eq_append_getElem hcount, braceTotal_append, braceTotal_singleton]
    exact (reads_getElem hquiet hcount).counts (ih (by omega))
      (hfree.braceTotal_eq_zero hcount)

/-- What a region counts behind a line in the consequence of a rule can be chosen from the block
before the line: nothing outside of blocks, and the braces of the line in a consequence. -/
theorem exists_braces (block : Option Block) (braces balance : Int) :
    ∃ braces', (block = none → braces' = 0) ∧
      ∀ heading hasWhen hasThen, block = some (.rule heading hasWhen hasThen) →
        braces' = if hasThen then braces + balance else braces := by
  rcases block with _ | ⟨heading, hasWhen, hasThen⟩ | heading | heading | ⟨heading, depth, opened⟩
  case some.rule => exact ⟨if hasThen then braces + balance else braces, by simp⟩
  all_goals exact ⟨0, by simp⟩

theorem scan_take_succ {lines : List Text} {index : Nat} (hindex : index < lines.length) :
    Regions.scan (lines.take (index + 1)) =
      Regions.feed (.scan (lines.take index)) lines[index] := by
  rw [List.take_succ_eq_append_getElem hindex, Regions.scan, List.foldl_append]
  rfl

/-- **The regions mirror the outline.** Let a bare source be accepted, and let no bracket be open
where a function starts. Behind any number of its lines no region is open when the outline has no
block open, and otherwise one region is open, that of the block: with the same clauses seen for a
rule, and with the same braces for a function. -/
theorem scan_eq_ofBlock {source : Text} (haccepted : check source = []) (hbare : source.Bare)
    (hfree : FunctionsStandFree (stripLines source.lines)) (count : Nat) :
    ∃ braces, Regions.scan (source.lines.take count) =
      .ofBlock braces (blockBehind (stripLines source.lines) count) := by
  obtain ⟨-, -, hnest, hquiet⟩ := check_eq_nil_iff.mp haccepted
  have hlines := hbare.bareLine haccepted
  have hlength := length_stripLines source.lines
  induction count with
  | zero => exact ⟨0, rfl⟩
  | succ index ih =>
    obtain ⟨braces, hscan⟩ := ih
    by_cases hindex : index < source.lines.length
    · have hclear : ∀ line ∈ source.lines, Text.Clear line :=
        fun line hmem => (hlines line hmem).clear
      have hreads := reads_getElem hquiet (hlength.symm ▸ hindex)
      have hheader := hfree.braceTotal_eq_zero (hlength.symm ▸ hindex)
      have htotal := braceTotal_take_nonneg hnest (index + 1)
      rw [take_succ_stripLines hclear hindex, braceTotal_append, braceTotal_singleton] at htotal
      rw [getElem_stripLines hclear hindex] at hreads hheader
      obtain ⟨braces', hopen, hrule⟩ := exists_braces (blockBehind (stripLines source.lines) index)
        braces (CodeLine.alone (index + 1) source.lines[index]).text.braceBalance
      refine ⟨braces', ?_⟩
      rw [scan_take_succ hindex, hscan]
      exact hreads.feed (hlines _ (List.getElem_mem hindex))
        (counts_blockBehind hquiet hfree (by omega)) htotal hheader
        (fun hnone _ _ => hopen hnone) hrule
    · rw [List.take_of_length_le (by omega)] at hscan ⊢
      refine ⟨braces, hscan.trans ?_⟩
      rw [blockBehind, blockBehind, List.take_of_length_le (by omega),
        List.take_of_length_le (by omega)]

/-- A document with a block of each kind, nested braces, and a bracket in a literal. -/
def sampleSource : Text :=
  Text.unlines (["rule \"a(\"", "when", "then", "if (x) \x7b", "go('b');", "\x7d", "end",
    "function int f() \x7b", "\x7b", "\x7d", "\x7d", "query \"q\"", "end", "declare T", "n : int",
    "end"].map String.toList)

/-- Inside the inner block of the function both readers count two braces. -/
theorem scan_eq_ofBlock_sampleSource :
    check sampleSource = [] ∧ sampleSource.Bare ∧
      FunctionsStandFree (stripLines sampleSource.lines) ∧
      Regions.scan (sampleSource.lines.take 9) = [.function 2 true] := by
  obtain ⟨haccepted, hbare, hfree, hblock⟩ :
      check sampleSource = [] ∧ sampleSource.Bare ∧
        FunctionsStandFree (stripLines sampleSource.lines) ∧
        (blockBehind (stripLines sampleSource.lines) 9).map (Block.region 0) =
          some (.function 2 true) := by decide +kernel
  obtain ⟨braces, hscan⟩ := scan_eq_ofBlock haccepted hbare hfree 9
  refine ⟨haccepted, hbare, hfree, hscan.trans ?_⟩
  rcases hbehind : blockBehind (stripLines sampleSource.lines) 9 with
    _ | ⟨_ | _ | _ | ⟨heading, depth, opened⟩⟩ <;> simp_all [Block.region]

end Culprit
