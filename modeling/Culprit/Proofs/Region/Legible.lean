import Culprit.Proofs.Completion.Content
import Culprit.Proofs.Region.Mirror
import Culprit.Proofs.Region.Whole
import Culprit.Proofs.Rules.FunctionBodies
import Culprit.Proofs.Rules.Places

/-!
# Lines that show their code

The open regions are read off the lines of a document as they were written, comments and literals
with them, while the outline reads the code. So a document can be accepted and still seem open at
its end: a comment behind an `end` hides it, a brace in a literal counts. What is left open depends
on the lines alone, and nothing is exactly when they are made up of whole regions. Here is when an
accepted document has such lines: if each line shows what its code does to the block it stands in,
then the regions are never more than a copy of that block, and an accepted document leaves none
open. What is commented out may look like regions, as long as they are whole, and a function need
not show its braces line by line if nothing in it looks like a header.
-/

namespace Culprit

namespace CodeLine

/-- What looks like a header as the line was written opens a block in its code. -/
def ShowsHeader (line : CodeLine) : Prop :=
  ∀ keyword : Keyword, headerKeyword? line.source.key = some keyword →
    keyword.Opens line.text.fold

/-- The line as it was written opens as many more braces than it closes as its code does. Before the
body of the function is opened, it opens one exactly if its code does, and its code closes none
first. -/
structure ShowsBraces (line : CodeLine) (opened : Bool) : Prop where
  balance : line.source.braceBalance = line.text.braceBalance
  opens : opened = false → ('{' ∈ line.source ↔ '{' ∈ line.text)
  order : opened = false → '}' ∈ line.text → '{' ∈ line.text

/-- The line as it was written shows what its code does to the block that is open before it. -/
def Legible (line : CodeLine) : Option Block → Prop
  | none =>
    line.ShowsHeader ∧ (Keyword.function.Opens line.text →
      headerKeyword? line.source.key = some .function ∧ line.ShowsBraces false)
  | some (.function _ _ opened) => line.ShowsBraces opened
  | some _ => line.ShowsHeader ∧ (line.text.fold = endKey → line.source.key = endKey)

instance (line : CodeLine) : Decidable line.ShowsHeader :=
  match hfound : headerKeyword? line.source.key with
  | none => .isTrue fun _ h => by simp [hfound] at h
  | some keyword =>
    decidable_of_iff (keyword.Opens line.text.fold) (by simp [ShowsHeader, hfound])

instance (line : CodeLine) (opened : Bool) : Decidable (line.ShowsBraces opened) :=
  decidable_of_iff (line.source.braceBalance = line.text.braceBalance ∧
      (opened = false → ('{' ∈ line.source ↔ '{' ∈ line.text)) ∧
      (opened = false → '}' ∈ line.text → '{' ∈ line.text))
    ⟨fun h => ⟨h.1, h.2.1, h.2.2⟩, fun h => ⟨h.balance, h.opens, h.order⟩⟩

instance (line : CodeLine) : (block : Option Block) → Decidable (line.Legible block)
  | none => inferInstanceAs (Decidable (_ ∧ _))
  | some (.function _ _ opened) => inferInstanceAs (Decidable (line.ShowsBraces opened))
  | some (.rule _ _ _) => inferInstanceAs (Decidable (_ ∧ _))
  | some (.query _) => inferInstanceAs (Decidable (_ ∧ _))
  | some (.declare _) => inferInstanceAs (Decidable (_ ∧ _))

theorem ShowsHeader.headerKeyword?_eq_none {line : CodeLine} (h : line.ShowsHeader)
    (hopener : Outline.opener? line.text.fold = none) : headerKeyword? line.source.key = none := by
  rw [Option.eq_none_iff_forall_not_mem]
  exact fun keyword hfound => Outline.not_opens_of_opener? hopener keyword (h keyword hfound)

theorem Legible.showsHeader {line : CodeLine} {block : Block} (h : line.Legible (some block))
    (hblock : block.keyword ≠ .function) : line.ShowsHeader := by
  cases block with
  | function heading depth opened => exact absurd rfl hblock
  | _ => exact h.1

theorem Legible.key_eq_endKey {line : CodeLine} {block : Block} (h : line.Legible (some block))
    (hblock : block.keyword ≠ .function) (hend : line.text.fold = endKey) :
    line.source.key = endKey := by
  cases block with
  | function heading depth opened => exact absurd rfl hblock
  | _ => exact h.2 hend

end CodeLine

/-- What the regions show of the block that is open: a function as it is, of another block its kind
at most, since its end may have been seen too early and its header not at all. -/
inductive Shows : Option Block → Regions → Prop
  | nothing : Shows none []
  | function {heading : Heading} {depth : Int} {opened : Bool}
      (hopened : opened = true → 0 < depth) :
      Shows (some (.function heading depth opened)) [.function depth opened]
  | hidden {block : Block} (hblock : block.keyword ≠ .function) : Shows (some block) []
  | shown {block : Block} {region : Region} (hblock : block.keyword ≠ .function)
      (hregion : region.keyword = block.keyword) : Shows (some block) [region]

theorem shows_none_iff {regions : Regions} : Shows none regions ↔ regions = [] :=
  ⟨fun h => by cases h; rfl, fun h => h ▸ .nothing⟩

/-! ### One line -/

section Step

variable {line : CodeLine} {regions : Regions}

/-- Both readers close a function at the same line. Once its body is open, a brace must close it on
that line; before that, the line must open one. -/
theorem CodeLine.ShowsBraces.closes_iff {opened : Bool} (hline : line.ShowsBraces opened)
    {depth : Int} (hopened : opened = true → 0 < depth) :
    (opened = true ∨ '{' ∈ line.text) ∧ depth + line.text.braceBalance ≤ 0 ↔
      depth + line.text.braceBalance ≤ 0 ∧ ('{' ∈ line.source ∨ '}' ∈ line.source) := by
  have hbalance := hline.balance
  simp only [Text.braceBalance] at hbalance ⊢
  rw [and_comm, and_congr_right_iff]
  intro hdone
  cases opened with
  | true =>
    -- The depth falls from above zero, so the line closes a brace, also as it was written.
    have hpos := hopened rfl
    have hcloses : '}' ∈ line.source := by
      rw [← List.count_pos_iff]
      omega
    simp [hcloses]
  | false =>
    rw [← hline.opens rfl]
    simp only [Bool.false_eq_true, false_or]
    refine ⟨.inl, fun hbraces => by_contra fun hnone => ?_⟩
    -- Without a brace that is opened, only the line as it was written could close one.
    have hcloses := List.count_pos_iff.mpr (hbraces.resolve_left hnone)
    have hnoText : '{' ∉ line.text := mt (hline.opens rfl).mpr hnone
    have hnoClose := mt (hline.order rfl) hnoText
    rw [List.count_eq_zero.mpr hnone, List.count_eq_zero.mpr hnoText,
      List.count_eq_zero.mpr hnoClose] at hbalance
    omega

theorem shows_countBraces (heading : Heading) {depth : Int} {opened : Bool}
    (hopened : opened = true → 0 < depth) (hline : line.ShowsBraces opened) :
    Shows (Outline.countBraces heading depth opened line.text)
      (Regions.countBraces depth opened line.source []) := by
  have hcloses := hline.closes_iff hopened
  have hbody : (opened || decide ('{' ∈ line.source)) = (opened || decide ('{' ∈ line.text)) := by
    cases opened with
    | true => rfl
    | false => simp only [hline.opens rfl]
  have hdepth : depth + (line.source.count '{' : Int) - line.source.count '}' =
      depth + line.text.braceBalance := by
    rw [← hline.balance, Text.braceBalance]
    omega
  have hbrace : ∀ c, line.source.count c ≠ 0 ↔ c ∈ line.source := fun c => by
    rw [ne_eq, List.count_eq_zero, not_not]
  simp only [Outline.countBraces, Regions.countBraces, Text.braces, List.contains_eq_mem,
    Bool.and_eq_true, Bool.or_eq_true, decide_eq_true_eq, hdepth, hbrace, hbody, hcloses]
  split
  · exact .nothing
  · rename_i hopen
    refine .function fun hopens => ?_
    rw [← hcloses] at hopen
    simp only [Bool.or_eq_true, decide_eq_true_eq] at hopens
    by_contra hdone
    exact hopen ⟨hopens, by omega⟩

/-- Where no block is opened, one that is not a function goes on, or its end is seen too early. -/
theorem Shows.feed {block block' : Block} (hshows : Shows (some block) regions)
    (hline : line.Legible (some block)) (hblock : block.keyword ≠ .function)
    (hkeyword : block'.keyword = block.keyword) (hopener : Outline.opener? line.text.fold = none) :
    Shows (some block') (regions.feed line.source) := by
  have hheader := (hline.showsHeader hblock).headerKeyword?_eq_none hopener
  cases hshows with
  | function => exact absurd rfl hblock
  | hidden =>
    rw [Regions.feed_of_headerKeyword?_eq_none (by simp) hheader]
    exact .hidden (hkeyword ▸ hblock)
  | @shown _ region _ hregion =>
    have hfunction : region.keyword ≠ .function := hregion ▸ hblock
    rw [Regions.feed_of_headerKeyword?_eq_none (by rintro _ _ _ ⟨⟩; exact hfunction rfl) hheader]
    cases region with
    | function depth opened => exact absurd rfl hfunction
    | _ =>
      simp only [Regions.readInside]
      repeat' split
      all_goals
        first
          | exact .hidden (hkeyword ▸ hblock)
          | exact .shown (hkeyword ▸ hblock) (hregion.trans hkeyword.symm)

theorem Shows.feed_end {block : Block} (hshows : Shows (some block) regions)
    (hline : line.Legible (some block)) (hblock : block.keyword ≠ .function)
    (hend : line.text.fold = endKey) : Shows none (regions.feed line.source) := by
  have hkey := hline.key_eq_endKey hblock hend
  have hheader : headerKeyword? line.source.key = none := by rw [hkey]; rfl
  have hwords : endKey ≠ whenKey ∧ endKey ≠ thenKey := by decide
  cases hshows with
  | function => exact absurd rfl hblock
  | hidden =>
    rw [Regions.feed_of_headerKeyword?_eq_none (by simp) hheader]
    exact .nothing
  | @shown _ region _ hregion =>
    have hfunction : region.keyword ≠ .function := hregion ▸ hblock
    rw [Regions.feed_of_headerKeyword?_eq_none (by rintro _ _ _ ⟨⟩; exact hfunction rfl) hheader]
    cases region with
    | function depth opened => exact absurd rfl hfunction
    | _ =>
      simp only [Regions.readInside, hkey, hwords, if_false, if_true]
      exact .nothing

theorem shows_header {block : Block} (hblock : block.keyword ≠ .function)
    (hline : line.ShowsHeader) (hopens : block.keyword.Opens line.text) :
    Shows (some block) (Regions.feed [] line.source) := by
  cases hfound : headerKeyword? line.source.key with
  | none =>
    rw [Regions.feed_of_headerKeyword?_eq_none (by simp) hfound]
    exact .hidden hblock
  | some keyword =>
    have hkeyword : keyword = block.keyword :=
      Keyword.eq_of_isPrefix (hline keyword hfound).isPrefix hopens.prefix_fold
    rw [Regions.feed_nil_of_headerKeyword? hfound]
    cases keyword with
    | function => exact absurd hkeyword.symm hblock
    | _ => exact .shown hblock hkeyword

/-- **One legible line.** What the outline reads without diagnostics, and the line shows, is shown
by the regions too. -/
theorem Outline.Reads.shows {block block' : Option Block} (hreads : Reads line block block')
    (hline : line.Legible block) (hshows : Shows block regions) :
    Shows block' (regions.feed line.source) := by
  have hwords : opener? [] = none ∧ opener? whenKey = none ∧ opener? thenKey = none := by decide
  cases hreads with
  | blank htext =>
    have hopener : opener? line.text.fold = none := by rw [htext]; exact hwords.1
    rcases hshows with _ | @⟨heading, depth, opened, hopened⟩ | hblock | ⟨hblock, hregion⟩
    · rw [Regions.feed_of_headerKeyword?_eq_none (by simp) (hline.1.headerKeyword?_eq_none hopener)]
      exact .nothing
    · have hkept : countBraces heading depth opened line.text =
          some (.function heading depth opened) := by
        simpa [htext, countBraces, Text.braceBalance] using hopened
      exact hkept ▸ shows_countBraces heading hopened hline
    · exact (Shows.hidden hblock).feed hline hblock rfl hopener
    · exact (Shows.shown hblock hregion).feed hline hblock rfl hopener
  | statement hword hbegins =>
    have hheader : headerKeyword? line.source.key = none := by
      rw [Option.eq_none_iff_forall_not_mem]
      exact fun keyword hfound =>
        Keyword.not_prefix_of_statement hword hbegins (hline.1 keyword hfound).isPrefix
    cases hshows
    rw [Regions.feed_of_headerKeyword?_eq_none (by simp) hheader]
    exact .nothing
  | ruleHeader hopens | queryHeader hopens | declareHeader hopens =>
    cases hshows
    exact shows_header (by simp [Block.keyword]) hline.1 hopens
  | functionHeader hopens =>
    obtain ⟨hheader, hbraces⟩ := hline.2 hopens
    cases hshows
    rw [Regions.feed_nil_of_headerKeyword? hheader]
    exact shows_countBraces _ (by simp) hbraces
  | functionLine =>
    rcases hshows with _ | hopened | hblock | ⟨hblock, -⟩
    · exact shows_countBraces _ hopened hline
    · exact absurd rfl hblock
    · exact absurd rfl hblock
  | ruleWhen hkey => exact hshows.feed hline (by simp [Block.keyword]) rfl (hkey ▸ hwords.2.1)
  | ruleThen hkey => exact hshows.feed hline (by simp [Block.keyword]) rfl (hkey ▸ hwords.2.2)
  | ruleLine hwhen hthen hend hopener =>
    exact hshows.feed hline (by simp [Block.keyword]) rfl hopener
  | queryLine hend hopener => exact hshows.feed hline (by simp [Block.keyword]) rfl hopener
  | declareLine hend hopener => exact hshows.feed hline (by simp [Block.keyword]) rfl hopener
  | ruleEnd hkey | queryEnd hkey | declareEnd hkey =>
    exact hshows.feed_end hline (by simp [Block.keyword]) hkey

end Step

/-! ### Stretches of lines -/

/-- The lines of a document show what their code does, behind what the outline has read so far: each
by itself, as an aside without code, or as a function. -/
inductive Legible : Outline → List CodeLine → Prop
  | nil {outline : Outline} : Legible outline []
  | line {outline : Outline} {line : CodeLine} {rest : List CodeLine}
      (hline : line.Legible outline.block) (hrest : Legible (outline.step line).1 rest) :
      Legible outline (line :: rest)
  /-- Lines without code, outside of a function, that open no region but those they close. -/
  | aside {outline : Outline} {lines rest : List CodeLine}
      (hblock : ∀ block ∈ outline.block, block.keyword ≠ .function)
      (htext : ∀ line ∈ lines, line.text = [])
      (hwhole : Whole false (lines.map CodeLine.source)) (hrest : Legible outline rest) :
      Legible outline (lines ++ rest)
  /-- A function behind whose header no line looks like a header. If the header itself does, then
  the lines open no more braces than they close. -/
  | function {outline : Outline} {lines rest : List CodeLine} (houtside : outline.block = none)
      (hheader : ∃ header ∈ lines.head?, Keyword.function.Opens header.text ∧ header.ShowsHeader ∧
        (headerKeyword? header.source.key ≠ none →
          Text.braceSum (lines.map CodeLine.source) ≤ 0))
      (hbody : ∀ line ∈ lines.tail, headerKeyword? line.source.key = none)
      (hends : (outline.after lines).block = none) (hrest : Legible (outline.after lines) rest) :
      Legible outline (lines ++ rest)

theorem Legible.append {outline : Outline} {lines rest : List CodeLine}
    (hlines : ∀ index (hindex : index < lines.length),
      lines[index].Legible (outline.after (lines.take index)).block)
    (hrest : Legible (outline.after lines) rest) : Legible outline (lines ++ rest) := by
  induction lines generalizing outline with
  | nil => exact hrest
  | cons line lines ih =>
    refine .line (hlines 0 (by simp)) (ih ?_ hrest)
    intro index hindex
    exact hlines (index + 1) (by simpa using hindex)

/-- A function closes only if the code of some line opens a brace of it. -/
theorem Outline.exists_mem_of_after_eq_none {outline : Outline} {lines : List CodeLine}
    {heading : Heading} {depth : Int}
    (hblock : outline.block = some (.function heading depth false))
    (hends : (outline.after lines).block = none) : ∃ line ∈ lines, '{' ∈ line.text := by
  induction lines generalizing outline depth with
  | nil =>
    rw [after, hblock] at hends
    cases hends
  | cons line rest ih =>
    by_cases hopens : '{' ∈ line.text
    · exact ⟨line, by simp, hopens⟩
    · have hstep : (outline.step line).1.block =
          some (.function heading (depth + line.text.braceBalance) false) := by
        obtain ⟨block, started⟩ := outline
        obtain rfl : block = _ := hblock
        by_cases htext : line.text = []
        · simp [step, htext, Text.braceBalance]
        · simp [step, htext, countBraces, hopens]
      obtain ⟨other, hmem, hother⟩ := ih hstep hends
      exact ⟨other, .tail _ hmem, hother⟩

theorem exists_mem_of_function {outline : Outline} {header : CodeLine} {body : List CodeLine}
    (houtside : outline.block = none) (hopens : Keyword.function.Opens header.text)
    (hends : (outline.after (header :: body)).block = none)
    (hquiet : (outline.step header).2 = []) : ∃ line ∈ header :: body, '{' ∈ line.text := by
  have hreads := Outline.reads_of_step hquiet
  rw [houtside] at hreads
  by_cases hheader : '{' ∈ header.text
  · exact ⟨header, by simp, hheader⟩
  · have hblock : (outline.step header).1.block =
        some (.function (.ofLine header) (0 + header.text.braceBalance) false) := by
      rw [hreads.eq_of_functionHeader hopens]
      simp [Outline.countBraces, hheader]
    obtain ⟨line, hline, hbrace⟩ := Outline.exists_mem_of_after_eq_none hblock hends
    exact ⟨line, .tail _ hline, hbrace⟩

theorem mem_source_of_mem_text {lines : List Text} {line : CodeLine}
    (hline : line ∈ stripLines lines) {c : Char} (hc : c ∈ line.text) : c ∈ line.source := by
  obtain ⟨index, before, -, -, hstripped⟩ := exists_of_mem_stripLinesFrom hline
  obtain ⟨front, back, -, -, htrim⟩ := Text.exists_trim line.stripped.text
  have hcode : c ∈ line.stripped.text := by
    rw [htrim]
    exact List.mem_append_left back (List.mem_append_right front hc)
  obtain ⟨place, hplace, rfl⟩ := List.mem_map.mp hcode
  rw [hstripped] at hplace
  obtain ⟨offset, -, hoffset⟩ := Text.exists_of_mem_code_strip hplace
  exact List.mem_of_getElem? hoffset

theorem Shows.foldl_feed_aside {block : Option Block} {regions : Regions}
    (hshows : Shows block regions)
    (hblock : ∀ other ∈ block, other.keyword ≠ .function) {lines : List Text}
    (hwhole : Whole false lines) : Shows block (lines.foldl Regions.feed regions) := by
  cases hshows with
  | nothing =>
    have hclosed : lines.foldl Regions.feed [] = [] := Regions.scan_eq_nil_iff_whole.mpr hwhole
    rw [hclosed]
    exact .nothing
  | function => exact absurd rfl (hblock _ rfl)
  | hidden hother =>
    have hclosed : lines.foldl Regions.feed [] = [] := Regions.scan_eq_nil_iff_whole.mpr hwhole
    rw [hclosed]
    exact .hidden hother
  | @shown _ region hother hregion =>
    have hbody : Regions.isOpaque [region] = false := by
      rw [Regions.isOpaque_cons_eq_false_iff, hregion]
      exact hother
    rcases Regions.kinds_foldl_feed_of_length_le_one hwhole hbody (by simp) with hnone | hsame
    · rw [Regions.kinds_eq_nil_iff.mp hnone]
      exact .hidden hother
    · obtain ⟨next, hnext, hkeyword⟩ := List.map_eq_singleton_iff.mp hsame
      rw [hnext]
      exact .shown hother (hkeyword.trans hregion)

/-- **What the outline reads without diagnostics, and its lines show, is shown by the regions.** -/
theorem Legible.shows {outline : Outline} {lines : List CodeLine} (h : Legible outline lines)
    (hquiet : outline.diagnose lines = [])
    (hcode : ∀ line ∈ lines, '{' ∈ line.text → '{' ∈ line.source) {regions : Regions}
    (hshows : Shows outline.block regions) :
    Shows (outline.after lines).block ((lines.map CodeLine.source).foldl Regions.feed regions) := by
  induction h generalizing regions with
  | nil => exact hshows
  -- The two readers stay together line by line, and are together again behind each other part.
  | @line outline line rest hline _ ih =>
    obtain ⟨hfirst, hrest⟩ := List.append_eq_nil_iff.mp hquiet
    exact ih hrest (fun other hmem => hcode other (.tail _ hmem))
      ((Outline.reads_of_step hfirst).shows hline hshows)
  | aside hblock htext hwhole _ ih =>
    have hcode := (List.forall_mem_append.mp hcode).2
    rw [Outline.diagnose_append, after_of_forall_eq_nil htext, List.append_eq_nil_iff] at hquiet
    rw [Outline.after_append, after_of_forall_eq_nil htext, List.map_append, List.foldl_append]
    exact ih hquiet.2 hcode (hshows.foldl_feed_aside hblock hwhole)
  | @function outline lines rest houtside hheader hbody hends _ ih =>
    obtain ⟨header, hfirst, hopens, hheader, hbalance⟩ := hheader
    obtain ⟨body, rfl⟩ := List.head?_eq_some_iff.mp hfirst
    obtain ⟨hfunction, hcode⟩ := List.forall_mem_append.mp hcode
    rw [houtside, shows_none_iff] at hshows
    subst hshows
    have hopened :=
      exists_mem_of_function houtside hopens hends (List.append_eq_nil_iff.mp hquiet).1
    have hkeyword : ∀ keyword, headerKeyword? header.source.key = some keyword →
        keyword = .function := by
      intro keyword hfound
      exact Keyword.eq_of_isPrefix (hheader keyword hfound).isPrefix hopens.prefix_fold
    have hwhole : Whole false ((header :: body).map CodeLine.source) := by
      refine Regions.whole_of_functionHeader hkeyword (by simpa using hbody) hbalance ?_
      obtain ⟨line, hline, hbrace⟩ := hopened
      exact ⟨line.source, List.mem_map_of_mem hline, .inl (hfunction line hline hbrace)⟩
    have hclosed := Regions.scan_eq_nil_iff_whole.mpr hwhole
    rw [Outline.diagnose_append, List.append_eq_nil_iff] at hquiet
    rw [Outline.after_append, List.map_append, List.foldl_append]
    refine ih hquiet.2 hcode ?_
    rw [hends, shows_none_iff]
    exact hclosed

theorem Regions.scan_append_replicate_nil (lines : List Text) (count : Nat) :
    scan (lines ++ List.replicate count []) = scan lines := by
  induction count with
  | zero => simp
  | succ count ih =>
    rw [List.replicate_succ', ← List.append_assoc, scan_append, ih]
    exact feed_of_isBlankText _ rfl

theorem Regions.scan_contentLines (source : Text) :
    scan source.contentLines = scan source.lines := by
  obtain ⟨count, hlines⟩ := Text.contentLines_append source
  rw [hlines, scan_append_replicate_nil]

/-- Only regions that are open have lines that would close them. -/
theorem Regions.eq_nil_of_closingSuffix_eq_nil {regions : Regions}
    (hregions : ∀ region ∈ regions, region.Sound) (hsuffix : regions.closingSuffix = []) :
    regions = [] := by
  have hclosed := foldl_feed_closingSuffix_take hregions regions.length
  rwa [List.take_length, List.drop_length, hsuffix] at hclosed

/-- Completing a document leaves it as it is, up to line feeds at its end, exactly when nothing is
open behind it. -/
theorem Completion.exists_eq_complete_append_iff (source : Text) :
    (∃ count, source = structural.complete source.contentLines (source.contentLines.length - 1) ++
      List.replicate count '\n') ↔ Regions.scan source.contentLines = [] := by
  constructor
  · rintro ⟨count, hsource⟩
    rw [complete, firstLines_length_sub_one, ofLines] at hsource
    refine Regions.eq_nil_of_closingSuffix_eq_nil (Regions.sound_of_mem_scan _) ?_
    by_contra hne
    -- The lines that are added are not empty, so the content of the source has them, too.
    have hwords : ∀ line ∈ (Regions.scan source.contentLines).closingSuffix, line ∈ closingWords :=
      fun line => mem_closingWords_of_mem_closingSuffix
    have hmade : Text.MakesUp (source.contentLines ++
        (Regions.scan source.contentLines).closingSuffix) source := by
      refine ⟨?_, ?_, count, hsource⟩
      · intro line hline
        rcases List.mem_append.mp hline with hcontent | hsuffix
        · exact Text.newline_notMem_of_mem_contentLines hcontent
        · exact (clear_of_mem_closingWords (hwords line hsuffix)).1
      · intro line hline
        have hwordsNe : ∀ word ∈ closingWords, word ≠ [] := by decide
        rw [List.getLast?_append_of_ne_nil _ hne] at hline
        exact hwordsNe line (hwords line (List.mem_of_getLast? hline))
    exact hne (List.append_right_eq_self.mp (Text.makesUp_iff.mp hmade))
  · intro hscan
    rw [complete_of_scan_eq_nil hscan]
    exact Text.unlines_contentLines_append source

/-- **What an accepted document leaves open.** Nothing is open behind it exactly when its lines, as
they were written, are made up of whole regions, comments and literals with them; and exactly then
completing it changes nothing but line feeds at its end. This is so if its lines show their code. -/
theorem scan_eq_nil_of_accepted {source : Text} (haccepted : check source = []) :
    (Legible .start (stripLines source.lines) → Regions.scan source.contentLines = []) ∧
      (Regions.scan source.contentLines = [] ↔ Whole false source.contentLines) ∧
      (Regions.scan source.contentLines = [] ↔
        ∃ count, source = Completion.structural.complete source.contentLines
          (source.contentLines.length - 1) ++ List.replicate count '\n') := by
  refine ⟨?_, Regions.scan_eq_nil_iff_whole,
    (Completion.exists_eq_complete_append_iff source).symm⟩
  intro hlegible
  obtain ⟨-, -, hnest, hquiet⟩ := check_eq_nil_iff.mp haccepted
  have hshows := hlegible.shows hquiet (fun line hline => mem_source_of_mem_text hline) .nothing
  have hends := blockBehind_length_eq_none hnest hquiet
  rw [blockBehind, List.take_length] at hends
  rw [hends, shows_none_iff, stripLines, map_source_stripLinesFrom] at hshows
  rw [Regions.scan_contentLines]
  exact hshows

/-- Comments and literals with braces and words in them, a rule that is commented out, keywords with
a tab or a comment behind them, a function that is hidden and one whose comments balance, and empty
lines at the end. -/
def legibleSource : Text :=
  Text.unlines (["package a.b; // \x7b", "/*", "rule \"old\"", "then", "  if (x) \x7b", "END", "*/",
    "rule\t\"loud // \x7b\"", "when // any", "  then", "\tgo(\"\x7d\"); /* not the", "  end */",
    "\tEND", "function String f(int n) \x7b // twice", "  // \x7b@link G\x7d", "  query x",
    "  s = String.format(\"\x7b0\x7d\", \"end\"); return \"\x7b\x7d\";", "\x7d",
    "function\tint g() // \x7b", "\x7b /* \x7b */ \x7d", "function int h() \x7b", "// if (x) \x7b",
    "// \x7d", "\x7d", "query \"q\" // all", "end", "", ""].map String.toList)

theorem legible_legibleSource : Legible .start (stripLines legibleSource.lines) := by
  rw [legibleSource, Text.lines_unlines (by decide) (by decide +kernel)]
  -- The strings are read once, so that only their characters are left in the goals below.
  simp only [List.map_cons, List.map_nil, String.reduceToList]
  generalize hlines : stripLines _ = lines
  have hparts : lines = stretch lines 0 1 ++ (stretch lines 1 7 ++ (stretch lines 7 18 ++
      (stretch lines 18 20 ++ (stretch lines 20 24 ++ (stretch lines 24 28 ++ []))))) := by
    subst hlines
    decide +kernel
  have haside := @Regions.scan_eq_nil_iff_whole ((stretch lines 1 7).map CodeLine.source)
  rw [hparts]
  refine .append ?_ (.aside ?_ ?_ (haside.mp ?_) (.append ?_ (.function ?_ ?_ ?_ ?_
    (.function ?_ ?_ ?_ ?_ (.append ?_ .nil)))))
  all_goals
    subst hlines
    decide +kernel

theorem scan_eq_nil_legibleSource :
    check legibleSource = [] ∧ Legible .start (stripLines legibleSource.lines) ∧
      Regions.scan legibleSource.contentLines = [] ∧ Whole false legibleSource.contentLines ∧
      ∃ count, legibleSource = Completion.structural.complete legibleSource.contentLines
        (legibleSource.contentLines.length - 1) ++ List.replicate count '\n' := by
  have haccepted : check legibleSource = [] := by decide +kernel
  obtain ⟨hclosed, hwhole, hcomplete⟩ := scan_eq_nil_of_accepted haccepted
  have hscan := hclosed legible_legibleSource
  exact ⟨haccepted, legible_legibleSource, hscan, hwhole.mp hscan, hcomplete.mp hscan⟩

/-- Accepted documents with one line that does not show its code: a comment behind `end`, headers in
comments, a tab in the header of a function, braces in literals of a function, and a function that
closes a brace before it opens one. -/
def illegibleSources : List Text :=
  [["rule \"r\"", "when", "then", "end // done"],
    ["/*", "rule \"x\"", "*/"],
    ["rule \"r\"", "when", "then", "/*", "query \"x\"", "*/", "end"],
    ["function\tint f() \x7b", "rule x", "\x7d"],
    ["function String f() \x7b", "return \"\x7b\";", "\x7d"],
    ["function String f() \x7b", "s = \"\x7d\";", "rule x", "\x7d"],
    ["rule \"r\"", "when", "\x7b", "then", "end", "function int f() \x7d", "rule x",
      "\x7b \x7d"]].map fun lines => Text.unlines (lines.map String.toList)

/-- Such documents are accepted and yet seem open at their end, so completing them adds lines. -/
theorem scan_illegibleSources :
    illegibleSources.map check = List.replicate 7 [] ∧
      illegibleSources.map (fun source => Regions.scan source.contentLines) =
        [[.rule true true 0], [.rule false false 0], [.rule true true 0], [.rule false false 0],
          [.function 1 true], [.rule false false 0], [.rule false false 0]] ∧
      illegibleSources.map (fun source => String.ofList
          ((Completion.structural.complete source.contentLines
            (source.contentLines.length - 1)).drop source.length)) =
        ["\nend", "\nwhen\nthen\nend", "\nend", "\nwhen\nthen\nend", "\n\x7d",
          "\nwhen\nthen\nend", "\nwhen\nthen\nend"] := by
  decide +kernel

end Culprit
