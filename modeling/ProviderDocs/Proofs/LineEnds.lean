import ProviderDocs.Description
import ProviderDocs.Listing
import ProviderDocs.Proofs.Example.Blocks
import ProviderDocs.Proofs.Text.LineEnds

/-!
# Reading does not depend on how lines end

A text whose lines end in a newline alone and the same text with a carriage return before every
newline are read alike (`read_withReturns`): as a listing, as a snippet, as examples and as a
description.  Each reader takes lines one by one and does not see a return at the end of one.  Only
a text of several lines that is kept as it stands, such as the body of an example, keeps the returns
between its lines.
-/

namespace ProviderDocs

open Text (IsLine SameLines returned withReturns withoutReturns trim_returned)

variable {lines lines' : List Text}

/-! ### Listings -/

namespace Listing

theorem classifyLine_returned (namePrefix line : Text) :
    classifyLine namePrefix (returned line) = classifyLine namePrefix line := by
  rw [classifyLine, classifyLine, trim_returned]

theorem parseFrom_eq_of_sameLines (h : SameLines lines lines') (namePrefix : Text) (state : State)
    (number : Nat) :
    parseFrom namePrefix state number lines' = parseFrom namePrefix state number lines := by
  induction h generalizing state number with
  | nil => rfl
  | last => rfl
  | cons _ _ ih =>
    rw [parseFrom, parseFrom, classifyLine_returned]
    simp only [ih]

end Listing

/-! ### Snippets -/

namespace Snippet

theorem rawLine_returned (line : Text) : rawLine (returned line) = rawLine line :=
  Text.trimEndWhere_append_of_all line (by simp)

theorem State.readLine_returned (state : State) (line : Text) :
    state.readLine (returned line) = state.readLine line := by
  have raw : Text.trimEndWhere (· == '\r') (returned line) = Text.trimEndWhere (· == '\r') line :=
    rawLine_returned line
  rw [State.readLine, State.readLine, raw]

theorem readLines_eq_of_sameLines (h : SameLines lines lines') (state : State) :
    readLines state lines' = readLines state lines := by
  induction h generalizing state with
  | nil => rfl
  | last => rfl
  | cons _ _ ih => rw [readLines, readLines, State.readLine_returned, ih]

/-- A snippet is formatted by its lines. -/
theorem format_eq_of_sameLines {t u : Text}
    (h : SameLines (Text.splitLines t) (Text.splitLines u)) : format u = format t := by
  rw [format, format, readLines_eq_of_sameLines h]

end Snippet

/-! ### Examples -/

theorem dropReturn_returned (line : Text) : Text.dropReturn (returned line) = line := by
  rw [Text.dropReturn, if_pos (by simp [returned])]
  exact List.dropLast_concat

theorem dropReturn_eq_self {line : Text} (h : IsLine line) : Text.dropReturn line = line :=
  if_neg fun last => h.return_notMem (List.mem_of_getLast? last)

theorem opensFence_returned (line : Text) : opensFence (returned line) = opensFence line := by
  rw [Bool.eq_iff_iff, opensFence_iff, opensFence_iff]
  constructor
  · rintro ⟨gap, rest, hg, hr, whole⟩
    rcases List.eq_nil_or_concat rest with rfl | ⟨rest, c, rfl⟩
    · -- The last character would be one of the fence.
      have last := congrArg List.getLast? whole
      simp [returned, fence] at last
    · rw [List.concat_eq_append] at whole hr
      have parts : line ++ ['\r'] = (gap ++ (fence ++ rest)) ++ [c] := by
        simpa [returned] using whole
      refine ⟨gap, rest, hg, fun hm => hr (List.mem_append_left _ hm), ?_⟩
      exact (List.append_inj' parts rfl).1
  · rintro ⟨gap, rest, hg, hr, rfl⟩
    refine ⟨gap, returned rest, hg, ?_, by simp [returned]⟩
    rw [returned, List.mem_append, List.mem_singleton, not_or]
    exact ⟨hr, by decide⟩

theorem lineContent_returned {line : Text} (h : IsLine line) :
    Text.lineContent (returned line) = Text.lineContent line := by
  rw [Text.lineContent, Text.lineContent, dropReturn_returned, dropReturn_eq_self h]

theorem closesFence_returned {line : Text} (h : IsLine line) :
    closesFence (returned line) = closesFence line := by
  rw [closesFence, closesFence, lineContent_returned h]

/-- A block with a carriage return at the end of every line. -/
def FencedBlock.returned (block : FencedBlock) : FencedBlock :=
  ⟨block.prose.map Text.returned, block.code.map Text.returned⟩

/-- The same blocks and the same lines below them.  Every line of a block has others below it and so
ends in a carriage return. -/
structure SameBlocks (read read' : List FencedBlock × List Text) : Prop where
  blocks : read'.1 = read.1.map FencedBlock.returned
  rest : SameLines read.2 read'.2

/-- The same blocks are read from the same lines, after lines that each end in a carriage return. -/
theorem sameBlocks_fencedBlocksAfter (h : SameLines lines lines') {prose : List Text}
    {code : Option (List Text)} (hp : ∀ line ∈ prose, IsLine line) :
    Option.Rel SameBlocks (fencedBlocksAfter prose code lines)
      (fencedBlocksAfter (prose.map returned) (code.map (List.map returned)) lines') := by
  induction h generalizing prose code with
  | nil =>
    cases code with
    | none => exact .some ⟨rfl, .map_returned hp⟩
    | some code => exact .none
  | @last line h =>
    cases code with
    | none =>
      simp only [fencedBlocksAfter, Option.map_none]
      by_cases ho : opensFence line = true
      · rw [if_pos ho, if_pos ho]
        exact .none
      · rw [if_neg ho, if_neg ho]
        exact .some ⟨rfl, .append hp (.last h)⟩
    | some code =>
      simp only [fencedBlocksAfter, Option.map_some]
      by_cases hc : closesFence line = true
      · rw [if_pos hc, if_pos hc]
        exact .some ⟨rfl, .nil⟩
      · rw [if_neg hc, if_neg hc]
        exact .none
  | @cons line lines lines' h hl ih =>
    cases code with
    | none =>
      simp only [fencedBlocksAfter, Option.map_none, opensFence_returned]
      by_cases ho : opensFence line = true
      · rw [if_pos ho, if_pos ho]
        exact ih hp
      · have longer : Option.Rel SameBlocks (fencedBlocksAfter (prose ++ [line]) none lines)
            (fencedBlocksAfter ((prose ++ [line]).map returned) none lines') :=
          @ih _ none (List.forall_mem_append.mpr ⟨hp, List.forall_mem_singleton.mpr h⟩)
        rw [if_neg ho, if_neg ho]
        rwa [List.map_append] at longer
    | some code =>
      simp only [fencedBlocksAfter, Option.map_some, closesFence_returned h]
      by_cases hc : closesFence line = true
      · have below : Option.Rel SameBlocks (fencedBlocksAfter [] none lines)
            (fencedBlocksAfter [] none lines') :=
          @ih [] none (by simp)
        rw [if_pos hc, if_pos hc]
        revert below
        generalize fencedBlocksAfter [] none lines = read
        generalize fencedBlocksAfter [] none lines' = read'
        rintro (⟨same⟩ | _)
        · exact .some ⟨congrArg (FencedBlock.returned ⟨prose, code⟩ :: ·) same.blocks, same.rest⟩
        · exact .none
      · have longer : Option.Rel SameBlocks
            (fencedBlocksAfter prose (some (code ++ [line])) lines)
            (fencedBlocksAfter (prose.map returned) (some ((code ++ [line]).map returned))
              lines') :=
          @ih _ (some (code ++ [line])) hp
        rw [if_neg hc, if_neg hc]
        rwa [List.map_append] at longer

/-- An example without the carriage returns that stand before a newline.  The title is one line, and
formatted code has no return at the end of any. -/
def Example.withoutReturns (e : Example) : Example :=
  { e with body := Text.withoutReturns e.body }

/-- The returns in a block are left only in the body of its example. -/
theorem withoutReturns_toExample {block : FencedBlock} (hp : ∀ line ∈ block.prose, IsLine line)
    (hc : ∀ line ∈ block.code, IsLine line) :
    block.returned.toExample.withoutReturns = block.toExample := by
  have prose : SameLines block.prose block.returned.prose := .map_returned hp
  have code : Snippet.format (Text.joinLines block.returned.code) =
      Snippet.format (Text.joinLines block.code) :=
    Snippet.format_eq_of_sameLines (Text.sameLines_joinLines_map_returned hc)
  have noReturn : '\r' ∉ Text.trim (Text.joinLines block.prose) :=
    fun hm => prose.return_notMem_joinLines (Text.trim_subset _ hm)
  have same := Text.sameLines_withReturns noReturn
  rw [← prose.trim_joinLines] at same
  obtain ⟨title, body, lines⟩ := List.exists_cons_of_ne_nil
    (Text.splitOn_ne_nil '\n' (Text.trim (Text.joinLines block.prose)))
  rw [show Text.splitLines (Text.trim (Text.joinLines block.prose)) = title :: body from lines]
    at same
  obtain ⟨title', body', lines', -, ht, hb⟩ := same.exists_cons
  have titles : Text.trim title' = Text.trim title := by
    rcases ht with rfl | rfl
    · rfl
    · exact trim_returned title
  rw [toExample_of_splitLines lines, toExample_of_splitLines lines', Example.withoutReturns,
    titles, hb.withoutReturns_trim_joinLines, code]

/-- The same examples, warnings and faults come from a text whose lines end in a carriage return and
a newline, but for the returns in the bodies of the examples. -/
theorem readExamples_withReturns {t : Text} (h : '\r' ∉ t) (entity : Text) (requireCode : Bool) :
    List.map Example.withoutReturns <$> readExamples entity requireCode (withReturns t) =
      readExamples entity requireCode t := by
  have same : SameLines (Text.splitLines t) (Text.splitLines (withReturns t)) :=
    Text.sameLines_withReturns h
  have read : Option.Rel SameBlocks (fencedBlocks? (Text.splitLines t))
      (fencedBlocks? (Text.splitLines (withReturns t))) :=
    sameBlocks_fencedBlocksAfter same (by simp)
  unfold readExamples
  generalize hf : fencedBlocks? (Text.splitLines t) = found at read ⊢
  generalize fencedBlocks? (Text.splitLines (withReturns t)) = found' at read ⊢
  cases read with
  | none => rfl
  | @some found found' below =>
    obtain ⟨blocks, rest⟩ := found
    obtain ⟨_, rest'⟩ := found'
    obtain ⟨rfl, hr⟩ := below
    have cut : ∀ block ∈ blocks, block.CutFrom (Text.splitLines t) :=
      cutFrom_of_fencedBlocksAfter (List.Subset.refl _) (by simp) (by simp) hf
    have made : ((blocks.map FencedBlock.returned).map FencedBlock.toExample).map
        Example.withoutReturns = blocks.map FencedBlock.toExample := by
      rw [List.map_map, List.map_map]
      refine List.map_congr_left fun block hb => ?_
      exact withoutReturns_toExample
        (fun line hm => same.forall_isLine line ((cut block hb).prose line hm).1)
        (fun line hm => same.forall_isLine line ((cut block hb).code line hm).1)
    have none : (blocks.map FencedBlock.returned).isEmpty = blocks.isEmpty :=
      List.isEmpty_map
    simp only [← made, none, hr.isBlank_joinLines_eq]
    cases Text.isBlank (Text.joinLines rest) <;> cases requireCode && blocks.isEmpty <;> rfl

/-! ### Descriptions -/

theorem isEmptyLine_returned {line : Text} (h : IsLine line) :
    Text.isEmptyLine (returned line) = Text.isEmptyLine line := by
  rw [Text.isEmptyLine, Text.isEmptyLine, dropReturn_returned, dropReturn_eq_self h]

/-- Whether a line opens a section does not depend on how it and the line above end. -/
theorem Marker.opened?_of_returned {above line line' : Text} (ha : IsLine above) (hl : IsLine line)
    (hs : line' = line ∨ line' = returned line) (seen : List Marker) :
    opened? seen (returned above) line' = opened? seen above line := by
  have header : ofLine? line' = ofLine? line := by
    rcases hs with rfl | rfl
    · rfl
    · rw [ofLine?, ofLine?, lineContent_returned hl]
  rw [opened?, opened?, isEmptyLine_returned ha, header]

/-- The same lines cut into the same sections. -/
structure SameCut (cut cut' : List Text × List (Marker × List Text)) : Prop where
  text : SameLines cut.1 cut'.1
  sections : List.Forall₂ (fun part part' => part.1 = part'.1 ∧ SameLines part.2 part'.2)
    cut.2 cut'.2

theorem sameCut_cutSections (h : SameLines lines lines') (seen : List Marker) :
    SameCut (cutSections seen lines) (cutSections seen lines') := by
  induction seen, lines using cutSections.induct generalizing lines' with
  | case1 seen =>
    cases h
    exact ⟨.nil, .nil⟩
  | case2 seen line =>
    obtain ⟨first, rest, rfl, hl, -, hr⟩ := h.exists_cons
    cases hr
    exact ⟨h, .nil⟩
  | case3 seen above line rest marker ho ih =>
    cases h with | cons ha hb =>
    obtain ⟨line', rest', rfl, hl, hs, hr⟩ := hb.exists_cons
    have below := ih hr
    rw [cutSections, cutSections, Marker.opened?_of_returned ha hl hs, ho]
    exact ⟨.nil, .cons ⟨rfl, below.text⟩ below.sections⟩
  | case4 seen above line rest ho ih =>
    cases h with | cons ha hb =>
    have below := ih hb
    obtain ⟨line', rest', rfl, hl, hs, -⟩ := hb.exists_cons
    rw [cutSections, cutSections, Marker.opened?_of_returned ha hl hs, ho]
    exact ⟨.cons ha below.text, below.sections⟩

theorem withoutReturns_trimmedLines (h : SameLines lines lines') :
    withoutReturns (trimmedLines lines') = trimmedLines lines :=
  h.withoutReturns_trim_joinLines

/-- A section is there in both cuts or in neither, and says the same. -/
theorem SameCut.withoutReturns_lookup {cut cut' : List Text × List (Marker × List Text)}
    (h : SameCut cut cut') (marker : Marker) :
    ((cut'.2.lookup marker).map trimmedLines).map withoutReturns =
      (cut.2.lookup marker).map trimmedLines := by
  obtain ⟨-, sections⟩ := h
  generalize cut.2 = parts at sections ⊢
  generalize cut'.2 = parts' at sections ⊢
  induction sections with
  | nil => rfl
  | @cons part part' parts parts' hp _ ih =>
    rw [List.lookup_cons, List.lookup_cons, ← hp.1]
    cases marker == part.1 with
    | true => exact congrArg some (withoutReturns_trimmedLines hp.2)
    | false => exact ih

/-- A description without the carriage returns that stand before a newline. -/
def Description.withoutReturns (d : Description) : Description where
  text := Text.withoutReturns d.text
  importing := d.importing.map Text.withoutReturns
  examples := d.examples.map Text.withoutReturns

theorem withoutReturns_ofText {t : Text} (h : '\r' ∉ t) :
    (Description.ofText (withReturns t)).withoutReturns = Description.ofText t := by
  have same : SameCut (cutSections [] (Text.splitLines t))
      (cutSections [] (Text.splitLines (withReturns t))) :=
    sameCut_cutSections (Text.sameLines_withReturns h) []
  rw [Description.ofText, Description.withoutReturns, Description.ofText,
    withoutReturns_trimmedLines same.text, same.withoutReturns_lookup, same.withoutReturns_lookup]

theorem withoutReturns_firstParagraph {t : Text} (h : '\r' ∉ t) :
    withoutReturns (firstParagraph (withReturns t)) = firstParagraph t := by
  have same : SameLines (Text.splitLines t) (Text.splitLines (withReturns t)) :=
    Text.sameLines_withReturns h
  have full {line : Text} (hl : IsLine line) :
      (!Text.isEmptyLine (returned line)) = !Text.isEmptyLine line := by
    rw [isEmptyLine_returned hl]
  rw [firstParagraph, firstParagraph]
  generalize Text.splitLines t = lines at same ⊢
  generalize Text.splitLines (withReturns t) = lines' at same ⊢
  cases same with
  | nil => rfl
  | last hl => exact withoutReturns_trimmedLines (.last hl)
  | cons hl hb => exact withoutReturns_trimmedLines (.cons hl (hb.takeWhile full))

/-! ### All readers -/

/-- What is read from a text does not depend on how its lines end, but for the returns in the parts
of it that are kept as they stand. -/
theorem read_withReturns {t : Text} (h : '\r' ∉ t) :
    (∀ nameSpace, Listing.parse nameSpace (withReturns t) = Listing.parse nameSpace t) ∧
      Snippet.format (withReturns t) = Snippet.format t ∧
      (∀ entity requireCode,
        List.map Example.withoutReturns <$> readExamples entity requireCode (withReturns t) =
          readExamples entity requireCode t) ∧
      (Description.ofText (withReturns t)).withoutReturns = Description.ofText t ∧
      withoutReturns (firstParagraph (withReturns t)) = firstParagraph t := by
  have same : SameLines (Text.splitLines t) (Text.splitLines (withReturns t)) :=
    Text.sameLines_withReturns h
  refine ⟨fun nameSpace => ?_, Snippet.format_eq_of_sameLines same, readExamples_withReturns h,
    withoutReturns_ofText h, withoutReturns_firstParagraph h⟩
  rw [Listing.parse, Listing.parse, Listing.parseFrom_eq_of_sameLines same]

/-- A description with a section of examples, whose only example has a body of two lines. -/
def describedUse : Text :=
  "Disk.\n\nExample Usage\nSmall\nOne.\nTwo.\n```\na=1\n```\n\nImport\nBy name.".toList

/-- The body keeps a return between its lines, and nothing else differs. -/
theorem describedUse_readAlike :
    ('\r' ∉ describedUse ∧
      (Description.ofText (withReturns describedUse)).withoutReturns =
        Description.ofText describedUse ∧
      List.map Example.withoutReturns <$> readExamples [] true (withReturns describedUse) =
        readExamples [] true describedUse) ∧
    (readExamples [] true (withReturns describedUse)).result =
      (.ok [⟨"Disk.".toList, "Example Usage\r\nSmall\r\nOne.\r\nTwo.".toList, "a = 1".toList⟩],
        [.trailingProse []]) := by
  have noReturn : '\r' ∉ describedUse := by decide
  obtain ⟨-, -, examples, description, -⟩ := read_withReturns noReturn
  exact ⟨⟨noReturn, description, examples [] true⟩, by decide +kernel⟩

end ProviderDocs
