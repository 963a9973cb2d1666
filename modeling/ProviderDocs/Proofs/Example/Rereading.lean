import ProviderDocs.Proofs.Example.Blocks
import ProviderDocs.Proofs.Report

/-!
# Reading examples that were written

Examples that were read and written out again are read as they are, each with its heading as title,
exactly if they keep their fences, and so they are if the text that they were read from has no white
space but spaces and tabs in its lines (`readExamples_writeExamples_iff`).

* `splitLines_writeExamples`: the lines that are written, example after example;
* `readsAs_write_iff`: one example is read back, and reading goes on below it, exactly if it keeps
  its fences: a fence in the body makes a block of its own, with a shorter body, and a fence in the
  code ends the block with fewer lines, which formatting does not make more;
* `readsAs_flatMap_iff`: so it is for one example after the other.
-/

namespace ProviderDocs

open Snippet
open Report (ComesTo)

/-! ### Reading on -/

/-- Reading goes on below what was read before, and comes to some examples with nothing after
them. -/
def ReadsAs (prose : List Text) (code : Option (List Text)) (lines : List Text)
    (examples : List Example) : Prop :=
  ∃ blocks rest, fencedBlocksAfter prose code lines = some (blocks, rest) ∧
    Text.isBlank (Text.joinLines rest) = true ∧ blocks.map FencedBlock.toExample = examples

theorem fencedBlocksAfter_append_prose {lines : List Text}
    (h : ∀ line ∈ lines, opensFence line = false) (prose rest : List Text) :
    fencedBlocksAfter prose none (lines ++ rest) =
      fencedBlocksAfter (prose ++ lines) none rest := by
  induction lines generalizing prose with
  | nil => simp
  | cons line lines ih =>
    obtain ⟨first, later⟩ := List.forall_mem_cons.mp h
    simp only [List.cons_append, fencedBlocksAfter, first, Bool.false_eq_true, if_false]
    rw [ih later, List.append_assoc, List.singleton_append]

theorem fencedBlocksAfter_append_code {lines : List Text}
    (h : ∀ line ∈ lines, closesFence line = false) (prose code rest : List Text) :
    fencedBlocksAfter prose (some code) (lines ++ rest) =
      fencedBlocksAfter prose (some (code ++ lines)) rest := by
  induction lines generalizing code with
  | nil => simp
  | cons line lines ih =>
    obtain ⟨first, later⟩ := List.forall_mem_cons.mp h
    simp only [List.cons_append, fencedBlocksAfter, first, Bool.false_eq_true, if_false]
    rw [ih later, List.append_assoc, List.singleton_append]

theorem fencedBlocksAfter_opens {line : Text} (h : opensFence line = true)
    (prose rest : List Text) :
    fencedBlocksAfter prose none (line :: rest) = fencedBlocksAfter prose (some []) rest := by
  simp only [fencedBlocksAfter, h, if_true]

/-- A closing fence ends a block, which makes the first example. -/
theorem readsAs_closes_iff {line : Text} (h : closesFence line = true) {prose code rest : List Text}
    {e : Example} {examples : List Example} :
    ReadsAs prose (some code) (line :: rest) (e :: examples) ↔
      FencedBlock.toExample ⟨prose, code⟩ = e ∧ ReadsAs [] none rest examples := by
  unfold ReadsAs
  simp only [fencedBlocksAfter, h, if_true, Option.map_eq_some_iff]
  constructor
  · rintro ⟨_, _, ⟨⟨blocks, after⟩, hb, he⟩, hr, hm⟩
    cases he
    obtain ⟨first, later⟩ := List.cons.inj hm
    exact ⟨first, blocks, after, hb, hr, later⟩
  · rintro ⟨first, blocks, after, hb, hr, later⟩
    exact ⟨_, _, ⟨(blocks, after), hb, rfl⟩, hr, by rw [List.map_cons, first, later]⟩

/-- Once a block is open, the prose of the first example is known. -/
theorem exists_code_of_readsAs {prose code lines : List Text} {e : Example}
    {examples : List Example} (h : ReadsAs prose (some code) lines (e :: examples)) :
    ∃ code, FencedBlock.toExample ⟨prose, code⟩ = e := by
  induction lines generalizing code with
  | nil =>
    obtain ⟨blocks, rest, hb, -⟩ := h
    exact absurd hb (by simp [fencedBlocksAfter])
  | cons line lines ih =>
    cases hc : closesFence line with
    | true => exact ⟨code, ((readsAs_closes_iff hc).mp h).1⟩
    | false =>
      have later : ReadsAs prose (some (code ++ [line])) lines (e :: examples) := by
        unfold ReadsAs at h ⊢
        rwa [← fencedBlocksAfter_append_code (List.forall_mem_singleton.mpr hc)]
      exact ih later

section

variable {requireCode : Bool} {t : Text}

theorem comesTo_readExamples_of_none (entity : Text)
    (h : fencedBlocks? (Text.splitLines t) = none) :
    (readExamples entity requireCode t).ComesTo (.error (.unterminatedFence entity)) [] := by
  unfold readExamples
  rw [h]
  exact .throw _

theorem comesTo_readExamples_of_some (entity : Text) {blocks : List FencedBlock} {rest : List Text}
    (h : fencedBlocks? (Text.splitLines t) = some (blocks, rest)) :
    (readExamples entity requireCode t).ComesTo
      (if requireCode && blocks.isEmpty then .error (.missingCodeBlock entity)
        else .ok (blocks.map FencedBlock.toExample))
      (if Text.isBlank (Text.joinLines rest) then [] else [.trailingProse entity]) := by
  unfold readExamples
  rw [h]
  dsimp only
  cases Text.isBlank (Text.joinLines rest) <;> cases requireCode && blocks.isEmpty
  · exact (ComesTo.warn _).bind (.pure _)
  · exact (ComesTo.warn _).bind (ComesTo.throw _).bind_error
  · exact .pure _
  · exact (ComesTo.throw _).bind_error

end

/-- What reading comes to, by the blocks that are cut. -/
theorem result_readExamples (entity : Text) (requireCode : Bool) (t : Text) :
    (readExamples entity requireCode t).result =
      match fencedBlocks? (Text.splitLines t) with
      | none => (.error (.unterminatedFence entity), [])
      | some (blocks, rest) =>
        (if requireCode && blocks.isEmpty then .error (.missingCodeBlock entity)
          else .ok (blocks.map FencedBlock.toExample),
          if Text.isBlank (Text.joinLines rest) then [] else [.trailingProse entity]) := by
  cases h : fencedBlocks? (Text.splitLines t) with
  | none => exact (comesTo_readExamples_of_none entity h).result_eq
  | some read => exact (comesTo_readExamples_of_some entity h).result_eq

theorem exists_of_readExamples {entity : Text} {requireCode : Bool} {t : Text}
    {examples : List Example} (h : (readExamples entity requireCode t).result.1 = .ok examples) :
    ∃ blocks rest, fencedBlocks? (Text.splitLines t) = some (blocks, rest) ∧
      blocks.map FencedBlock.toExample = examples ∧ (requireCode = true → examples ≠ []) := by
  rw [result_readExamples] at h
  cases hb : fencedBlocks? (Text.splitLines t) with
  | none =>
    rw [hb] at h
    cases h
  | some read =>
    obtain ⟨blocks, rest⟩ := read
    rw [hb] at h
    simp only at h
    split_ifs at h with hc
    cases h
    refine ⟨blocks, rest, rfl, rfl, fun required he => hc ?_⟩
    rw [required, List.map_eq_nil_iff.mp he]
    rfl

theorem result_readExamples_iff {entity : Text} {requireCode : Bool} {t : Text}
    {examples : List Example} (hc : requireCode = true → examples ≠ []) :
    (readExamples entity requireCode t).result = (.ok examples, []) ↔
      ReadsAs [] none (Text.splitLines t) examples := by
  constructor
  · intro h
    obtain ⟨blocks, rest, hb, he, -⟩ := exists_of_readExamples (congrArg Prod.fst h)
    refine ⟨blocks, rest, hb, ?_, he⟩
    have warnings := congrArg Prod.snd h
    rw [result_readExamples, hb] at warnings
    simp only at warnings
    split_ifs at warnings with hr
    exact hr
  · rintro ⟨blocks, rest, hb, hr, rfl⟩
    have enough : ¬(requireCode && blocks.isEmpty) = true := by
      intro he
      obtain ⟨required, empty⟩ := Bool.and_eq_true_iff.mp he
      exact hc required (List.map_eq_nil_iff.mpr (List.isEmpty_iff.mp empty))
    rw [result_readExamples, show fencedBlocks? (Text.splitLines t) = _ from hb]
    simp only
    rw [if_neg enough, if_pos hr]

/-! ### Writing -/

/-- An example as it is read back: its title is the heading that was written for it. -/
def Example.headed (e : Example) : Example :=
  if e.title = [] then e else { e with title := "### ".toList ++ e.title }

theorem code_headed (e : Example) : e.headed.code = e.code := by
  unfold Example.headed
  split_ifs <;> rfl

/-- The lines above the code of an example that is written out. -/
def Example.proseLines (e : Example) : List Text :=
  if e.title = [] then []
  else ("### ".toList ++ e.title) :: [] ::
    if e.body = [] then [] else Text.splitLines e.body ++ [[]]

theorem Example.WellFormed.newline_notMem_heading {e : Example} (h : e.WellFormed) :
    '\n' ∉ "### ".toList ++ e.title := by
  rw [List.mem_append, not_or]
  exact ⟨by decide, h.oneLine⟩

theorem Example.WellFormed.trimmed_heading {e : Example} (h : e.WellFormed) (ht : e.title ≠ []) :
    Text.Trimmed ("### ".toList ++ e.title) := by
  have marks : Text.Trimmed "###".toList := Text.trim_eq_self_iff.mp (by decide)
  exact marks.append h.title (by decide) ht [' ']

theorem joinLines_fence (code : Text) :
    Text.joinLines [fence, code, fence] = fence ++ ('\n' :: (code ++ ['\n'])) ++ fence := by
  simp [Text.joinLines, List.intercalate_cons_cons]

theorem splitLines_joinLines_fence (code : Text) :
    Text.splitLines (Text.joinLines [fence, code, fence]) =
      fence :: (Text.splitLines code ++ [fence]) := by
  have single : Text.splitOn '\n' fence = [fence] := by decide
  rw [joinLines_fence, show fence ++ ('\n' :: (code ++ ['\n'])) ++ fence =
    fence ++ '\n' :: (code ++ '\n' :: fence) by simp]
  rw [Text.splitLines, Text.splitOn_append_separator, Text.splitOn_append_separator, single]
  rfl

/-- The lines of an example that is written out. -/
theorem splitLines_write {e : Example} (h : e.WellFormed) :
    Text.splitLines e.write = e.proseLines ++ fence :: (Text.splitLines e.code ++ [fence]) := by
  unfold Example.write Example.proseLines
  by_cases ht : e.title = []
  · have hb : e.body = [] := h.untitled ht
    simp [ht, hb, Text.joinParagraphs, splitLines_joinLines_fence]
  · have heading : Text.splitLines ("### ".toList ++ e.title) = ["### ".toList ++ e.title] :=
      Text.splitOn_eq_singleton h.newline_notMem_heading
    by_cases hb : e.body = []
    · simp only [List.isEmpty_iff, ht, hb, if_true, if_false, List.append_nil,
        List.singleton_append]
      rw [Text.splitLines_joinParagraphs, heading, List.flatMap_singleton,
        splitLines_joinLines_fence]
      rfl
    · simp only [List.isEmpty_iff, ht, hb, if_false, List.cons_append, List.nil_append]
      rw [Text.splitLines_joinParagraphs, heading, List.flatMap_cons, List.flatMap_singleton,
        splitLines_joinLines_fence]
      simp

theorem trimmed_write {e : Example} (h : e.WellFormed) : e.write.Trimmed ∧ e.write ≠ [] := by
  refine Text.trimmed_joinParagraphs (by simp) ?_
  intro t hm
  simp only [List.isEmpty_iff, List.mem_append, List.mem_ite_nil_left, List.mem_singleton] at hm
  rcases hm with (⟨ht, rfl⟩ | ⟨hb, rfl⟩) | rfl
  · exact ⟨h.trimmed_heading ht, List.append_ne_nil_of_right_ne_nil _ ht⟩
  · exact ⟨h.body, hb⟩
  · have marks : Text.Trimmed fence := Text.trim_eq_self_iff.mp (by decide)
    rw [joinLines_fence]
    exact ⟨marks.append marks (by decide) (by decide) _, by simp [fence]⟩

/-- The lines of examples that are written out, with an empty line between any two of them. -/
theorem splitLines_writeExamples {e : Example} {rest : List Example}
    (h : ∀ other ∈ e :: rest, other.WellFormed) :
    Text.splitLines (writeExamples (e :: rest)) =
      Text.splitLines e.write ++ rest.flatMap fun other => [] :: Text.splitLines other.write := by
  have trimmed : Text.Trimmed (Text.joinParagraphs ((e :: rest).map Example.write)) := by
    refine (Text.trimmed_joinParagraphs (by simp) ?_).1
    intro t ht
    obtain ⟨other, ho, rfl⟩ := List.mem_map.mp ht
    exact trimmed_write (h other ho)
  rw [writeExamples, Text.trim_eq_self_iff.mpr trimmed, List.map_cons,
    Text.splitLines_joinParagraphs, List.flatMap_map]

/-! ### Fences that come too early -/

/-- The lines of a body before one that opens a block are less than the body. -/
theorem trim_ne_of_opensFence {body line : Text} {before after : List Text}
    (hs : Text.splitLines body = before ++ line :: after) (ho : opensFence line = true) :
    Text.trim (Text.joinLines ([] :: before)) ≠ body := by
  have blank : ∀ line ∈ [[]], Text.isBlank line = true := by decide
  have something : line ≠ [] := by
    rintro rfl
    exact absurd ho (by decide)
  have whole : Text.joinLines (before ++ line :: after) = body := by
    rw [← hs, Text.joinLines_splitLines]
  have trimmed : Text.trim (Text.joinLines ([] :: before)) = Text.trim (Text.joinLines before) :=
    Text.trim_joinLines_append blank before
  intro he
  have less := Text.length_joinLines_lt before something after
  rw [whole, ← he, trimmed] at less
  exact absurd (Text.length_trim_le _) (Nat.not_le.mpr less)

/-- Formatting the lines of a code before one that closes the block gives less than the code. -/
theorem format_ne_of_closesFence {code line : Text} {before after : List Text}
    (hs : Text.splitLines code = before ++ line :: after) (hc : closesFence line = true) :
    Snippet.format (Text.joinLines before) ≠ code := by
  intro he
  rcases eq_or_ne before [] with rfl | hb
  · -- Nothing is left of the code, so that no line closes a block.
    obtain rfl : [] = code := he
    obtain ⟨rfl, -⟩ := List.cons.inj hs
    exact absurd hc (by decide)
  · have noBreak : ∀ line ∈ before, '\n' ∉ line := by
      intro line hl
      apply Text.notMem_of_mem_splitOn (t := code)
      show line ∈ Text.splitLines code
      rw [hs]
      exact List.mem_append_left _ hl
    have lines := length_splitLines_format_le (Text.joinLines before)
    rw [he, hs, Text.splitLines_joinLines hb noBreak, List.length_append, List.length_cons] at lines
    omega

theorem opensFence_proseLines {e : Example}
    (h : ∀ line ∈ Text.splitLines e.body, opensFence line = false) :
    ∀ line ∈ e.proseLines, opensFence line = false := by
  unfold Example.proseLines
  split_ifs
  · exact fun _ hm => absurd hm List.not_mem_nil
  · exact List.forall_mem_cons.mpr ⟨rfl, by decide⟩
  · refine List.forall_mem_cons.mpr ⟨rfl, List.forall_mem_cons.mpr ⟨rfl, ?_⟩⟩
    exact List.forall_mem_append.mpr ⟨h, by decide⟩

/-! ### Reading what was written -/

section

variable {e : Example} (h : e.WellFormed) {gap : List Text}
  (hg : ∀ line ∈ gap, Text.isBlank line = true)
include h hg

theorem toExample_heading (ht : e.title ≠ []) (rest code : List Text) :
    FencedBlock.toExample ⟨gap ++ ("### ".toList ++ e.title) :: rest, code⟩ =
      ⟨"### ".toList ++ e.title, Text.trim (Text.joinLines rest),
        Snippet.format (Text.joinLines code)⟩ := by
  rw [toExample_of_prose hg rfl h.newline_notMem_heading,
    Text.trim_eq_self_iff.mpr (h.trimmed_heading ht)]

/-- An example is read back from its lines. -/
theorem toExample_proseLines :
    FencedBlock.toExample ⟨gap ++ e.proseLines, Text.splitLines e.code⟩ = e.headed := by
  unfold Example.proseLines Example.headed
  by_cases ht : e.title = []
  · rw [if_pos ht, if_pos ht, List.append_nil, toExample_of_isBlank hg, Text.joinLines_splitLines,
      h.code]
    obtain ⟨title, body, code⟩ := e
    obtain rfl : title = [] := ht
    obtain rfl : body = [] := h.untitled rfl
    rfl
  · have blank : ∀ line ∈ [[]], Text.isBlank line = true := by decide
    have body : Text.trim (Text.joinLines ([[]] ++
        if e.body = [] then [] else Text.splitLines e.body ++ [[]])) = e.body := by
      rw [Text.trim_joinLines_append blank]
      split_ifs with hb
      · exact hb.symm
      · rw [Text.joinLines_append_singleton (Text.splitLines_ne_nil _), Text.joinLines_splitLines,
          Text.trim_append_right _ (List.forall_mem_singleton.mpr rfl),
          Text.trim_eq_self_iff.mpr h.body]
    rw [if_neg ht, if_neg ht, toExample_heading h hg ht, Text.joinLines_splitLines, h.code]
    exact congrArg (Example.mk _ · _) body

variable {rest : List Text} {examples : List Example}

/-- A fence in the body opens a block too early. -/
theorem not_readsAs_of_opensFence {before after : List Text} {line : Text}
    (hs : Text.splitLines e.body = before ++ line :: after)
    (hb : ∀ line ∈ before, opensFence line = false) (ho : opensFence line = true) :
    ¬ReadsAs gap none (Text.splitLines e.write ++ rest) (e.headed :: examples) := by
  have body : e.body ≠ [] := by
    intro he
    have mem : line ∈ Text.splitLines [] := by
      rw [← he, hs]
      simp
    rw [List.mem_singleton.mp mem] at ho
    exact absurd ho (by decide)
  have title : e.title ≠ [] := fun ht => body (h.untitled ht)
  have above : ∀ line ∈ ("### ".toList ++ e.title) :: [] :: before, opensFence line = false :=
    List.forall_mem_cons.mpr ⟨rfl, List.forall_mem_cons.mpr ⟨rfl, hb⟩⟩
  have lines : Text.splitLines e.write ++ rest =
      (("### ".toList ++ e.title) :: [] :: before) ++
        line :: (after ++ [] :: fence :: (Text.splitLines e.code ++ fence :: rest)) := by
    rw [splitLines_write h, Example.proseLines, if_neg title, if_neg body, hs]
    simp
  rw [ReadsAs, lines, fencedBlocksAfter_append_prose above, fencedBlocksAfter_opens ho, ← ReadsAs]
  intro hr
  obtain ⟨code, he⟩ := exists_code_of_readsAs hr
  rw [toExample_heading h hg title, Example.headed, if_neg title] at he
  exact trim_ne_of_opensFence hs ho (congrArg Example.body he)

/-- A fence in the body opens a block too early, and one in the code closes it too early. -/
theorem readsAs_write_iff :
    ReadsAs gap none (Text.splitLines e.write ++ rest) (e.headed :: examples) ↔
      e.KeepsFences ∧ ReadsAs [] none rest examples := by
  rcases first_cases opensFence (Text.splitLines e.body) with
    hb | ⟨before, line, after, hs, hb, ho⟩
  · -- The first fence of the example is the one above its code.
    have opened : ReadsAs gap none (Text.splitLines e.write ++ rest) (e.headed :: examples) ↔
        ReadsAs (gap ++ e.proseLines) (some []) (Text.splitLines e.code ++ fence :: rest)
          (e.headed :: examples) := by
      unfold ReadsAs
      rw [splitLines_write h, List.append_assoc,
        fencedBlocksAfter_append_prose (opensFence_proseLines hb), List.cons_append,
        fencedBlocksAfter_opens (by decide), List.append_assoc, List.singleton_append]
    rw [opened]
    rcases first_cases closesFence (Text.splitLines e.code) with
      hc | ⟨before, line, after, hs, hc, ho⟩
    · rw [ReadsAs, fencedBlocksAfter_append_code hc, List.nil_append, ← ReadsAs,
        readsAs_closes_iff (by decide), toExample_proseLines h hg]
      exact and_congr_left' (iff_of_true rfl ⟨hb, hc⟩)
    · refine iff_of_false ?_ fun keeps => ?_
      · rw [hs, List.append_assoc, ReadsAs, fencedBlocksAfter_append_code hc, List.nil_append,
          ← ReadsAs, List.cons_append, readsAs_closes_iff ho]
        rintro ⟨he, -⟩
        have code := congrArg Example.code he
        rw [code_toExample, code_headed] at code
        exact format_ne_of_closesFence hs ho code
      · have closed := keeps.1.2 line (by rw [hs]; simp)
        exact absurd (ho.symm.trans closed) (by decide)
  · refine iff_of_false (not_readsAs_of_opensFence h hg hs hb ho) fun keeps => ?_
    have closed := keeps.1.1 line (by rw [hs]; simp)
    exact absurd (ho.symm.trans closed) (by decide)

end

theorem readsAs_flatMap_iff {examples : List Example} (h : ∀ e ∈ examples, e.WellFormed) :
    ReadsAs [] none (examples.flatMap fun e => [] :: Text.splitLines e.write)
        (examples.map Example.headed) ↔
      ∀ e ∈ examples, e.KeepsFences := by
  induction examples with
  | nil => exact iff_of_true ⟨[], [], rfl, rfl, rfl⟩ (by simp)
  | cons e rest ih =>
    obtain ⟨first, later⟩ := List.forall_mem_cons.mp h
    have empty : ∀ line ∈ [[]], opensFence line = false ∧ Text.isBlank line = true := by decide
    rw [List.forall_mem_cons, ← ih later,
      ← readsAs_write_iff first fun line hl => (empty line hl).2]
    unfold ReadsAs
    rw [← List.nil_append [[]], ← fencedBlocksAfter_append_prose fun line hl => (empty line hl).1]
    rfl

/-- Examples that were read and written out are read back, each with its heading as title and
without a warning, exactly if they keep their fences, and they do if the only white space in the
lines that they were read from is spaces and tabs. -/
theorem readExamples_writeExamples_iff {entity : Text} {requireCode : Bool} {t : Text}
    {examples : List Example} (h : (readExamples entity requireCode t).result.1 = .ok examples)
    (other : Text) :
    ((readExamples other requireCode (writeExamples examples)).result =
        (.ok (examples.map Example.headed), []) ↔ ∀ e ∈ examples, e.KeepsFences) ∧
      ((∀ line ∈ Text.splitLines t, line.IsPlain) → ∀ e ∈ examples, e.KeepsFences) := by
  obtain ⟨blocks, rest, hb, rfl, hc⟩ := exists_of_readExamples h
  have cut : ∀ block ∈ blocks, block.CutFrom (Text.splitLines t) :=
    cutFrom_of_fencedBlocksAfter (List.Subset.refl _) (by simp) (by simp) hb
  have wellFormed : ∀ e ∈ blocks.map FencedBlock.toExample, e.WellFormed := by
    intro e he
    obtain ⟨block, hm, rfl⟩ := List.mem_map.mp he
    refine wellFormed_toExample fun line hl => ?_
    exact Text.notMem_of_mem_splitOn ((cut block hm).prose line hl).1
  constructor
  · rw [result_readExamples_iff fun required => by simpa using hc required]
    cases he : blocks.map FencedBlock.toExample with
    | nil => exact iff_of_true ⟨[], [[]], rfl, rfl, rfl⟩ (by simp)
    | cons e rest =>
      rw [he] at wellFormed
      obtain ⟨first, later⟩ := List.forall_mem_cons.mp wellFormed
      rw [splitLines_writeExamples wellFormed, List.map_cons,
        readsAs_write_iff first (by simp), readsAs_flatMap_iff later, List.forall_mem_cons]
  · intro plain e he
    obtain ⟨block, hm, rfl⟩ := List.mem_map.mp he
    exact keepsFences_toExample (cut block hm) plain

/-- Two examples, of which the first has a body, in lines that end in carriage returns. -/
def domainUsage : Text :=
  ("Basic usage\r\nSets up a domain.\r\n\r\n```hcl\r\nports=[\r\n80,\r\n]\r\n" ++
    "text = <<EOT\r\n  ```hcl\r\nEOT\r\n```\r\n\r\n\t```\r\nc = 2\r\n``` \r\n").toList

theorem domainUsage_read_back :
    ∃ examples, (readExamples "edgenext_x".toList true domainUsage).result.1 = .ok examples ∧
      (readExamples "edgenext_x".toList true (writeExamples examples)).result =
        (.ok (examples.map Example.headed), []) := by
  obtain ⟨examples, h⟩ := Report.exists_result_eq_ok
    (show (readExamples "edgenext_x".toList true domainUsage).result.1.isOk = true by
      decide +kernel)
  have plain : ∀ line ∈ Text.splitLines domainUsage, line.IsPlain := by decide +kernel
  obtain ⟨readBack, keeps⟩ := readExamples_writeExamples_iff h "edgenext_x".toList
  exact ⟨examples, h, readBack.mpr (keeps plain)⟩

/-- A no-break space keeps a line of code from closing the block, until the code is formatted. -/
def hiddenFence : Text :=
  "```\n\u00a0```\n```".toList

theorem hiddenFence_not_read_back :
    ¬∀ examples, (readExamples "edgenext_x".toList true hiddenFence).result.1 = .ok examples →
      (readExamples "edgenext_x".toList true (writeExamples examples)).result =
        (.ok (examples.map Example.headed), []) := by
  intro h
  have read : (readExamples "edgenext_x".toList true hiddenFence).result.1 =
      .ok [⟨[], [], fence⟩] := by
    decide +kernel
  have again : (readExamples "edgenext_x".toList true (writeExamples [⟨[], [], fence⟩])).result.1 =
      .error (.unterminatedFence "edgenext_x".toList) := by
    decide +kernel
  rw [h _ read] at again
  cases again

end ProviderDocs
