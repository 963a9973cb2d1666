import ProviderDocs.Proofs.Example.Fences

/-!
# Fenced blocks and the examples that they make

The first line of prose with something on it makes the title of an example, and what stands below it
the body (`toExample_of_prose`).  Title and body are trimmed and the code is formatted, and that is
all that is known of an example that was read (`Example.WellFormed`).  If all lines of the text are
plain, no line of the body opens a block and no line of the code closes one
(`Example.KeepsFences`).
-/

namespace ProviderDocs

open Snippet

/-- No line has a property, or there is a first one. -/
theorem first_cases (p : Text → Bool) (lines : List Text) :
    (∀ line ∈ lines, p line = false) ∨
      ∃ before first after, lines = before ++ first :: after ∧ (∀ line ∈ before, p line = false) ∧
        p first = true := by
  cases hf : lines.find? p with
  | none => exact .inl (by simpa using hf)
  | some first =>
    obtain ⟨hp, before, after, he, hb⟩ := List.find?_eq_some_iff_append.mp hf
    exact .inr ⟨before, first, after, he, by simpa using hb, hp⟩

/-- Prose is blank, or its first line that is not has only blank lines above it. -/
theorem prose_cases (prose : List Text) :
    (∀ line ∈ prose, Text.isBlank line = true) ∨
      ∃ gap first rest, prose = gap ++ first :: rest ∧ (∀ line ∈ gap, Text.isBlank line = true) ∧
        Text.isBlank first = false := by
  simpa using first_cases (!Text.isBlank ·) prose

/-! ### The example of a block -/

theorem toExample_of_splitLines {block : FencedBlock} {title : Text} {body : List Text}
    (h : Text.splitLines (Text.trim (Text.joinLines block.prose)) = title :: body) :
    block.toExample = ⟨Text.trim title, Text.trim (Text.joinLines body),
      Snippet.format (Text.joinLines block.code)⟩ := by
  unfold FencedBlock.toExample
  rw [h]

theorem code_toExample (block : FencedBlock) :
    block.toExample.code = Snippet.format (Text.joinLines block.code) := by
  unfold FencedBlock.toExample
  split <;> rfl

theorem toExample_of_isBlank {gap : List Text} (hg : ∀ line ∈ gap, Text.isBlank line = true)
    (code : List Text) :
    FencedBlock.toExample ⟨gap, code⟩ = ⟨[], [], Snippet.format (Text.joinLines code)⟩ := by
  have nothing : Text.trim (Text.joinLines gap) = [] :=
    (Text.trim_eq_nil_iff _).mpr (Text.isBlank_joinLines hg)
  have lines : Text.splitLines (Text.trim (Text.joinLines gap)) = [[]] := by
    rw [nothing]
    rfl
  exact @toExample_of_splitLines ⟨gap, code⟩ _ _ lines

theorem toExample_of_prose {gap : List Text} {first : Text}
    (hg : ∀ line ∈ gap, Text.isBlank line = true) (hf : Text.isBlank first = false)
    (hn : '\n' ∉ first) (rest code : List Text) :
    FencedBlock.toExample ⟨gap ++ first :: rest, code⟩ =
      ⟨Text.trim first, Text.trim (Text.joinLines rest),
        Snippet.format (Text.joinLines code)⟩ := by
  obtain ⟨title, body, lines, ht, hb⟩ := Text.exists_splitLines_trim hf hn rest
  rw [← Text.trim_joinLines_append hg] at lines
  rw [toExample_of_splitLines lines, ht, hb]

/-! ### Examples that were read -/

/-- What is known of every example that was read. -/
structure Example.WellFormed (e : Example) : Prop where
  title : Text.Trimmed e.title
  oneLine : '\n' ∉ e.title
  body : Text.Trimmed e.body
  /-- Prose without a first line has no further ones. -/
  untitled : e.title = [] → e.body = []
  code : Snippet.format e.code = e.code

theorem wellFormed_toExample {block : FencedBlock} (h : ∀ line ∈ block.prose, '\n' ∉ line) :
    block.toExample.WellFormed := by
  obtain ⟨prose, code⟩ := block
  have settled : Snippet.format (Snippet.format (Text.joinLines code)) =
      Snippet.format (Text.joinLines code) := by
    rw [format_eq_joinLines (Snippet.format _), settledLines_format, ← format_eq_joinLines]
  rcases prose_cases prose with hg | ⟨gap, first, rest, rfl, hg, hf⟩
  · rw [toExample_of_isBlank hg]
    have nothing : Text.Trimmed [] := Text.trim_eq_self_iff.mp rfl
    exact ⟨nothing, List.not_mem_nil, nothing, fun _ => rfl, settled⟩
  · have hn : '\n' ∉ first := h first (by simp)
    rw [toExample_of_prose hg hf hn]
    refine ⟨Text.trimmed_trim _, fun hm => hn (Text.trim_subset _ hm), Text.trimmed_trim _, ?_,
      settled⟩
    intro ht
    rw [(Text.trim_eq_nil_iff first).mp ht] at hf
    exact absurd hf (by decide)

/-- A block is made of lines of a text: its prose of lines that open no block, its code of lines
that close none. -/
structure FencedBlock.CutFrom (lines : List Text) (block : FencedBlock) : Prop where
  prose : ∀ line ∈ block.prose, line ∈ lines ∧ opensFence line = false
  code : ∀ line ∈ block.code, line ∈ lines ∧ closesFence line = false

/-- Reading takes the lines that are left one after the other, so that they and those read before
make up the blocks. -/
theorem cutFrom_of_fencedBlocksAfter {source : List Text} {lines prose : List Text}
    {code : Option (List Text)} {blocks : List FencedBlock} {rest : List Text}
    (hl : lines ⊆ source) (hp : ∀ line ∈ prose, line ∈ source ∧ opensFence line = false)
    (hc : ∀ read ∈ code, ∀ line ∈ read, line ∈ source ∧ closesFence line = false)
    (h : fencedBlocksAfter prose code lines = some (blocks, rest)) :
    ∀ block ∈ blocks, block.CutFrom source := by
  induction lines generalizing prose code blocks with
  | nil =>
    rw [fencedBlocksAfter] at h
    split_ifs at h
    cases h
    exact fun _ hb => absurd hb List.not_mem_nil
  | cons line lines ih =>
    obtain ⟨first, later⟩ := List.cons_subset.mp hl
    cases code with
    | none =>
      simp only [fencedBlocksAfter] at h
      split_ifs at h with ho
      · exact ih later hp (by simp) h
      · refine ih later (List.forall_mem_append.mpr ⟨hp, ?_⟩) (by simp) h
        exact List.forall_mem_singleton.mpr ⟨first, by simpa using ho⟩
    | some read =>
      have hread : ∀ line ∈ read, line ∈ source ∧ closesFence line = false := hc read rfl
      simp only [fencedBlocksAfter] at h
      split_ifs at h with ho
      · obtain ⟨⟨below, rest'⟩, hb, he⟩ := Option.map_eq_some_iff.mp h
        cases he
        refine List.forall_mem_cons.mpr ⟨⟨hp, hread⟩, ?_⟩
        exact ih later (by simp) (by simp) hb
      · refine ih later hp ?_ h
        rintro _ ⟨⟩
        refine List.forall_mem_append.mpr ⟨hread, ?_⟩
        exact List.forall_mem_singleton.mpr ⟨first, by simpa using ho⟩

/-! ### Fences in what was read -/

/-- No line of the body of an example opens a block, and no line of its code closes one. -/
def Example.KeepsFences (e : Example) : Prop :=
  (∀ line ∈ Text.splitLines e.body, opensFence line = false) ∧
    ∀ line ∈ Text.splitLines e.code, closesFence line = false

/-- A line that trimming laid bare would have opened a block before. -/
theorem opensFence_of_mem_trim {prose : List Text}
    (h : ∀ line ∈ prose, (Text.IsPlain line ∧ opensFence line = false) ∧ '\n' ∉ line) :
    ∀ line ∈ Text.splitLines (Text.trim (Text.joinLines prose)), opensFence line = false := by
  intro line hl
  obtain ⟨before, after, hb, ha, hm⟩ := Text.exists_mem_of_mem_splitLines_trim hl
  have nothing : Text.IsPlain [] ∧ opensFence [] = false := ⟨Text.isPlain_nil, rfl⟩
  obtain ⟨plain, none⟩ := Text.forall_mem_splitLines_joinLines nothing h _ hm
  cases ho : opensFence line with
  | false => rfl
  | true =>
    rw [opensFence_append hb ha plain ho] at none
    exact none

/-- A line that formatting laid bare would have closed the block before. -/
theorem closesFence_of_mem_format {code : List Text}
    (h : ∀ line ∈ code, (Text.IsPlain line ∧ closesFence line = false) ∧ '\n' ∉ line) :
    ∀ line ∈ Text.splitLines (Snippet.format (Text.joinLines code)), closesFence line = false := by
  intro line hl
  have nothing : Text.IsPlain [] ∧ closesFence [] = false := ⟨Text.isPlain_nil, rfl⟩
  rcases exists_of_mem_splitLines_format hl with rfl | ⟨state, text, width, ht, rfl⟩
  · exact nothing.2
  · obtain ⟨plain, none⟩ := Text.forall_mem_splitLines_joinLines nothing h _ ht
    cases hc : closesFence ((state.readLine text).2.write width) with
    | false => rfl
    | true =>
      rw [closesFence_of_write plain hc] at none
      exact none

/-- What is made of plain lines keeps its fences. -/
theorem keepsFences_toExample {t : Text} {block : FencedBlock}
    (cut : block.CutFrom (Text.splitLines t)) (plain : ∀ line ∈ Text.splitLines t, line.IsPlain) :
    block.toExample.KeepsFences := by
  obtain ⟨prose, code⟩ := block
  have lines : ∀ line ∈ prose, (Text.IsPlain line ∧ opensFence line = false) ∧ '\n' ∉ line := by
    intro line hm
    obtain ⟨source, none⟩ := cut.prose line hm
    exact ⟨⟨plain line source, none⟩, Text.notMem_of_mem_splitOn source⟩
  have inside : ∀ line ∈ Text.splitLines (Snippet.format (Text.joinLines code)),
      closesFence line = false := by
    apply closesFence_of_mem_format
    intro line hm
    obtain ⟨source, none⟩ := cut.code line hm
    exact ⟨⟨plain line source, none⟩, Text.notMem_of_mem_splitOn source⟩
  rcases prose_cases prose with hg | ⟨gap, first, rest, rfl, hg, hf⟩
  · rw [toExample_of_isBlank hg]
    exact ⟨List.forall_mem_singleton.mpr rfl, inside⟩
  · rw [toExample_of_prose hg hf (lines first (by simp)).2]
    exact ⟨opensFence_of_mem_trim fun line hm => lines line (by simp [hm]), inside⟩

end ProviderDocs
