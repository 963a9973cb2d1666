import ProviderDocs.Description
import ProviderDocs.Proofs.Text.Ink

/-!
# The first paragraph

The first paragraph of a text is what stands above its first empty line, trimmed
(`IsFirstParagraph`); that of a text with something on its first line is what `firstParagraph` takes
out of it (`isFirstParagraph_firstParagraph`).  It begins with a character that is no white space,
and none of its lines is empty (`IsFirstParagraph.ne_nil`, `IsFirstParagraph.not_saysOnly_nil`).
-/

namespace ProviderDocs

open Text (Trimmed joinLines splitLines trim)

/-- The lines above the first one that is empty, trimmed together. -/
def IsFirstParagraph (t paragraph : Text) : Prop :=
  ∃ above below, splitLines t = above ++ below ∧ (∀ line ∈ above, ¬line.SaysOnly []) ∧
    (∀ line ∈ below.head?, line.SaysOnly []) ∧ paragraph = trim (joinLines above)

/-- A line that begins with a character other than white space is not empty. -/
theorem not_saysOnly_nil_of_head {line : Text} {c : Char} {rest : Text} (hl : line = c :: rest)
    (hc : isSpace c = false) : ¬line.SaysOnly [] := by
  intro h
  have blank := h.isBlank
  rw [hl, Text.isBlank_cons_of_ne hc] at blank
  cases blank

theorem isFirstParagraph_firstParagraph {t : Text} (h : Trimmed t) (hn : t ≠ []) :
    IsFirstParagraph t (firstParagraph t) := by
  obtain ⟨c, start, below, lines, ink⟩ := h.exists_splitLines_eq hn
  refine ⟨(c :: start) :: below.takeWhile fun line => !Text.isEmptyLine line,
    below.dropWhile fun line => !Text.isEmptyLine line, ?_, ?_, ?_, ?_⟩
  · rw [lines, List.cons_append, List.takeWhile_append_dropWhile]
  · refine List.forall_mem_cons.mpr ⟨not_saysOnly_nil_of_head rfl ink, fun line hl => ?_⟩
    have notEmpty := List.mem_takeWhile_imp hl
    rw [← Text.isEmptyLine_iff]
    simpa using notEmpty
  · intro line hl
    have isEmpty := List.head?_dropWhile_not (fun line => !Text.isEmptyLine line) below
    rw [Option.mem_def.mp hl] at isEmpty
    rw [← Text.isEmptyLine_iff]
    simpa using isEmpty
  · rw [firstParagraph, lines]
    rfl

namespace IsFirstParagraph

variable {t paragraph : Text}

theorem trimmed (h : IsFirstParagraph t paragraph) : Trimmed paragraph := by
  obtain ⟨above, below, -, -, -, rfl⟩ := h
  exact Text.trimmed_trim _

theorem ne_nil (h : IsFirstParagraph t paragraph) (ht : Trimmed t) (hn : t ≠ []) :
    paragraph ≠ [] := by
  obtain ⟨above, below, whole, -, first, rfl⟩ := h
  obtain ⟨c, start, later, lines, ink⟩ := ht.exists_splitLines_eq hn
  rw [lines] at whole
  cases above with
  | nil =>
    rw [← show _ = below from whole] at first
    exact absurd (first _ rfl) (not_saysOnly_nil_of_head rfl ink)
  | cons line above =>
    obtain ⟨rfl, -⟩ := List.cons.inj whole
    obtain ⟨after, begins⟩ := Text.exists_intercalate_cons ['\n'] (c :: start) above
    rw [Ne, Text.trim_eq_nil_iff, joinLines, begins, List.cons_append,
      Text.isBlank_cons_of_ne ink]
    exact Bool.false_ne_true

/-- No line of a first paragraph is empty. -/
theorem not_saysOnly_nil (h : IsFirstParagraph t paragraph) (hn : paragraph ≠ []) :
    ∀ line ∈ splitLines paragraph, ¬line.SaysOnly [] := by
  obtain ⟨above, below, whole, none, -, rfl⟩ := h
  intro line hl empty
  have stood := Text.mem_splitLines_of_mem_splitLines_trim hn hl empty.isBlank
  have noBreak : ∀ line ∈ above, '\n' ∉ line := fun line hl =>
    Text.notMem_of_mem_splitOn (show line ∈ splitLines t by rw [whole]; simp [hl])
  rcases eq_or_ne above [] with rfl | ha
  · exact hn rfl
  · rw [Text.splitLines_joinLines ha noBreak] at stood
    exact none line stood empty

end IsFirstParagraph

end ProviderDocs
