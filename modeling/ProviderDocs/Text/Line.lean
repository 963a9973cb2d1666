import ProviderDocs.Text.Basic

/-!
# Lines

A text is cut at every occurrence of a separator (`splitOn`), and pieces are put together with
separators between them; the two undo each other (`intercalate_splitOn`), and no piece holds the
separator (`notMem_of_mem_splitOn`).  Lines are the pieces between newlines.  A carriage return
before a newline stays with its line, and the readers that must not see it drop it themselves
(`dropReturn`).
-/

namespace ProviderDocs

namespace Text

/-- The pieces of a text between the occurrences of a separator: one more than there are of
these. -/
def splitOn (separator : Char) : Text → List Text
  | [] => [[]]
  | c :: rest =>
    if c = separator then [] :: splitOn separator rest
    else (splitOn separator rest).modifyHead (c :: ·)

/-- The lines of a text: the pieces between its newlines. -/
def splitLines (t : Text) : List Text :=
  splitOn '\n' t

/-- Lines put together with a newline between any two. -/
def joinLines (lines : List Text) : Text :=
  ['\n'].intercalate lines

/-- Paragraphs put together with an empty line between any two. -/
def joinParagraphs (paragraphs : List Text) : Text :=
  ['\n', '\n'].intercalate paragraphs

/-- Drops one carriage return at the end of a line. -/
def dropReturn (line : Text) : Text :=
  if line.getLast? = some '\r' then line.dropLast else line

/-- An empty line holds nothing but spaces and tabs, before at most one carriage return. -/
def isEmptyLine (line : Text) : Bool :=
  (dropReturn line).all isSpaceOrTab

/-- What a line says between the spaces and tabs around it, a carriage return at its end apart. -/
def lineContent (line : Text) : Text :=
  trimWhere isSpaceOrTab (dropReturn line)

/-! ### Cutting and putting together -/

theorem splitOn_ne_nil (separator : Char) (t : Text) : splitOn separator t ≠ [] := by
  induction t with
  | nil => simp [splitOn]
  | cons c rest ih =>
    by_cases h : c = separator
    · simp [splitOn, h]
    · simpa [splitOn, h, List.modifyHead_eq_nil_iff] using ih

/-- Cutting a text loses nothing but the separators. -/
theorem intercalate_splitOn (separator : Char) (t : Text) :
    [separator].intercalate (splitOn separator t) = t := by
  induction t with
  | nil => rfl
  | cons c rest ih =>
    obtain ⟨piece, pieces, h⟩ := List.exists_cons_of_ne_nil (splitOn_ne_nil separator rest)
    rw [h] at ih
    by_cases hc : c = separator
    · rw [splitOn, if_pos hc, h, List.intercalate_cons_cons, ih, hc]
      rfl
    · rw [splitOn, if_neg hc, h, List.modifyHead_cons]
      cases pieces with
      | nil => simpa using ih
      | cons next pieces =>
        rw [List.intercalate_cons_cons] at ih ⊢
        rw [← ih]
        rfl

/-- The lines of a text put together are the text. -/
theorem joinLines_splitLines (t : Text) : joinLines (splitLines t) = t :=
  intercalate_splitOn '\n' t

/-- No piece holds the separator. -/
theorem notMem_of_mem_splitOn {separator : Char} {t piece : Text}
    (h : piece ∈ splitOn separator t) : separator ∉ piece := by
  induction t generalizing piece with
  | nil => simp_all [splitOn]
  | cons c rest ih =>
    by_cases hc : c = separator
    · rw [splitOn, if_pos hc, List.mem_cons] at h
      rcases h with rfl | h
      · simp
      · exact ih h
    · obtain ⟨first, pieces, hf⟩ := List.exists_cons_of_ne_nil (splitOn_ne_nil separator rest)
      rw [splitOn, if_neg hc, hf, List.modifyHead_cons, List.mem_cons] at h
      rcases h with rfl | h
      · have := ih (hf ▸ List.mem_cons_self)
        simp [this, Ne.symm hc]
      · exact ih (hf ▸ List.mem_cons_of_mem _ h)

end Text

end ProviderDocs
