import ProviderDocs.Proofs.Text.Lines

/-!
# Line ends

A line may end in a newline alone, or in a carriage return and a newline.  `withReturns` puts a
carriage return before every newline of a text, and `withoutReturns` takes it away again
(`withoutReturns_withReturns`).  The lines of the two texts are the same but for the returns at
their ends (`sameLines_withReturns`).  Lines that are the same in this way make the same text once
they are put together and trimmed, but for the returns before its newlines
(`SameLines.trim_joinLines`).
-/

namespace ProviderDocs.Text

/-- A text with a carriage return before every newline. -/
def withReturns (t : Text) : Text :=
  t.flatMap fun c => if c = '\n' then ['\r', '\n'] else [c]

/-- A text without the carriage returns that stand before a newline. -/
def withoutReturns : Text → Text
  | [] => []
  | c :: rest =>
    if c = '\r' ∧ rest.head? = some '\n' then withoutReturns rest else c :: withoutReturns rest

theorem withReturns_newline (rest : Text) :
    withReturns ('\n' :: rest) = '\r' :: '\n' :: withReturns rest :=
  rfl

theorem withReturns_cons {c : Char} (hc : c ≠ '\n') (rest : Text) :
    withReturns (c :: rest) = c :: withReturns rest := by
  rw [withReturns, List.flatMap_cons, if_neg hc]
  rfl

theorem withReturns_append (t u : Text) :
    withReturns (t ++ u) = withReturns t ++ withReturns u :=
  List.flatMap_append

/-- Nothing is left of a text with returns exactly when nothing is there without them. -/
theorem withReturns_eq_nil_iff {t : Text} : withReturns t = [] ↔ t = [] := by
  cases t with
  | nil => exact iff_of_true rfl rfl
  | cons c rest =>
    refine iff_of_false ?_ (List.cons_ne_nil _ _)
    by_cases hc : c = '\n'
    · subst hc
      exact List.cons_ne_nil _ _
    · rw [withReturns_cons hc]
      exact List.cons_ne_nil _ _

theorem withReturns_eq_self {line : Text} (h : '\n' ∉ line) : withReturns line = line := by
  induction line with
  | nil => rfl
  | cons c rest ih =>
    have hc : c ≠ '\n' := (List.ne_of_not_mem_cons h).symm
    rw [withReturns_cons hc, ih (List.not_mem_of_not_mem_cons h)]

/-- The returns that were put into a text without any are taken away again. -/
theorem withoutReturns_withReturns {t : Text} (h : '\r' ∉ t) :
    withoutReturns (withReturns t) = t := by
  induction t with
  | nil => rfl
  | cons c rest ih =>
    have hc : c ≠ '\r' := (List.ne_of_not_mem_cons h).symm
    have plain : withoutReturns (c :: withReturns rest) = c :: rest := by
      rw [withoutReturns, if_neg fun both => hc both.1, ih (List.not_mem_of_not_mem_cons h)]
    by_cases hn : c = '\n'
    · subst hn
      rw [withReturns_newline, withoutReturns, if_pos ⟨rfl, rfl⟩, plain]
    · rw [withReturns_cons hn, plain]

/-! ### Trimming -/

theorem trimmed_withReturns {t : Text} (h : Trimmed t) : Trimmed (withReturns t) where
  head := by
    cases t with
    | nil => exact h.head
    | cons c rest =>
      have hs : isSpace c = false := h.head c rfl
      have hc : c ≠ '\n' := by
        rintro rfl
        exact absurd hs (by decide)
      rw [withReturns_cons hc]
      exact h.head
  last := by
    rcases List.eq_nil_or_concat t with rfl | ⟨start, c, rfl⟩
    · exact h.last
    · rw [List.concat_eq_append] at h ⊢
      have hs : isSpace c = false := h.last c (by simp)
      have hc : c ≠ '\n' := by
        rintro rfl
        exact absurd hs (by decide)
      rw [withReturns_append, withReturns_cons hc]
      simpa [withReturns] using hs

/-- Trimming does not see how lines end. -/
theorem trim_withReturns (t : Text) : trim (withReturns t) = withReturns (trim t) := by
  have spaces {gap : Text} (hg : ∀ c ∈ gap, isSpace c = true) :
      ∀ c ∈ withReturns gap, isSpace c = true := by
    intro c hc
    obtain ⟨d, hd, hm⟩ := List.mem_flatMap.mp hc
    split_ifs at hm with hn
    · rcases List.mem_pair.mp hm with rfl | rfl <;> rfl
    · rw [List.mem_singleton.mp hm]
      exact hg d hd
  obtain ⟨before, after, hb, ha, whole⟩ := exists_trim_append t
  have parts : withReturns t =
      withReturns before ++ (withReturns (trim t) ++ withReturns after) := by
    rw [← withReturns_append, ← withReturns_append, whole]
  rw [parts, trim_append_left _ (spaces hb), trim_append_right _ (spaces ha)]
  exact trim_eq_self_iff.mpr (trimmed_withReturns (trimmed_trim t))

/-! ### Lines -/

/-- A line holds no character that ends lines. -/
structure IsLine (line : Text) : Prop where
  return_notMem : '\r' ∉ line
  newline_notMem : '\n' ∉ line

/-- A line with a carriage return at its end. -/
def returned (line : Text) : Text :=
  line ++ ['\r']

/-- The same lines twice.  The second time each of them ends in a carriage return, which the last
one may lack. -/
inductive SameLines : List Text → List Text → Prop where
  | nil : SameLines [] []
  | last {line : Text} (h : IsLine line) : SameLines [line] [line]
  | cons {line : Text} {lines lines' : List Text} (h : IsLine line)
    (hl : SameLines lines lines') : SameLines (line :: lines) (returned line :: lines')

theorem trim_returned (line : Text) : trim (returned line) = trim line :=
  trim_append_right line (by simp [isSpace])

/-- Some lines with returns, and then the same lines. -/
theorem SameLines.append {before lines lines' : List Text} (hb : ∀ line ∈ before, IsLine line)
    (h : SameLines lines lines') : SameLines (before ++ lines) (before.map returned ++ lines') := by
  induction before with
  | nil => exact h
  | cons line rest ih =>
    obtain ⟨first, later⟩ := List.forall_mem_cons.mp hb
    exact .cons first (ih later)

theorem SameLines.map_returned {lines : List Text} (h : ∀ line ∈ lines, IsLine line) :
    SameLines lines (lines.map returned) := by
  simpa using SameLines.append h .nil

theorem SameLines.forall_isLine {lines lines' : List Text} (h : SameLines lines lines') :
    ∀ line ∈ lines, IsLine line := by
  induction h with
  | nil => exact fun _ hl => absurd hl List.not_mem_nil
  | last h => exact List.forall_mem_singleton.mpr h
  | cons h _ ih => exact List.forall_mem_cons.mpr ⟨h, ih⟩

/-- The first of the same lines is the same, and so are those below. -/
theorem SameLines.exists_cons {line : Text} {lines lines' : List Text}
    (h : SameLines (line :: lines) lines') :
    ∃ first rest, lines' = first :: rest ∧ IsLine line ∧ (first = line ∨ first = returned line) ∧
      SameLines lines rest := by
  cases h with
  | last h => exact ⟨line, [], rfl, h, .inl rfl, .nil⟩
  | cons h hl => exact ⟨returned line, _, rfl, h, .inr rfl, hl⟩

theorem SameLines.modifyHead_cons {c : Char} (hr : c ≠ '\r') (hn : c ≠ '\n')
    {lines lines' : List Text} (h : SameLines lines lines') :
    SameLines (lines.modifyHead (c :: ·)) (lines'.modifyHead (c :: ·)) := by
  have longer {line : Text} (h : IsLine line) : IsLine (c :: line) :=
    ⟨List.not_mem_cons_of_ne_of_not_mem hr.symm h.return_notMem,
      List.not_mem_cons_of_ne_of_not_mem hn.symm h.newline_notMem⟩
  cases h with
  | nil => exact .nil
  | last h => exact .last (longer h)
  | cons h hl => exact .cons (longer h) hl

/-- A text has the same lines when its newlines get a carriage return each. -/
theorem sameLines_withReturns {t : Text} (h : '\r' ∉ t) :
    SameLines (splitLines t) (splitLines (withReturns t)) := by
  have nothing : IsLine [] := ⟨List.not_mem_nil, List.not_mem_nil⟩
  induction t with
  | nil => exact .last nothing
  | cons c rest ih =>
    have hc : c ≠ '\r' := (List.ne_of_not_mem_cons h).symm
    have ih := ih (List.not_mem_of_not_mem_cons h)
    by_cases hn : c = '\n'
    · subst hn
      exact .cons nothing ih
    · rw [withReturns_cons hn, splitLines, splitLines, splitOn, splitOn, if_neg hn, if_neg hn]
      exact ih.modifyHead_cons hc hn

/-- Lines that were put together are the same lines again. -/
theorem sameLines_joinLines_map_returned {lines : List Text} (h : ∀ line ∈ lines, IsLine line) :
    SameLines (splitLines (joinLines lines)) (splitLines (joinLines (lines.map returned))) := by
  rcases eq_or_ne lines [] with rfl | hn
  · exact .last ⟨List.not_mem_nil, List.not_mem_nil⟩
  · have ends : ∀ line ∈ lines.map returned, '\n' ∉ line := by
      rintro _ hr hl
      obtain ⟨line, hm, rfl⟩ := List.mem_map.mp hr
      rcases List.mem_append.mp hl with hl | hl
      · exact (h line hm).newline_notMem hl
      · exact absurd hl (by decide)
    rw [splitLines_joinLines hn fun line hm => (h line hm).newline_notMem,
      splitLines_joinLines (by simpa using hn) ends]
    exact .map_returned h

namespace SameLines

variable {lines lines' : List Text}

/-- The same lines down to one with a property that does not depend on how it ends. -/
theorem takeWhile {p : Text → Bool} (hp : ∀ {line}, IsLine line → p (returned line) = p line)
    (h : SameLines lines lines') : SameLines (lines.takeWhile p) (lines'.takeWhile p) := by
  induction h with
  | nil => exact .nil
  | @last line h =>
    cases hl : p line with
    | true => simpa [hl] using SameLines.last h
    | false => simpa [hl] using SameLines.nil
  | @cons line lines lines' h _ ih =>
    cases hl : p line with
    | true => simpa [hp h, hl] using SameLines.cons h ih
    | false => simpa [hp h, hl] using SameLines.nil

theorem return_notMem_joinLines (h : SameLines lines lines') : '\r' ∉ joinLines lines := by
  induction h with
  | nil => exact List.not_mem_nil
  | last h =>
    rw [joinLines, List.intercalate_singleton]
    exact h.return_notMem
  | @cons line lines lines' h hl ih =>
    rcases eq_or_ne lines [] with rfl | hn
    · rw [joinLines, List.intercalate_singleton]
      exact h.return_notMem
    · rw [joinLines_cons _ hn, List.mem_append, List.mem_cons, not_or, not_or]
      exact ⟨h.return_notMem, by decide, ih⟩

/-- The same lines put together are the same text, but for the returns before its newlines and one
that may stand at its end. -/
theorem exists_joinLines_eq (h : SameLines lines lines') :
    ∃ gap, (∀ c ∈ gap, isSpace c = true) ∧
      joinLines lines' = withReturns (joinLines lines) ++ gap := by
  induction h with
  | nil => exact ⟨[], by simp, rfl⟩
  | last h =>
    refine ⟨[], by simp, ?_⟩
    rw [joinLines, List.intercalate_singleton, withReturns_eq_self h.newline_notMem,
      List.append_nil]
  | @cons line lines lines' h hl ih =>
    have plain : withReturns line = line := withReturns_eq_self h.newline_notMem
    obtain ⟨gap, hg, whole⟩ := ih
    rcases eq_or_ne lines [] with rfl | hn
    · cases hl
      refine ⟨['\r'], List.forall_mem_singleton.mpr rfl, ?_⟩
      rw [joinLines, List.intercalate_singleton, joinLines, List.intercalate_singleton, plain]
      rfl
    · have hn' : lines' ≠ [] := by
        rintro rfl
        cases hl
        exact hn rfl
      refine ⟨gap, hg, ?_⟩
      rw [joinLines_cons _ hn', joinLines_cons _ hn, whole, withReturns_append, plain,
        withReturns_newline]
      simp [returned]

theorem trim_joinLines (h : SameLines lines lines') :
    trim (joinLines lines') = withReturns (trim (joinLines lines)) := by
  obtain ⟨gap, hg, whole⟩ := h.exists_joinLines_eq
  rw [whole, trim_append_right _ hg, trim_withReturns]

theorem withoutReturns_trim_joinLines (h : SameLines lines lines') :
    withoutReturns (trim (joinLines lines')) = trim (joinLines lines) := by
  rw [h.trim_joinLines]
  exact withoutReturns_withReturns fun hm => h.return_notMem_joinLines (trim_subset _ hm)

theorem isBlank_joinLines_eq (h : SameLines lines lines') :
    isBlank (joinLines lines') = isBlank (joinLines lines) := by
  rw [Bool.eq_iff_iff, ← trim_eq_nil_iff, ← trim_eq_nil_iff, h.trim_joinLines,
    withReturns_eq_nil_iff]

end SameLines

end ProviderDocs.Text
