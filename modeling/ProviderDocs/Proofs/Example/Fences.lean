import ProviderDocs.Example
import ProviderDocs.Proofs.Snippet.Idempotence
import ProviderDocs.Proofs.Text.LineContent

/-!
# Lines that fence code off

A fence is told from other lines by the spaces and tabs before it, and white space of other kinds
hides it.  Trimming takes all white space away, and formatting does too, so that either may lay a
fence bare that was none before.  In a line whose white space is spaces and tabs there is nothing to
lay bare (`IsPlain`): what is left of a line of prose opens a block only if the line did
(`opensFence_append`), and what is written for a line of code closes one only if the line did
(`closesFence_of_write`).
-/

namespace ProviderDocs

open Snippet

/-- The only white space on a line is spaces and tabs, a carriage return at its end apart. -/
def Text.IsPlain (line : Text) : Prop :=
  ∀ c ∈ dropReturn line, isSpace c = true → isSpaceOrTab c = true

instance (line : Text) : Decidable line.IsPlain :=
  decidable_of_iff ((Text.dropReturn line).all fun c => !isSpace c || isSpaceOrTab c) (by
    simp only [Text.IsPlain, List.all_eq_true, Bool.or_eq_true, Bool.not_eq_true',
      Bool.eq_false_iff, ← imp_iff_not_or])

theorem Text.isPlain_nil : IsPlain [] :=
  fun _ hc => absurd hc List.not_mem_nil

/-! ### Fences that open -/

theorem opensFence_iff {line : Text} :
    opensFence line = true ↔ ∃ gap rest, (∀ c ∈ gap, isSpaceOrTab c = true) ∧ '`' ∉ rest ∧
      line = gap ++ (fence ++ rest) := by
  constructor
  · intro h
    unfold opensFence at h
    cases hp : List.isPrefixOf? fence (line.dropWhile isSpaceOrTab) with
    | none =>
      rw [hp] at h
      exact absurd h Bool.false_ne_true
    | some rest =>
      rw [hp] at h
      refine ⟨line.takeWhile isSpaceOrTab, rest, fun c hc => List.mem_takeWhile_imp hc, ?_, ?_⟩
      · simpa using h
      · rw [List.append_eq_of_isPrefixOf?_eq_some hp]
        exact List.takeWhile_append_dropWhile.symm
  · rintro ⟨gap, rest, hg, hr, rfl⟩
    have fenced : (fence ++ rest).dropWhile isSpaceOrTab = fence ++ rest := by
      rw [Text.dropWhile_eq_self_iff]
      intro c hc
      obtain rfl : '`' = c := by simpa [fence] using hc
      decide
    unfold opensFence
    rw [List.dropWhile_append_of_pos hg, fenced, List.isPrefixOf?_eq_some_iff_append_eq.mpr rfl]
    simpa using hr

/-- White space around a line hides no opening fence, if it is plain. -/
theorem opensFence_append {before line after : Text} (hb : ∀ c ∈ before, isSpace c = true)
    (ha : ∀ c ∈ after, isSpace c = true) (plain : Text.IsPlain (before ++ (line ++ after)))
    (h : opensFence line = true) : opensFence (before ++ (line ++ after)) = true := by
  obtain ⟨gap, rest, hg, hr, rfl⟩ := opensFence_iff.mp h
  have spaces : ∀ c ∈ before, isSpaceOrTab c = true := by
    intro c hc
    apply plain c _ (hb c hc)
    rw [Text.dropReturn_append _ (by simp [fence])]
    exact List.mem_append_left _ hc
  refine opensFence_iff.mpr ⟨before ++ gap, rest ++ after, ?_, ?_, by simp⟩
  · exact List.forall_mem_append.mpr ⟨spaces, hg⟩
  · intro hm
    rcases List.mem_append.mp hm with hm | hm
    · exact hr hm
    · exact absurd (ha _ hm) (by decide)

/-! ### Fences that close -/

theorem closesFence_iff {line : Text} : closesFence line = true ↔ Text.lineContent line = fence :=
  beq_iff_eq

theorem closesFence_iff_saysOnly {line : Text} :
    closesFence line = true ↔ line.SaysOnly fence :=
  closesFence_iff.trans (Text.lineContent_eq_iff (Text.trim_eq_self_iff.mp (by decide)))

namespace Text.IsPlain

variable {line : Text} (h : IsPlain line)
include h

theorem return_notMem : '\r' ∉ dropReturn line :=
  fun hm => absurd (h '\r' hm rfl) (by decide)

theorem rawLine_eq : rawLine line = dropReturn line := by
  have kept : trimEndWhere (· == '\r') (dropReturn line) = dropReturn line := by
    rw [trimEndWhere_eq_self_iff]
    intro c hc
    rw [beq_eq_false_iff_ne]
    exact fun e => h.return_notMem (e ▸ List.mem_of_mem_getLast? hc)
  unfold rawLine
  by_cases hr : line.getLast? = some '\r'
  · have cut : dropReturn line ++ ['\r'] = line := by
      rw [dropReturn, if_pos hr]
      exact List.dropLast_append_getLast? '\r' hr
    conv_lhs => rw [← cut]
    rw [trimEndWhere_append_of_all _ (by simp), kept]
  · rwa [dropReturn, if_neg hr] at kept ⊢

/-- All white space around what is on a plain line is spaces and tabs. -/
theorem lineContent_eq : lineContent line = lineText line := by
  unfold lineContent lineText
  rw [h.rawLine_eq]
  refine trimWhere_congr fun c hc => ?_
  cases hs : isSpace c with
  | true => exact h c hc hs
  | false =>
    cases ht : isSpaceOrTab c with
    | true => exact absurd (isSpace_of_isSpaceOrTab ht) (by simp [hs])
    | false => rfl

theorem isPlain_rawLine : IsPlain (rawLine line) := by
  have last : (dropReturn line).getLast? ≠ some '\r' :=
    fun hl => h.return_notMem (List.mem_of_getLast? hl)
  rw [h.rawLine_eq, IsPlain, dropReturn, if_neg last]
  exact h

end Text.IsPlain

theorem lineContent_indentation_append {t : Text} (ht : Text.Trimmed t) (level : Nat) :
    Text.lineContent (indentation level ++ t) = t := by
  have spaces : ∀ c ∈ indentation level, isSpaceOrTab c = true := by
    intro c hc
    rw [List.eq_of_mem_replicate hc]
    rfl
  exact (Text.lineContent_eq_iff ht).mpr
    ⟨indentation level, [], [], spaces, by simp, .inl rfl, by simp⟩

/-- A line of code that is read as a fence would be is a fence. -/
theorem eq_fence_of_alike {t : Text} (h : Alike fence t) : t = fence := by
  have code : Line.ofCode 0 t = .code 0 fence := (h.line 0).symm.trans (by decide)
  unfold Line.ofCode at code
  cases hs : Attribute.ofLine? t with
  | none =>
    rw [hs] at code
    have spaced : spaceHeader t = fence := (Line.code.inj code).2
    rcases spaceHeader_cases t with he | ⟨head, gap, -, -, -, he⟩
    · exact he.symm.trans spaced
    · have brace := congrArg List.getLast? (he.symm.trans spaced)
      simp [fence] at brace
  | some attr =>
    rw [hs] at code
    simp only at code
    split_ifs at code
    -- An attribute is written with a sign.
    have written : attr.write 0 = fence := (Line.code.inj code).2
    exact absurd (written ▸ attr.sign_mem_write 0) (by decide)

/-- What is written for a plain line closes a block only if the line did. -/
theorem closesFence_of_write {state : State} {line : Text} {width : Nat} (plain : Text.IsPlain line)
    (h : closesFence ((state.readLine line).2.write width) = true) : closesFence line = true := by
  rw [closesFence_iff] at h ⊢
  rw [plain.lineContent_eq]
  have trimmed := trimmed_lineText line
  rcases state.readLine_cases line with ⟨marker, -, read⟩ | ⟨-, -, read⟩ | ⟨-, -, -, read⟩ |
    ⟨-, ht, -, read⟩ <;> rw [read] at h
  · have content : Text.lineContent (rawLine line) = lineText line := by
      rw [plain.isPlain_rawLine.lineContent_eq, lineText, rawLine_rawLine, lineText]
    exact content.symm.trans h
  · exact absurd (show Text.lineContent [] = fence from h) (by decide)
  · exact (lineContent_indentation_append trimmed _).symm.trans h
  · obtain ⟨u, hu, hut, -, alike⟩ := exists_write_ofCode trimmed ht
      (state.depth - leadingClosers (lineText line)) width
    rw [hu, lineContent_indentation_append hut] at h
    exact eq_fence_of_alike (h ▸ alike)

end ProviderDocs
