import Mathlib.Data.List.DropRight
import Mathlib.Tactic.SplitIfs
import ProviderDocs.Text.Basic

/-!
# Trimming

A text is trimmed when no white space stands at either end of it (`Text.Trimmed`), which is when
trimming leaves it alone (`trim_eq_self_iff`).  Trimming gives such a text (`trimmed_trim`) and
takes nothing but white space away (`exists_trim_append`), all of it at the ends
(`trim_append_left`, `trim_append_right`) and none between two texts (`exists_trim_append_cons`).
-/

namespace ProviderDocs.Text

/-! ### One end -/

theorem trimEndWhere_eq_rdropWhile (p : Char → Bool) (t : Text) :
    trimEndWhere p t = t.rdropWhile p :=
  rfl

/-- What is left after trimming stood in the text, from its start on. -/
theorem trimEndWhere_isPrefix (p : Char → Bool) (t : Text) : trimEndWhere p t <+: t :=
  List.rdropWhile_prefix p t

/-- What is trimmed away are characters of `p`. -/
theorem exists_trimEndWhere_append (p : Char → Bool) (t : Text) :
    ∃ gap : Text, (∀ c ∈ gap, p c = true) ∧ trimEndWhere p t ++ gap = t := by
  refine ⟨t.rtakeWhile p, fun c hc => List.mem_rtakeWhile_imp hc, ?_⟩
  exact List.rdropWhile_append_rtakeWhile

theorem trimEndWhere_eq_self_iff {p : Char → Bool} {t : Text} :
    trimEndWhere p t = t ↔ ∀ c ∈ t.getLast?, p c = false := by
  rw [trimEndWhere_eq_rdropWhile, List.rdropWhile_eq_self_iff]
  rcases List.eq_nil_or_concat t with rfl | ⟨start, c, rfl⟩
  · simp
  · simp

/-- A text that ends outside `p` is trimmed no further than that end. -/
theorem trimEndWhere_append_of_ne_nil {p : Char → Bool} {t : Text} (start : Text) (hn : t ≠ [])
    (h : trimEndWhere p t = t) : trimEndWhere p (start ++ t) = start ++ t := by
  rw [trimEndWhere_eq_self_iff] at h ⊢
  rwa [List.getLast?_append_of_ne_nil _ hn]

/-- Characters of `p` at the end of a text are trimmed away with those before them. -/
theorem trimEndWhere_append_of_all {p : Char → Bool} {gap : Text} (t : Text)
    (h : ∀ c ∈ gap, p c = true) : trimEndWhere p (t ++ gap) = trimEndWhere p t := by
  unfold trimEndWhere
  rw [List.reverse_append, List.dropWhile_append_of_pos fun c hc => h c (List.mem_reverse.mp hc)]

theorem dropWhile_congr {p q : Char → Bool} {t : Text} (h : ∀ c ∈ t, p c = q c) :
    t.dropWhile p = t.dropWhile q := by
  induction t with
  | nil => rfl
  | cons c rest ih =>
    obtain ⟨first, later⟩ := List.forall_mem_cons.mp h
    rw [List.dropWhile_cons, List.dropWhile_cons, first, ih later]

/-- A character outside `p` is not dropped. -/
theorem mem_dropWhile_of_mem {p : Char → Bool} {c : Char} {t : Text} (hp : p c = false)
    (hm : c ∈ t) : c ∈ t.dropWhile p := by
  induction t with
  | nil => exact hm
  | cons d t ih =>
    rw [List.dropWhile_cons]
    split
    · rename_i hd
      refine ih ((List.mem_cons.mp hm).resolve_left ?_)
      rintro rfl
      rw [hp] at hd
      exact absurd hd (by decide)
    · exact hm

theorem mem_trimEndWhere_of_mem {p : Char → Bool} {c : Char} {t : Text} (hp : p c = false)
    (hm : c ∈ t) : c ∈ trimEndWhere p t :=
  List.mem_reverse.mpr (mem_dropWhile_of_mem hp (List.mem_reverse.mpr hm))

/-! ### Both ends -/

/-- No white space stands at either end of a text. -/
structure Trimmed (t : Text) : Prop where
  head : ∀ c ∈ t.head?, isSpace c = false
  last : ∀ c ∈ t.getLast?, isSpace c = false

theorem dropWhile_eq_self_iff {p : Char → Bool} {t : Text} :
    t.dropWhile p = t ↔ ∀ c ∈ t.head?, p c = false := by
  rw [List.dropWhile_eq_self_iff]
  cases t with
  | nil => simp
  | cons c rest => simp

theorem trim_eq_self_iff {t : Text} : trim t = t ↔ Trimmed t := by
  unfold trim trimWhere
  constructor
  · intro h
    -- Neither step can lengthen the text, so that neither changed it.
    have hd : t.dropWhile isSpace = t := by
      apply (List.dropWhile_suffix isSpace).eq_of_length
      apply Nat.le_antisymm (List.dropWhile_suffix isSpace).length_le
      calc t.length = (trimEndWhere isSpace (t.dropWhile isSpace)).length := by rw [h]
        _ ≤ (t.dropWhile isSpace).length := (trimEndWhere_isPrefix _ _).length_le
    rw [hd] at h
    exact ⟨dropWhile_eq_self_iff.mp hd, trimEndWhere_eq_self_iff.mp h⟩
  · rintro ⟨head, last⟩
    rw [dropWhile_eq_self_iff.mpr head, trimEndWhere_eq_self_iff.mpr last]

theorem trimmed_trim (t : Text) : Trimmed (trim t) := by
  have last : trimEndWhere isSpace (trim t) = trim t := trimEndWhere_trimEndWhere _ _
  refine ⟨fun c hc => ?_, trimEndWhere_eq_self_iff.mp last⟩
  have head : ∀ c ∈ (t.dropWhile isSpace).head?, isSpace c = false :=
    dropWhile_eq_self_iff.mp (List.dropWhile_idempotent isSpace t)
  -- What is left begins as the text without the white space before it does.
  obtain ⟨rest, hr⟩ : trim t <+: t.dropWhile isSpace := trimEndWhere_isPrefix _ _
  apply head
  rw [← hr, List.head?_append, Option.mem_def.mp hc]
  rfl

theorem trim_subset (t : Text) : trim t ⊆ t :=
  fun _ hc => (List.dropWhile_subset _) ((trimEndWhere_isPrefix _ _).subset hc)

/-- What is trimmed away at both ends are characters of `p`. -/
theorem exists_trimWhere_append (p : Char → Bool) (t : Text) :
    ∃ before after, (∀ c ∈ before, p c = true) ∧ (∀ c ∈ after, p c = true) ∧
      before ++ (trimWhere p t ++ after) = t := by
  obtain ⟨after, ha, rest⟩ := exists_trimEndWhere_append p (t.dropWhile p)
  refine ⟨t.takeWhile p, after, fun c hc => List.mem_takeWhile_imp hc, ha, ?_⟩
  rw [trimWhere, rest]
  exact List.takeWhile_append_dropWhile

/-- What trimming takes away is white space. -/
theorem exists_trim_append (t : Text) :
    ∃ before after, (∀ c ∈ before, isSpace c = true) ∧ (∀ c ∈ after, isSpace c = true) ∧
      before ++ (trim t ++ after) = t :=
  exists_trimWhere_append isSpace t

theorem length_trim_le (t : Text) : (trim t).length ≤ t.length := by
  obtain ⟨before, after, -, -, he⟩ := exists_trim_append t
  have length := congrArg List.length he
  rw [List.length_append, List.length_append] at length
  omega

theorem trimWhere_append_left {p : Char → Bool} {gap : Text} (t : Text)
    (hg : ∀ c ∈ gap, p c = true) : trimWhere p (gap ++ t) = trimWhere p t := by
  rw [trimWhere, List.dropWhile_append_of_pos hg]
  rfl

theorem trimWhere_append_right {p : Char → Bool} {gap : Text} (t : Text)
    (hg : ∀ c ∈ gap, p c = true) : trimWhere p (t ++ gap) = trimWhere p t := by
  have all : gap.dropWhile p = [] := List.dropWhile_eq_nil_iff.mpr hg
  unfold trimWhere
  rw [List.dropWhile_append]
  split_ifs with h
  · rw [all, List.isEmpty_iff.mp h]
  · exact trimEndWhere_append_of_all _ hg

theorem trim_append_left {gap : Text} (t : Text) (hg : ∀ c ∈ gap, isSpace c = true) :
    trim (gap ++ t) = trim t :=
  trimWhere_append_left t hg

theorem trim_append_right {gap : Text} (t : Text) (hg : ∀ c ∈ gap, isSpace c = true) :
    trim (t ++ gap) = trim t :=
  trimWhere_append_right t hg

/-- White space before a trimmed text is all that trimming takes away. -/
theorem trim_append_of_trimmed {gap t : Text} (hg : ∀ c ∈ gap, isSpace c = true)
    (ht : Trimmed t) : trim (gap ++ t) = t :=
  (trim_append_left t hg).trans (trim_eq_self_iff.mpr ht)

/-- No white space stands at the end of a trimmed text. -/
theorem Trimmed.eq_nil_of_append {t gap : Text} (h : Trimmed (t ++ gap))
    (hg : ∀ c ∈ gap, isSpace c = true) : gap = [] := by
  rcases List.eq_nil_or_concat gap with rfl | ⟨start, c, rfl⟩
  · rfl
  · have ink : isSpace c = false := h.last c (by simp)
    rw [hg c (by simp)] at ink
    exact absurd ink (by decide)

theorem Trimmed.append {t u : Text} (ht : Trimmed t) (hu : Trimmed u) (htn : t ≠ [])
    (hun : u ≠ []) (between : Text) : Trimmed (t ++ between ++ u) where
  head := by
    rw [List.append_assoc, List.head?_append_of_ne_nil _ htn]
    exact ht.head
  last := by
    rw [List.getLast?_append_of_ne_nil _ hun]
    exact hu.last

/-- Trimming two texts at once leaves the white space between them. -/
theorem exists_trim_append_cons {t u : Text} (ht : trim t ≠ []) (hu : trim u ≠ [])
    (c : Char) :
    ∃ gap gap', gap ⊆ t ∧ (∀ c ∈ gap, isSpace c = true) ∧ (∀ c ∈ gap', isSpace c = true) ∧
      trim (t ++ c :: u) = (trim t ++ gap) ++ c :: (gap' ++ trim u) := by
  obtain ⟨before, gap, hb, hg, he⟩ := exists_trim_append t
  obtain ⟨gap', after, hg', ha, he'⟩ := exists_trim_append u
  have within : gap ⊆ t := by
    rw [← he]
    simp
  have whole : t ++ c :: u =
      before ++ ((trim t ++ (gap ++ c :: gap') ++ trim u) ++ after) := by
    conv_lhs => rw [← he, ← he']
    simp
  have trimmed : Trimmed (trim t ++ (gap ++ c :: gap') ++ trim u) :=
    (trimmed_trim t).append (trimmed_trim u) ht hu _
  refine ⟨gap, gap', within, hg, hg', ?_⟩
  rw [whole, trim_append_left _ hb, trim_append_right _ ha,
    trim_eq_self_iff.mpr trimmed]
  simp

/-- There is nothing to trim from a trimmed text for any kind of white space. -/
theorem Trimmed.trimWhere_eq {p : Char → Bool} (hp : ∀ c, p c = true → isSpace c = true) {t : Text}
    (h : Trimmed t) : trimWhere p t = t := by
  have outside {c : Char} (hc : isSpace c = false) : p c = false := by
    rw [← Bool.not_eq_true] at hc ⊢
    exact mt (hp c) hc
  rw [trimWhere, dropWhile_eq_self_iff.mpr fun c hc => outside (h.head c hc),
    trimEndWhere_eq_self_iff.mpr fun c hc => outside (h.last c hc)]

/-- Two kinds of characters that a text does not tell apart are trimmed alike. -/
theorem trimWhere_congr {p q : Char → Bool} {t : Text} (h : ∀ c ∈ t, p c = q c) :
    trimWhere p t = trimWhere q t := by
  unfold trimWhere trimEndWhere
  rw [dropWhile_congr h, dropWhile_congr (q := q)]
  intro c hc
  exact h c (List.dropWhile_subset _ (List.mem_reverse.mp hc))

end ProviderDocs.Text
