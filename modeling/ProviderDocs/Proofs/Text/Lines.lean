import ProviderDocs.Proofs.Text.Trim
import ProviderDocs.Text.Line

/-!
# Lines put together and cut again

* `splitLines_joinLines`: lines without newlines that are put together are cut into the same lines.
* `splitOn_append_separator`: a text cut at a separator that stands between two texts is the first
  cut, followed by the second; `splitLines_append`: without a newline between them, the last line of
  the first and the first line of the second are one.
* `exists_mem_of_mem_splitLines_trim`: a line of a trimmed text stood in the text, perhaps with
  white space around it; `mem_splitLines_of_mem_splitLines_trim`: a blank one stood there as it is;
  `exists_splitLines_trim`: the first line with something on it stays apart from those below.
* `HoldsLines.joinLines`: a block of lines that stands in one text stands in every text that this
  one is put together with.
* `trimEndWhere_joinLines`: newlines at the end of a text of lines are its empty lines at the end.
-/

namespace ProviderDocs.Text

theorem splitLines_ne_nil (t : Text) : splitLines t ≠ [] :=
  splitOn_ne_nil _ t

theorem splitOn_eq_list_splitOn (separator : Char) (t : Text) :
    splitOn separator t = List.splitOn separator t := by
  induction t with
  | nil => simp [splitOn]
  | cons c rest ih =>
    rw [splitOn, List.splitOn_cons_eq_if_modifyHead, ih]
    simp only [beq_iff_eq]

/-- Cutting at a separator between two texts cuts each of them. -/
theorem splitOn_append_separator (separator : Char) (t u : Text) :
    splitOn separator (t ++ separator :: u) = splitOn separator t ++ splitOn separator u := by
  simp only [splitOn_eq_list_splitOn]
  exact List.splitOn_append_cons_self t u

/-- A text without the separator is one piece. -/
theorem splitOn_eq_singleton {separator : Char} {t : Text} (h : separator ∉ t) :
    splitOn separator t = [t] := by
  rw [splitOn_eq_list_splitOn]
  exact List.splitOn_eq_singleton h

/-- What is put behind a text without a separator in it goes to the last piece. -/
theorem exists_splitOn_append {separator : Char} {u : Text} (h : separator ∉ u) (t : Text) :
    ∃ last, splitOn separator (t ++ u) = (splitOn separator t).dropLast ++ [last ++ u] := by
  induction t with
  | nil => exact ⟨[], splitOn_eq_singleton h⟩
  | cons c rest ih =>
    obtain ⟨last, ih⟩ := ih
    obtain ⟨piece, pieces, hp⟩ := List.exists_cons_of_ne_nil (splitOn_ne_nil separator rest)
    rw [List.cons_append, splitOn, splitOn, ih, hp]
    -- The first character is cut at, or goes to the first piece, which may be the last one too.
    split
    · exact ⟨last, rfl⟩
    · cases pieces with
      | nil => exact ⟨c :: last, rfl⟩
      | cons next pieces => exact ⟨last, rfl⟩

/-- Lines put together are cut into the same lines. -/
theorem splitLines_joinLines {lines : List Text} (hn : lines ≠ [])
    (h : ∀ line ∈ lines, '\n' ∉ line) : splitLines (joinLines lines) = lines := by
  unfold splitLines joinLines
  rw [splitOn_eq_list_splitOn]
  exact List.splitOn_intercalate '\n' h hn

/-- A text that is put together from nothing is an empty line. -/
theorem forall_mem_splitLines_joinLines {P : Text → Prop} (nothing : P []) {lines : List Text}
    (h : ∀ line ∈ lines, P line ∧ '\n' ∉ line) : ∀ line ∈ splitLines (joinLines lines), P line := by
  rcases eq_or_ne lines [] with rfl | hn
  · exact List.forall_mem_singleton.mpr nothing
  · rw [splitLines_joinLines hn fun line hl => (h line hl).2]
    exact fun line hl => (h line hl).1

/-- Lines that each end in a newline are cut into the same lines, and nothing after them. -/
theorem splitLines_flatMap_newline {lines : List Text} (h : ∀ line ∈ lines, '\n' ∉ line) :
    splitLines (lines.flatMap (· ++ ['\n'])) = lines ++ [[]] := by
  induction lines with
  | nil => rfl
  | cons line rest ih =>
    have ih := ih fun other ho => h other (List.mem_cons_of_mem _ ho)
    rw [splitLines] at ih
    rw [List.flatMap_cons, List.append_assoc, List.singleton_append, splitLines,
      splitOn_append_separator, splitOn_eq_singleton (h line List.mem_cons_self), ih]
    rfl

theorem joinParagraphs_append_cons (t u : Text) (rest : List Text) :
    joinParagraphs ((t ++ u) :: rest) = t ++ joinParagraphs (u :: rest) := by
  cases rest <;> simp [joinParagraphs]

/-- The lines of paragraphs are those of each paragraph, with empty lines between them. -/
theorem splitLines_joinParagraphs (t : Text) (rest : List Text) :
    splitLines (joinParagraphs (t :: rest)) =
      splitLines t ++ rest.flatMap fun u => [] :: splitLines u := by
  unfold joinParagraphs splitLines
  induction rest generalizing t with
  | nil => simp
  | cons next rest ih =>
    rw [List.intercalate_cons_cons, List.flatMap_cons]
    rw [show t ++ ['\n', '\n'] ++ ['\n', '\n'].intercalate (next :: rest) =
      t ++ '\n' :: ([] ++ '\n' :: ['\n', '\n'].intercalate (next :: rest)) by simp]
    rw [splitOn_append_separator, splitOn_append_separator, ih]
    rfl

theorem filter_splitLines_joinParagraphs {p : Text → Bool} (hp : p [] = false)
    (paragraphs : List Text) :
    (splitLines (joinParagraphs paragraphs)).filter p =
      paragraphs.flatMap fun t => (splitLines t).filter p := by
  cases paragraphs with
  | nil => simp [joinParagraphs, splitLines, splitOn, hp]
  | cons t rest =>
    rw [splitLines_joinParagraphs, List.filter_append, List.filter_flatMap, List.flatMap_cons]
    simp [hp]

/-- What is put together begins with the first text. -/
theorem exists_intercalate_cons (separator first : Text) (rest : List Text) :
    ∃ after, separator.intercalate (first :: rest) = first ++ after := by
  cases rest with
  | nil => exact ⟨[], by simp⟩
  | cons second rest => exact ⟨_, by rw [List.intercalate_cons_cons, List.append_assoc]⟩

theorem joinLines_cons (line : Text) {rest : List Text} (hn : rest ≠ []) :
    joinLines (line :: rest) = line ++ '\n' :: joinLines rest := by
  rw [joinLines, List.intercalate_cons_of_ne_nil hn, List.append_assoc]
  rfl

theorem joinLines_append {first second : List Text} (hf : first ≠ []) (hs : second ≠ []) :
    joinLines (first ++ second) = joinLines first ++ '\n' :: joinLines second := by
  unfold joinLines
  induction first with
  | nil => exact absurd rfl hf
  | cons line rest ih =>
    rw [List.cons_append, List.intercalate_cons_of_ne_nil (List.append_ne_nil_of_right_ne_nil _ hs)]
    cases rest with
    | nil => simp
    | cons next rest => rw [ih (List.cons_ne_nil _ _), List.intercalate_cons_cons]; simp

theorem joinLines_append_singleton {lines : List Text} (hn : lines ≠ []) (line : Text) :
    joinLines (lines ++ [line]) = joinLines lines ++ '\n' :: line := by
  rw [joinLines_append hn (List.cons_ne_nil _ _)]
  simp [joinLines]

theorem length_joinLines_lt (before : List Text) {line : Text} (hn : line ≠ [])
    (after : List Text) :
    (joinLines before).length < (joinLines (before ++ line :: after)).length := by
  have pos : 0 < (joinLines (line :: after)).length := by
    obtain ⟨rest, hr⟩ := exists_intercalate_cons ['\n'] line after
    rw [joinLines, hr, List.length_append]
    exact Nat.add_pos_left (List.length_pos_iff.mpr hn) _
  rcases eq_or_ne before [] with rfl | hb
  · exact pos
  · rw [joinLines_append hb (List.cons_ne_nil _ _), List.length_append, List.length_cons]
    omega

/-- Lines that were put together are lines of what they are put together with. -/
theorem joinLines_append_joinLines_cons (before : List Text) {lines : List Text} (hn : lines ≠ [])
    (after : List Text) :
    joinLines (before ++ joinLines lines :: after) = joinLines (before ++ (lines ++ after)) := by
  have first : joinLines (joinLines lines :: after) = joinLines (lines ++ after) := by
    rcases eq_or_ne after [] with rfl | ha
    · simp [joinLines]
    · rw [joinLines_append hn ha, joinLines, List.intercalate_cons_of_ne_nil ha]
      simp [joinLines]
  rcases eq_or_ne before [] with rfl | hb
  · exact first
  · rw [joinLines_append hb (List.cons_ne_nil _ _), first,
      joinLines_append hb (List.append_ne_nil_of_left_ne_nil hn _)]

/-- Blocks of lines that were put together are the blocks one after the other. -/
theorem joinLines_append_map_joinLines (before : List Text) {blocks : List (List Text)}
    (hn : ∀ block ∈ blocks, block ≠ []) :
    joinLines (before ++ blocks.map joinLines) = joinLines (before ++ blocks.flatten) := by
  induction blocks generalizing before with
  | nil => rfl
  | cons block rest ih =>
    obtain ⟨first, later⟩ := List.forall_mem_cons.mp hn
    rw [List.map_cons, joinLines_append_joinLines_cons before first, ← List.append_assoc,
      ih (before ++ block) later, List.flatten_cons, List.append_assoc]

/-! ### Parts of texts -/

/-- The last line of one text and the first line of the next one become one line. -/
theorem splitLines_append {t u : Text} {before after : List Text} {last first : Text}
    (ht : splitLines t = before ++ [last]) (hu : splitLines u = first :: after) :
    splitLines (t ++ u) = before ++ (last ++ first) :: after := by
  have join : t ++ u = joinLines (before ++ (last ++ first) :: after) := by
    have rest : last ++ u = joinLines ((last ++ first) :: after) := by
      rw [← joinLines_splitLines u, hu]
      cases after with
      | nil => simp [joinLines]
      | cons next after => simp [joinLines, List.intercalate_cons_cons]
    rw [← joinLines_splitLines t, ht]
    rcases eq_or_ne before [] with rfl | hb
    · simpa [joinLines] using rest
    · rw [joinLines_append_singleton hb, joinLines_append hb (List.cons_ne_nil _ _), ← rest]
      simp
  rw [join]
  apply splitLines_joinLines (by simp)
  intro line hl
  have piece : ∀ line ∈ splitLines t ++ splitLines u, '\n' ∉ line :=
    List.forall_mem_append.mpr ⟨fun _ => notMem_of_mem_splitOn, fun _ => notMem_of_mem_splitOn⟩
  rw [ht, hu] at piece
  grind

theorem subset_of_mem_splitOn {separator : Char} {t piece : Text}
    (h : piece ∈ splitOn separator t) : piece ⊆ t := by
  induction t generalizing piece with
  | nil =>
    rw [List.mem_singleton.mp h]
    exact List.nil_subset _
  | cons c rest ih =>
    obtain ⟨first, pieces, hf⟩ := List.exists_cons_of_ne_nil (splitOn_ne_nil separator rest)
    rw [splitOn, hf] at h
    rw [hf] at ih
    split_ifs at h
    · rcases List.mem_cons.mp h with rfl | h
      · exact List.nil_subset _
      · exact List.subset_cons_of_subset _ (ih h)
    · rcases List.mem_cons.mp h with rfl | h
      · exact List.cons_subset_cons _ (ih List.mem_cons_self)
      · exact List.subset_cons_of_subset _ (ih (List.mem_cons_of_mem _ h))

/-- A line stays in its place when text is put behind it, which may only make it longer. -/
theorem exists_append_mem_splitLines {line t : Text} (h : line ∈ splitLines t) (u : Text) :
    ∃ after, after ⊆ u ∧ line ++ after ∈ splitLines (t ++ u) := by
  obtain ⟨before, last, ht⟩ :=
    (List.eq_nil_or_concat (splitLines t)).resolve_left (splitLines_ne_nil t)
  obtain ⟨first, after, hu⟩ := List.exists_cons_of_ne_nil (splitLines_ne_nil u)
  rw [List.concat_eq_append] at ht
  rw [splitLines_append ht hu]
  rw [ht] at h
  rcases List.mem_append.mp h with h | h
  · exact ⟨[], List.nil_subset _, by simp [h]⟩
  · have within : first ⊆ u := subset_of_mem_splitOn (hu ▸ List.mem_cons_self)
    exact ⟨first, within, by simp [List.mem_singleton.mp h]⟩

/-- A line stays in its place when text is put in front of it, which may only make it longer. -/
theorem exists_mem_splitLines_append {line t : Text} (h : line ∈ splitLines t) (u : Text) :
    ∃ before, before ⊆ u ∧ before ++ line ∈ splitLines (u ++ t) := by
  obtain ⟨before, last, hu⟩ :=
    (List.eq_nil_or_concat (splitLines u)).resolve_left (splitLines_ne_nil u)
  obtain ⟨first, after, ht⟩ := List.exists_cons_of_ne_nil (splitLines_ne_nil t)
  rw [List.concat_eq_append] at hu
  rw [splitLines_append hu ht]
  rw [ht] at h
  rcases List.mem_cons.mp h with rfl | h
  · have within : last ⊆ u :=
      subset_of_mem_splitOn (show last ∈ splitLines u by rw [hu]; simp)
    exact ⟨last, within, by simp⟩
  · exact ⟨[], List.nil_subset _, by simp [h]⟩

theorem exists_mem_of_mem_splitLines_trim {line t : Text} (h : line ∈ splitLines (trim t)) :
    ∃ before after, (∀ c ∈ before, isSpace c = true) ∧ (∀ c ∈ after, isSpace c = true) ∧
      before ++ (line ++ after) ∈ splitLines t := by
  obtain ⟨u, v, hu, hv, ht⟩ := exists_trim_append t
  obtain ⟨after, ha, hm⟩ := exists_append_mem_splitLines h v
  obtain ⟨before, hb, hm⟩ := exists_mem_splitLines_append hm u
  rw [ht] at hm
  exact ⟨before, after, fun c hc => hu c (hb hc), fun c hc => hv c (ha hc), hm⟩

/-- The first line of a trimmed text begins with what the text begins with. -/
theorem Trimmed.exists_splitLines_eq {t : Text} (h : Trimmed t) (hn : t ≠ []) :
    ∃ c start below, splitLines t = (c :: start) :: below ∧ isSpace c = false := by
  obtain ⟨c, rest, rfl⟩ := List.exists_cons_of_ne_nil hn
  obtain ⟨start, below, lines⟩ := List.exists_cons_of_ne_nil (splitLines_ne_nil rest)
  have ink : isSpace c = false := h.head c rfl
  have noBreak : c ≠ '\n' := by
    rintro rfl
    exact absurd ink (by decide)
  refine ⟨c, start, below, ?_, ink⟩
  unfold splitLines at lines ⊢
  rw [splitOn, if_neg noBreak, lines, List.modifyHead_cons]

/-- A blank line of a trimmed text stands between two others, so that it was not trimmed. -/
theorem mem_splitLines_of_mem_splitLines_trim {line t : Text} (hn : trim t ≠ [])
    (hl : line ∈ splitLines (trim t)) (hb : isBlank line = true) : line ∈ splitLines t := by
  have spaces : ∀ c ∈ line, isSpace c = true := List.all_eq_true.mp hb
  have trimmed := trimmed_trim t
  obtain ⟨above, below, lines⟩ := List.append_of_mem hl
  have whole : trim t = joinLines (above ++ line :: below) := by rw [← lines, joinLines_splitLines]
  have notFirst : above ≠ [] := by
    rintro rfl
    obtain ⟨c, start, others, first, ink⟩ := trimmed.exists_splitLines_eq hn
    rw [lines] at first
    obtain ⟨rfl, -⟩ := List.cons.inj first
    rw [spaces c List.mem_cons_self] at ink
    exact absurd ink (by decide)
  have notLast : below ≠ [] := by
    rintro rfl
    rw [whole, joinLines_append_singleton notFirst] at trimmed
    have none := trimmed.eq_nil_of_append (List.forall_mem_cons.mpr ⟨rfl, spaces⟩)
    exact List.cons_ne_nil _ _ none
  obtain ⟨before, after, -, -, parts⟩ := exists_trim_append t
  have cut : t =
      (before ++ joinLines above) ++ '\n' :: (line ++ '\n' :: (joinLines below ++ after)) := by
    rw [← parts, whole, joinLines_append notFirst (List.cons_ne_nil _ _),
      joinLines_cons line notLast]
    simp
  rw [cut, splitLines, splitOn_append_separator, splitOn_append_separator,
    splitOn_eq_singleton (notMem_of_mem_splitOn hl)]
  simp

/-! ### Lines trimmed together -/

/-- Blank lines at the start are trimmed away. -/
theorem trim_joinLines_append {gap : List Text} (hg : ∀ line ∈ gap, isBlank line = true)
    (lines : List Text) :
    trim (joinLines (gap ++ lines)) = trim (joinLines lines) := by
  induction gap with
  | nil => rfl
  | cons line rest ih =>
    obtain ⟨first, later⟩ := List.forall_mem_cons.mp hg
    rw [← ih later]
    rcases eq_or_ne (rest ++ lines) [] with hn | hn
    · rw [List.cons_append, hn]
      calc trim (joinLines [line])
          = trim line := by rw [joinLines, List.intercalate_singleton]
        _ = [] := (trim_eq_nil_iff line).mpr first
    · have spaces : ∀ c ∈ line ++ ['\n'], isSpace c = true :=
        List.forall_mem_append.mpr ⟨List.all_eq_true.mp first, List.forall_mem_singleton.mpr rfl⟩
      calc trim (joinLines ([line] ++ (rest ++ lines)))
          = trim ((line ++ ['\n']) ++ joinLines (rest ++ lines)) := by
            rw [joinLines_append (List.cons_ne_nil _ _) hn]
            simp [joinLines]
        _ = trim (joinLines (rest ++ lines)) := trim_append_left _ spaces

theorem isBlank_joinLines {gap : List Text} (hg : ∀ line ∈ gap, isBlank line = true) :
    isBlank (joinLines gap) = true := by
  have trimmed := trim_joinLines_append hg []
  rw [List.append_nil] at trimmed
  exact (trim_eq_nil_iff _).mp trimmed

/-- When lines are trimmed together, the first one stays apart from those below. -/
theorem exists_splitLines_trim {first : Text} (hf : isBlank first = false)
    (hn : '\n' ∉ first) (rest : List Text) :
    ∃ title body, splitLines (trim (joinLines (first :: rest))) = title :: body ∧
      trim title = trim first ∧
      trim (joinLines body) = trim (joinLines rest) := by
  have something : trim first ≠ [] := by simpa [trim_eq_nil_iff] using hf
  have trimmed : trim (trim first) = trim first :=
    trim_eq_self_iff.mpr (trimmed_trim first)
  have oneLine : '\n' ∉ trim first := fun hm => hn (trim_subset first hm)
  rcases eq_or_ne rest [] with rfl | hr
  · refine ⟨trim first, [], ?_, trimmed, rfl⟩
    rw [joinLines, List.intercalate_singleton]
    exact splitOn_eq_singleton oneLine
  have lines : joinLines (first :: rest) = first ++ '\n' :: joinLines rest :=
    joinLines_cons first hr
  rw [lines]
  by_cases hb : trim (joinLines rest) = []
  · -- Nothing but the first line is left.
    have spaces : ∀ c ∈ '\n' :: joinLines rest, isSpace c = true :=
      List.forall_mem_cons.mpr ⟨rfl, List.all_eq_true.mp ((trim_eq_nil_iff _).mp hb)⟩
    refine ⟨trim first, [], ?_, trimmed, hb.symm⟩
    rw [trim_append_right _ spaces]
    exact splitOn_eq_singleton oneLine
  · obtain ⟨gap, gap', within, hg, hg', whole⟩ := exists_trim_append_cons something hb '\n'
    have noBreak : '\n' ∉ trim first ++ gap := by
      rw [List.mem_append, not_or]
      exact ⟨oneLine, fun hm => hn (within hm)⟩
    refine ⟨trim first ++ gap, splitLines (gap' ++ trim (joinLines rest)),
      ?_, ?_, ?_⟩
    · rw [whole, splitLines, splitOn_append_separator,
        splitOn_eq_singleton noBreak]
      rfl
    · rw [trim_append_right _ hg, trimmed]
    · rw [joinLines_splitLines]
      exact trim_append_of_trimmed hg' (trimmed_trim _)

theorem trimmed_joinParagraphs {paragraphs : List Text} (hn : paragraphs ≠ [])
    (h : ∀ t ∈ paragraphs, Trimmed t ∧ t ≠ []) :
    Trimmed (joinParagraphs paragraphs) ∧ joinParagraphs paragraphs ≠ [] := by
  unfold joinParagraphs
  induction paragraphs with
  | nil => exact absurd rfl hn
  | cons t rest ih =>
    obtain ⟨⟨trimmed, something⟩, later⟩ := List.forall_mem_cons.mp h
    rcases eq_or_ne rest [] with rfl | hr
    · rw [List.intercalate_singleton]
      exact ⟨trimmed, something⟩
    · obtain ⟨below, something'⟩ := ih hr later
      rw [List.intercalate_cons_of_ne_nil hr]
      exact ⟨trimmed.append below something something' _, by simp [something]⟩

/-! ### Blocks of lines -/

/-- A block of lines stands in a text, with lines before and after it. -/
def HoldsLines (t block : Text) : Prop :=
  ∃ before after, t = joinLines (before ++ block :: after)

/-- What stands in one of the lines stands in all of them together. -/
theorem HoldsLines.joinLines {t block : Text} (h : HoldsLines t block) {lines : List Text}
    (ht : t ∈ lines) : HoldsLines (joinLines lines) block := by
  obtain ⟨before, after, rfl⟩ := h
  obtain ⟨first, second, rfl⟩ := List.append_of_mem ht
  refine ⟨first ++ before, after ++ second, ?_⟩
  rw [joinLines_append_joinLines_cons _ (by simp)]
  simp

/-- No newline stands before a first line that has something on it. -/
theorem dropWhile_joinLines_cons {first : Text} {rest : List Text} (hn : first ≠ [])
    (h : '\n' ∉ first) :
    (joinLines (first :: rest)).dropWhile (· == '\n') = joinLines (first :: rest) := by
  obtain ⟨c, tail, rfl⟩ := List.exists_cons_of_ne_nil hn
  have hc : c ≠ '\n' := fun e => h (e ▸ List.mem_cons_self)
  cases rest with
  | nil => simp [joinLines, hc]
  | cons second rest => simp [joinLines, List.intercalate_cons_cons, hc]

/-- Newlines at the end of a text of lines are empty lines at its end. -/
theorem trimEndWhere_joinLines {lines : List Text} (h : ∀ line ∈ lines, '\n' ∉ line) :
    trimEndWhere (· == '\n') (joinLines lines) = joinLines (lines.rdropWhile List.isEmpty) := by
  induction lines using List.reverseRecOn with
  | nil => rfl
  | append_singleton lines line ih =>
    have ih := ih fun other ho => h other (by simp [ho])
    have hline : '\n' ∉ line := h line (by simp)
    by_cases hl : line = []
    · -- An empty last line is a newline at the end, if there are lines before it.
      rw [List.rdropWhile_concat_pos _ _ _ (by simp [hl]), ← ih]
      rcases eq_or_ne lines [] with rfl | hn
      · rw [hl]
        rfl
      · rw [joinLines_append_singleton hn, hl]
        exact trimEndWhere_append_of_all _ (by simp)
    · rw [List.rdropWhile_concat_neg _ _ _ (by simpa using hl)]
      have last : trimEndWhere (· == '\n') line = line := by
        rw [trimEndWhere_eq_self_iff]
        rintro c hc
        have : c ≠ '\n' := fun e => hline (e ▸ List.mem_of_mem_getLast? hc)
        simpa using this
      rcases eq_or_ne lines [] with rfl | hn
      · simpa [joinLines] using last
      · rw [joinLines_append_singleton hn]
        rw [show joinLines lines ++ '\n' :: line = (joinLines lines ++ ['\n']) ++ line by simp]
        exact trimEndWhere_append_of_ne_nil _ hl last

end ProviderDocs.Text
