import ProviderDocs.Proofs.Snippet.Content

/-!
# Lines of a snippet and what stands for them

The lines of a snippet are read one after the other, each in the state that those above leave behind
(`stateAfter`, `readLines_append`).  A line with something on it is kept among the lines that are
laid out, and what stands above and below it is settled apart from it
(`settledLines_eq_append_cons`), while newlines around a snippet are dropped (`format_newlines`).
So every line that is not blank has one that stands for it in the formatted snippet, and no other
(`StandsFor.unique`); that one is written for it as it was read (`exists_standsFor`), and there are
no other lines with something on them (`exists_line_of_format`).
-/

namespace ProviderDocs.Snippet

open Text (ink inksOf)

/-! ### Reading lines in turn -/

/-- What some lines decide about the lines below. -/
def stateAfter (state : State) (texts : List Text) : State :=
  texts.foldl (fun state text => (state.readLine text).1) state

theorem stateAfter_append (state : State) (before after : List Text) :
    stateAfter state (before ++ after) = stateAfter (stateAfter state before) after :=
  List.foldl_append

theorem readLines_append (state : State) (before after : List Text) :
    readLines state (before ++ after) =
      readLines state before ++ readLines (stateAfter state before) after := by
  induction before generalizing state with
  | nil => rfl
  | cons text rest ih =>
    rw [List.cons_append, readLines, readLines, ih, List.cons_append]
    rfl

/-- Each of some lines of a formatted snippet is what is written for it as it is read. -/
theorem forall₂_writtenFor_of_format {snippet : Text} {above run below : List Text}
    (h : Text.splitLines (format snippet) = above ++ (run ++ below)) :
    List.Forall₂ WrittenFor run (readLines (stateAfter {} above) run) := by
  have written := forall₂_layout (readLines {} (Text.splitLines (format snippet)))
  rw [layout_readLines_format, h, readLines_append, readLines_append] at written
  have further := List.forall₂_drop_append _ _ _ written
  rw [length_readLines, List.drop_left] at further
  have own := List.forall₂_take_append _ _ _ further
  rwa [length_readLines, List.take_left] at own

theorem writtenFor_of_format {snippet out : Text} {above below : List Text}
    (h : Text.splitLines (format snippet) = above ++ out :: below) :
    WrittenFor out ((stateAfter {} above).readLine out).2 :=
  (List.forall₂_cons.mp (@forall₂_writtenFor_of_format snippet above [out] below h)).1

/-! ### Settling lines in parts -/

theorem collapseBlanksAfter_append_cons {line : Line} (h : line ≠ .blank) (blankAbove : Bool)
    (before after : List Line) :
    collapseBlanksAfter blankAbove (before ++ line :: after) =
      collapseBlanksAfter blankAbove before ++ line :: collapseBlanksAfter false after := by
  induction before generalizing blankAbove with
  | nil =>
    cases line with
    | blank => exact absurd rfl h
    | verbatim | code | assign => rfl
  | cons first rest ih =>
    cases first with
    | blank =>
      rw [List.cons_append, collapseBlanksAfter, collapseBlanksAfter, ih]
      split_ifs <;> rfl
    | verbatim | code | assign =>
      simp only [List.cons_append, collapseBlanksAfter, ih]

theorem rdropWhile_append_cons {line : Line} (h : line.isEmpty = false) (before after : List Line) :
    (before ++ line :: after).rdropWhile Line.isEmpty =
      before ++ line :: after.rdropWhile Line.isEmpty := by
  induction after using List.reverseRecOn with
  | nil =>
    rw [List.rdropWhile_nil]
    exact List.rdropWhile_concat_neg _ _ _ (by simp [h])
  | append_singleton rest last ih =>
    have whole : before ++ line :: (rest ++ [last]) = (before ++ line :: rest) ++ [last] := by simp
    rw [whole]
    by_cases he : last.isEmpty = true
    · rw [List.rdropWhile_concat_pos _ _ _ he, List.rdropWhile_concat_pos _ _ _ he, ih]
    · rw [List.rdropWhile_concat_neg _ _ _ he, List.rdropWhile_concat_neg _ _ _ he, whole]

/-- The lines that are left of the part of a snippet above one that is not empty. -/
def settledAbove (texts : List Text) : List Line :=
  collapseBlanks (readLines {} texts)

/-- The lines that are left of the part of a snippet below one that is not empty. -/
def settledBelow (state : State) (texts : List Text) : List Line :=
  (collapseBlanksAfter false (readLines state texts)).rdropWhile Line.isEmpty

/-- A line that is not empty is left of a snippet, and what is left above and below it does not
depend on the other side. -/
theorem settledLines_eq_append_cons {snippet line : Text} {before after : List Text}
    (h : Text.splitLines snippet = before ++ line :: after)
    (full : ((stateAfter {} before).readLine line).2.isEmpty = false) :
    settledLines snippet = settledAbove before ++ ((stateAfter {} before).readLine line).2 ::
      settledBelow ((stateAfter {} before).readLine line).1 after := by
  have notBlank : ((stateAfter {} before).readLine line).2 ≠ .blank := by
    intro blank
    rw [blank] at full
    exact absurd full (by decide)
  have read : readLines {} (Text.splitLines snippet) =
      readLines {} before ++ ((stateAfter {} before).readLine line).2 ::
        readLines ((stateAfter {} before).readLine line).1 after := by
    rw [h, readLines_append, readLines]
  unfold settledLines collapseBlanks
  rw [read, collapseBlanksAfter_append_cons notBlank, rdropWhile_append_cons full]
  rfl

/-! ### Empty lines at both ends -/

theorem isEmpty_readLine_nil (state : State) : (state.readLine []).2.isEmpty = true := by
  cases h : state.heredoc with
  | none => rw [State.readLine_of_blank h (by decide)]; rfl
  | some marker => rw [State.readLine_of_heredoc h]; rfl

/-- An empty line at the end is dropped there, or follows another one. -/
theorem rdropWhile_collapseBlanksAfter_append {line : Line} (h : line.isEmpty = true)
    (blankAbove : Bool) (lines : List Line) :
    (collapseBlanksAfter blankAbove (lines ++ [line])).rdropWhile Line.isEmpty =
      (collapseBlanksAfter blankAbove lines).rdropWhile Line.isEmpty := by
  have cases : collapseBlanksAfter blankAbove (lines ++ [line]) =
        collapseBlanksAfter blankAbove lines ∨
      collapseBlanksAfter blankAbove (lines ++ [line]) =
        collapseBlanksAfter blankAbove lines ++ [line] := by
    induction lines generalizing blankAbove with
    | nil => cases line <;> cases blankAbove <;> simp [collapseBlanksAfter]
    | cons first rest ih =>
      cases first with
      | blank =>
        cases blankAbove with
        | true => exact ih true
        | false => exact (ih true).imp (congrArg (_ :: ·)) (congrArg (_ :: ·))
      | verbatim | code | assign =>
        exact (ih false).imp (congrArg (_ :: ·)) (congrArg (_ :: ·))
  rcases cases with he | he
  · rw [he]
  · rw [he, List.rdropWhile_concat_pos _ _ _ h]

/-- Newlines before the first line of a snippet and behind the last one are dropped. -/
theorem format_newlines (lines : List Text) (h : ∀ line ∈ lines, '\n' ∉ line) :
    format ('\n' :: lines.flatMap (· ++ ['\n'])) = format (Text.joinLines lines) := by
  have cut : Text.splitLines ('\n' :: lines.flatMap (· ++ ['\n'])) = [] :: (lines ++ [[]]) :=
    congrArg ([] :: ·) (Text.splitLines_flatMap_newline h)
  rcases eq_or_ne lines [] with rfl | hn
  · decide
  have settled : settledLines ('\n' :: lines.flatMap (· ++ ['\n'])) =
      settledLines (Text.joinLines lines) := by
    have read : readLines {} ([] :: (lines ++ [[]])) =
        .blank :: (readLines {} lines ++ [((stateAfter {} lines).readLine []).2]) :=
      congrArg (Line.blank :: ·) (readLines_append {} lines [[]])
    rw [settledLines, settledLines, cut, Text.splitLines_joinLines hn h, read]
    exact rdropWhile_collapseBlanksAfter_append (isEmpty_readLine_nil _) true _
  rw [format_eq_joinLines, settled, ← format_eq_joinLines]

/-! ### The line that stands for another one -/

/-- Of the lines of a formatted snippet one stands for a line of the snippet: it shows the same, and
so do the lines above it, and those below it. -/
def StandsFor (snippet : Text) (before : List Text) (line : Text) (after : List Text)
    (out : Text) : Prop :=
  ∃ above below, Text.splitLines (format snippet) = above ++ out :: below ∧
    inksOf above = inksOf before ∧ ink out = ink line ∧ inksOf below = inksOf after

theorem inksOf_eq_inks {texts : List Text} {lines : List Line}
    (h : texts.map ink = lines.map Line.ink) : inksOf texts = inks lines := by
  rw [inksOf, Text.map_ink_filter_not_isBlank, h, inks]

theorem inks_readLines (state : State) (texts : List Text) :
    inks (readLines state texts) = inksOf texts :=
  (inksOf_eq_inks (map_ink_readLines state texts).symm).symm

theorem inks_settledAbove (texts : List Text) : inks (settledAbove texts) = inksOf texts := by
  rw [settledAbove, collapseBlanks, inks_collapseBlanksAfter, inks_readLines]

theorem inks_settledBelow (state : State) (texts : List Text) :
    inks (settledBelow state texts) = inksOf texts := by
  rw [settledBelow, inks_rdropWhile_isEmpty, inks_collapseBlanksAfter, inks_readLines]

theorem exists_append_of_writtenFor {texts : List Text} {before after : List Line}
    (h : List.Forall₂ WrittenFor texts (before ++ after)) :
    ∃ above below, texts = above ++ below ∧ List.Forall₂ WrittenFor above before ∧
      List.Forall₂ WrittenFor below after :=
  ⟨_, _, (List.take_append_drop before.length texts).symm,
    List.forall₂_take_append texts before after h, List.forall₂_drop_append texts before after h⟩

theorem isEmpty_readLine (state : State) {line : Text} (h : Text.isBlank line = false) :
    (state.readLine line).2.isEmpty = false := by
  by_contra empty
  have nothing := Line.ink_eq_nil_of_isEmpty (Bool.not_eq_false _ ▸ empty)
  rw [ink_readLine, Text.ink_eq_nil_iff, h] at nothing
  exact absurd nothing (by decide)

/-- Items that pass a test stand at the same place of a list if as many such items stand before the
one as before the other. -/
theorem append_cons_inj_of_countP {α : Type} {p : α → Bool} {x y s t : List α} {a b : α}
    (h : x ++ a :: s = y ++ b :: t) (ha : p a = true) (hb : p b = true)
    (hc : x.countP p = y.countP p) : x = y ∧ a = b ∧ s = t := by
  rcases List.append_eq_append_iff.mp h with ⟨w, rfl, hw⟩ | ⟨w, rfl, hw⟩
  · cases w with
    | nil => simpa using hw
    | cons c w =>
      -- The first item would be counted before the second one.
      obtain ⟨rfl, -⟩ := List.cons.inj hw
      rw [List.countP_append, List.countP_cons_of_pos ha] at hc
      omega
  · cases w with
    | nil => simpa [eq_comm] using hw
    | cons c w =>
      obtain ⟨rfl, -⟩ := List.cons.inj hw
      rw [List.countP_append, List.countP_cons_of_pos hb] at hc
      omega

theorem countP_not_isBlank (lines : List Text) :
    lines.countP (fun line => !Text.isBlank line) = (inksOf lines).length := by
  rw [inksOf, List.length_map, List.countP_eq_length_filter]

/-- Of the lines of a formatted snippet not more than one stands for a line with something on it. -/
theorem StandsFor.unique {snippet line out out' : Text} {before after : List Text}
    (full : Text.isBlank line = false) (h : StandsFor snippet before line after out)
    (h' : StandsFor snippet before line after out') : out = out' := by
  obtain ⟨above, below, lines, habove, hout, -⟩ := h
  obtain ⟨above', below', lines', habove', hout', -⟩ := h'
  have shown {t : Text} (ht : ink t = ink line) : (!Text.isBlank t) = true := by
    rw [← Text.isEmpty_ink, ht, Text.isEmpty_ink, full]
    rfl
  have count : above.countP (fun line => !Text.isBlank line) =
      above'.countP fun line => !Text.isBlank line := by
    rw [countP_not_isBlank, countP_not_isBlank, habove, habove']
  exact (append_cons_inj_of_countP (lines.symm.trans lines') (shown hout) (shown hout')
    count).2.1

/-- For every line with something on it there is one that stands for it, written for it as it was
read. -/
theorem exists_standsFor {snippet line : Text} {before after : List Text}
    (h : Text.splitLines snippet = before ++ line :: after) (full : Text.isBlank line = false) :
    ∃ width, StandsFor snippet before line after
      (((stateAfter {} before).readLine line).2.write width) := by
  have settled := settledLines_eq_append_cons h (isEmpty_readLine (stateAfter {} before) full)
  have left : settledLines snippet ≠ [] := by simp [settled]
  have written := forall₂_layout (settledLines snippet)
  rw [← splitLines_format left, settled] at written
  -- What is laid out for the lines above and below is cut off.
  obtain ⟨above, rest, lines, habove, hrest⟩ := exists_append_of_writtenFor written
  obtain ⟨out, below, ⟨width, rfl⟩, hbelow, rfl⟩ := List.forall₂_cons_right_iff.mp hrest
  refine ⟨width, above, below, lines, ?_, ?_, ?_⟩
  · rw [inksOf_eq_inks (map_ink_of_writtenFor habove), inks_settledAbove]
  · rw [Line.ink_write, ink_readLine]
  · rw [inksOf_eq_inks (map_ink_of_writtenFor hbelow), inks_settledBelow]

/-- Lines whose inks are known are those with something on them, and blank lines between. -/
theorem exists_append_of_inksOf {lines before after : List Text} {shown : Text}
    (h : inksOf lines = before ++ shown :: after) :
    ∃ above line below, lines = above ++ line :: below ∧ Text.isBlank line = false ∧
      inksOf above = before ∧ ink line = shown ∧ inksOf below = after := by
  obtain ⟨above, rest, hlines, habove, hrest⟩ := List.map_eq_append_iff.mp h
  obtain ⟨line, below, rfl, hline, hbelow⟩ := List.map_eq_cons_iff.mp hrest
  obtain ⟨xs, ys, rfl, rfl, hys⟩ := List.filter_eq_append_iff.mp hlines
  obtain ⟨gap, zs, rfl, hgap, hfull, rfl⟩ := List.filter_eq_cons_iff.mp hys
  have nothing : gap.filter (fun line => !Text.isBlank line) = [] :=
    List.filter_eq_nil_iff.mpr hgap
  refine ⟨xs ++ gap, line, zs, by simp, by simpa using hfull, ?_, hline, hbelow⟩
  rw [inksOf, List.filter_append, nothing, List.append_nil, habove]

theorem inksOf_append_cons {line : Text} (full : Text.isBlank line = false)
    (above below : List Text) :
    inksOf (above ++ line :: below) = inksOf above ++ ink line :: inksOf below := by
  rw [inksOf, List.filter_append, List.filter_cons_of_pos (by simp [full]), List.map_append]
  rfl

/-- Every line of a formatted snippet with something on it stands for a line of the snippet, and is
written for it as it was read. -/
theorem exists_line_of_format {snippet out : Text} {above below : List Text}
    (h : Text.splitLines (format snippet) = above ++ out :: below)
    (full : Text.isBlank out = false) :
    ∃ before line after width, Text.splitLines snippet = before ++ line :: after ∧
      Text.isBlank line = false ∧ inksOf above = inksOf before ∧ ink out = ink line ∧
      inksOf below = inksOf after ∧
      out = ((stateAfter {} before).readLine line).2.write width := by
  have kept : inksOf (Text.splitLines snippet) = inksOf above ++ ink out :: inksOf below := by
    rw [← inksOf_append_cons full, ← h]
    exact (inkLines_format snippet).symm
  obtain ⟨before, line, after, lines, hline, hbefore, hshown, hafter⟩ :=
    exists_append_of_inksOf kept
  obtain ⟨width, stands⟩ := exists_standsFor lines hline
  refine ⟨before, line, after, width, lines, hline, hbefore.symm, hshown.symm, hafter.symm, ?_⟩
  exact StandsFor.unique hline ⟨above, below, h, hbefore.symm, hshown.symm, hafter.symm⟩ stands

end ProviderDocs.Snippet
