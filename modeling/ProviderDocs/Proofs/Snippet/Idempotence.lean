import Mathlib.Data.List.Forall2
import Mathlib.Data.List.SplitBy
import ProviderDocs.Proofs.Snippet.Reread
import ProviderDocs.Proofs.Text.Lines

/-!
# Formatting twice

Formatting a snippet that was formatted changes nothing (`format_format`), whatever the snippet is.
A formatted snippet is the layout of some lines (`format_eq_joinLines`), and these lines are
settled: read again from the same state they are the same lines (`Settled`), no two blank lines meet
(`BlanksApart`), and neither the first nor the last is empty.  No line of a formatted snippet is a
new one (`exists_of_mem_splitLines_format`, `length_splitLines_format_le`).
-/

namespace ProviderDocs.Snippet

/-! ### Layout, line by line -/

/-- A text is what is written for a line, at some width of its column. -/
def WrittenFor (text : Text) (line : Line) : Prop :=
  ∃ width, text = line.write width

/-- The layout of lines has one text for each line. -/
theorem forall₂_layout (lines : List Line) : List.Forall₂ WrittenFor (layout lines) lines := by
  have run (lines : List Line) :
      List.Forall₂ WrittenFor (lines.map (Line.write (columnWidth lines))) lines := by
    -- The column is as wide for every line of a run, but which width it is does not matter here.
    rw [List.forall₂_map_left_iff, List.forall₂_same]
    exact fun line _ => ⟨_, rfl⟩
  have runs (parts : List (List Line)) :
      List.Forall₂ WrittenFor
        (parts.flatMap fun part => part.map (Line.write (columnWidth part))) parts.flatten := by
    induction parts with
    | nil => exact .nil
    | cons part parts ih =>
      rw [List.flatMap_cons, List.flatten_cons]
      exact List.rel_append (run part) ih
  have := runs (lines.splitBy Line.aligns)
  rwa [List.flatten_splitBy] at this

theorem exists_mem_of_mem_layout {lines : List Line} {text : Text} (h : text ∈ layout lines) :
    ∃ line ∈ lines, WrittenFor text line := by
  obtain ⟨run, hrun, h⟩ := List.mem_flatMap.mp h
  obtain ⟨line, hl, rfl⟩ := List.mem_map.mp h
  refine ⟨line, ?_, _, rfl⟩
  rw [← List.flatten_splitBy Line.aligns lines]
  exact List.mem_flatten_of_mem hrun hl

/-- Whether nothing is written for a line. -/
def Line.isEmpty : Line → Bool
  | .blank => true
  | .verbatim text => text.isEmpty
  | .code indent text => indent == 0 && text.isEmpty
  | .assign _ _ => false

theorem Attribute.sign_mem_write (attr : Attribute) (width : Nat) : '=' ∈ attr.write width :=
  Text.mem_trimEndWhere_of_mem (by decide) (by simp)

theorem Attribute.write_ne_nil (attr : Attribute) (width : Nat) : attr.write width ≠ [] :=
  List.ne_nil_of_mem (attr.sign_mem_write width)

theorem Line.isEmpty_write (line : Line) (width : Nat) :
    (line.write width).isEmpty = line.isEmpty := by
  cases line with
  | blank => rfl
  | verbatim text => rfl
  | code indent text => cases indent <;> simp [Line.write, Line.isEmpty, indentation]
  | assign indent attr =>
    have := attr.write_ne_nil width
    simp [Line.write, Line.isEmpty, this]

/-- Lines are laid out in two parts, if the last one of the first part is in no column with the
first one of the second part. -/
theorem layout_append {before after : List Line}
    (h : ∀ above ∈ before.getLast?, ∀ below ∈ after.head?, above.aligns below = false) :
    layout (before ++ after) = layout before ++ layout after := by
  unfold layout
  rw [List.splitBy_append h, List.flatMap_append]

/-- An empty line is in no column with the line above it. -/
theorem layout_append_of_isEmpty (lines : List Line) {line : Line} (h : line.isEmpty = true) :
    layout (lines ++ [line]) = layout lines ++ [[]] := by
  have apart (above : Line) : above.aligns line = false := by
    cases line with
    | assign indent attr => exact absurd h (by simp [Line.isEmpty])
    | _ => cases above <;> rfl
  have single : layout [line] = [[]] := by
    have := line.isEmpty_write (columnWidth [line])
    rw [h, List.isEmpty_iff] at this
    simpa [layout, List.splitBy, List.splitBy.loop] using this
  rw [← single]
  exact layout_append fun above _ => by simp [apart]

/-- Empty lines at the end of a layout are written for empty lines at the end. -/
theorem rdropWhile_layout (lines : List Line) :
    (layout lines).rdropWhile List.isEmpty = layout (lines.rdropWhile Line.isEmpty) := by
  induction lines using List.reverseRecOn with
  | nil => rfl
  | append_singleton lines line ih =>
    by_cases h : line.isEmpty = true
    · rw [layout_append_of_isEmpty lines h, List.rdropWhile_concat_pos _ _ _ rfl,
        List.rdropWhile_concat_pos _ _ _ h, ih]
    · rw [List.rdropWhile_concat_neg _ _ _ h]
      -- The text at the end is written for a line that is not empty, so that neither is dropped.
      have texts := List.forall₂_reverse_iff.mpr (forall₂_layout (lines ++ [line]))
      rw [List.reverse_append, List.reverse_singleton, List.singleton_append] at texts
      obtain ⟨text, above, ⟨width, rfl⟩, -, heq⟩ := List.forall₂_cons_right_iff.mp texts
      rw [List.reverse_eq_cons_iff] at heq
      rw [heq]
      exact List.rdropWhile_concat_neg _ _ _ (by rwa [line.isEmpty_write])

/-! ### Lines that are read again as they are -/

/-- Lines that are read again as they are: whatever the widths of their columns, what is written for
each of them is read as the same line, in the state that the lines above leave behind. -/
inductive Settled : State → List Line → Prop where
  | nil {state : State} : Settled state []
  | cons {state next : State} {line : Line} {rest : List Line}
    (head : ∀ width, state.readLine (line.write width) = (next, line))
    (tail : Settled next rest) : Settled state (line :: rest)

theorem settled_readLines (state : State) (texts : List Text) :
    Settled state (readLines state texts) := by
  induction texts generalizing state with
  | nil => exact .nil
  | cons text rest ih => exact .cons (readLine_write state text) (ih _)

/-- A line that is read as blank decides nothing about the lines below. -/
theorem State.eq_of_readLine_eq_blank {state next : State} {text : Text}
    (h : state.readLine text = (next, .blank)) : next = state := by
  -- Of the four ways to read a line, only the second one gives a blank line.
  rcases state.readLine_cases text with ⟨marker, -, read⟩ | ⟨-, -, read⟩ | ⟨-, -, -, read⟩ |
    ⟨-, -, -, read⟩ <;> rw [read] at h
  · exact absurd (congrArg Prod.snd h) (by simp)
  · exact (congrArg Prod.fst h).symm
  · exact absurd (congrArg Prod.snd h) (by simp)
  · exact absurd (congrArg Prod.snd h) (ofCode_ne_blank _ _)

namespace Settled

variable {state : State} {lines : List Line}

theorem readLines_eq (h : Settled state lines) {texts : List Text}
    (written : List.Forall₂ WrittenFor texts lines) : readLines state texts = lines := by
  induction h generalizing texts with
  | nil =>
    rw [List.forall₂_nil_right_iff.mp written]
    rfl
  | cons head _ ih =>
    obtain ⟨text, rest, ⟨width, rfl⟩, hrest, rfl⟩ := List.forall₂_cons_right_iff.mp written
    simp only [readLines, head, ih hrest]

theorem of_isPrefix {lines' : List Line} (h : Settled state lines) (hp : lines' <+: lines) :
    Settled state lines' := by
  induction h generalizing lines' with
  | nil =>
    rw [List.prefix_nil.mp hp]
    exact .nil
  | cons head _ ih =>
    cases lines' with
    | nil => exact .nil
    | cons line rest =>
      obtain ⟨rfl, hrest⟩ := List.cons_prefix_cons.mp hp
      exact .cons head (ih hrest)

theorem collapseBlanksAfter (h : Settled state lines) (blankAbove : Bool) :
    Settled state (collapseBlanksAfter blankAbove lines) := by
  induction h generalizing blankAbove with
  | nil => exact .nil
  | @cons state next line rest head _ ih =>
    cases line with
    | blank =>
      -- Dropped or not, the line leaves the state to the lines below as it found it.
      obtain rfl := State.eq_of_readLine_eq_blank (head 0)
      cases blankAbove with
      | true => exact ih true
      | false => exact .cons head (ih true)
    | verbatim | code | assign => exact .cons head (ih false)

end Settled

/-! ### Blank lines -/

/-- No blank line follows another one, or is the first. -/
def BlanksApart (lines : List Line) : Prop :=
  (Line.blank :: lines).IsChain fun line next => line ≠ .blank ∨ next ≠ .blank

theorem isChain_collapseBlanksAfter (above : Line) (lines : List Line) :
    (above :: collapseBlanksAfter (above = .blank) lines).IsChain
      fun line next => line ≠ .blank ∨ next ≠ .blank := by
  induction lines generalizing above with
  | nil => exact .singleton _
  | cons line rest ih =>
    by_cases hl : line = .blank
    · subst hl
      by_cases ha : above = .blank
      · simpa [collapseBlanksAfter, ha] using ih above
      · simpa [collapseBlanksAfter, ha] using ih .blank
    · have : collapseBlanksAfter (above = .blank) (line :: rest) =
          line :: collapseBlanksAfter (line = .blank) rest := by
        cases line <;> simp_all [collapseBlanksAfter]
      rw [this]
      exact .cons_cons (.inr hl) (ih line)

theorem collapseBlanksAfter_eq_self {above : Line} {lines : List Line}
    (h : (above :: lines).IsChain fun line next => line ≠ .blank ∨ next ≠ .blank) :
    collapseBlanksAfter (above = .blank) lines = lines := by
  induction lines generalizing above with
  | nil => rfl
  | cons line rest ih =>
    obtain ⟨apart, hrest⟩ := List.isChain_cons_cons.mp h
    have ih := ih hrest
    cases line with
    | blank => simp_all [collapseBlanksAfter]
    | verbatim | code | assign => simp_all [collapseBlanksAfter]

theorem blanksApart_collapseBlanks (lines : List Line) : BlanksApart (collapseBlanks lines) :=
  isChain_collapseBlanksAfter .blank lines

theorem BlanksApart.collapseBlanks_eq {lines : List Line} (h : BlanksApart lines) :
    collapseBlanks lines = lines :=
  collapseBlanksAfter_eq_self h

theorem BlanksApart.of_isPrefix {lines lines' : List Line} (h : BlanksApart lines)
    (hp : lines' <+: lines) : BlanksApart lines' :=
  h.prefix ((List.prefix_cons_inj _).mpr hp)

/-! ### What is written holds no newline -/

theorem Attribute.write_subset (attr : Attribute) (width : Nat) :
    attr.write width ⊆ ' ' :: '=' :: (attr.key ++ attr.value) := by
  intro c hc
  have := (Text.trimEndWhere_isPrefix _ _).subset hc
  simp only [List.rightpad, List.append_assoc, List.mem_append, List.mem_replicate] at this
  rcases this with hk | ⟨-, rfl⟩ | hs | hv
  · simp [hk]
  · simp
  · rcases (show c = ' ' ∨ c = '=' ∨ c = ' ' by simpa using hs) with rfl | rfl | rfl <;> simp
  · simp [hv]

theorem spaceHeader_subset (t : Text) : spaceHeader t ⊆ ' ' :: t := by
  rcases spaceHeader_cases t with h | ⟨head, gap, -, -, rfl, h⟩
  · rw [h]
    exact List.subset_cons_self _ _
  · rw [h]
    intro c hc
    simp only [List.mem_append, List.mem_cons, List.not_mem_nil, or_false] at hc ⊢
    tauto

theorem indentation_subset (level : Nat) (t : Text) : indentation level ⊆ ' ' :: t := by
  intro c hc
  rw [List.eq_of_mem_replicate hc]
  exact List.mem_cons_self

/-- Writing a line of code adds nothing but spaces. -/
theorem write_ofCode_subset {t : Text} (ht : Text.Trimmed t) (indent width : Nat) :
    (Line.ofCode indent t).write width ⊆ ' ' :: t := by
  cases hs : Attribute.ofLine? t with
  | some attr =>
    obtain ⟨-, gap, after, -, -, heq⟩ := Attribute.shows_of_ofLine? hs ht.last
    have written (w : Nat) : attr.write w ⊆ ' ' :: t := by
      intro c hc
      have := attr.write_subset w hc
      rw [heq]
      simp only [List.mem_append, List.mem_cons] at this ⊢
      tauto
    simp only [Line.ofCode, hs]
    split_ifs
    · exact List.append_subset_of_subset_of_subset (indentation_subset _ _) (written width)
    · exact List.append_subset_of_subset_of_subset (indentation_subset _ _) (written 0)
  | none =>
    simp only [Line.ofCode, hs]
    exact List.append_subset_of_subset_of_subset (indentation_subset _ _) (spaceHeader_subset t)

/-- What is written for a line that was read is made of what was on it and of spaces. -/
theorem write_readLine_subset (state : State) (text : Text) (width : Nat) :
    (state.readLine text).2.write width ⊆ ' ' :: text := by
  have raw : rawLine text ⊆ text := (Text.trimEndWhere_isPrefix _ _).subset
  have inner : ' ' :: lineText text ⊆ ' ' :: text :=
    List.cons_subset_cons _ (List.Subset.trans (Text.trim_subset _) raw)
  rcases state.readLine_cases text with ⟨marker, -, read⟩ | ⟨-, -, read⟩ | ⟨-, -, -, read⟩ |
    ⟨-, -, -, read⟩ <;> rw [read]
  · exact List.subset_cons_of_subset _ raw
  · exact List.nil_subset _
  · exact List.append_subset_of_subset_of_subset (indentation_subset _ _)
      (List.Subset.trans (List.subset_cons_self _ _) inner)
  · exact List.Subset.trans (write_ofCode_subset (trimmed_lineText text) _ width) inner

theorem exists_of_mem_readLines {state : State} {texts : List Text} {line : Line}
    (h : line ∈ readLines state texts) :
    ∃ (before : State) (text : Text), text ∈ texts ∧ line = (before.readLine text).2 := by
  induction texts generalizing state with
  | nil => exact absurd h List.not_mem_nil
  | cons text rest ih =>
    rcases List.mem_cons.mp h with rfl | h
    · exact ⟨state, text, List.mem_cons_self, rfl⟩
    · obtain ⟨before, later, hm, rfl⟩ := ih h
      exact ⟨before, later, List.mem_cons_of_mem _ hm, rfl⟩

theorem length_readLines (state : State) (texts : List Text) :
    (readLines state texts).length = texts.length := by
  induction texts generalizing state with
  | nil => rfl
  | cons text rest ih => exact congrArg (· + 1) (ih _)

theorem notMem_write_of_mem_readLines {state : State} {texts : List Text}
    (h : ∀ text ∈ texts, '\n' ∉ text) {line : Line} (hl : line ∈ readLines state texts)
    (width : Nat) : '\n' ∉ line.write width := by
  obtain ⟨before, text, ht, rfl⟩ := exists_of_mem_readLines hl
  intro hm
  rcases List.mem_cons.mp (write_readLine_subset before text width hm) with hc | hc
  · exact absurd hc (by decide)
  · exact h text ht hc

theorem collapseBlanksAfter_sublist (blankAbove : Bool) (lines : List Line) :
    (collapseBlanksAfter blankAbove lines).Sublist lines := by
  fun_induction collapseBlanksAfter blankAbove lines with
  | case1 => exact .slnil
  | case2 rest ih => exact .cons _ ih
  | case3 rest _ _ ih => exact .cons_cons _ ih
  | case4 _ line rest _ ih => exact .cons_cons _ ih

/-! ### Formatting twice -/

/-- Lines that are read as they are from the start, with blank ones apart, begin with one that has
something on it: in the state at the start, a line with nothing on it is read as blank. -/
theorem Settled.isEmpty_head {line : Line} {rest : List Line} (read : Settled {} (line :: rest))
    (apart : BlanksApart (line :: rest)) : line.isEmpty = false := by
  cases read with
  | cons head _ =>
    -- An empty text would be read as a blank line, which cannot be the first.
    cases hl : line.isEmpty with
    | false => rfl
    | true =>
      rw [← line.isEmpty_write 0, List.isEmpty_iff] at hl
      have blank := congrArg Prod.snd (head 0)
      rw [hl] at blank
      exact absurd blank.symm ((List.isChain_cons_cons.mp apart).1.resolve_left (by simp))

/-- No newline stands before the first line of a layout. -/
theorem dropWhile_joinLines_layout {lines : List Line} (read : Settled {} lines)
    (apart : BlanksApart lines) (h : ∀ text ∈ layout lines, '\n' ∉ text) :
    (Text.joinLines (layout lines)).dropWhile (· == '\n') = Text.joinLines (layout lines) := by
  cases lines with
  | nil => rfl
  | cons line rest =>
    obtain ⟨text, texts, ⟨width, rfl⟩, -, heq⟩ :=
      List.forall₂_cons_right_iff.mp (forall₂_layout (line :: rest))
    have empty := line.isEmpty_write width
    rw [read.isEmpty_head apart] at empty
    rw [heq] at h ⊢
    exact Text.dropWhile_joinLines_cons (by simpa using empty) (h _ List.mem_cons_self)

/-- The lines that are left of a snippet to be laid out: its lines with blank ones collapsed, and
without the empty ones at the end. -/
def settledLines (snippet : Text) : List Line :=
  (collapseBlanks (readLines {} (Text.splitLines snippet))).rdropWhile Line.isEmpty

theorem settled_settledLines (snippet : Text) : Settled {} (settledLines snippet) :=
  ((settled_readLines _ _).collapseBlanksAfter _).of_isPrefix (List.rdropWhile_prefix _ _)

theorem blanksApart_settledLines (snippet : Text) : BlanksApart (settledLines snippet) :=
  (blanksApart_collapseBlanks _).of_isPrefix (List.rdropWhile_prefix _ _)

theorem notMem_of_mem_layout {snippet text : Text} {lines : List Line}
    (hl : lines ⊆ readLines {} (Text.splitLines snippet)) (h : text ∈ layout lines) :
    '\n' ∉ text := by
  obtain ⟨line, hm, width, rfl⟩ := exists_mem_of_mem_layout h
  exact notMem_write_of_mem_readLines (fun _ => Text.notMem_of_mem_splitOn) (hl hm) width

/-- A formatted snippet is the layout of the lines that are left of it. -/
theorem format_eq_joinLines (snippet : Text) :
    format snippet = Text.joinLines (layout (settledLines snippet)) := by
  have newline : ∀ text ∈ layout (collapseBlanks (readLines {} (Text.splitLines snippet))),
      '\n' ∉ text :=
    fun _ => notMem_of_mem_layout (collapseBlanksAfter_sublist _ _).subset
  have read : Settled {} (collapseBlanks (readLines {} (Text.splitLines snippet))) :=
    (settled_readLines _ _).collapseBlanksAfter _
  unfold format
  rw [Text.trimWhere, dropWhile_joinLines_layout read (blanksApart_collapseBlanks _) newline,
    Text.trimEndWhere_joinLines newline, rdropWhile_layout, settledLines]

theorem settledLines_sublist (snippet : Text) :
    (settledLines snippet).Sublist (readLines {} (Text.splitLines snippet)) :=
  (List.rdropWhile_prefix _ _).sublist.trans (collapseBlanksAfter_sublist _ _)

theorem splitLines_format {snippet : Text} (hn : settledLines snippet ≠ []) :
    Text.splitLines (format snippet) = layout (settledLines snippet) := by
  have length := (forall₂_layout (settledLines snippet)).length_eq
  rw [format_eq_joinLines]
  apply Text.splitLines_joinLines
  · rw [← List.length_pos_iff, length]
    exact List.length_pos_iff.mpr hn
  · exact fun _ => notMem_of_mem_layout (settledLines_sublist snippet).subset

/-- The lines that are left of a snippet are read off the formatted snippet. -/
theorem readLines_format {snippet : Text} (hn : settledLines snippet ≠ []) :
    readLines {} (Text.splitLines (format snippet)) = settledLines snippet := by
  rw [splitLines_format hn]
  exact (settled_settledLines snippet).readLines_eq (forall₂_layout _)

/-- The lines that are left of a snippet are left of the formatted snippet. -/
theorem settledLines_format (snippet : Text) :
    settledLines (format snippet) = settledLines snippet := by
  rcases eq_or_ne (settledLines snippet) [] with hl | hl
  · rw [format_eq_joinLines, hl]
    rfl
  · -- Reading gives the lines back, and there is nothing left to collapse or to drop.
    conv_lhs => rw [settledLines]
    rw [readLines_format hl, (blanksApart_settledLines snippet).collapseBlanks_eq, settledLines,
      List.rdropWhile_idempotent]

/-- Formatting a formatted snippet changes nothing. -/
theorem format_format (snippet : Text) : format (format snippet) = format snippet := by
  rw [format_eq_joinLines, settledLines_format, ← format_eq_joinLines]

/-! ### The lines of a formatted snippet -/

/-- Formatting adds no line. -/
theorem length_splitLines_format_le (snippet : Text) :
    (Text.splitLines (format snippet)).length ≤ (Text.splitLines snippet).length := by
  rcases eq_or_ne (settledLines snippet) [] with hl | hl
  · rw [format_eq_joinLines, hl]
    exact List.length_pos_iff.mpr (Text.splitOn_ne_nil _ _)
  · calc (Text.splitLines (format snippet)).length
        = (settledLines snippet).length := by
          rw [splitLines_format hl, (forall₂_layout _).length_eq]
      _ ≤ (readLines {} (Text.splitLines snippet)).length :=
        (settledLines_sublist snippet).length_le
      _ = (Text.splitLines snippet).length := length_readLines _ _

/-- Laid out, the lines of a formatted snippet are what they were read off. -/
theorem layout_readLines_format (snippet : Text) :
    layout (readLines {} (Text.splitLines (format snippet))) =
      Text.splitLines (format snippet) := by
  rcases eq_or_ne (settledLines snippet) [] with hl | hl
  · rw [format_eq_joinLines, hl]
    rfl
  · rw [readLines_format hl, splitLines_format hl]

/-- What stands on a line of a formatted snippet was written for one of the lines of the snippet. -/
theorem exists_of_mem_splitLines_format {snippet line : Text}
    (h : line ∈ Text.splitLines (format snippet)) :
    line = [] ∨ ∃ (state : State) (text : Text) (width : Nat), text ∈ Text.splitLines snippet ∧
      line = (state.readLine text).2.write width := by
  rcases eq_or_ne (settledLines snippet) [] with hl | hl
  · rw [format_eq_joinLines, hl] at h
    exact .inl (List.mem_singleton.mp h)
  · rw [splitLines_format hl] at h
    obtain ⟨settled, hs, width, rfl⟩ := exists_mem_of_mem_layout h
    obtain ⟨state, text, ht, rfl⟩ :=
      exists_of_mem_readLines ((settledLines_sublist snippet).subset hs)
    exact .inr ⟨state, text, width, ht, rfl⟩

end ProviderDocs.Snippet
