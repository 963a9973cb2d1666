import ProviderDocs.Proofs.Snippet.Lines

/-!
# Blank lines and the ends of lines

A formatted snippet is tidy outside its heredocs (`IsTidy`): no line ends in white space, no two
blank lines meet, and the text begins neither with a blank line nor with an indented one and does
not end in a newline.  How many blank lines stand in a gap of a snippet makes no difference, and
neither does what white space stands on them (`format_blankLines`): they change nothing for the
lines below (`readLines_of_isBlank`), and no more than one of them is left, given the line above the
gap (`collapseBlanksAfter_append`).
-/

namespace ProviderDocs.Snippet

/-! ### Reading blank lines -/

/-- The marker of a heredoc that is open has a name, so that no blank line closes the heredoc. -/
def State.IsNamed (state : State) : Prop :=
  ∀ marker ∈ state.heredoc, marker ≠ []

theorem ne_nil_of_heredocMarker? {t marker : Text} (h : heredocMarker? t = some marker) :
    marker ≠ [] := by
  have named {rest : Text} (h : markerAfter? rest = some marker) : marker ≠ [] := by
    unfold markerAfter? at h
    dsimp only at h
    split at h
    · cases h
    · split_ifs at h
      cases h
      exact List.cons_ne_nil _ _
  induction t with
  | nil => cases h
  | cons c rest ih =>
    rcases Option.or_eq_some_iff.mp h with here | ⟨-, later⟩
    · split_ifs at here
      exact named here
    · exact ih later

theorem State.IsNamed.readLine {state : State} (h : state.IsNamed) (line : Text) :
    (state.readLine line).1.IsNamed := by
  rcases state.readLine_cases line with ⟨marker, hh, read⟩ | ⟨-, -, read⟩ | ⟨-, -, -, read⟩ |
    ⟨-, -, -, read⟩ <;> rw [read]
  · intro other ho
    split_ifs at ho
    · cases ho
    · obtain rfl : marker = other := Option.some.inj ho
      exact h marker hh
  · exact h
  · exact h
  · exact fun marker => ne_nil_of_heredocMarker?

theorem isNamed_stateAfter (texts : List Text) : (stateAfter {} texts).IsNamed := by
  induction texts using List.reverseRecOn with
  | nil =>
    intro marker hm
    cases hm
  | append_singleton texts text ih =>
    rw [stateAfter_append]
    exact ih.readLine text

theorem lineText_eq_nil_iff {line : Text} : lineText line = [] ↔ Text.isBlank line = true := by
  rw [lineText_eq_trim, Text.trim_eq_nil_iff]

/-- Blank lines outside heredocs are read as such, and the state is the same below them. -/
theorem readLines_of_isBlank {state : State} (h : state.heredoc = none) {gap : List Text}
    (blank : ∀ line ∈ gap, Text.isBlank line = true) :
    readLines state gap = List.replicate gap.length .blank ∧ stateAfter state gap = state := by
  induction gap with
  | nil => exact ⟨rfl, rfl⟩
  | cons line rest ih =>
    obtain ⟨first, later⟩ := List.forall_mem_cons.mp blank
    obtain ⟨lines, same⟩ := ih later
    have read := State.readLine_of_blank h (lineText_eq_nil_iff.mpr first)
    constructor
    · rw [readLines, read, lines]
      rfl
    · have run : stateAfter state (line :: rest) = stateAfter (state.readLine line).1 rest := rfl
      rw [run, read, same]

/-- A blank line with no heredoc open below it is read as such. -/
theorem readLine_of_isBlank {above : List Text} {line : Text} (blank : Text.isBlank line = true)
    (h : (stateAfter {} (above ++ [line])).heredoc = none) :
    ((stateAfter {} above).readLine line).2 = .blank := by
  have text := lineText_eq_nil_iff.mpr blank
  rw [stateAfter_append] at h
  have closed : ((stateAfter {} above).readLine line).1.heredoc = none := h
  cases hh : (stateAfter {} above).heredoc with
  | none => rw [State.readLine_of_blank hh text]
  | some marker =>
    -- The heredoc would go on below the line.
    have named := isNamed_stateAfter above marker hh
    rw [State.readLine_of_heredoc hh, text] at closed
    simp [named.symm] at closed

/-! ### Collapsing blank lines -/

/-- Blank lines are collapsed in two parts, the second one given the last line of the first. -/
theorem collapseBlanksAfter_append (above : Line) (first second : List Line) :
    collapseBlanksAfter (above = .blank) (first ++ second) =
      collapseBlanksAfter (above = .blank) first ++
        collapseBlanksAfter (first.getLastD above = .blank) second := by
  induction first generalizing above with
  | nil => rfl
  | cons line rest ih =>
    have ih := ih line
    rw [List.getLastD_cons]
    cases line with
    | blank =>
      rw [List.cons_append, collapseBlanksAfter, collapseBlanksAfter]
      simp only [decide_true] at ih
      rw [ih]
      split_ifs <;> rfl
    | verbatim | code | assign => simp_all [collapseBlanksAfter]

theorem collapseBlanksAfter_replicate_append (n : Nat) (lines : List Line) :
    collapseBlanksAfter true (List.replicate n .blank ++ lines) =
      collapseBlanksAfter true lines := by
  induction n with
  | zero => rfl
  | succ n ih => rw [List.replicate_succ, List.cons_append, collapseBlanksAfter, if_pos rfl, ih]

theorem collapseBlanksAfter_replicate_append_blank (n : Nat) (blankAbove : Bool)
    (lines : List Line) :
    collapseBlanksAfter blankAbove (List.replicate n .blank ++ .blank :: lines) =
      collapseBlanksAfter blankAbove (.blank :: lines) := by
  cases n with
  | zero => rfl
  | succ n =>
    rw [List.replicate_succ, List.cons_append, collapseBlanksAfter, collapseBlanksAfter,
      collapseBlanksAfter_replicate_append, collapseBlanksAfter, if_pos rfl]

theorem rdropWhile_collapseBlanksAfter_append_replicate (n : Nat) (blankAbove : Bool)
    (lines : List Line) :
    (collapseBlanksAfter blankAbove (lines ++ List.replicate n .blank)).rdropWhile Line.isEmpty =
      (collapseBlanksAfter blankAbove lines).rdropWhile Line.isEmpty := by
  induction n with
  | zero => rw [List.replicate_zero, List.append_nil]
  | succ n ih =>
    rw [List.replicate_succ', ← List.append_assoc, rdropWhile_collapseBlanksAfter_append rfl, ih]

/-! ### The lines of a formatted snippet -/

/-- For a line outside heredocs nothing is written, or what is written is indented by no more than
the depth, with no other white space at its ends. -/
theorem write_readLine_cases {state : State} (h : state.heredoc = none) (line : Text)
    (width : Nat) :
    (state.readLine line).2.write width = [] ∨
      ∃ level t, level ≤ state.depth ∧ Text.Trimmed t ∧ t ≠ [] ∧
        (state.readLine line).2.write width = indentation level ++ t := by
  have trimmed := trimmed_lineText line
  rcases state.readLine_cases line with ⟨marker, hh, -⟩ | ⟨-, -, read⟩ | ⟨-, ht, -, read⟩ |
    ⟨-, ht, -, read⟩
  · rw [h] at hh
    cases hh
  · rw [read]
    exact .inl rfl
  · rw [read]
    exact .inr ⟨state.depth, lineText line, le_rfl, trimmed, ht, rfl⟩
  · rw [read]
    obtain ⟨t, ht, trimmed, hn, -⟩ := exists_write_ofCode trimmed ht
      (state.depth - leadingClosers (lineText line)) width
    exact .inr ⟨_, t, Nat.sub_le _ _, trimmed, hn, ht⟩

theorem isChain_readLines_format (snippet : Text) :
    (readLines {} (Text.splitLines (format snippet))).IsChain
      fun line next => line ≠ .blank ∨ next ≠ .blank := by
  rcases eq_or_ne (settledLines snippet) [] with hl | hl
  · rw [format_eq_joinLines, hl]
    exact .singleton _
  · rw [readLines_format hl]
    exact (blanksApart_settledLines snippet).tail

/-- A text is free of superfluous blank lines and of white space at the ends of lines, outside the
heredocs that it holds.  The line that closes a heredoc belongs to it. -/
structure IsTidy (formatted : Text) : Prop where
  /-- The text begins neither with a newline nor with indentation. -/
  head : ∀ c ∈ formatted.head?, isSpace c = false
  last : ∀ c ∈ formatted.getLast?, c ≠ '\n'
  /-- No line has white space at its end, but for the lines inside a heredoc and the one that closes
  it, which stands below an open heredoc as they do. -/
  ends : ∀ above line below, Text.splitLines formatted = above ++ line :: below →
    (stateAfter {} above).heredoc = none → ∀ c ∈ line.getLast?, isSpace c = false
  /-- No two blank lines follow each other, but for those inside a heredoc. -/
  apart : ∀ above line next below, Text.splitLines formatted = above ++ line :: next :: below →
    (stateAfter {} above).heredoc = none →
    ¬(Text.isBlank line = true ∧ Text.isBlank next = true)

theorem head_format (snippet : Text) : ∀ c ∈ (format snippet).head?, isSpace c = false := by
  rcases eq_or_ne (settledLines snippet) [] with hl | hl
  · rw [format_eq_joinLines, hl]
    intro c hc
    cases hc
  · obtain ⟨first, rest, h⟩ := List.exists_cons_of_ne_nil (Text.splitLines_ne_nil (format snippet))
    obtain ⟨width, written⟩ := @writtenFor_of_format snippet first [] rest h
    have apart := blanksApart_settledLines snippet
    rw [← readLines_format hl, h, readLines] at apart
    rcases @write_readLine_cases {} rfl first width with empty | ⟨level, t, bound, trimmed, hn, he⟩
    · -- A line with nothing on it would be read as a blank one, which cannot be the first.
      obtain rfl : first = [] := written.trans empty
      exact absurd (List.isChain_cons_cons.mp apart).1 (by decide)
    · obtain rfl : level = 0 := Nat.le_zero.mp bound
      obtain rfl : first = t := written.trans he
      obtain ⟨after, ha⟩ := Text.exists_intercalate_cons ['\n'] first rest
      rw [← Text.joinLines_splitLines (format snippet), h, Text.joinLines, ha,
        List.head?_append_of_ne_nil _ hn]
      exact trimmed.head

theorem last_format (snippet : Text) : ∀ c ∈ (format snippet).getLast?, c ≠ '\n' := by
  intro c hc
  have stop := Text.trimEndWhere_eq_self_iff.mp (Text.trimEndWhere_trimEndWhere (· == '\n') _) c hc
  simpa using stop

theorem isTidy_format (snippet : Text) : IsTidy (format snippet) where
  head := head_format snippet
  last := last_format snippet
  ends := by
    intro above line below h noHeredoc c hc
    obtain ⟨width, written⟩ := writtenFor_of_format h
    rcases write_readLine_cases noHeredoc line width with empty | ⟨level, t, -, trimmed, hn, he⟩
    · rw [written, empty] at hc
      cases hc
    · rw [written, he, List.getLast?_append_of_ne_nil _ hn] at hc
      exact trimmed.last c hc
  apart := by
    rintro above line next below h noHeredoc ⟨hl, hn⟩
    have chain := isChain_readLines_format snippet
    rw [h, readLines_append, readLines,
      State.readLine_of_blank noHeredoc (lineText_eq_nil_iff.mpr hl), readLines,
      State.readLine_of_blank noHeredoc (lineText_eq_nil_iff.mpr hn)] at chain
    have pair := (List.isChain_append.mp chain).2.1
    exact (List.isChain_cons_cons.mp pair).1.elim (absurd rfl) (absurd rfl)

/-! ### Gaps of blank lines -/

/-- A place between the lines of a text where blank lines make no difference: at the start, at the
end, or next to a line that is blank. -/
def IsGap (above below : List Text) : Prop :=
  above = [] ∨ below = [] ∨ (∃ line ∈ above.getLast?, Text.isBlank line = true) ∨
    ∃ line ∈ below.head?, Text.isBlank line = true

instance (above below : List Text) : Decidable (IsGap above below) :=
  inferInstanceAs (Decidable (_ ∨ _ ∨ _ ∨ _))

/-- Blank lines in a gap outside heredocs are collapsed with what stands there, or dropped. -/
theorem settledLines_gap {snippet text : Text} {above gap below : List Text}
    (h : Text.splitLines snippet = above ++ below)
    (h' : Text.splitLines text = above ++ (gap ++ below))
    (noHeredoc : (stateAfter {} above).heredoc = none) (place : IsGap above below)
    (blank : ∀ line ∈ gap, Text.isBlank line = true) :
    settledLines text = settledLines snippet := by
  obtain ⟨lines, same⟩ := readLines_of_isBlank noHeredoc blank
  have split := collapseBlanksAfter_append .blank (readLines {} above)
  simp only [decide_true] at split
  unfold settledLines collapseBlanks
  rw [h, h', readLines_append, readLines_append, readLines_append, lines, same]
  rcases place with rfl | rfl | ⟨line, hl, hb⟩ | ⟨line, hl, hb⟩
  · exact congrArg _ (collapseBlanksAfter_replicate_append _ _)
  · rw [readLines, List.append_nil, List.append_nil]
    exact rdropWhile_collapseBlanksAfter_append_replicate _ _ _
  · obtain ⟨start, rfl⟩ := List.getLast?_eq_some_iff.mp hl
    have last : (readLines {} (start ++ [line])).getLastD .blank = .blank := by
      rw [readLines_append, readLines, readLines, readLine_of_isBlank hb noHeredoc,
        List.getLastD_concat]
    simp only [split, last, decide_true, collapseBlanksAfter_replicate_append]
  · obtain ⟨rest, rfl⟩ := List.head?_eq_some_iff.mp hl
    rw [split, split, readLines, State.readLine_of_blank noHeredoc (lineText_eq_nil_iff.mpr hb),
      collapseBlanksAfter_replicate_append_blank]

/-- A formatted snippet is tidy, and blank lines in a gap outside heredocs make no difference,
however many there are. -/
theorem format_blankLines (snippet : Text) :
    IsTidy (format snippet) ∧
      ∀ above gap below, Text.splitLines snippet = above ++ below →
        (stateAfter {} above).heredoc = none → IsGap above below →
        (∀ line ∈ gap, Text.isBlank line = true ∧ '\n' ∉ line) →
        format (Text.joinLines (above ++ (gap ++ below))) = format snippet := by
  refine ⟨isTidy_format snippet, fun above gap below h noHeredoc place blank => ?_⟩
  have oneLine : ∀ line ∈ above ++ (gap ++ below), '\n' ∉ line := by
    have lines : ∀ line ∈ above ++ below, '\n' ∉ line :=
      h ▸ fun _ => Text.notMem_of_mem_splitOn
    simp only [List.forall_mem_append] at lines ⊢
    exact ⟨lines.1, fun line hl => (blank line hl).2, lines.2⟩
  have some : above ++ (gap ++ below) ≠ [] := by
    have lines := Text.splitLines_ne_nil snippet
    rw [h] at lines
    simp_all
  rw [format_eq_joinLines, settledLines_gap h (Text.splitLines_joinLines some oneLine) noHeredoc
    place fun line hl => (blank line hl).1, ← format_eq_joinLines]

/-- A block with blank lines at both ends, in a comment and in a heredoc. -/
def airyLines : List Text :=
  ["".toList, "  a \x7b".toList, "/* b".toList, " \t".toList, "c */".toList, "d = <<E".toList,
    " ".toList, "".toList, "  E ".toList, "".toList, "\x7d".toList]

/-- Blank lines with other white space on them. -/
def airyGap : List Text :=
  ["".toList, "\t \r".toList, "\u00a0".toList, "\u2028".toList]

theorem airyLines_tidied :
    IsTidy (format (Text.joinLines airyLines)) ∧
      ∀ n ∈ [0, 3, 4, 9, 10, 11],
        format (Text.joinLines (airyLines.take n ++ (airyGap ++ airyLines.drop n))) =
          format (Text.joinLines airyLines) := by
  obtain ⟨tidy, gaps⟩ := format_blankLines (Text.joinLines airyLines)
  have lines : Text.splitLines (Text.joinLines airyLines) = airyLines := by decide +kernel
  have outside : ∀ n ∈ [0, 3, 4, 9, 10, 11], (stateAfter {} (airyLines.take n)).heredoc = none ∧
      IsGap (airyLines.take n) (airyLines.drop n) := by
    decide +kernel
  refine ⟨tidy, fun n hn => gaps _ _ _ ?_ (outside n hn).1 (outside n hn).2 (by decide +kernel)⟩
  rw [lines, List.take_append_drop]

end ProviderDocs.Snippet
