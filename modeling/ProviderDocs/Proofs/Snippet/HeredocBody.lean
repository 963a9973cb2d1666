import ProviderDocs.Proofs.Snippet.Lines

/-!
# Bodies of heredocs

The lines of a heredoc stay as they are, but for carriage returns at their ends, and nothing else in
a formatted snippet depends on them (`format_heredoc`).  The line that opens the heredoc leaves a
state behind that no line of the body changes (`readLines_body`), and a line that is kept as
it stands shares its column with no other line (`layout_map_verbatim_append`), so that the lines
above and below are laid out apart from each other.
-/

namespace ProviderDocs.Snippet

open Text (ink inksOf)

/-! ### Operators -/

/-- A name that may mark the end of a heredoc. -/
def IsMarker (marker : Text) : Prop :=
  ∃ c rest, isNameStart c = true ∧ (∀ d ∈ rest, isNameChar d = true) ∧ marker = c :: rest

/-- A text ends in a heredoc operator and a marker, with or without a hyphen, spaces and tabs
between them. -/
def EndsInOperator (t marker : Text) : Prop :=
  IsMarker marker ∧ ∃ start hyphen gap : Text, (hyphen = [] ∨ hyphen = ['-']) ∧
    (∀ c ∈ gap, isSpaceOrTab c = true) ∧ t = start ++ '<' :: '<' :: (hyphen ++ (gap ++ marker))

theorem ne_hyphen_of_isNameStart {c : Char} (h : isNameStart c = true) : c ≠ '-' := by
  rintro rfl
  exact absurd h (by decide)

theorem isSpaceOrTab_of_isNameStart {c : Char} (h : isNameStart c = true) :
    isSpaceOrTab c = false := by
  by_contra space
  have key := isKeyChar_of_isSpaceOrTab (Bool.not_eq_false _ ▸ space)
  rw [isKeyChar_of_isNameStart h] at key
  exact absurd key (by decide)

theorem markerAfter?_operator {marker hyphen gap : Text} (hm : IsMarker marker)
    (hh : hyphen = [] ∨ hyphen = ['-']) (hg : ∀ c ∈ gap, isSpaceOrTab c = true) :
    markerAfter? (hyphen ++ (gap ++ marker)) = some marker := by
  obtain ⟨c, rest, hc, hr, rfl⟩ := hm
  have noHyphen : (gap ++ c :: rest).head? ≠ some '-' := by
    cases gap with
    | nil => simpa using ne_hyphen_of_isNameStart hc
    | cons d gap =>
      have space := hg d List.mem_cons_self
      intro first
      obtain rfl : d = '-' := by simpa using first
      exact absurd space (by decide)
  -- With the hyphen left out, what remains begins with the spaces and tabs.
  have operand : (if (hyphen ++ (gap ++ c :: rest)).head? = some '-' then
      (hyphen ++ (gap ++ c :: rest)).tail else hyphen ++ (gap ++ c :: rest)) =
        gap ++ c :: rest := by
    rcases hh with rfl | rfl
    · rw [List.nil_append, if_neg noHyphen]
    · rfl
  have name : (gap ++ c :: rest).dropWhile isSpaceOrTab = c :: rest := by
    rw [List.dropWhile_append_of_pos hg]
    simp [isSpaceOrTab_of_isNameStart hc]
  have whole : rest.takeWhile isNameChar = rest := List.takeWhile_eq_self_iff.mpr hr
  have nothing : rest.dropWhile isNameChar = [] := List.dropWhile_eq_nil_iff.mpr hr
  unfold markerAfter?
  simp only [operand, name, whole, nothing, hc]
  simp

/-- A line that ends in an operator and a marker opens a heredoc with this marker. -/
theorem heredocMarker?_of_endsInOperator {t marker : Text} (h : EndsInOperator t marker) :
    heredocMarker? t = some marker := by
  obtain ⟨hm, start, hyphen, gap, hh, hg, rfl⟩ := h
  have here := markerAfter?_operator hm hh hg
  induction start with
  | nil => simp [heredocMarker?, here]
  | cons c start ih =>
    rw [List.cons_append, heredocMarker?, ih]
    -- An operator that began further on the left would have another one behind its first two
    -- characters.
    have none : ¬(c = '<' ∧ (start ++ '<' :: '<' :: (hyphen ++ (gap ++ marker))).head? = some '<') ∨
        markerAfter? (start ++ '<' :: '<' :: (hyphen ++ (gap ++ marker))).tail = none := by
      right
      apply markerAfter?_eq_none (c := '<')
      · cases start <;> simp
      · decide
    rcases none with no | no
    · rw [if_neg no, Option.none_or]
    · rw [no, ite_self, Option.none_or]

/-! ### Reading a body -/

/-- What is read for the lines of a body. -/
def verbatims (body : List Text) : List Line :=
  (body.map rawLine).map .verbatim

section Body

variable {state : State} {marker : Text} {body : List Text}

/-- The lines of a body change nothing for the lines below. -/
theorem stateAfter_body (h : state.heredoc = some marker)
    (hb : ∀ line ∈ body, Text.trim line ≠ marker) : stateAfter state body = state := by
  induction body with
  | nil => rfl
  | cons line rest ih =>
    obtain ⟨first, later⟩ := List.forall_mem_cons.mp hb
    have step : (state.readLine line).1 = state := by
      rw [State.readLine_of_heredoc h, lineText_eq_trim, if_neg first, ← h]
    have run : stateAfter state (line :: rest) = stateAfter (state.readLine line).1 rest := rfl
    rw [run, step]
    exact ih later

theorem readLines_body (h : state.heredoc = some marker)
    (hb : ∀ line ∈ body, Text.trim line ≠ marker) : readLines state body = verbatims body := by
  induction body with
  | nil => rfl
  | cons line rest ih =>
    obtain ⟨first, later⟩ := List.forall_mem_cons.mp hb
    have step : state.readLine line = (state, .verbatim (rawLine line)) := by
      rw [State.readLine_of_heredoc h, lineText_eq_trim, if_neg first, ← h]
    rw [readLines, step, ih later]
    rfl

end Body

/-! ### Laying out a body -/

theorem collapseBlanksAfter_verbatims (blankAbove : Bool) (body : List Text) :
    collapseBlanksAfter blankAbove (verbatims body) = verbatims body := by
  induction body generalizing blankAbove with
  | nil => rfl
  | cons line rest ih => exact congrArg (_ :: ·) (ih false)

theorem Line.aligns_verbatim (above : Line) (text : Text) :
    above.aligns (.verbatim text) = false := by
  cases above <;> rfl

theorem layout_verbatim_cons (text : Text) (rest : List Line) :
    layout (.verbatim text :: rest) = text :: layout rest := by
  have apart : ∀ above ∈ [Line.verbatim text].getLast?, ∀ below ∈ rest.head?,
      above.aligns below = false := by
    intro above ha below _
    obtain rfl : Line.verbatim text = above := by simpa using ha
    rfl
  exact layout_append apart

theorem layout_map_verbatim_append (texts : List Text) (rest : List Line) :
    layout (texts.map .verbatim ++ rest) = texts ++ layout rest := by
  induction texts with
  | nil => rfl
  | cons text texts ih =>
    rw [List.map_cons, List.cons_append, layout_verbatim_cons, ih, List.cons_append]

/-- Lines that are kept as they stand part what is laid out above them from what is laid out
below. -/
theorem layout_append_verbatims (above : List Line) {body : List Text} (hn : body ≠ [])
    (rest : List Line) :
    layout (above ++ (verbatims body ++ rest)) =
      layout above ++ (body.map rawLine ++ layout rest) := by
  obtain ⟨line, body, rfl⟩ := List.exists_cons_of_ne_nil hn
  rw [layout_append, verbatims, layout_map_verbatim_append]
  intro last _ next hnext
  obtain rfl : Line.verbatim (rawLine line) = next := by simpa [verbatims] using hnext
  exact last.aligns_verbatim _

/-! ### Formatting a body -/

section Heredoc

variable {before after body : List Text} {opener closer marker : Text}

/-- A heredoc is open below a line of code that ends in its operator. -/
theorem heredoc_readLine {state : State} (noHeredoc : state.heredoc = none)
    (noComment : state.inComment = false) (opens : EndsInOperator (Text.trim opener) marker) :
    (state.readLine opener).1.heredoc = some marker ∧ (state.readLine opener).2 ≠ .blank := by
  have opened := heredocMarker?_of_endsInOperator opens
  have full : lineText opener ≠ [] := by
    rw [lineText_eq_trim]
    intro empty
    rw [empty] at opened
    exact absurd opened (by simp [heredocMarker?])
  rw [State.readLine_of_code noHeredoc full noComment, lineText_eq_trim]
  exact ⟨opened, ofCode_ne_blank _ _⟩

theorem settledAbove_body {state : State} (hs : stateAfter {} before = state)
    (opened : (state.readLine opener).1.heredoc = some marker)
    (full : (state.readLine opener).2 ≠ .blank) (hb : ∀ line ∈ body, Text.trim line ≠ marker) :
    settledAbove (before ++ opener :: body) =
      settledAbove before ++ (state.readLine opener).2 :: verbatims body := by
  have read : readLines {} (before ++ opener :: body) =
      readLines {} before ++ (state.readLine opener).2 :: verbatims body := by
    rw [readLines_append, hs, readLines, readLines_body opened hb]
  unfold settledAbove collapseBlanks
  rw [read, collapseBlanksAfter_append_cons full, collapseBlanksAfter_verbatims]

/-- A heredoc is left of a snippet as it stands, between what is left above and below it. -/
theorem settledLines_heredoc {snippet : Text} {state : State} (hs : stateAfter {} before = state)
    (h : Text.splitLines snippet = before ++ opener :: (body ++ closer :: after))
    (opened : (state.readLine opener).1.heredoc = some marker) (hm : marker ≠ [])
    (full : (state.readLine opener).2 ≠ .blank) (hb : ∀ line ∈ body, Text.trim line ≠ marker)
    (closes : Text.trim closer = marker) :
    settledLines snippet = (settledAbove before ++ [(state.readLine opener).2]) ++
      (verbatims (body ++ [closer]) ++
        settledBelow ((state.readLine opener).1.readLine closer).1 after) := by
  have lines : Text.splitLines snippet = (before ++ opener :: body) ++ closer :: after := by
    rw [h, List.append_assoc, List.cons_append]
  have inBody : stateAfter {} (before ++ opener :: body) = (state.readLine opener).1 := by
    have step : stateAfter state (opener :: body) = stateAfter (state.readLine opener).1 body := rfl
    rw [stateAfter_append, hs, step, stateAfter_body opened hb]
  have last : ((state.readLine opener).1.readLine closer).2 = .verbatim (rawLine closer) := by
    rw [State.readLine_of_heredoc opened]
  have notEmpty : ((state.readLine opener).1.readLine closer).2.isEmpty = false := by
    apply isEmpty_readLine
    rw [← Bool.not_eq_true, ← Text.trim_eq_nil_iff, closes]
    exact hm
  rw [settledLines_eq_append_cons lines (inBody ▸ notEmpty), inBody, last,
    settledAbove_body hs opened full hb]
  simp [verbatims]

/-- Below a line of code that opens a heredoc, all lines up to and including the first one that
holds the marker alone stay as they are, but for carriage returns at their ends; and whatever lines
stand there, all other lines of the formatted snippet are the same. -/
theorem format_heredoc (oneLine : ∀ line ∈ before ++ opener :: closer :: after, '\n' ∉ line)
    (noHeredoc : (stateAfter {} before).heredoc = none)
    (noComment : (stateAfter {} before).inComment = false)
    (opens : EndsInOperator (Text.trim opener) marker) (closes : Text.trim closer = marker) :
    ∃ above width below, inksOf above = inksOf before ∧ inksOf below = inksOf after ∧
      ∀ body : List Text, (∀ line ∈ body, '\n' ∉ line ∧ Text.trim line ≠ marker) →
        Text.splitLines (format (Text.joinLines (before ++ opener :: (body ++ closer :: after)))) =
          above ++ ((stateAfter {} before).readLine opener).2.write width ::
            ((body ++ [closer]).map rawLine ++ below) := by
  obtain ⟨opened, full⟩ := heredoc_readLine noHeredoc noComment opens
  generalize hs : stateAfter {} before = state at *
  -- What is laid out down to the opening line, and what is laid out below the closing one.
  obtain ⟨above, rest, lines, habove, hrest⟩ := exists_append_of_writtenFor
    (forall₂_layout (settledAbove before ++ [(state.readLine opener).2]))
  obtain ⟨out, none, ⟨width, rfl⟩, hnone, rfl⟩ := List.forall₂_cons_right_iff.mp hrest
  obtain rfl := List.forall₂_nil_right_iff.mp hnone
  have hbelow := forall₂_layout (settledBelow ((state.readLine opener).1.readLine closer).1 after)
  refine ⟨above, width, layout (settledBelow ((state.readLine opener).1.readLine closer).1 after),
    ?_, ?_, fun body hb => ?_⟩
  · rw [inksOf_eq_inks (map_ink_of_writtenFor habove), inks_settledAbove]
  · rw [inksOf_eq_inks (map_ink_of_writtenFor hbelow), inks_settledBelow]
  · have hm : marker ≠ [] := by
      obtain ⟨⟨c, rest, -, -, rfl⟩, -⟩ := opens
      exact List.cons_ne_nil c rest
    have split : Text.splitLines (Text.joinLines (before ++ opener :: (body ++ closer :: after))) =
        before ++ opener :: (body ++ closer :: after) := by
      apply Text.splitLines_joinLines
      · simp
      · simp only [List.forall_mem_append, List.forall_mem_cons] at oneLine ⊢
        exact ⟨oneLine.1, oneLine.2.1, fun line hl => (hb line hl).1, oneLine.2.2⟩
    have settled := settledLines_heredoc hs split opened hm full (fun line hl => (hb line hl).2)
      closes
    have left : settledLines (Text.joinLines (before ++ opener :: (body ++ closer :: after))) ≠
        [] := by simp [settled]
    rw [splitLines_format left, settled, layout_append_verbatims _ (by simp), lines]
    simp

end Heredoc

/-- The lines of a heredoc that look like code, comments, other heredocs and blank lines. -/
def policyBody : List Text :=
  ["\x7d ] a=1".toList, "/* <<X".toList, [], "  ".toList, [], "EOF2\r\r".toList, "b \"$\x7b".toList]

/-- The lines of a policy stay as they are in the attribute that opens a bracket and a comment
too. -/
theorem policyBody_kept :
    (∀ line ∈ ["a \x7b".toList, "x=1".toList] ++ "yy=[ /* <<- EOF".toList :: " EOF\r".toList ::
        ["b = 2 */".toList, "]".toList], '\n' ∉ line) ∧
      (∀ line ∈ policyBody, '\n' ∉ line ∧ Text.trim line ≠ "EOF".toList) ∧
      ∃ above width below,
        inksOf above = inksOf ["a \x7b".toList, "x=1".toList] ∧
        inksOf below = inksOf ["b = 2 */".toList, "]".toList] ∧
        Text.splitLines (format (Text.joinLines (["a \x7b".toList, "x=1".toList] ++
            "yy=[ /* <<- EOF".toList :: (policyBody ++ " EOF\r".toList ::
              ["b = 2 */".toList, "]".toList])))) =
          above ++ (({ depth := 1 } : State).readLine "yy=[ /* <<- EOF".toList).2.write width ::
            ((policyBody ++ [" EOF\r".toList]).map rawLine ++ below) := by
  have oneLine : ∀ line ∈ ["a \x7b".toList, "x=1".toList] ++ "yy=[ /* <<- EOF".toList ::
      " EOF\r".toList :: ["b = 2 */".toList, "]".toList], '\n' ∉ line := by
    decide +kernel
  have inner : ∀ line ∈ policyBody, '\n' ∉ line ∧ Text.trim line ≠ "EOF".toList := by
    decide +kernel
  have opens : EndsInOperator (Text.trim "yy=[ /* <<- EOF".toList) "EOF".toList :=
    ⟨⟨'E', "OF".toList, by decide, List.all_eq_true.mp (by decide), rfl⟩, "yy=[ /* ".toList,
      ['-'], [' '], .inr rfl, List.all_eq_true.mp (by decide), by decide +kernel⟩
  obtain ⟨above, width, below, habove, hbelow, lines⟩ :=
    format_heredoc oneLine (by decide +kernel) (by decide +kernel) opens (by decide +kernel)
  exact ⟨oneLine, inner, above, width, below, habove, hbelow, lines policyBody inner⟩

end ProviderDocs.Snippet
