import ProviderDocs.Proofs.Snippet.Header
import ProviderDocs.Snippet.Format

/-!
# Reading a line that was written

Whatever a line is read as, the line that is written for it is read as the same, at every width and
with the same effect on the lines below (`readLine_write`).  The white space that writing changes
stands around the sign of an attribute, before the brace of a header and at the ends of a line, and
nothing that is read depends on it (`Alike`).
-/

namespace ProviderDocs.Snippet

/-- Two texts are read as the same line of code, with the same effect on the lines below. -/
structure Alike (t u : Text) : Prop where
  balance : balance t = balance u
  marker : heredocMarker? t = heredocMarker? u
  closers : leadingClosers t = leadingClosers u
  line : ∀ indent, Line.ofCode indent t = Line.ofCode indent u

theorem Alike.refl (t : Text) : Alike t t :=
  ⟨rfl, rfl, rfl, fun _ => rfl⟩

theorem Alike.symm {t u : Text} (h : Alike t u) : Alike u t :=
  ⟨h.balance.symm, h.marker.symm, h.closers.symm, fun indent => (h.line indent).symm⟩

/-! ### Lines that show one attribute -/

theorem isKeyChar_of_isNameStart {c : Char} (h : isNameStart c = true) : isKeyChar c = true := by
  rw [isKeyChar, isNameChar_of_isNameStart h, Bool.true_or]

theorem toNat_bounds_of_isKeyChar {c : Char} (h : isKeyChar c = true) :
    45 ≤ c.toNat ∧ c.toNat ≤ 122 := by
  -- The least of these characters is the hyphen and the greatest one is `z`.
  have ranges : c.isAlphanum = ((decide (c.val ≥ 65 ∧ c.val ≤ 90) ||
      decide (c.val ≥ 97) && decide (c.val ≤ 122)) ||
      decide (c.val ≥ 48) && decide (c.val ≤ 57)) := rfl
  simp only [isKeyChar, isNameChar, ranges, Bool.or_eq_true, Bool.and_eq_true, decide_eq_true_eq,
    beq_iff_eq, ge_iff_le, UInt32.le_iff_toNat_le] at h
  rcases h with ((((h | h) | h) | rfl) | rfl)
  · exact ⟨le_trans (by decide) h.1, le_trans h.2 (by decide)⟩
  · exact ⟨le_trans (by decide) h.1, le_trans h.2 (by decide)⟩
  · exact ⟨le_trans (by decide) h.1, le_trans h.2 (by decide)⟩
  · decide
  · decide

theorem isSpace_of_isKeyChar {c : Char} (h : isKeyChar c = true) : isSpace c = false := by
  have := toNat_bounds_of_isKeyChar h
  simp only [isSpace, Bool.or_eq_false_iff, Bool.and_eq_false_iff, decide_eq_false_iff_not,
    beq_eq_false_iff_ne]
  omega

theorem isCloser_of_isKeyChar {c : Char} (h : isKeyChar c = true) : isCloser c = false := by
  by_contra hc
  simp only [isCloser, Bool.not_eq_false, Bool.or_eq_true, beq_iff_eq] at hc
  rcases hc with (rfl | rfl) | rfl <;> exact absurd h (by decide)

theorem looksAhead_of_isKeyChar {c : Char} (h : isKeyChar c = true) : looksAhead c = false := by
  by_contra hc
  simp only [looksAhead, Bool.not_eq_false, Bool.or_eq_true, beq_iff_eq] at hc
  rcases hc with (((rfl | rfl) | rfl) | rfl) | rfl <;> exact absurd h (by decide)

namespace IsKey

variable {key : Text} (h : IsKey key)
include h

theorem ne_nil : key ≠ [] := by
  cases h <;> simp

/-- A key begins with a quote or with a character that keys go on with. -/
theorem head : ∀ c ∈ key.head?, c = '"' ∨ isKeyChar c = true := by
  intro c hc
  cases h with
  | quoted => exact .inl (by simpa using hc.symm)
  | @name d rest hd =>
    obtain rfl : d = c := by simpa using hc
    exact .inr (isKeyChar_of_isNameStart hd)

/-- A key ends in a quote or in a character that keys go on with. -/
theorem last : ∀ c ∈ key.getLast?, c = '"' ∨ isKeyChar c = true := by
  intro c hc
  cases h with
  | quoted =>
    rw [List.getLast?_append_of_ne_nil _ (by simp)] at hc
    exact .inl (by simpa using hc.symm)
  | @name d rest hd hr =>
    rcases List.mem_cons.mp (List.mem_of_mem_getLast? hc) with rfl | hm
    · exact .inr (isKeyChar_of_isNameStart hd)
    · exact .inr (hr c hm)

theorem endsWhole : EndsWhole key := by
  intro c hc
  rcases h.last c hc with rfl | hk
  · decide
  · exact looksAhead_of_isKeyChar hk

end IsKey

namespace Attribute

variable {attr : Attribute} {line line' : Text}

theorem balance_eq_of_shows (hw : attr.WellFormed) (hs : attr.Shows line)
    (hs' : attr.Shows line') : balance line = balance line' := by
  -- Behind the key stands only what changes nothing, up to the value.
  have plain {gap after : Text} (hg : ∀ c ∈ gap, isSpaceOrTab c = true)
      (ha : ∀ c ∈ after, isSpaceOrTab c = true) (enclosures : List Enclosure) :
      balanceFrom enclosures (gap ++ '=' :: after ++ attr.value) =
        balanceFrom enclosures attr.value := by
    apply balanceFrom_append_of_isPlain
    intro c hc
    rcases List.mem_append.mp hc with hc | hc
    · exact isPlain_of_isSpace (isSpace_of_isSpaceOrTab (hg c hc))
    · rcases List.mem_cons.mp hc with rfl | hc
      · decide
      · exact isPlain_of_isSpace (isSpace_of_isSpaceOrTab (ha c hc))
  obtain ⟨gap, after, hg, ha, rfl⟩ := hs
  obtain ⟨gap', after', hg', ha', rfl⟩ := hs'
  have := balanceFrom_append_congr hw.key.endsWhole
    (fun enclosures => (plain hg ha enclosures).trans (plain hg' ha' enclosures).symm) []
  simpa [balance, List.append_assoc] using this

theorem heredocMarker?_of_shows (hs : attr.Shows line) :
    heredocMarker? line = heredocMarker? attr.value := by
  obtain ⟨gap, after, -, ha, rfl⟩ := hs
  rw [List.append_assoc, List.cons_append, heredocMarker?_append_cons (by decide) (by decide)]
  apply heredocMarker?_append
  intro hm
  exact absurd (ha _ hm) (by decide)

theorem leadingClosers_of_shows (hw : attr.WellFormed) (hs : attr.Shows line) :
    leadingClosers line = 0 := by
  obtain ⟨gap, after, -, -, rfl⟩ := hs
  obtain ⟨c, rest, hk⟩ := List.exists_cons_of_ne_nil hw.key.ne_nil
  have closer : isCloser c = false := by
    rcases hw.key.head c (by simp [hk]) with rfl | hc
    · decide
    · exact isCloser_of_isKeyChar hc
  simp [leadingClosers, hk, closer]

theorem alike_of_shows (hw : attr.WellFormed) (hs : attr.Shows line) (hs' : attr.Shows line') :
    Alike line line' where
  balance := balance_eq_of_shows hw hs hs'
  marker := (heredocMarker?_of_shows hs).trans (heredocMarker?_of_shows hs').symm
  closers := (leadingClosers_of_shows hw hs).trans (leadingClosers_of_shows hw hs').symm
  line indent := by
    simp only [Line.ofCode, ofLine?_of_shows hw hs, ofLine?_of_shows hw hs',
      balance_eq_of_shows hw hs hs']

theorem WellFormed.trimmed_write (hw : attr.WellFormed) (width : Nat) :
    Text.Trimmed (attr.write width) := by
  rw [hw.write_eq]
  constructor
  · intro c hc
    rw [List.append_assoc, List.append_assoc, List.head?_append_of_ne_nil _ hw.key.ne_nil] at hc
    rcases hw.key.head c hc with rfl | hk
    · decide
    · exact isSpace_of_isKeyChar hk
  · intro c hc
    split_ifs at hc with hv
    · obtain rfl : '=' = c := by simpa [hv] using hc
      decide
    · apply hw.last
      rwa [List.getLast?_append_of_ne_nil _ hv] at hc

end Attribute

/-! ### Lines that end in a header and a brace -/

theorem EndsBlockName.alike {head gap gap' : Text} (h : EndsBlockName head)
    (hg : ∀ c ∈ gap, isSpace c = true) (hg' : ∀ c ∈ gap', isSpace c = true)
    (ht : Attribute.ofLine? (head ++ gap ++ ['{']) = none) :
    Alike (head ++ gap ++ ['{']) (head ++ gap' ++ ['{']) where
  balance := (h.balance_append hg).trans (h.balance_append hg').symm
  marker := by rw [heredocMarker?_append_brace, heredocMarker?_append_brace]
  closers := by
    rw [List.append_assoc, List.append_assoc, h.leadingClosers_append, h.leadingClosers_append]
  line indent := by
    have ht' : Attribute.ofLine? (head ++ gap' ++ ['{']) = none := by
      by_contra hs
      obtain ⟨attr, hs⟩ := Option.ne_none_iff_exists'.mp hs
      obtain ⟨attr', hs'⟩ := h.exists_ofLine?_append hg' gap hs
      rw [ht] at hs'
      exact absurd hs' (by simp)
    simp only [Line.ofCode, ht, ht', h.spaceHeader_append hg, h.spaceHeader_append hg']

/-! ### Writing -/

/-- The line of code that is written for a text is read as the text is, and its white space at the
start is its indentation. -/
theorem exists_write_ofCode {t : Text} (ht : Text.Trimmed t) (hn : t ≠ []) (indent width : Nat) :
    ∃ u, (Line.ofCode indent t).write width = indentation indent ++ u ∧ Text.Trimmed u ∧ u ≠ [] ∧
      Alike u t := by
  cases hs : Attribute.ofLine? t with
  | some attr =>
    obtain ⟨hw, shows⟩ := Attribute.shows_of_ofLine? hs ht.last
    -- The line shows the attribute as the text does, in a column or out of it.
    have written (w : Nat) : Text.Trimmed (attr.write w) ∧ attr.write w ≠ [] ∧
        Alike (attr.write w) t := by
      refine ⟨hw.trimmed_write w, ?_, Attribute.alike_of_shows hw (hw.shows_write w) shows⟩
      simp [hw.write_eq]
    by_cases hb : (balance t).delta = 0 ∧ (balance t).opensComment = false
    · exact ⟨attr.write width, by simp [Line.ofCode, hs, hb, Line.write], written width⟩
    · exact ⟨attr.write 0, by simp only [Line.ofCode, hs, if_neg hb, Line.write], written 0⟩
  | none =>
    -- A line that shows no attribute changes at most before the brace at its end.
    have line : (Line.ofCode indent t).write width = indentation indent ++ spaceHeader t := by
      simp only [Line.ofCode, hs, Line.write]
    refine ⟨spaceHeader t, line, ?_⟩
    rcases spaceHeader_cases t with h | ⟨head, gap, hb, hg, rfl, h⟩
    · rw [h]
      exact ⟨ht, hn, .refl t⟩
    · rw [h]
      refine ⟨⟨?_, ?_⟩, by simp, ?_⟩
      · intro c hc
        apply ht.head
        rw [List.head?_append_of_ne_nil _ hb.ne_nil] at hc
        rwa [List.append_assoc, List.head?_append_of_ne_nil _ hb.ne_nil]
      · intro c hc
        obtain rfl : '{' = c := by simpa using hc
        decide
      · have space : ∀ c ∈ [' '], isSpace c = true := by simp; decide
        have alike := (hb.alike hg space hs).symm
        rwa [List.append_assoc] at alike

/-! ### Reading -/

theorem ofCode_ne_blank (indent : Nat) (t : Text) : Line.ofCode indent t ≠ .blank := by
  unfold Line.ofCode
  split
  · simp
  · dsimp only
    split_ifs <;> simp

/-- A line without the carriage returns at its end. -/
def rawLine (line : Text) : Text :=
  Text.trimEndWhere (· == '\r') line

/-- What is on a line, without white space around it. -/
def lineText (line : Text) : Text :=
  Text.trim (rawLine line)

namespace State

variable {state : State} {line : Text}

theorem readLine_of_heredoc {marker : Text} (h : state.heredoc = some marker) :
    state.readLine line =
      ({ state with heredoc := if lineText line = marker then none else some marker },
        .verbatim (rawLine line)) := by
  unfold lineText rawLine
  simp only [readLine, h]

theorem readLine_of_blank (h : state.heredoc = none) (ht : lineText line = []) :
    state.readLine line = (state, .blank) := by
  unfold lineText rawLine at ht
  simp only [readLine, h, ht, if_true]

theorem readLine_of_inComment (h : state.heredoc = none) (ht : lineText line ≠ [])
    (hc : state.inComment = true) :
    state.readLine line =
      ({ state with inComment := !closesComment (lineText line) },
        .code state.depth (lineText line)) := by
  unfold lineText rawLine at ht ⊢
  simp only [readLine, h, if_neg ht, hc, if_true]

theorem readLine_of_code (h : state.heredoc = none) (ht : lineText line ≠ [])
    (hc : state.inComment = false) :
    state.readLine line =
      ({ depth := (state.depth + (balance (lineText line)).delta).toNat
         heredoc := heredocMarker? (lineText line)
         inComment := (balance (lineText line)).opensComment },
        Line.ofCode (state.depth - leadingClosers (lineText line)) (lineText line)) := by
  unfold lineText rawLine at ht ⊢
  simp only [readLine, h, if_neg ht, hc, Bool.false_eq_true, if_false]

/-- A line is read as one of a heredoc, as blank, as one of a comment, or as code. -/
theorem readLine_cases (state : State) (line : Text) :
    (∃ marker, state.heredoc = some marker ∧ state.readLine line =
        ({ state with heredoc := if lineText line = marker then none else some marker },
          .verbatim (rawLine line))) ∨
      (state.heredoc = none ∧ lineText line = [] ∧ state.readLine line = (state, .blank)) ∨
      (state.heredoc = none ∧ lineText line ≠ [] ∧ state.inComment = true ∧
        state.readLine line = ({ state with inComment := !closesComment (lineText line) },
          .code state.depth (lineText line))) ∨
      state.heredoc = none ∧ lineText line ≠ [] ∧ state.inComment = false ∧
        state.readLine line =
          ({ depth := (state.depth + (balance (lineText line)).delta).toNat
             heredoc := heredocMarker? (lineText line)
             inComment := (balance (lineText line)).opensComment },
            Line.ofCode (state.depth - leadingClosers (lineText line)) (lineText line)) := by
  by_cases hh : state.heredoc = none
  · by_cases ht : lineText line = []
    · exact .inr (.inl ⟨hh, ht, readLine_of_blank hh ht⟩)
    · rcases Bool.eq_false_or_eq_true state.inComment with hc | hc
      · exact .inr (.inr (.inl ⟨hh, ht, hc, readLine_of_inComment hh ht hc⟩))
      · exact .inr (.inr (.inr ⟨hh, ht, hc, readLine_of_code hh ht hc⟩))
  · obtain ⟨marker, hh⟩ := Option.ne_none_iff_exists'.mp hh
    exact .inl ⟨marker, hh, readLine_of_heredoc hh⟩

end State

theorem rawLine_rawLine (line : Text) : rawLine (rawLine line) = rawLine line :=
  Text.trimEndWhere_trimEndWhere _ _

theorem trimmed_lineText (line : Text) : Text.Trimmed (lineText line) :=
  Text.trimmed_trim _

theorem lineText_eq_trim (line : Text) : lineText line = Text.trim line := by
  obtain ⟨gap, hg, he⟩ := Text.exists_trimEndWhere_append (· == '\r') line
  have spaces : ∀ c ∈ gap, isSpace c = true := by
    intro c hc
    rw [beq_iff_eq.mp (hg c hc)]
    rfl
  conv_rhs => rw [← he, Text.trim_append_right _ spaces]
  rfl

/-- The text of a line of code is left when its indentation is taken away. -/
theorem lineText_indentation_append {t : Text} (ht : Text.Trimmed t) (level : Nat) :
    lineText (indentation level ++ t) = t := by
  have spaces : ∀ c ∈ indentation level, isSpace c = true := by
    intro c hc
    rw [List.eq_of_mem_replicate hc]
    rfl
  rw [lineText_eq_trim]
  exact Text.trim_append_of_trimmed spaces ht

/-- The line that is written for a line that was read is read as the same line, whatever the width
of its column, and leaves the same state behind. -/
theorem readLine_write (state : State) (line : Text) (width : Nat) :
    state.readLine ((state.readLine line).2.write width) = state.readLine line := by
  have trimmed := trimmed_lineText line
  rcases state.readLine_cases line with ⟨marker, hh, read⟩ | ⟨hh, ht, read⟩ | ⟨hh, ht, hc, read⟩ |
    ⟨hh, ht, hc, read⟩
  · have text : lineText (rawLine line) = lineText line := by
      rw [lineText, rawLine_rawLine, lineText]
    rw [read]
    show state.readLine (rawLine line) = _
    rw [State.readLine_of_heredoc hh, text, rawLine_rawLine]
  · rw [read]
    exact State.readLine_of_blank hh rfl
  · have text := lineText_indentation_append trimmed state.depth
    rw [read]
    show state.readLine (indentation state.depth ++ lineText line) = _
    rw [State.readLine_of_inComment hh (by rwa [text]) hc, text]
  · obtain ⟨u, hu, hut, hun, alike⟩ := exists_write_ofCode trimmed ht
      (state.depth - leadingClosers (lineText line)) width
    have text := lineText_indentation_append hut
      (state.depth - leadingClosers (lineText line))
    rw [read, hu, State.readLine_of_code hh (by rwa [text]) hc, text, alike.balance,
      alike.marker, alike.closers, alike.line]

end ProviderDocs.Snippet
