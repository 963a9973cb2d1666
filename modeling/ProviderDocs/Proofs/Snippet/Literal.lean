import ProviderDocs.Proofs.Snippet.Lines
import ProviderDocs.Proofs.Snippet.Place

/-!
# String literals of a snippet

A string literal that begins and ends on one line (`IsLiteral`) is kept character for character,
wherever it stands on the line, unless the key of an attribute ends within it
(`keeps_literal_iff`).  Formatting changes a line in three places only: at its ends, before the
brace of a header, and around the sign of an attribute (`lineText_write_ofCode`).  A literal begins
and ends with a quote, so that nothing of it stands at the ends of the line or before the brace
(`showsAt_lineText_iff`, `showsAt_spaceHeader`).  The sign of an attribute can stand within it: a
key between quotes ends at the first quote, also where that quote is hidden by a backslash or begins
another literal in an interpolation (`Attribute.showsAt_iff`).
-/

namespace ProviderDocs.Snippet

open Text (ink)

/-! ### Literals -/

/-- What encloses a place is closed at the end of a text, and not before. -/
def Place.closes (p : Place) : Text → Bool
  | [] => p.isOutside
  | c :: rest => !p.isOutside && (p.next c).closes rest

/-- A string literal: a quote, and what follows up to the quote that closes it, with backslashes and
interpolations read as in the balance of a line. -/
def IsLiteral (lit : Text) : Prop :=
  ∃ inner, lit = '"' :: (inner ++ ['"']) ∧ (Place.within [.string]).closes (inner ++ ['"']) = true

/-- A line holds a literal, between texts that show the same as those on another line. -/
def ShowsAt (line u lit v : Text) : Prop :=
  ∃ x y, line = x ++ lit ++ y ∧ ink x = ink u ∧ ink y = ink v

/-- A line is read as an attribute whose key ends behind the beginning and before the end of the
literal that stands after `u` on the line. -/
def KeyEndsWithin (line u lit : Text) : Prop :=
  ∃ attr, Attribute.ofLine? (lineText line) = some attr ∧
    (u.dropWhile isSpace).length < attr.key.length ∧
    attr.key.length < (u.dropWhile isSpace).length + lit.length

theorem isSpace_quote : isSpace '"' = false := rfl

/-- Texts with the same ink before a character of it are the same beginning. -/
theorem append_cons_inj_of_ink {x y s t : Text} {a b : Char} (h : x ++ a :: s = y ++ b :: t)
    (ha : isSpace a = false) (hb : isSpace b = false) (hi : ink x = ink y) :
    x = y ∧ a = b ∧ s = t := by
  apply append_cons_inj_of_countP (p := fun c => !isSpace c) h (by simp [ha]) (by simp [hb])
  rw [List.countP_eq_length_filter, List.countP_eq_length_filter]
  exact congrArg List.length hi

theorem ShowsAt.congr {line u u' lit v v' : Text} (h : ShowsAt line u lit v) (hu : ink u = ink u')
    (hv : ink v = ink v') : ShowsAt line u' lit v' := by
  obtain ⟨x, y, rfl, hx, hy⟩ := h
  exact ⟨x, y, rfl, hx.trans hu, hy.trans hv⟩

/-! ### The ends of a line -/

/-- The white space at the ends of a line does not stand in its literals. -/
theorem lineText_append_literal (u inner v : Text) :
    lineText (u ++ '"' :: (inner ++ ['"']) ++ v) =
      u.dropWhile isSpace ++ '"' :: (inner ++ ['"']) ++ Text.trimEnd v := by
  have start : (u ++ '"' :: (inner ++ ['"']) ++ v).dropWhile isSpace =
      u.dropWhile isSpace ++ '"' :: (inner ++ ['"']) ++ v := by
    rw [List.append_assoc, List.dropWhile_append, List.append_assoc]
    split_ifs with h
    · rw [List.isEmpty_iff.mp h]
      rfl
    · rfl
  rw [lineText_eq_trim, Text.trim, Text.trimWhere, start]
  obtain ⟨gap, hg, he⟩ := Text.exists_trimEndWhere_append isSpace v
  conv_lhs => rw [← he, ← List.append_assoc, Text.trimEndWhere_append_of_all _ hg]
  rw [Text.trimEnd, Text.trimEndWhere_eq_self_iff]
  intro c hc
  rcases eq_or_ne (Text.trimEndWhere isSpace v) [] with hv | hv
  · rw [hv, List.append_nil, ← List.cons_append, ← List.append_assoc,
      List.getLast?_concat] at hc
    obtain rfl : '"' = c := by simpa using hc
    rfl
  · rw [List.getLast?_append_of_ne_nil _ hv] at hc
    exact Text.trimEndWhere_eq_self_iff.mp (Text.trimEndWhere_trimEndWhere _ _) c hc

theorem showsAt_lineText_iff {lit : Text} (hl : IsLiteral lit) (out u v : Text) :
    ShowsAt (lineText out) u lit v ↔ ShowsAt out u lit v := by
  obtain ⟨inner, rfl, -⟩ := hl
  constructor
  · rintro ⟨x, y, hxy, hx, hy⟩
    obtain ⟨before, after, hb, ha, he⟩ := Text.exists_trim_append out
    refine ⟨before ++ x, y ++ after, ?_, ?_, ?_⟩
    · rw [← lineText_eq_trim, hxy] at he
      simp [← he]
    · rw [Text.ink_append, Text.ink_eq_nil_of_all hb, hx, List.nil_append]
    · rw [Text.ink_append, Text.ink_eq_nil_of_all ha, hy, List.append_nil]
  · rintro ⟨x, y, rfl, hx, hy⟩
    refine ⟨_, _, lineText_append_literal x inner y, ?_, ?_⟩
    · rw [Text.ink_dropWhile (fun _ h => h), hx]
    · rw [Text.trimEnd, Text.ink_trimEndWhere (fun _ h => h), hy]

/-! ### The brace of a header -/

/-- Between a header and its brace there is no quote. -/
theorem showsAt_spaceHeader {u lit v : Text} (hl : IsLiteral lit) :
    ShowsAt (spaceHeader (u ++ lit ++ v)) u lit v := by
  obtain ⟨inner, rfl, -⟩ := hl
  rcases spaceHeader_cases (u ++ '"' :: (inner ++ ['"']) ++ v) with
    h | ⟨head, gap, -, hg, line, h⟩
  · rw [h]
    exact ⟨u, v, rfl, rfl, rfl⟩
  · have noQuote : '"' ∉ gap ++ ['{'] := by
      intro hm
      rcases List.mem_append.mp hm with hm | hm
      · exact absurd (hg _ hm) (by decide)
      · exact absurd hm (by decide)
    have parts : head ++ (gap ++ ['{']) = (u ++ '"' :: inner) ++ '"' :: v := by
      simpa using line.symm
    obtain ⟨w, rfl, rfl⟩ := exists_append_of_notMem_right noQuote parts
    refine ⟨u, w ++ [' ', '{'], h.trans (by simp), rfl, ?_⟩
    rw [Text.ink_append, Text.ink_append, Text.ink_append, Text.ink_eq_nil_of_all hg]
    rfl

/-! ### The sign of an attribute -/

/-- The sign of an attribute, with the spaces and tabs around it. -/
def IsSign (sign : Text) : Prop :=
  ∃ gap after : Text, (∀ c ∈ gap, isSpaceOrTab c = true) ∧ (∀ c ∈ after, isSpaceOrTab c = true) ∧
    sign = gap ++ '=' :: after

theorem takeWhile_append_of_head? {gap rest : Text} (hg : ∀ c ∈ gap, isSpaceOrTab c = true)
    (hr : ∀ c ∈ rest.head?, isSpaceOrTab c = false) :
    (gap ++ rest).takeWhile isSpaceOrTab = gap := by
  rw [List.takeWhile_append_of_pos hg]
  cases rest with
  | nil => simp
  | cons c rest => simp [hr c rfl]

namespace IsSign

variable {sign sign' : Text}

theorem quote_notMem (h : IsSign sign) : '"' ∉ sign := by
  obtain ⟨gap, after, hg, ha, rfl⟩ := h
  intro hm
  rcases List.mem_append.mp hm with hm | hm
  · exact absurd (hg _ hm) (by decide)
  · rcases List.mem_cons.mp hm with hm | hm
    · exact absurd hm (by decide)
    · exact absurd (ha _ hm) (by decide)

theorem ink_eq (h : IsSign sign) : ink sign = ['='] := by
  obtain ⟨gap, after, hg, ha, rfl⟩ := h
  rw [Text.ink_append, Text.ink_cons_of_ne rfl,
    Text.ink_eq_nil_of_all fun c hc => isSpace_of_isSpaceOrTab (hg c hc),
    Text.ink_eq_nil_of_all fun c hc => isSpace_of_isSpaceOrTab (ha c hc)]
  rfl

/-- What follows a sign tells where it ends. -/
theorem append_inj (h : IsSign sign) (h' : IsSign sign') {w w' : Text}
    (hw : ∀ c ∈ w.head?, isSpaceOrTab c = false) (hw' : ∀ c ∈ w'.head?, isSpaceOrTab c = false)
    (he : sign ++ w = sign' ++ w') : sign = sign' := by
  obtain ⟨gap, after, hg, ha, rfl⟩ := h
  obtain ⟨gap', after', hg', ha', rfl⟩ := h'
  rw [List.append_assoc, List.cons_append, List.append_assoc, List.cons_append] at he
  have equals {rest : Text} : ∀ c ∈ ('=' :: rest).head?, isSpaceOrTab c = false := by
    intro c hc
    obtain rfl : '=' = c := by simpa using hc
    rfl
  have gaps : gap = gap' := by
    rw [← takeWhile_append_of_head? hg equals, he, takeWhile_append_of_head? hg' equals]
  subst gaps
  obtain ⟨-, rest⟩ := List.cons.inj (List.append_cancel_left he)
  have afters : after = after' := by
    rw [← takeWhile_append_of_head? ha hw, rest, takeWhile_append_of_head? ha' hw']
  rw [afters]

end IsSign

namespace Attribute

variable {attr : Attribute} {t t' u lit v : Text}

theorem Shows.exists_sign (h : attr.Shows t) :
    ∃ sign, IsSign sign ∧ t = attr.key ++ (sign ++ attr.value) := by
  obtain ⟨gap, after, hg, ha, rfl⟩ := h
  exact ⟨gap ++ '=' :: after, ⟨gap, after, hg, ha, rfl⟩, by simp⟩

/-- A literal within the key is kept. -/
theorem showsAt_of_length_le (hs : attr.Shows (u ++ lit ++ v)) (hs' : attr.Shows t')
    (h : u.length + lit.length ≤ attr.key.length) : ShowsAt t' u lit v := by
  obtain ⟨sign, hsign, line⟩ := hs.exists_sign
  obtain ⟨sign', hsign', rfl⟩ := hs'.exists_sign
  obtain ⟨k, hk⟩ := List.prefix_of_prefix_length_le ⟨v, rfl⟩ ⟨_, line.symm⟩
    (by rwa [List.length_append])
  rw [← hk, List.append_assoc] at line ⊢
  rw [List.append_assoc, List.append_assoc, List.append_cancel_left_eq,
    List.append_cancel_left_eq] at line
  refine ⟨u, k ++ (sign' ++ attr.value), by simp, rfl, ?_⟩
  rw [line, Text.ink_append, Text.ink_append, Text.ink_append, Text.ink_append, hsign.ink_eq,
    hsign'.ink_eq]

/-- A literal behind the key stands behind the sign, and is kept. -/
theorem showsAt_of_le_length (hl : IsLiteral lit) (hs : attr.Shows (u ++ lit ++ v))
    (hs' : attr.Shows t') (h : attr.key.length ≤ u.length) : ShowsAt t' u lit v := by
  obtain ⟨sign, hsign, line⟩ := hs.exists_sign
  obtain ⟨sign', hsign', rfl⟩ := hs'.exists_sign
  obtain ⟨inner, rfl, -⟩ := hl
  rw [List.append_assoc] at line
  obtain ⟨w, rfl⟩ := List.prefix_of_prefix_length_le ⟨_, line.symm⟩ ⟨_, rfl⟩ h
  rw [List.append_assoc, List.append_cancel_left_eq] at line
  obtain ⟨w, rfl, value⟩ := exists_append_of_notMem_left hsign.quote_notMem line.symm
  refine ⟨attr.key ++ (sign' ++ w), v, by simp [value], ?_, rfl⟩
  rw [Text.ink_append, Text.ink_append, Text.ink_append, Text.ink_append, hsign.ink_eq,
    hsign'.ink_eq]

/-- What stands between the key and the closing quote of a literal begins with the sign. -/
theorem WellFormed.exists_of_append_quote (hw : attr.WellFormed) {sign m rest : Text}
    (hsign : IsSign sign) (h : sign ++ attr.value = m ++ '"' :: rest) :
    ∃ w, m ++ ['"'] = sign ++ w ∧ ∀ c ∈ w.head?, isSpaceOrTab c = false := by
  obtain ⟨w, rfl, value⟩ := exists_append_of_notMem_left hsign.quote_notMem h
  refine ⟨w ++ ['"'], List.append_assoc _ _ _, fun c hc => (hw.head c ?_).1⟩
  rw [value, ← List.singleton_append, ← List.append_assoc,
    List.head?_append_of_ne_nil _ (by simp)]
  exact hc

/-- A key that ends between the quotes of a literal is made of what stands before the literal, the
opening quote and a part of what stands between the quotes. -/
theorem exists_parts_of_key {key inner rest : Text}
    (h : u ++ '"' :: (inner ++ ['"']) ++ v = key ++ rest) (begins : u.length < key.length)
    (ends : key.length < u.length + ('"' :: (inner ++ ['"'])).length) :
    ∃ k m, key = u ++ '"' :: k ∧ inner = k ++ m ∧ rest = m ++ '"' :: v := by
  obtain ⟨k, hk⟩ : u ++ ['"'] <+: key := by
    refine List.prefix_of_prefix_length_le ⟨inner ++ ['"'] ++ v, by simp⟩ ⟨_, h.symm⟩ ?_
    rwa [List.length_append, List.length_singleton, Nat.succ_le_iff]
  obtain ⟨m, hm⟩ : key <+: u ++ '"' :: inner := by
    refine List.prefix_of_prefix_length_le ⟨_, h.symm⟩ ⟨'"' :: v, by simp⟩ ?_
    simp only [List.length_append, List.length_cons, List.length_nil] at ends ⊢
    omega
  refine ⟨k, m, by simp [← hk], ?_, ?_⟩
  · rw [← hk] at hm
    simpa using hm.symm
  · rw [← List.append_cancel_left_eq key, ← h, ← List.append_assoc, hm]
    simp

/-- A literal in which the key ends is kept only if the white space around the sign is. -/
theorem eq_of_showsAt (hw : attr.WellFormed) (hl : IsLiteral lit)
    (hs : attr.Shows (u ++ lit ++ v)) (hs' : attr.Shows t') (begins : u.length < attr.key.length)
    (ends : attr.key.length < u.length + lit.length) (h : ShowsAt t' u lit v) :
    t' = u ++ lit ++ v := by
  obtain ⟨sign, hsign, line⟩ := hs.exists_sign
  obtain ⟨sign', hsign', rfl⟩ := hs'.exists_sign
  obtain ⟨inner, rfl, -⟩ := hl
  obtain ⟨k, m, hk, rfl, value⟩ := exists_parts_of_key line begins ends
  -- In the other line the literal begins at the same place, and so with the same part of the key.
  obtain ⟨x, y, line', hx, -⟩ := h
  have value' : sign' ++ attr.value = m ++ '"' :: y := by
    have quotes : u ++ '"' :: (k ++ (sign' ++ attr.value)) =
        x ++ '"' :: (k ++ (m ++ '"' :: y)) := by
      simpa [hk] using line'
    obtain ⟨-, -, rest⟩ := append_cons_inj_of_ink quotes isSpace_quote isSpace_quote hx.symm
    exact List.append_cancel_left rest
  obtain ⟨w, hw₁, hw₂⟩ := hw.exists_of_append_quote hsign value
  obtain ⟨w', hw₁', hw₂'⟩ := hw.exists_of_append_quote hsign' value'
  rw [line, hsign.append_inj hsign' hw₂ hw₂' (hw₁.symm.trans hw₁')]

theorem showsAt_iff (hw : attr.WellFormed) (hl : IsLiteral lit)
    (hs : attr.Shows (u ++ lit ++ v)) (hs' : attr.Shows t') :
    ShowsAt t' u lit v ↔
      (u.length < attr.key.length ∧ attr.key.length < u.length + lit.length →
        t' = u ++ lit ++ v) := by
  constructor
  · rintro h ⟨begins, ends⟩
    exact eq_of_showsAt hw hl hs hs' begins ends h
  · intro h
    rcases lt_or_ge u.length attr.key.length with begins | behind
    · rcases lt_or_ge attr.key.length (u.length + lit.length) with ends | before
      · exact ⟨u, v, h ⟨begins, ends⟩, rfl, rfl⟩
      · exact showsAt_of_length_le hs hs' before
    · exact showsAt_of_le_length hl hs hs' behind

end Attribute

/-! ### Lines that are written -/

/-- What is written for a text of code: the attribute that is read off it, or else the text itself,
with one space before the brace of a header. -/
theorem lineText_write_ofCode {t : Text} (ht : Text.Trimmed t) (hn : t ≠ []) (indent width : Nat) :
    (∃ attr w, Attribute.ofLine? t = some attr ∧
      lineText ((Line.ofCode indent t).write width) = attr.write w) ∨
    (Attribute.ofLine? t = none ∧
      lineText ((Line.ofCode indent t).write width) = spaceHeader t) := by
  obtain ⟨u, hu, hut, hun, -⟩ := exists_write_ofCode ht hn indent width
  rw [hu, lineText_indentation_append hut]
  cases hs : Attribute.ofLine? t with
  | none =>
    have line : (Line.ofCode indent t).write width = indentation indent ++ spaceHeader t := by
      simp only [Line.ofCode, hs, Line.write]
    exact .inr ⟨rfl, List.append_cancel_left (hu.symm.trans line)⟩
  | some attr =>
    left
    by_cases hb : (balance t).delta = 0 ∧ (balance t).opensComment = false
    · have line : (Line.ofCode indent t).write width = indentation indent ++ attr.write width := by
        simp only [Line.ofCode, hs, if_pos hb, Line.write]
      exact ⟨attr, width, rfl, List.append_cancel_left (hu.symm.trans line)⟩
    · have line : (Line.ofCode indent t).write width = indentation indent ++ attr.write 0 := by
        simp only [Line.ofCode, hs, if_neg hb, Line.write]
      exact ⟨attr, 0, rfl, List.append_cancel_left (hu.symm.trans line)⟩

/-- A line of a heredoc or of a comment is written with its text as it is. -/
theorem lineText_write_of_not_code {state : State} {line : Text} (full : lineText line ≠ [])
    (h : state.heredoc ≠ none ∨ state.inComment = true) (width : Nat) :
    lineText ((state.readLine line).2.write width) = lineText line := by
  cases hh : state.heredoc with
  | some marker =>
    rw [State.readLine_of_heredoc hh]
    show lineText (rawLine line) = lineText line
    rw [lineText, rawLine_rawLine, lineText]
  | none =>
    have inComment := h.resolve_left (fun other => other hh)
    rw [State.readLine_of_inComment hh full inComment]
    exact lineText_indentation_append (trimmed_lineText line) state.depth

/-- A literal on a line is shown by the line that is written for it, unless the key of an attribute
ends within it and the line is changed. -/
theorem showsAt_write_iff (state : State) {u lit v : Text} (hl : IsLiteral lit) (width : Nat) :
    ShowsAt ((state.readLine (u ++ lit ++ v)).2.write width) u lit v ↔
      (KeyEndsWithin (u ++ lit ++ v) u lit →
        lineText ((state.readLine (u ++ lit ++ v)).2.write width) = lineText (u ++ lit ++ v)) := by
  have text : lineText (u ++ lit ++ v) = u.dropWhile isSpace ++ lit ++ Text.trimEnd v := by
    obtain ⟨inner, rfl, -⟩ := hl
    exact lineText_append_literal u inner v
  have full : lineText (u ++ lit ++ v) ≠ [] := by
    obtain ⟨inner, rfl, -⟩ := hl
    rw [text]
    simp
  have hu : ink (u.dropWhile isSpace) = ink u := Text.ink_dropWhile (fun _ h => h) u
  have hv : ink (Text.trimEnd v) = ink v := Text.ink_trimEndWhere (fun _ h => h) v
  have trimmed := trimmed_lineText (u ++ lit ++ v)
  rw [← showsAt_lineText_iff hl]
  by_cases hc : state.heredoc = none ∧ state.inComment = false
  · rw [State.readLine_of_code hc.1 full hc.2]
    generalize state.depth - leadingClosers (lineText (u ++ lit ++ v)) = indent
    rcases lineText_write_ofCode trimmed full indent width with
      ⟨attr, w, hs, written⟩ | ⟨hs, written⟩
    · obtain ⟨hw, shows⟩ := Attribute.shows_of_ofLine? hs trimmed.last
      have key : KeyEndsWithin (u ++ lit ++ v) u lit ↔
          (u.dropWhile isSpace).length < attr.key.length ∧
            attr.key.length < (u.dropWhile isSpace).length + lit.length := by
        constructor
        · rintro ⟨other, some, ends⟩
          obtain rfl : attr = other := Option.some.inj (hs.symm.trans some)
          exact ends
        · exact fun ends => ⟨attr, hs, ends⟩
      rw [text] at shows
      rw [written, key, text, ← attr.showsAt_iff hw hl shows (hw.shows_write w)]
      exact ⟨fun held => held.congr hu.symm hv.symm, fun held => held.congr hu hv⟩
    · rw [written, text]
      refine iff_of_true ((showsAt_spaceHeader hl).congr hu hv) ?_
      rintro ⟨attr, some, -⟩
      rw [hs] at some
      exact absurd some (by simp)
  · have other : state.heredoc ≠ none ∨ state.inComment = true := by
      rwa [not_and_or, Bool.not_eq_false] at hc
    have same := lineText_write_of_not_code full other width
    refine iff_of_true ?_ fun _ => same
    rw [same, text]
    exact ⟨_, _, rfl, hu, hv⟩

/-- On the line that stands for the line of a literal the literal is held at the same place,
character for character, exactly if the key of an attribute does not end within it or the text of
the line does not change. -/
theorem keeps_literal_iff {snippet u lit v : Text} {before after : List Text}
    (h : Text.splitLines snippet = before ++ (u ++ lit ++ v) :: after) (hl : IsLiteral lit) :
    ∃ out, StandsFor snippet before (u ++ lit ++ v) after out ∧
      (ShowsAt out u lit v ↔
        (KeyEndsWithin (u ++ lit ++ v) u lit → lineText out = lineText (u ++ lit ++ v))) := by
  have full : Text.isBlank (u ++ lit ++ v) = false := by
    obtain ⟨inner, rfl, -⟩ := hl
    simp [Text.isBlank, isSpace_quote]
  obtain ⟨width, stands⟩ := exists_standsFor h full
  exact ⟨_, stands, showsAt_write_iff _ hl width⟩

/-- A literal with quotes, a sign and a brace in it, and with white space around them. -/
def greeting : Text :=
  "\"hi \\\"  =  $\x7bf(\"you  \x7b\")\x7d \"".toList

/-- The literal is kept as the value of an attribute with a key between quotes, at the end of a
line with more white space than is left of it. -/
theorem greeting_kept :
    Text.splitLines ("a \x7b\n  \"b\" =\t".toList ++ greeting ++ " \r\nccc=1\n\x7d".toList) =
        ["a \x7b".toList] ++ ("  \"b\" =\t".toList ++ greeting ++ " \r".toList) ::
          ["ccc=1".toList, "\x7d".toList] ∧
      IsLiteral greeting ∧
      ∃ out, StandsFor ("a \x7b\n  \"b\" =\t".toList ++ greeting ++ " \r\nccc=1\n\x7d".toList)
          ["a \x7b".toList] ("  \"b\" =\t".toList ++ greeting ++ " \r".toList)
          ["ccc=1".toList, "\x7d".toList] out ∧
        ShowsAt out "  \"b\" =\t".toList greeting " \r".toList := by
  have lines : Text.splitLines
      ("a \x7b\n  \"b\" =\t".toList ++ greeting ++ " \r\nccc=1\n\x7d".toList) =
        ["a \x7b".toList] ++ ("  \"b\" =\t".toList ++ greeting ++ " \r".toList) ::
          ["ccc=1".toList, "\x7d".toList] := by decide +kernel
  have literal : IsLiteral greeting :=
    ⟨"hi \\\"  =  $\x7bf(\"you  \x7b\")\x7d ".toList, by decide +kernel, by decide +kernel⟩
  have read : Attribute.ofLine? (lineText ("  \"b\" =\t".toList ++ greeting ++ " \r".toList)) =
      some ⟨"\"b\"".toList, greeting⟩ := by decide +kernel
  obtain ⟨out, stands, held⟩ := keeps_literal_iff lines literal
  refine ⟨lines, literal, out, stands, held.mpr ?_⟩
  rintro ⟨attr, some, before, -⟩
  obtain rfl := Option.some.inj (read.symm.trans some)
  exact absurd before (by decide +kernel)

/-- A literal that is read as the key, the sign and the value of an attribute. -/
def pair : Text :=
  "\"a\\\"  =  b\"".toList

/-- Two spaces of the literal are lost, although nothing else is on its line. -/
theorem pair_not_kept :
    Text.splitLines pair = [pair] ∧ IsLiteral pair ∧
      ¬ ∃ out, StandsFor pair [] pair [] out ∧ ShowsAt out [] pair [] := by
  refine ⟨by decide +kernel, ⟨"a\\\"  =  b".toList, by decide +kernel, by decide +kernel⟩, ?_⟩
  rintro ⟨out, ⟨above, below, lines, -, -, -⟩, x, y, held, -, -⟩
  have shorter : ∀ line ∈ Text.splitLines (format pair), line.length < pair.length := by
    decide +kernel
  have short := shorter out (lines ▸ List.mem_append_right above List.mem_cons_self)
  rw [held, List.length_append, List.length_append] at short
  omega

end ProviderDocs.Snippet
