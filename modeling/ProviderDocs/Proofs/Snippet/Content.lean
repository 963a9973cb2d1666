import ProviderDocs.Proofs.Snippet.Idempotence
import ProviderDocs.Proofs.Text.Ink

/-!
# What formatting keeps of a snippet

Formatting changes nothing but white space, line for line: the lines of a formatted snippet that are
not blank show, in the same order, what those of the snippet show (`inkLines_format`).  What a line
shows is its ink (`Text.ink`).  It is the same for the line as it was read (`ink_readLine`) and as
it is written, in a column of any width (`Line.ink_write`), and a line that is dropped has none.
-/

namespace ProviderDocs

namespace Snippet

open Text (ink inkLines)

/-! ### The ink of a line -/

/-- What a line shows, however it is laid out. -/
def Line.ink : Line → Text
  | .blank => []
  | .verbatim text => Text.ink text
  | .code _ text => Text.ink text
  | .assign _ attr => Text.ink attr.key ++ '=' :: Text.ink attr.value

theorem ink_replicate_space (n : Nat) : ink (List.replicate n ' ') = [] :=
  Text.ink_eq_nil_of_all fun c hc => by
    rw [List.eq_of_mem_replicate hc]
    rfl

/-- The padding of the key and the white space around the sign are no ink. -/
theorem Attribute.ink_write (attr : Attribute) (width : Nat) :
    ink (attr.write width) = ink attr.key ++ '=' :: ink attr.value := by
  have sign : ink " = ".toList = ['='] := rfl
  rw [write, Text.trimEnd, Text.ink_trimEndWhere fun _ h => h, Text.ink_append, Text.ink_append,
    sign, List.rightpad, Text.ink_append, ink_replicate_space]
  simp

theorem Attribute.Shows.ink_eq {attr : Attribute} {line : Text} (h : attr.Shows line) :
    ink line = ink attr.key ++ '=' :: ink attr.value := by
  obtain ⟨gap, after, hg, ha, rfl⟩ := h
  have gapBlank : ink gap = [] :=
    Text.ink_eq_nil_of_all fun c hc => isSpace_of_isSpaceOrTab (hg c hc)
  have afterBlank : ink after = [] :=
    Text.ink_eq_nil_of_all fun c hc => isSpace_of_isSpaceOrTab (ha c hc)
  have sign : ink ('=' :: after) = ['='] := by
    rw [Text.ink_cons_of_ne (by decide), afterBlank]
  rw [Text.ink_append, Text.ink_append, Text.ink_append, gapBlank, sign]
  simp

theorem Line.ink_write (line : Line) (width : Nat) : Text.ink (line.write width) = line.ink := by
  cases line with
  | blank => rfl
  | verbatim text => rfl
  | code indent text => rw [write, Text.ink_append, indentation, ink_replicate_space]; rfl
  | assign indent attr =>
    rw [write, Text.ink_append, indentation, ink_replicate_space, attr.ink_write]
    rfl

theorem ink_spaceHeader (t : Text) : ink (spaceHeader t) = ink t := by
  rcases spaceHeader_cases t with h | ⟨head, gap, -, hg, rfl, h⟩
  · rw [h]
  · have brace : ink [' ', '{'] = ink ['{'] := rfl
    rw [h, Text.ink_append, Text.ink_append, Text.ink_append, Text.ink_eq_nil_of_all hg, brace,
      List.append_nil]

/-- A line of code is taken apart and put together again without losing any ink. -/
theorem ink_ofCode {t : Text} (ht : Text.Trimmed t) (indent : Nat) :
    (Line.ofCode indent t).ink = ink t := by
  cases hs : Attribute.ofLine? t with
  | none =>
    simp only [Line.ofCode, hs, Line.ink]
    exact ink_spaceHeader t
  | some attr =>
    obtain ⟨-, shows⟩ := Attribute.shows_of_ofLine? hs ht.last
    simp only [Line.ofCode, hs]
    split_ifs
    · exact shows.ink_eq.symm
    · exact (attr.ink_write 0).trans shows.ink_eq.symm

theorem ink_rawLine (line : Text) : ink (rawLine line) = ink line := by
  refine Text.ink_trimEndWhere (fun c hc => ?_) line
  obtain rfl : c = '\r' := by simpa using hc
  rfl

theorem ink_lineText (line : Text) : ink (lineText line) = ink line :=
  (Text.ink_trim _).trans (ink_rawLine line)

/-- Whatever state a line is read in, it is read with all its ink. -/
theorem ink_readLine (state : State) (line : Text) : (state.readLine line).2.ink = ink line := by
  rcases state.readLine_cases line with ⟨marker, -, read⟩ | ⟨-, ht, read⟩ | ⟨-, -, -, read⟩ |
    ⟨-, -, -, read⟩ <;> rw [read]
  · exact ink_rawLine line
  · rw [← ink_lineText, ht]
    rfl
  · exact ink_lineText line
  · exact (ink_ofCode (trimmed_lineText line) _).trans (ink_lineText line)

/-! ### The ink of all lines -/

theorem map_ink_readLines (state : State) (texts : List Text) :
    (readLines state texts).map Line.ink = texts.map ink := by
  induction texts generalizing state with
  | nil => rfl
  | cons text rest ih =>
    rw [readLines, List.map_cons, List.map_cons, ink_readLine, ih]

theorem map_ink_of_writtenFor {texts : List Text} {lines : List Line}
    (written : List.Forall₂ WrittenFor texts lines) : texts.map ink = lines.map Line.ink := by
  induction written with
  | nil => rfl
  | @cons text line _ _ head _ ih =>
    obtain ⟨width, rfl⟩ := head
    rw [List.map_cons, List.map_cons, line.ink_write, ih]

theorem map_ink_layout (lines : List Line) : (layout lines).map ink = lines.map Line.ink :=
  map_ink_of_writtenFor (forall₂_layout lines)

/-- The inks of lines, of those that have any. -/
def inks (lines : List Line) : List Text :=
  (lines.map Line.ink).filter fun t => !t.isEmpty

theorem inks_cons (line : Line) (rest : List Line) :
    inks (line :: rest) = inks [line] ++ inks rest :=
  List.filter_append [line.ink] _

theorem inks_append (first second : List Line) :
    inks (first ++ second) = inks first ++ inks second := by
  rw [inks, List.map_append, List.filter_append]
  rfl

/-- Only blank lines are collapsed. -/
theorem inks_collapseBlanksAfter (blankAbove : Bool) (lines : List Line) :
    inks (collapseBlanksAfter blankAbove lines) = inks lines := by
  fun_induction collapseBlanksAfter blankAbove lines with
  | case1 => rfl
  | case2 rest ih => exact ih
  | case3 rest _ _ ih => exact ih
  | case4 _ line rest _ ih => rw [inks_cons, ih, ← inks_cons]

/-- An empty line has no ink. -/
theorem Line.ink_eq_nil_of_isEmpty {line : Line} (h : line.isEmpty = true) : line.ink = [] := by
  have written : line.write 0 = [] := List.isEmpty_iff.mp ((line.isEmpty_write 0).trans h)
  rw [← line.ink_write 0, written]
  rfl

/-- Only empty lines are dropped at the end. -/
theorem inks_rdropWhile_isEmpty (lines : List Line) :
    inks (lines.rdropWhile Line.isEmpty) = inks lines := by
  induction lines using List.reverseRecOn with
  | nil => rfl
  | append_singleton lines line ih =>
    by_cases h : line.isEmpty = true
    · have nothing : inks [line] = [] := by simp [inks, Line.ink_eq_nil_of_isEmpty h]
      rw [List.rdropWhile_concat_pos _ _ _ h, ih, inks_append, nothing, List.append_nil]
    · rw [List.rdropWhile_concat_neg _ _ _ h]

theorem inks_settledLines (snippet : Text) : inks (settledLines snippet) = inkLines snippet := by
  rw [settledLines, inks_rdropWhile_isEmpty, collapseBlanks, inks_collapseBlanksAfter, inks,
    map_ink_readLines, inkLines, Text.map_ink_filter_not_isBlank]

/-- Formatting changes layout only, line for line: the lines that are not blank are the same ones in
the same order, but for white space. -/
theorem inkLines_format (snippet : Text) : inkLines (format snippet) = inkLines snippet := by
  rw [← inks_settledLines snippet]
  rcases eq_or_ne (settledLines snippet) [] with hl | hl
  · rw [format_eq_joinLines, hl]
    rfl
  · rw [inkLines, splitLines_format hl, Text.map_ink_filter_not_isBlank, map_ink_layout, inks]

end Snippet

end ProviderDocs
