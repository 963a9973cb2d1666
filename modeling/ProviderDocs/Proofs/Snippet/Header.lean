import ProviderDocs.Proofs.Snippet.Attribute
import ProviderDocs.Proofs.Snippet.Heredoc

/-!
# Block headers and the space before the brace

A block header is what stands before the brace at the end of a line, without the white space between
them (`EndsBlockName`).  What is read off the line does not depend on that white space: not the
space that is set before the brace (`spaceHeader_append`), not the brackets, and not whether the
line is an attribute (`exists_ofLine?_append`).
-/

namespace ProviderDocs.Snippet

/-- A text ends in a character after which a space is set before the brace. -/
def EndsBlockName (head : Text) : Prop :=
  ∃ c ∈ head.getLast?, endsHeader c = true ∧ isSpace c = false

/-- The characters that may end a header below the letters beyond ASCII. -/
theorem endsHeader_eq {c : Char} (h : c.toNat < 0xAA) :
    endsHeader c = (c == '"' || c.isAlphanum || c == '_') := by
  rw [endsHeader, isAlphanumeric_eq_isAlphanum h]

theorem looksAhead_of_endsHeader {c : Char} (h : endsHeader c = true) : looksAhead c = false := by
  by_contra hc
  simp only [looksAhead, Bool.not_eq_false, Bool.or_eq_true, beq_iff_eq] at hc
  have small : c.toNat < 0xAA := by
    rcases hc with (((rfl | rfl) | rfl) | rfl) | rfl <;> decide
  rw [endsHeader_eq small] at h
  rcases hc with (((rfl | rfl) | rfl) | rfl) | rfl <;> exact absurd h (by decide)

theorem isCloser_of_endsHeader {c : Char} (h : endsHeader c = true) : isCloser c = false := by
  by_contra hc
  simp only [isCloser, Bool.not_eq_false, Bool.or_eq_true, beq_iff_eq] at hc
  have small : c.toNat < 0xAA := by
    rcases hc with (rfl | rfl) | rfl <;> decide
  rw [endsHeader_eq small] at h
  rcases hc with (rfl | rfl) | rfl <;> exact absurd h (by decide)

theorem isPlain_of_isSpace {c : Char} (h : isSpace c = true) : isPlain c = true := by
  by_contra hc
  simp only [isPlain, looksAhead, isOpener, isCloser, Bool.not_eq_true', Bool.not_eq_false,
    Bool.or_eq_true, beq_iff_eq] at hc
  rcases hc with ((((((((rfl | rfl) | rfl) | rfl) | rfl) | (rfl | rfl) | rfl) |
    (rfl | rfl) | rfl)) | rfl) | rfl <;> exact absurd h (by decide)

namespace EndsBlockName

variable {head : Text} (h : EndsBlockName head)
include h

theorem ne_nil : head ≠ [] := by
  rintro rfl
  obtain ⟨c, hc, -⟩ := h
  simp at hc

theorem endsWhole : EndsWhole head := by
  obtain ⟨c, hc, ends, -⟩ := h
  intro d hd
  obtain rfl : c = d := by simpa [Option.mem_def.mp hc] using hd
  exact looksAhead_of_endsHeader ends

theorem trimEnd_append {gap : Text} (hg : ∀ c ∈ gap, isSpace c = true) :
    Text.trimEnd (head ++ gap) = head := by
  rw [Text.trimEnd, Text.trimEndWhere_append_of_all _ hg, Text.trimEndWhere_eq_self_iff]
  obtain ⟨c, hc, -, space⟩ := h
  intro d hd
  obtain rfl : c = d := by simpa [Option.mem_def.mp hc] using hd
  exact space

/-- Whatever white space stands before the brace, one space is set there. -/
theorem spaceHeader_append {gap : Text} (hg : ∀ c ∈ gap, isSpace c = true) :
    spaceHeader (head ++ gap ++ ['{']) = head ++ [' ', '{'] := by
  have any : head.getLast?.any endsHeader = true := by
    obtain ⟨c, hc, ends, -⟩ := h
    rw [Option.mem_def.mp hc]
    exact ends
  simp only [spaceHeader, List.getLast?_append, List.dropLast_concat, h.trimEnd_append hg, any]
  simp

theorem balance_append {gap : Text} (hg : ∀ c ∈ gap, isSpace c = true) :
    balance (head ++ gap ++ ['{']) = balance (head ++ ['{']) := by
  rw [List.append_assoc]
  refine balanceFrom_append_congr h.endsWhole (fun enclosures => ?_) []
  exact balanceFrom_append_of_isPlain (fun c hc => isPlain_of_isSpace (hg c hc)) enclosures _

theorem leadingClosers_append (rest : Text) :
    leadingClosers (head ++ rest) = leadingClosers head := by
  unfold leadingClosers
  rw [List.takeWhile_append, if_neg]
  intro hl
  obtain ⟨c, hc, ends, -⟩ := h
  have all : head.takeWhile isCloser = head :=
    (List.takeWhile_prefix isCloser).eq_of_length hl
  -- A header of closers alone would end in one.
  have closer : isCloser c = true :=
    List.mem_takeWhile_imp (all.symm ▸ List.mem_of_mem_getLast? hc)
  rw [isCloser_of_endsHeader ends] at closer
  exact absurd closer (by decide)

end EndsBlockName

/-! ### Parts of a text and a character in one of them -/

/-- A character that does not stand in the second part of a text stands in the first one. -/
theorem exists_append_of_notMem_right {head tail x y : Text} {a : Char} (ha : a ∉ tail)
    (h : head ++ tail = x ++ a :: y) : ∃ w, head = x ++ a :: w ∧ y = w ++ tail := by
  rcases List.append_eq_append_iff.mp h with ⟨w, -, rfl⟩ | ⟨w, rfl, hw⟩
  · exact absurd (List.mem_append_right w List.mem_cons_self) ha
  · cases w with
    | nil =>
      rw [← List.nil_append tail, ← hw] at ha
      exact absurd List.mem_cons_self ha
    | cons b w =>
      obtain ⟨rfl, rfl⟩ := List.cons.inj hw
      exact ⟨w, rfl, rfl⟩

/-- A character that does not stand in the first part of a text stands in the second one. -/
theorem exists_append_of_notMem_left {head tail x y : Text} {a : Char} (ha : a ∉ head)
    (h : head ++ tail = x ++ a :: y) : ∃ w, x = head ++ w ∧ tail = w ++ a :: y := by
  rcases List.append_eq_append_iff.mp h with ⟨w, hx, hw⟩ | ⟨w, rfl, hw⟩
  · exact ⟨w, hx, hw⟩
  · cases w with
    | nil => exact ⟨[], by simp, hw.symm⟩
    | cons b w =>
      obtain ⟨rfl, -⟩ := List.cons.inj hw
      exact absurd (List.mem_append_right x List.mem_cons_self) ha

/-! ### Headers and attributes -/

/-- A header does not end in a sign, with or without spaces and tabs after it. -/
theorem EndsBlockName.false_of_sign {start after : Text}
    (h : EndsBlockName (start ++ '=' :: after)) (ha : ∀ c ∈ after, isSpaceOrTab c = true) :
    False := by
  obtain ⟨c, hc, ends, space⟩ := h
  rw [List.getLast?_append_of_ne_nil _ (by simp)] at hc
  rcases List.mem_cons.mp (List.mem_of_mem_getLast? hc) with rfl | hm
  · rw [endsHeader_eq (by decide)] at ends
    exact absurd ends (by decide)
  · rw [isSpace_of_isSpaceOrTab (ha c hm)] at space
    exact absurd space (by decide)

/-- A line that goes on after a header without a sign shows an attribute only if the header holds
the sign and the beginning of the value. -/
theorem EndsBlockName.exists_value {head tail key gap after value : Text} (h : EndsBlockName head)
    (ht : '=' ∉ tail) (ha : ∀ c ∈ after, isSpaceOrTab c = true)
    (heq : head ++ tail = key ++ gap ++ '=' :: after ++ value) :
    ∃ v, v ≠ [] ∧ head = key ++ gap ++ '=' :: after ++ v ∧ value = v ++ tail := by
  rw [List.append_assoc, List.cons_append] at heq
  obtain ⟨w, rfl, hw⟩ := exists_append_of_notMem_right ht heq
  rcases List.append_eq_append_iff.mp hw with ⟨v, rfl, rfl⟩ | ⟨v, rfl, -⟩
  · refine ⟨v, ?_, by simp, rfl⟩
    rintro rfl
    rw [List.append_nil] at h
    exact h.false_of_sign ha
  · -- Otherwise the sign would be the last thing in the header, but for spaces and tabs.
    exact (h.false_of_sign fun c hc => ha c (List.mem_append_left _ hc)).elim

/-- Whether a line that ends in a header and a brace is an attribute does not depend on the white
space between them. -/
theorem EndsBlockName.exists_ofLine?_append {head gap : Text} (h : EndsBlockName head)
    (hg : ∀ c ∈ gap, isSpace c = true) (gap' : Text) {attr : Attribute}
    (hs : Attribute.ofLine? (head ++ gap ++ ['{']) = some attr) :
    ∃ attr', Attribute.ofLine? (head ++ gap' ++ ['{']) = some attr' := by
  -- The white space and the brace are the end of the value, whose beginning is in the header.
  obtain ⟨hw, before, after, hbefore, hafter, heq⟩ :=
    Attribute.shows_of_ofLine? hs (by simp; decide)
  have sign : '=' ∉ gap ++ ['{'] := by
    intro hm
    rcases List.mem_append.mp hm with hm | hm
    · exact absurd (hg _ hm) (by decide)
    · exact absurd hm (by decide)
  rw [List.append_assoc] at heq
  obtain ⟨v, hv, hhead, hvalue⟩ := h.exists_value sign hafter heq
  refine ⟨⟨attr.key, v ++ (gap' ++ ['{'])⟩, Attribute.ofLine?_of_shows ⟨hw.key, ?_, ?_⟩
    ⟨before, after, hbefore, hafter, ?_⟩⟩
  · intro c hc
    apply hw.head
    rw [hvalue, List.head?_append_of_ne_nil _ hv]
    rwa [List.head?_append_of_ne_nil _ hv] at hc
  · intro c hc
    obtain rfl : '{' = c := by simpa using hc
    decide
  · rw [hhead]
    simp

/-- A line that ends in a brace opens no heredoc. -/
theorem heredocMarker?_append_brace (t : Text) : heredocMarker? (t ++ ['{']) = none :=
  heredocMarker?_append_cons (by decide) (by decide) t []

/-- Spacing either leaves a line as it is or sets one space between a header and its brace. -/
theorem spaceHeader_cases (line : Text) :
    spaceHeader line = line ∨
      ∃ head gap, EndsBlockName head ∧ (∀ c ∈ gap, isSpace c = true) ∧
        line = head ++ gap ++ ['{'] ∧ spaceHeader line = head ++ [' ', '{'] := by
  by_cases hl : line.getLast? = some '{'
  · obtain ⟨inner, rfl⟩ := List.getLast?_eq_some_iff.mp hl
    obtain ⟨gap, hg, hgap⟩ := Text.exists_trimEndWhere_append isSpace inner
    by_cases ends : ∃ c ∈ (Text.trimEnd inner).getLast?, endsHeader c = true
    · right
      obtain ⟨c, hc, hends⟩ := ends
      have name : EndsBlockName (Text.trimEnd inner) :=
        ⟨c, hc, hends, Text.trimEndWhere_eq_self_iff.mp (Text.trimEndWhere_trimEndWhere _ _) c hc⟩
      refine ⟨Text.trimEnd inner, gap, name, hg, by rw [Text.trimEnd, hgap], ?_⟩
      conv_lhs => rw [← hgap]
      exact name.spaceHeader_append hg
    · left
      rw [spaceHeader, if_pos hl, List.dropLast_concat, if_neg]
      simpa [Option.any_eq_true] using ends
  · left
    rw [spaceHeader, if_neg hl]

end ProviderDocs.Snippet
