import Mathlib.Tactic.SplitIfs
import ProviderDocs.Proofs.Text.Lines
import ProviderDocs.Template

/-!
# Filling templates

A template is read from left to right: text that holds no placeholder and begins none stays as it
is (`ofText_append_of_isBare`), such as text without a dollar sign (`substitute_append`), and a
placeholder gives way to its value (`substitute_placeholder_append`).  What comes after is read as
if it stood alone, whatever the value is.  A page is a filled head and
filled sections, one below the other (`assemble_eq`).
-/

namespace ProviderDocs.Template

/-- A name that a placeholder may have. -/
def IsName (name : Text) : Prop :=
  name ≠ [] ∧ name.all isNameChar = true

instance (name : Text) : Decidable (IsName name) :=
  inferInstanceAs (Decidable (_ ∧ _))

variable {values : Values} {c : Char} {name value literal rest : Text}

/-! ### Reading -/

/-- Text that belongs to a placeholder already found is passed over. -/
theorem ofTextAfter_append (taken rest : Text) :
    ofTextAfter taken.length (taken ++ rest) = ofText rest := by
  induction taken with
  | nil => rfl
  | cons c taken ih => exact ih

theorem placeholder?_append (h : IsName name) (rest : Text) :
    placeholder? (placeholderText name ++ rest) = some name := by
  have chars : ∀ c ∈ name, isNameChar c = true := List.all_eq_true.mp h.2
  -- The name ends at the brace, which is no character of a name.
  have name_eq : (name ++ '}' :: rest).takeWhile isNameChar = name := by
    rw [List.takeWhile_append_of_pos chars, List.takeWhile_cons_of_neg (by decide),
      List.append_nil]
  have rest_eq : (name ++ '}' :: rest).dropWhile isNameChar = '}' :: rest := by
    rw [List.dropWhile_append_of_pos chars, List.dropWhile_cons_of_neg (by decide)]
  rw [show placeholderText name ++ rest = '$' :: '{' :: (name ++ '}' :: rest) by
    simp [placeholderText]]
  simp [placeholder?, name_eq, rest_eq, h.1]

/-- A placeholder is read as one, whatever follows it. -/
theorem ofText_placeholder_append (h : IsName name) (rest : Text) :
    ofText (placeholderText name ++ rest) = .placeholder name :: ofText rest := by
  have found := placeholder?_append h rest
  have passed := ofTextAfter_append ('{' :: (name ++ ['}'])) rest
  rw [show placeholderText name ++ rest = '$' :: ('{' :: (name ++ ['}']) ++ rest) by
    simp [placeholderText]] at found ⊢
  rw [ofText, ofTextAfter, found, ← passed]
  simp

/-- A character that no placeholder begins with is read as it is. -/
theorem ofText_cons_of_placeholder?_eq_none
    (h : placeholder? (c :: rest) = none) : ofText (c :: rest) = .char c :: ofText rest := by
  rw [ofText, ofTextAfter, h]
  rfl

/-- A text is found to begin with a placeholder exactly if it does. -/
theorem placeholder?_eq_some_iff {t : Text} :
    placeholder? t = some name ↔ IsName name ∧ ∃ rest, t = placeholderText name ++ rest := by
  constructor
  · intro h
    unfold placeholder? at h
    split at h
    · rename_i rest
      simp only [Option.ite_none_right_eq_some, Bool.and_eq_true, Bool.not_eq_true',
        beq_iff_eq] at h
      obtain ⟨⟨full, brace⟩, named⟩ := h
      obtain rfl := Option.some.inj named
      obtain ⟨after, closed⟩ := List.head?_eq_some_iff.mp brace
      refine ⟨⟨List.isEmpty_eq_false_iff.mp full, List.all_takeWhile⟩, after, ?_⟩
      have parts := List.takeWhile_append_dropWhile (p := isNameChar) (l := rest)
      rw [closed] at parts
      simp [placeholderText, parts]
    · cases h
  · rintro ⟨hn, rest, rfl⟩
    exact placeholder?_append hn rest

/-- A text before some rest is bare: whatever placeholder stands in the two, it begins behind the
text. -/
def IsBare (literal rest : Text) : Prop :=
  ∀ before name after, IsName name → literal ++ rest = before ++ (placeholderText name ++ after) →
    literal.length ≤ before.length

theorem isBare_nil (rest : Text) : IsBare [] rest :=
  fun _ _ _ _ _ => Nat.zero_le _

theorem isBare_cons_iff :
    IsBare (c :: literal) rest ↔
      placeholder? (c :: (literal ++ rest)) = none ∧ IsBare literal rest := by
  constructor
  · intro h
    refine ⟨?_, fun before name after hn he => ?_⟩
    · by_contra found
      obtain ⟨name, found⟩ := Option.ne_none_iff_exists'.mp found
      obtain ⟨hn, after, he⟩ := placeholder?_eq_some_iff.mp found
      exact absurd (h [] name after hn he) (by simp)
    · exact Nat.le_of_succ_le_succ
        (h (c :: before) name after hn (congrArg (List.cons c) he))
  · rintro ⟨none, bare⟩ before name after hn he
    cases before with
    | nil =>
      have found := placeholder?_eq_some_iff.mpr ⟨hn, after, he⟩
      exact absurd (none.symm.trans found) (by simp)
    | cons d before =>
      exact Nat.succ_le_succ (bare before name after hn (List.cons.inj he).2)

/-- Bare text is read as it is, whatever follows it. -/
theorem ofText_append_of_isBare (h : IsBare literal rest) :
    ofText (literal ++ rest) = literal.map .char ++ ofText rest := by
  induction literal with
  | nil => rfl
  | cons c literal ih =>
    obtain ⟨none, bare⟩ := isBare_cons_iff.mp h
    rw [List.cons_append, ofText_cons_of_placeholder?_eq_none none, ih bare]
    rfl

theorem isBare_of_notMem (h : '$' ∉ literal) (rest : Text) : IsBare literal rest := by
  induction literal with
  | nil => exact isBare_nil rest
  | cons c literal ih =>
    rw [List.mem_cons, not_or] at h
    refine isBare_cons_iff.mpr ⟨?_, ih h.2⟩
    by_contra found
    obtain ⟨name, found⟩ := Option.ne_none_iff_exists'.mp found
    obtain ⟨-, after, he⟩ := placeholder?_eq_some_iff.mp found
    exact h.1 (List.cons.inj he).1.symm

/-! ### Filling -/

theorem substitute_append (h : '$' ∉ literal) (rest : Text) :
    substitute values (literal ++ rest) = literal ++ substitute values rest := by
  rw [substitute, ofText_append_of_isBare (isBare_of_notMem h rest), fill, List.flatMap_append,
    List.flatMap_map]
  simp only [fillPiece, List.flatMap_singleton']
  rfl

theorem substitute_placeholder_append (h : IsName name) (hv : values.lookup name = some value)
    (rest : Text) :
    substitute values (placeholderText name ++ rest) = value ++ substitute values rest := by
  rw [substitute, ofText_placeholder_append h, fill, List.flatMap_cons, fillPiece, hv]
  rfl

/-- Text without a dollar sign is no template. -/
theorem substitute_of_notMem (h : '$' ∉ literal) :
    substitute values literal = literal := by
  have whole : substitute values (literal ++ []) = literal ++ [] := substitute_append h []
  simpa using whole

/-- A section holds the value of its placeholder as it is, below its heading. -/
theorem substitute_section {heading : Text} (hh : '$' ∉ heading) (h : IsName name)
    (hv : values.lookup name = some value) :
    substitute values (heading ++ (placeholderText name ++ ['\n'])) =
      heading ++ value ++ ['\n'] := by
  rw [substitute_append hh, substitute_placeholder_append h hv, substitute_of_notMem (by decide),
    List.append_assoc]

/-! ### Pages -/

/-- A section of a page, after an empty line, if it has content. -/
def sectionText (values : Values) (s : Text × Text) : Text :=
  if hasContent values s.1 then '\n' :: substitute values s.2 else []

/-- A page is its head and those of its sections that have content, in their order. -/
theorem assemble_eq (values : Values) (head : Text) (sections : List (Text × Text)) :
    assemble values head sections =
      substitute values head ++ sections.flatMap (sectionText values) := by
  rw [assemble]
  congr 1
  induction sections with
  | nil => rfl
  | cons s rest ih =>
    rw [List.filter_cons, List.flatMap_cons, ← ih, sectionText]
    split_ifs
    · rfl
    · rfl

/-- The lines of a block but the first are indented by two spaces. -/
theorem indentBlock_eq (t : Text) :
    indentBlock t = "\n  ".toList.intercalate (Text.splitLines t) := by
  induction t with
  | nil => rfl
  | cons c rest ih =>
    obtain ⟨line, lines, h⟩ := List.exists_cons_of_ne_nil (Text.splitLines_ne_nil rest)
    rw [indentBlock] at ih ⊢
    rw [List.flatMap_cons, ih, h]
    unfold Text.splitLines at h ⊢
    rw [Text.splitOn, h]
    split_ifs with hc
    · rw [List.intercalate_cons_cons]
      rfl
    · -- The character goes to the first line, which may be the last one too.
      cases lines with
      | nil => simp
      | cons next lines => simp [List.intercalate_cons_cons]

end ProviderDocs.Template
