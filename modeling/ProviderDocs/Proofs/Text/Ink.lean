import ProviderDocs.Proofs.Text.LineContent
import ProviderDocs.Proofs.Text.Lines

/-!
# The ink of a text

The ink of a text is what it shows: its characters that are not white space.  Trimming takes no ink
away (`ink_trim`), and putting lines together adds none (`ink_joinLines`).
-/

namespace ProviderDocs.Text

/-! ### The ink of a text -/

/-- The characters of a text that are not white space. -/
def ink (t : Text) : Text :=
  t.filter fun c => !isSpace c

/-- Those of some lines that are not blank, each without its white space. -/
def inksOf (lines : List Text) : List Text :=
  (lines.filter fun line => !isBlank line).map ink

/-- The lines of a text that are not blank, each without its white space. -/
def inkLines (t : Text) : List Text :=
  ((splitLines t).filter fun line => !isBlank line).map ink

theorem ink_append (t u : Text) : ink (t ++ u) = ink t ++ ink u :=
  List.filter_append t u

theorem ink_cons_of_ne {c : Char} (h : isSpace c = false) (t : Text) :
    ink (c :: t) = c :: ink t :=
  List.filter_cons_of_pos (by simp [h])

theorem ink_eq_nil_iff {t : Text} : ink t = [] ↔ isBlank t = true := by
  simp [ink, isBlank]

theorem isBlank_cons_of_ne {c : Char} (h : isSpace c = false) (t : Text) :
    isBlank (c :: t) = false := by
  rw [isBlank, List.all_cons, h, Bool.false_and]

theorem ink_eq_nil_of_all {gap : Text} (h : ∀ c ∈ gap, isSpace c = true) : ink gap = [] :=
  ink_eq_nil_iff.mpr (List.all_eq_true.mpr h)

/-- Trimming white space of any kind takes no ink away. -/
theorem ink_trimEndWhere {p : Char → Bool} (hp : ∀ c, p c = true → isSpace c = true) (t : Text) :
    ink (trimEndWhere p t) = ink t := by
  obtain ⟨gap, hg, he⟩ := exists_trimEndWhere_append p t
  have blank : ink gap = [] := ink_eq_nil_of_all fun c hc => hp c (hg c hc)
  conv_rhs => rw [← he, ink_append, blank, List.append_nil]

theorem ink_dropWhile {p : Char → Bool} (hp : ∀ c, p c = true → isSpace c = true) (t : Text) :
    ink (t.dropWhile p) = ink t := by
  have blank : ink (t.takeWhile p) = [] :=
    ink_eq_nil_of_all fun c hc => hp c (List.mem_takeWhile_imp hc)
  conv_rhs => rw [← List.takeWhile_append_dropWhile (p := p) (l := t), ink_append, blank]
  rfl

theorem ink_trim (t : Text) : ink (trim t) = ink t := by
  rw [trim, trimWhere, ink_trimEndWhere fun _ h => h, ink_dropWhile fun _ h => h]

theorem isEmpty_ink (t : Text) : (ink t).isEmpty = isBlank t := by
  rw [Bool.eq_iff_iff, List.isEmpty_iff, ink_eq_nil_iff]

/-- The lines that are not blank are those with ink. -/
theorem map_ink_filter_not_isBlank (lines : List Text) :
    (lines.filter fun line => !isBlank line).map ink =
      (lines.map ink).filter fun t => !t.isEmpty := by
  rw [List.filter_map]
  congr 2
  funext line
  exact congrArg (!·) (isEmpty_ink line).symm

/-! ### The ink of lines -/

theorem ink_joinLines (lines : List Text) : ink (joinLines lines) = lines.flatMap ink := by
  induction lines with
  | nil => rfl
  | cons line rest ih =>
    rcases eq_or_ne rest [] with rfl | hn
    · simp [joinLines]
    · have newline (t : Text) : ink ('\n' :: t) = ink t := rfl
      rw [joinLines_cons line hn, List.flatMap_cons, ink_append, newline, ih]

/-- What a line shows is what it says. -/
theorem SaysOnly.ink_eq {line content : Text} (h : line.SaysOnly content) :
    ink line = ink content := by
  obtain ⟨before, after, ending, hb, ha, he, rfl⟩ := h
  have returned : ink ending = [] := by rcases he with rfl | rfl <;> rfl
  rw [ink_append, ink_append, ink_append, returned,
    ink_eq_nil_of_all fun c hc => isSpace_of_isSpaceOrTab (hb c hc),
    ink_eq_nil_of_all fun c hc => isSpace_of_isSpaceOrTab (ha c hc), List.append_nil,
    List.append_nil, List.nil_append]

/-- A line that says nothing is blank. -/
theorem SaysOnly.isBlank {line : Text} (h : line.SaysOnly []) : isBlank line = true :=
  ink_eq_nil_iff.mp h.ink_eq

end ProviderDocs.Text
