import ProviderDocs.Proofs.Text.Trim
import ProviderDocs.Snippet.Heredoc

/-!
# Where a heredoc operator can stand

A heredoc operator runs to the end of its line, with nothing but a hyphen, spaces, tabs and the
marker after its first two characters.  So no operator begins at or before any other character, and
what stands before such a character does not matter (`heredocMarker?_append_cons`).
-/

namespace ProviderDocs.Snippet

/-- A character that may stand in a heredoc operator, after the first two. -/
def isOperatorChar (c : Char) : Bool :=
  c == '-' || isSpaceOrTab c || isNameChar c

theorem isNameChar_of_isNameStart {c : Char} (h : isNameStart c = true) : isNameChar c = true := by
  simp only [isNameStart, isNameChar, Bool.or_eq_true, Char.isAlphanum] at h ⊢
  exact h.imp_left Or.inl

/-- A text with any other character in it is not what may follow. -/
theorem markerAfter?_eq_none {c : Char} {t : Text} (hm : c ∈ t) (hc : isOperatorChar c = false) :
    markerAfter? t = none := by
  simp only [isOperatorChar, Bool.or_eq_false_iff] at hc
  obtain ⟨⟨hyphen, space⟩, name⟩ := hc
  rw [markerAfter?]
  split
  · rfl
  · rename_i d rest hd
    have hm : c ∈ d :: rest := by
      rw [← hd]
      apply Text.mem_dropWhile_of_mem space
      -- If a hyphen is left out first, it is not the character.
      split_ifs with h
      · cases t with
        | nil => simp at hm
        | cons e tail =>
          obtain rfl : e = '-' := by simpa using h
          exact (List.mem_cons.mp hm).resolve_left (by simpa using hyphen)
      · exact hm
    rw [if_neg]
    rintro ⟨hs, hr⟩
    rcases List.mem_cons.mp hm with rfl | hm
    · rw [isNameChar_of_isNameStart hs] at name
      exact absurd name (by decide)
    · have := List.all_eq_true.mp hr c (Text.mem_dropWhile_of_mem name hm)
      rw [space] at this
      exact absurd this (by decide)

/-- No operator begins with a character other than `<`. -/
theorem heredocMarker?_cons {c : Char} (hc : c ≠ '<') (rest : Text) :
    heredocMarker? (c :: rest) = heredocMarker? rest := by
  simp [heredocMarker?, hc]

/-- No operator begins in a run of characters other than `<`. -/
theorem heredocMarker?_append {gap : Text} (h : '<' ∉ gap) (rest : Text) :
    heredocMarker? (gap ++ rest) = heredocMarker? rest := by
  induction gap with
  | nil => rfl
  | cons c gap ih =>
    rw [List.cons_append, heredocMarker?_cons (fun e => h (e ▸ List.mem_cons_self))]
    exact ih fun hm => h (List.mem_cons_of_mem _ hm)

/-- No operator begins before a character that cannot stand in one. -/
theorem heredocMarker?_append_cons {c : Char} (hc : isOperatorChar c = false) (hl : c ≠ '<')
    (start rest : Text) : heredocMarker? (start ++ c :: rest) = heredocMarker? rest := by
  induction start with
  | nil => exact heredocMarker?_cons hl rest
  | cons d start ih =>
    rw [List.cons_append, heredocMarker?, ih]
    -- The character is the second of an operator that begins here, or it stands after the second.
    rw [ite_eq_right_iff.mpr, Option.none_or]
    rintro ⟨-, hd⟩
    cases start with
    | nil =>
      obtain rfl : c = '<' := by simpa using hd
      exact absurd rfl hl
    | cons e start => exact markerAfter?_eq_none (by simp) hc

end ProviderDocs.Snippet
