import ProviderDocs.Proofs.Snippet.Bracket
import ProviderDocs.Proofs.Text.Trim
import ProviderDocs.Snippet.Attribute

/-!
# Attributes and the lines that show them

A line shows an attribute when it is made of the key, the sign and the value with any spaces and
tabs around the sign (`Attribute.Shows`).  The attribute read off a line is the only one that the
line shows (`Attribute.ofLine?_of_shows`), and it is shown by the line that is written for it at any
width (`Attribute.WellFormed.shows_write`).
-/

namespace ProviderDocs.Snippet

/-! ### Keys -/

/-- What may stand to the left of the sign: a name, or a text between quotes. -/
inductive IsKey : Text → Prop where
  | quoted {inner : Text} (h : '"' ∉ inner) : IsKey ('"' :: inner ++ ['"'])
  | name {c : Char} {rest : Text} (hc : isNameStart c = true) (h : ∀ d ∈ rest, isKeyChar d = true) :
    IsKey (c :: rest)

/-- Cutting a line after its key loses nothing. -/
theorem isKey_of_splitKey? {line key rest : Text} (h : splitKey? line = some (key, rest)) :
    IsKey key ∧ line = key ++ rest := by
  cases line with
  | nil => simp [splitKey?] at h
  | cons c tail =>
    rw [splitKey?] at h
    split_ifs at h with hq hn
    · -- The closing quote is the first one after the opening quote.
      have whole := List.takeWhile_append_dropWhile (p := (· != '"')) (l := tail)
      have inner : '"' ∉ tail.takeWhile (· != '"') := by
        intro hm
        simpa using List.mem_takeWhile_imp hm
      cases hd : tail.dropWhile (· != '"') with
      | nil => simp [hd] at h
      | cons quote after =>
        have hquote : quote = '"' := by
          simpa [hd] using List.head?_dropWhile_not (· != '"') tail
        simp only [hd, Option.some.injEq, Prod.mk.injEq] at h
        obtain ⟨rfl, rfl⟩ := h
        rw [hq, hquote]
        refine ⟨.quoted inner, ?_⟩
        rw [hd, hquote] at whole
        simp [whole]
    · simp only [Option.some.injEq, Prod.mk.injEq] at h
      obtain ⟨rfl, rfl⟩ := h
      exact ⟨.name hn fun d hd => List.mem_takeWhile_imp hd, by simp⟩

/-- A key is cut off a line that goes on with a character outside keys. -/
theorem IsKey.splitKey?_append {key rest : Text} (hk : IsKey key)
    (hr : ∀ c ∈ rest.head?, isKeyChar c = false) : splitKey? (key ++ rest) = some (key, rest) := by
  cases hk with
  | @quoted inner h =>
    have hp : ∀ c ∈ inner, (c != '"') = true := by
      intro c hc
      simpa using fun e : c = '"' => h (e ▸ hc)
    have drop : (inner ++ '"' :: rest).dropWhile (· != '"') = '"' :: rest := by
      rw [List.dropWhile_append_of_pos hp]
      simp
    have take : (inner ++ '"' :: rest).takeWhile (· != '"') = inner := by
      rw [List.takeWhile_append_of_pos hp]
      simp
    simp [splitKey?, drop, take]
  | @name c name hc h =>
    have hq : c ≠ '"' := by
      rintro rfl
      revert hc
      decide
    have stop : rest.takeWhile isKeyChar = [] ∧ rest.dropWhile isKeyChar = rest := by
      cases rest with
      | nil => simp
      | cons d rest => simp [hr d rfl]
    have take : (name ++ rest).takeWhile isKeyChar = name := by
      rw [List.takeWhile_append_of_pos h, stop.1, List.append_nil]
    have drop : (name ++ rest).dropWhile isKeyChar = rest := by
      rw [List.dropWhile_append_of_pos h, stop.2]
    simp [splitKey?, hq, hc, take, drop]

/-! ### Spaces and tabs -/

theorem isKeyChar_of_isSpaceOrTab {c : Char} (h : isSpaceOrTab c = true) :
    isKeyChar c = false := by
  simp only [isSpaceOrTab, Bool.or_eq_true, beq_iff_eq] at h
  rcases h with rfl | rfl <;> decide

/-! ### Lines that show an attribute -/

namespace Attribute

/-- An attribute as a line may show it. -/
structure WellFormed (attr : Attribute) : Prop where
  key : IsKey attr.key
  /-- The value begins neither with a space or tab nor with what would make the sign another
  operator. -/
  head : ∀ c ∈ attr.value.head?, isSpaceOrTab c = false ∧ c ≠ '=' ∧ c ≠ '>'
  last : ∀ c ∈ attr.value.getLast?, isSpace c = false

/-- A line is made of the key, the sign and the value of an attribute, with spaces and tabs around
the sign. -/
def Shows (attr : Attribute) (line : Text) : Prop :=
  ∃ gap after : Text, (∀ c ∈ gap, isSpaceOrTab c = true) ∧ (∀ c ∈ after, isSpaceOrTab c = true) ∧
    line = attr.key ++ gap ++ '=' :: after ++ attr.value

/-- The attribute that a line shows is read off it. -/
theorem ofLine?_of_shows {attr : Attribute} {line : Text} (hw : attr.WellFormed)
    (hs : attr.Shows line) : ofLine? line = some attr := by
  obtain ⟨gap, after, hgap, hafter, rfl⟩ := hs
  have cut : splitKey? (attr.key ++ (gap ++ '=' :: (after ++ attr.value))) =
      some (attr.key, gap ++ '=' :: (after ++ attr.value)) := by
    apply hw.key.splitKey?_append
    intro c hc
    cases gap with
    | nil =>
      obtain rfl : '=' = c := by simpa using hc
      decide
    | cons d gap =>
      obtain rfl : d = c := by simpa using hc
      exact isKeyChar_of_isSpaceOrTab (hgap d List.mem_cons_self)
  have sign : (gap ++ '=' :: (after ++ attr.value)).dropWhile isSpaceOrTab =
      '=' :: (after ++ attr.value) := by
    rw [List.dropWhile_append_of_pos hgap]
    rfl
  have value : Text.trimEnd ((after ++ attr.value).dropWhile isSpaceOrTab) = attr.value := by
    rw [List.dropWhile_append_of_pos hafter,
      Text.dropWhile_eq_self_iff.mpr fun c hc => (hw.head c hc).1]
    exact Text.trimEndWhere_eq_self_iff.mpr hw.last
  have other : ¬ (attr.value.head? = some '=' ∨ attr.value.head? = some '>') := by
    rintro (h | h)
    · exact (hw.head '=' h).2.1 rfl
    · exact (hw.head '>' h).2.2 rfl
  rw [show attr.key ++ gap ++ '=' :: after ++ attr.value =
    attr.key ++ (gap ++ '=' :: (after ++ attr.value)) by simp]
  simp [ofLine?, cut, sign, value, other]

/-- A line without white space at its end shows the attribute that is read off it. -/
theorem shows_of_ofLine? {attr : Attribute} {line : Text} (h : ofLine? line = some attr)
    (ht : ∀ c ∈ line.getLast?, isSpace c = false) : attr.WellFormed ∧ attr.Shows line := by
  rw [ofLine?] at h
  cases hk : splitKey? line with
  | none => simp [hk] at h
  | some cut =>
    obtain ⟨key, rest⟩ := cut
    obtain ⟨isKey, rfl⟩ := isKey_of_splitKey? hk
    simp only [hk] at h
    have gap := List.takeWhile_append_dropWhile (p := isSpaceOrTab) (l := rest)
    split at h
    · rename_i after hd
      have line_eq : key ++ rest = key ++ rest.takeWhile isSpaceOrTab ++
          '=' :: after.takeWhile isSpaceOrTab ++ after.dropWhile isSpaceOrTab := by
        rw [hd] at gap
        conv_lhs => rw [← gap, ← List.takeWhile_append_dropWhile (p := isSpaceOrTab) (l := after)]
        simp
      -- The line ends in the value, so that nothing is trimmed off it.
      have last : ∀ c ∈ (after.dropWhile isSpaceOrTab).getLast?, isSpace c = false := by
        intro c hc
        apply ht
        rw [line_eq]
        exact List.mem_getLast?_append_of_mem_getLast? hc
      rw [Text.trimEnd, Text.trimEndWhere_eq_self_iff.mpr last] at h
      simp only [Option.ite_none_left_eq_some, not_or, Option.some.injEq] at h
      obtain ⟨⟨h1, h2⟩, rfl⟩ := h
      refine ⟨⟨isKey, ?_, last⟩, _, _, fun c hc => List.mem_takeWhile_imp hc,
        fun c hc => List.mem_takeWhile_imp hc, line_eq⟩
      intro c hc
      refine ⟨?_, ?_, ?_⟩
      · exact Text.dropWhile_eq_self_iff.mp (List.dropWhile_idempotent isSpaceOrTab after) c hc
      · rintro rfl
        exact h1 hc
      · rintro rfl
        exact h2 hc
    · simp at h

/-! ### The line that is written for an attribute -/

/-- What is written: the padded key, the sign, and the value after a space if there is one. -/
theorem WellFormed.write_eq {attr : Attribute} (hw : attr.WellFormed) (width : Nat) :
    attr.write width =
      attr.key ++ (List.replicate (width - attr.key.length) ' ' ++ [' ']) ++
        '=' :: (if attr.value = [] then [] else [' ']) ++ attr.value := by
  unfold write
  rw [List.rightpad]
  split_ifs with hv
  · rw [hv, List.append_nil, show " = ".toList = [' ', '='] ++ [' '] from rfl, ← List.append_assoc]
    rw [Text.trimEnd, Text.trimEndWhere_append_of_all _ (by simp [isSpace])]
    rw [Text.trimEndWhere_append_of_ne_nil _ (by simp)]
    · simp
    · decide
  · rw [Text.trimEnd, Text.trimEndWhere_append_of_ne_nil _ hv
      (Text.trimEndWhere_eq_self_iff.mpr hw.last)]
    simp

theorem WellFormed.shows_write {attr : Attribute} (hw : attr.WellFormed) (width : Nat) :
    attr.Shows (attr.write width) := by
  refine ⟨_, _, ?_, ?_, hw.write_eq width⟩
  · intro c hc
    rcases List.mem_append.mp hc with hc | hc
    · rw [List.eq_of_mem_replicate hc]
      rfl
    · simp_all [isSpaceOrTab]
  · split_ifs <;> simp [isSpaceOrTab]

end Attribute

end ProviderDocs.Snippet
