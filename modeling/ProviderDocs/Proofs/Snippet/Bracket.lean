import ProviderDocs.Snippet.Bracket

/-!
# Brackets and the characters between them

The balance of a line does not depend on characters without a meaning of their own, such as spaces
and the sign of an attribute (`balanceFrom_append_of_isPlain`), and what a line begins with does not
matter to whether two ways to go on have the same balance, if it does not end in a character that is
read together with the next one (`balanceFrom_append_congr`).  So the white space of a line can be
changed wherever it does not follow such a character.
-/

namespace ProviderDocs.Snippet

/-! ### One step of the reading of a line

For each enclosure the equation of `balanceFrom`, and from it one for each way to go on, with the
characters that are read together in one step. -/

section Steps

variable (outer : List Enclosure) (rest : Text)

theorem balanceFrom_top_cons (c : Char) :
    balanceFrom [] (c :: rest) =
      if c = '"' then balanceFrom [.string] rest
      else if c = '#' then ⟨0, false⟩
      else if c = '/' then
        match rest with
        | '/' :: _ => ⟨0, false⟩
        | '*' :: inside => balanceFrom [.comment] inside
        | other => balanceFrom [] other
      else (balanceFrom [] rest).add (bracketWeight c) := by
  exact balanceFrom.eq_def _ _

theorem balanceFrom_comment_cons (c : Char) :
    balanceFrom (.comment :: outer) (c :: rest) =
      if c = '*' then
        match rest with
        | '/' :: after => balanceFrom outer after
        | other => balanceFrom (.comment :: outer) other
      else balanceFrom (.comment :: outer) rest := by
  exact balanceFrom.eq_def _ _

theorem balanceFrom_string_cons (c : Char) :
    balanceFrom (.string :: outer) (c :: rest) =
      if c = '"' then balanceFrom outer rest
      else if c = '\\' then
        match rest with
        | [] => ⟨0, false⟩
        | _ :: after => balanceFrom (.string :: outer) after
      else if c = '$' ∨ c = '%' then
        match rest with
        | '{' :: inside => balanceFrom (.interpolation 0 :: .string :: outer) inside
        | other => balanceFrom (.string :: outer) other
      else balanceFrom (.string :: outer) rest := by
  exact balanceFrom.eq_def _ _

theorem balanceFrom_interpolation_cons (braces : Nat) (c : Char) :
    balanceFrom (.interpolation braces :: outer) (c :: rest) =
      if c = '"' then balanceFrom (.string :: .interpolation braces :: outer) rest
      else if c = '{' then balanceFrom (.interpolation (braces + 1) :: outer) rest
      else if c = '}' then
        match braces with
        | 0 => balanceFrom outer rest
        | n + 1 => balanceFrom (.interpolation n :: outer) rest
      else balanceFrom (.interpolation braces :: outer) rest := by
  exact balanceFrom.eq_def _ _

theorem balanceFrom_top_quote : balanceFrom [] ('"' :: rest) = balanceFrom [.string] rest := by
  rw [balanceFrom_top_cons, if_pos rfl]

theorem balanceFrom_top_hash : balanceFrom [] ('#' :: rest) = ⟨0, false⟩ := by
  rw [balanceFrom_top_cons, if_neg (by decide), if_pos rfl]

theorem balanceFrom_top_slash_slash : balanceFrom [] ('/' :: '/' :: rest) = ⟨0, false⟩ := by
  simp [balanceFrom_top_cons]

theorem balanceFrom_top_slash_star :
    balanceFrom [] ('/' :: '*' :: rest) = balanceFrom [.comment] rest := by
  simp [balanceFrom_top_cons]

theorem balanceFrom_top_slash {d : Char} (h1 : d ≠ '/') (h2 : d ≠ '*') :
    balanceFrom [] ('/' :: d :: rest) = balanceFrom [] (d :: rest) := by
  rw [balanceFrom_top_cons]
  simp [h1, h2]

theorem balanceFrom_top {c : Char} (h1 : c ≠ '"') (h2 : c ≠ '#') (h3 : c ≠ '/') :
    balanceFrom [] (c :: rest) = (balanceFrom [] rest).add (bracketWeight c) := by
  rw [balanceFrom_top_cons, if_neg h1, if_neg h2, if_neg h3]

theorem balanceFrom_comment_star_slash :
    balanceFrom (.comment :: outer) ('*' :: '/' :: rest) = balanceFrom outer rest := by
  simp [balanceFrom_comment_cons]

theorem balanceFrom_comment_star {d : Char} (h : d ≠ '/') :
    balanceFrom (.comment :: outer) ('*' :: d :: rest) =
      balanceFrom (.comment :: outer) (d :: rest) := by
  rw [balanceFrom_comment_cons]
  simp [h]

theorem balanceFrom_comment {c : Char} (h : c ≠ '*') :
    balanceFrom (.comment :: outer) (c :: rest) = balanceFrom (.comment :: outer) rest := by
  rw [balanceFrom_comment_cons, if_neg h]

theorem balanceFrom_string_quote :
    balanceFrom (.string :: outer) ('"' :: rest) = balanceFrom outer rest := by
  rw [balanceFrom_string_cons, if_pos rfl]

theorem balanceFrom_string_backslash (c : Char) :
    balanceFrom (.string :: outer) ('\\' :: c :: rest) = balanceFrom (.string :: outer) rest := by
  simp [balanceFrom_string_cons]

theorem balanceFrom_string_sign_brace {c : Char} (h : c = '$' ∨ c = '%') :
    balanceFrom (.string :: outer) (c :: '{' :: rest) =
      balanceFrom (.interpolation 0 :: .string :: outer) rest := by
  rw [balanceFrom_string_cons]
  rcases h with rfl | rfl <;> simp

theorem balanceFrom_string_sign {c d : Char} (h : c = '$' ∨ c = '%') (hd : d ≠ '{') :
    balanceFrom (.string :: outer) (c :: d :: rest) =
      balanceFrom (.string :: outer) (d :: rest) := by
  rw [balanceFrom_string_cons]
  rcases h with rfl | rfl <;> simp [hd]

theorem balanceFrom_string {c : Char} (h1 : c ≠ '"') (h2 : c ≠ '\\') (h3 : ¬ (c = '$' ∨ c = '%')) :
    balanceFrom (.string :: outer) (c :: rest) = balanceFrom (.string :: outer) rest := by
  rw [balanceFrom_string_cons, if_neg h1, if_neg h2, if_neg h3]

variable (braces : Nat)

theorem balanceFrom_interpolation_quote :
    balanceFrom (.interpolation braces :: outer) ('"' :: rest) =
      balanceFrom (.string :: .interpolation braces :: outer) rest := by
  rw [balanceFrom_interpolation_cons, if_pos rfl]

theorem balanceFrom_interpolation_open :
    balanceFrom (.interpolation braces :: outer) ('{' :: rest) =
      balanceFrom (.interpolation (braces + 1) :: outer) rest := by
  rw [balanceFrom_interpolation_cons, if_neg (by decide), if_pos rfl]

theorem balanceFrom_interpolation_close_last :
    balanceFrom (.interpolation 0 :: outer) ('}' :: rest) = balanceFrom outer rest := by
  simp [balanceFrom_interpolation_cons]

theorem balanceFrom_interpolation_close :
    balanceFrom (.interpolation (braces + 1) :: outer) ('}' :: rest) =
      balanceFrom (.interpolation braces :: outer) rest := by
  simp [balanceFrom_interpolation_cons]

theorem balanceFrom_interpolation {c : Char} (h1 : c ≠ '"') (h2 : c ≠ '{') (h3 : c ≠ '}') :
    balanceFrom (.interpolation braces :: outer) (c :: rest) =
      balanceFrom (.interpolation braces :: outer) rest := by
  rw [balanceFrom_interpolation_cons, if_neg h1, if_neg h2, if_neg h3]

end Steps

/-! ### What does not change the balance -/

/-- A character that may be read together with the one after it. -/
def looksAhead (c : Char) : Bool :=
  c == '/' || c == '*' || c == '\\' || c == '$' || c == '%'

/-- A character that has no meaning of its own to the balance of a line, whatever encloses it. -/
def isPlain (c : Char) : Bool :=
  !(looksAhead c || isOpener c || isCloser c || c == '"' || c == '#')

@[simp]
theorem Balance.add_zero (b : Balance) : b.add 0 = b := by
  simp [Balance.add]

theorem bracketWeight_of_isPlain {c : Char} (h : isPlain c = true) : bracketWeight c = 0 := by
  simp only [isPlain, Bool.not_eq_true', Bool.or_eq_false_iff] at h
  simp [bracketWeight, h]

/-- A plain character changes nothing. -/
theorem balanceFrom_cons_of_isPlain {c : Char} (h : isPlain c = true) (enclosures : List Enclosure)
    (rest : Text) : balanceFrom enclosures (c :: rest) = balanceFrom enclosures rest := by
  have weight := bracketWeight_of_isPlain h
  have differs : c ≠ '/' ∧ c ≠ '*' ∧ c ≠ '\\' ∧ c ≠ '$' ∧ c ≠ '%' ∧ c ≠ '{' ∧ c ≠ '}' ∧ c ≠ '"' ∧
      c ≠ '#' := by
    refine ⟨?_, ?_, ?_, ?_, ?_, ?_, ?_, ?_, ?_⟩ <;> rintro rfl <;> revert h <;> decide
  rw [balanceFrom.eq_def enclosures (c :: rest)]
  rcases enclosures with _ | ⟨enclosure, outer⟩
  · simp [differs, weight]
  · cases enclosure <;> simp [differs]

/-- Plain characters change nothing. -/
theorem balanceFrom_append_of_isPlain {gap : Text} (h : ∀ c ∈ gap, isPlain c = true)
    (enclosures : List Enclosure) (rest : Text) :
    balanceFrom enclosures (gap ++ rest) = balanceFrom enclosures rest := by
  induction gap with
  | nil => rfl
  | cons c gap ih =>
    rw [List.cons_append, balanceFrom_cons_of_isPlain (h c List.mem_cons_self)]
    exact ih fun d hd => h d (List.mem_cons_of_mem _ hd)

/-- The last character of a text, if there is one, is not read together with what comes after it. -/
def EndsWhole (t : Text) : Prop :=
  ∀ c ∈ t.getLast?, looksAhead c = false

theorem EndsWhole.tail {c : Char} {rest : Text} (h : EndsWhole (c :: rest)) : EndsWhole rest := by
  intro d hd
  apply h
  rw [List.getLast?_cons, Option.mem_def.mp hd]
  rfl

/-- What is read together with the next character has one. -/
theorem EndsWhole.exists_cons {c : Char} {rest : Text} (h : EndsWhole (c :: rest))
    (hc : looksAhead c = true) : ∃ d after, rest = d :: after := by
  cases rest with
  | nil => simp [h c rfl] at hc
  | cons d after => exact ⟨d, after, rfl⟩

/-- Two ways to go on that have the same balance from inside whatever enclosures have it below
whatever a line begins with, if this does not end in the middle of what is read together. -/
theorem balanceFrom_append_congr {start x y : Text} (last : EndsWhole start)
    (h : ∀ enclosures, balanceFrom enclosures x = balanceFrom enclosures y)
    (enclosures : List Enclosure) :
    balanceFrom enclosures (start ++ x) = balanceFrom enclosures (start ++ y) := by
  -- The cases are the ways to read `start` on.  Where two characters are read together, the first
  -- is not the last of `start`, so that the second is the same on both sides.
  fun_induction balanceFrom enclosures start with
  | case1 enclosures => exact h enclosures
  -- Outside of all enclosures.
  | case2 rest ih =>
    simp only [List.cons_append, balanceFrom_top_quote, ih last.tail]
  | case3 rest =>
    simp only [List.cons_append, balanceFrom_top_hash]
  | case4 rest =>
    simp only [List.cons_append, balanceFrom_top_slash_slash]
  | case5 inside _ _ ih =>
    simp only [List.cons_append, balanceFrom_top_slash_star, ih last.tail.tail]
  | case6 other h1 h2 _ _ ih =>
    obtain ⟨d, after, rfl⟩ := last.exists_cons rfl
    have hd1 : d ≠ '/' := fun e => h1 after (by rw [e])
    have hd2 : d ≠ '*' := fun e => h2 after (by rw [e])
    simp only [List.cons_append, balanceFrom_top_slash _ hd1 hd2] at ih ⊢
    exact ih last.tail
  | case7 c rest h1 h2 h3 ih =>
    simp only [List.cons_append, balanceFrom_top _ h1 h2 h3, ih last.tail]
  -- In a comment.
  | case8 outer after ih =>
    simp only [List.cons_append, balanceFrom_comment_star_slash, ih last.tail.tail]
  | case9 outer other h1 ih =>
    obtain ⟨d, after, rfl⟩ := last.exists_cons rfl
    have hd : d ≠ '/' := fun e => h1 after (by rw [e])
    simp only [List.cons_append, balanceFrom_comment_star _ _ hd] at ih ⊢
    exact ih last.tail
  | case10 c rest outer hc ih =>
    simp only [List.cons_append, balanceFrom_comment _ _ hc, ih last.tail]
  -- In a string.
  | case11 rest outer ih =>
    simp only [List.cons_append, balanceFrom_string_quote, ih last.tail]
  | case12 outer =>
    -- A backslash with nothing after it is the last of `start`.
    obtain ⟨d, after, hd⟩ := last.exists_cons rfl
    simp at hd
  | case13 outer c after _ ih =>
    simp only [List.cons_append, balanceFrom_string_backslash, ih last.tail.tail]
  | case14 c outer _ _ hc inside ih =>
    simp only [List.cons_append, balanceFrom_string_sign_brace _ _ hc, ih last.tail.tail]
  | case15 c outer _ _ hc other h1 ih =>
    obtain ⟨d, after, rfl⟩ := last.exists_cons (by rcases hc with rfl | rfl <;> rfl)
    have hd : d ≠ '{' := fun e => h1 after (by rw [e])
    simp only [List.cons_append, balanceFrom_string_sign _ _ hc hd] at ih ⊢
    exact ih last.tail
  | case16 c rest outer h1 h2 h3 ih =>
    simp only [List.cons_append, balanceFrom_string _ _ h1 h2 h3, ih last.tail]
  -- In an interpolation.
  | case17 rest braces outer ih =>
    simp only [List.cons_append, balanceFrom_interpolation_quote, ih last.tail]
  | case18 rest braces outer _ ih =>
    simp only [List.cons_append, balanceFrom_interpolation_open, ih last.tail]
  | case19 rest outer _ _ ih =>
    simp only [List.cons_append, balanceFrom_interpolation_close_last, ih last.tail]
  | case20 rest outer n _ _ ih =>
    simp only [List.cons_append, balanceFrom_interpolation_close, ih last.tail]
  | case21 c rest braces outer h1 h2 h3 ih =>
    simp only [List.cons_append, balanceFrom_interpolation _ _ _ h1 h2 h3, ih last.tail]

end ProviderDocs.Snippet
