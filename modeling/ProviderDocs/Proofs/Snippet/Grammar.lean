import ProviderDocs.Proofs.Snippet.Bracket

/-!
# The grammar of a line

A line that leaves no string literal open is made of items: brackets, string literals, block
comments, and other characters, the last of them perhaps followed by a comment that is not closed on
the line (`IsMadeOf`).  A literal holds interpolations, these hold braces and further literals, and
so on to any depth (`IsInside`).

The balance of such a line counts its bracket items (`balance_of_isMadeOf`).  What stands inside a
literal or an interpolation is read through to the character that closes it, whatever encloses both
(`balanceFrom_append_of_isInside`), and so is what stands inside a comment
(`balanceFrom_comment_append`).
-/

namespace ProviderDocs.Snippet

/-! ### Inside of literals -/

/-- What text may stand inside of. -/
inductive Delimiter where
  /-- The quotes of a string literal. -/
  | quotes
  /-- The braces of an interpolation, or braces inside of one. -/
  | braces

/-- The character that closes what a delimiter opened. -/
def Delimiter.closing : Delimiter → Char
  | quotes => '"'
  | braces => '}'

/-- A delimiter opens an enclosure. -/
inductive Delimiter.Opens : Delimiter → Enclosure → Prop where
  | string : Opens quotes .string
  | interpolation (n : Nat) : Opens braces (.interpolation n)

/-- A text may stand inside of a delimiter: everything that is opened in it is closed in it, and the
delimiter itself is not. -/
inductive IsInside : Delimiter → Text → Prop where
  | empty {delimiter : Delimiter} : IsInside delimiter []
  /-- A character of a literal.  A sign with a brace behind it is none. -/
  | character {c : Char} {rest : Text} (quote : c ≠ '"') (backslash : c ≠ '\\')
    (sign : c = '$' ∨ c = '%' → rest.head? ≠ some '{') (later : IsInside .quotes rest) :
    IsInside .quotes (c :: rest)
  /-- Any character of a literal behind a backslash. -/
  | escape {c : Char} {rest : Text} (later : IsInside .quotes rest) :
    IsInside .quotes ('\\' :: c :: rest)
  /-- An interpolation in a literal. -/
  | interpolation {c : Char} {inside rest : Text} (sign : c = '$' ∨ c = '%')
    (first : IsInside .braces inside) (later : IsInside .quotes rest) :
    IsInside .quotes (c :: '{' :: (inside ++ '}' :: rest))
  /-- A character of an interpolation. -/
  | code {c : Char} {rest : Text} (quote : c ≠ '"') (opening : c ≠ '{') (closing : c ≠ '}')
    (later : IsInside .braces rest) : IsInside .braces (c :: rest)
  /-- Braces in an interpolation. -/
  | braces {inside rest : Text} (first : IsInside .braces inside) (later : IsInside .braces rest) :
    IsInside .braces ('{' :: (inside ++ '}' :: rest))
  /-- A literal in an interpolation. -/
  | literal {inside rest : Text} (first : IsInside .quotes inside)
    (later : IsInside .braces rest) : IsInside .braces ('"' :: (inside ++ '"' :: rest))

/-- What stands inside of a delimiter is read through to its end, whatever encloses it further
out. -/
theorem balanceFrom_append_of_isInside {delimiter : Delimiter} {t : Text}
    (h : IsInside delimiter t) {enclosure : Enclosure} (opens : delimiter.Opens enclosure)
    (outer : List Enclosure) (rest : Text) :
    balanceFrom (enclosure :: outer) (t ++ delimiter.closing :: rest) =
      balanceFrom (enclosure :: outer) (delimiter.closing :: rest) := by
  induction h generalizing enclosure outer rest with
  | empty => rfl
  | @character c t quote backslash sign _ ih =>
    cases opens
    rw [List.cons_append]
    by_cases hs : c = '$' ∨ c = '%'
    · -- Behind the sign stands the next character, or the quote at the end.
      obtain ⟨d, after, hd⟩ : ∃ d after, t ++ Delimiter.quotes.closing :: rest = d :: after :=
        List.exists_cons_of_ne_nil (by simp)
      have noBrace : d ≠ '{' := by
        rintro rfl
        cases t with
        | nil => exact absurd (List.cons.inj hd).1 (by decide)
        | cons _ _ => exact sign hs (congrArg some (List.cons.inj hd).1)
      rw [hd, balanceFrom_string_sign _ _ hs noBrace, ← hd, ih .string]
    · rw [balanceFrom_string _ _ quote backslash hs, ih .string]
  | escape _ ih =>
    cases opens
    rw [List.cons_append, List.cons_append, balanceFrom_string_backslash, ih .string]
  | interpolation sign _ _ ihInside ih =>
    cases opens
    simp only [List.cons_append, List.append_assoc]
    rw [balanceFrom_string_sign_brace _ _ sign]
    exact (ihInside (.interpolation 0) _ _).trans
      ((balanceFrom_interpolation_close_last _ _).trans (ih .string _ _))
  | code quote opening closing _ ih =>
    cases opens with
    | interpolation n =>
      rw [List.cons_append, balanceFrom_interpolation _ _ _ quote opening closing,
        ih (.interpolation n)]
  | braces _ _ ihInside ih =>
    cases opens with
    | interpolation n =>
      simp only [List.cons_append, List.append_assoc]
      rw [balanceFrom_interpolation_open]
      exact (ihInside (.interpolation (n + 1)) _ _).trans
        ((balanceFrom_interpolation_close _ _ _).trans (ih (.interpolation n) _ _))
  | literal _ _ ihInside ih =>
    cases opens with
    | interpolation n =>
      simp only [List.cons_append, List.append_assoc]
      rw [balanceFrom_interpolation_quote]
      exact (ihInside .string _ _).trans
        ((balanceFrom_string_quote _ _).trans (ih (.interpolation n) _ _))

/-! ### Inside of comments -/

/-- The end of a block comment does not occur in a text. -/
def LacksCommentEnd (t : Text) : Prop :=
  ¬['*', '/'] <:+: t

theorem LacksCommentEnd.tail {c : Char} {rest : Text} (h : LacksCommentEnd (c :: rest)) :
    LacksCommentEnd rest :=
  fun inside => h (inside.trans (List.suffix_cons c rest).isInfix)

theorem LacksCommentEnd.head?_ne {rest : Text} (h : LacksCommentEnd ('*' :: rest)) :
    rest.head? ≠ some '/' := by
  intro slash
  obtain ⟨after, rfl⟩ := List.head?_eq_some_iff.mp slash
  exact h ⟨[], after, rfl⟩

/-- The text of a comment is read through to what comes after it, if the two do not form the end of
the comment between them. -/
theorem balanceFrom_comment_append {t : Text} (h : LacksCommentEnd t) (outer : List Enclosure)
    {rest : Text} (next : rest.head? ≠ some '/') :
    balanceFrom (.comment :: outer) (t ++ rest) = balanceFrom (.comment :: outer) rest := by
  induction t with
  | nil => rfl
  | cons c t ih =>
    rw [← ih h.tail, List.cons_append]
    by_cases hc : c = '*'
    · subst hc
      have noSlash : (t ++ rest).head? ≠ some '/' := by
        cases t with
        | nil => exact next
        | cons _ _ => exact h.head?_ne
      cases ht : t ++ rest with
      | nil => simp [balanceFrom_comment_cons]
      | cons d after =>
        refine balanceFrom_comment_star _ _ ?_
        rintro rfl
        exact noSlash (by rw [ht]; rfl)
    · exact balanceFrom_comment _ _ hc

/-! ### Items of a line -/

/-- An item of a line. -/
inductive LineItem where
  | opening (bracket : Char)
  | closing (bracket : Char)
  /-- A string literal, with what stands between its quotes. -/
  | literal (inside : Text)
  /-- A block comment that is closed on the line, with what stands in it. -/
  | comment (inside : Text)
  | other (c : Char)
deriving DecidableEq, Repr

namespace LineItem

/-- Whether an item is an opening bracket. -/
def isOpening : LineItem → Bool
  | opening _ => true
  | _ => false

/-- Whether an item is a closing bracket. -/
def isClosing : LineItem → Bool
  | closing _ => true
  | _ => false

end LineItem

/-- How a line ends behind its last item. -/
inductive LineEnd where
  | nothing
  /-- A comment up to the end of the line. -/
  | remark
  /-- A block comment that is left open. -/
  | openComment
deriving DecidableEq, Repr

/-- A line is made of some items, and of what it ends in. -/
inductive IsMadeOf : Text → List LineItem → LineEnd → Prop where
  | nothing : IsMadeOf [] [] .nothing
  | hash (t : Text) : IsMadeOf ('#' :: t) [] .remark
  | slashes (t : Text) : IsMadeOf ('/' :: '/' :: t) [] .remark
  | openComment {t : Text} (h : LacksCommentEnd t) : IsMadeOf ('/' :: '*' :: t) [] .openComment
  | opening {c : Char} {rest : Text} {items : List LineItem} {ending : LineEnd}
    (h : c = '{' ∨ c = '[' ∨ c = '(') (later : IsMadeOf rest items ending) :
    IsMadeOf (c :: rest) (.opening c :: items) ending
  | closing {c : Char} {rest : Text} {items : List LineItem} {ending : LineEnd}
    (h : c = '}' ∨ c = ']' ∨ c = ')') (later : IsMadeOf rest items ending) :
    IsMadeOf (c :: rest) (.closing c :: items) ending
  | literal {inside rest : Text} {items : List LineItem} {ending : LineEnd}
    (h : IsInside .quotes inside) (later : IsMadeOf rest items ending) :
    IsMadeOf ('"' :: (inside ++ '"' :: rest)) (.literal inside :: items) ending
  /-- A comment ends where its end first occurs. -/
  | comment {inside rest : Text} {items : List LineItem} {ending : LineEnd}
    (h : LacksCommentEnd inside) (later : IsMadeOf rest items ending) :
    IsMadeOf ('/' :: '*' :: (inside ++ '*' :: '/' :: rest)) (.comment inside :: items) ending
  /-- Any other character, unless a literal or a comment begins with it. -/
  | other {c : Char} {rest : Text} {items : List LineItem} {ending : LineEnd}
    (bracket : c ∉ ['{', '[', '(', '}', ']', ')']) (quote : c ≠ '"') (hash : c ≠ '#')
    (slash : c = '/' → rest.head? ≠ some '/' ∧ rest.head? ≠ some '*')
    (later : IsMadeOf rest items ending) : IsMadeOf (c :: rest) (.other c :: items) ending

theorem Balance.delta_add (n : Int) (b : Balance) : (b.add n).delta = n + b.delta :=
  rfl

theorem balance_opening {c : Char} (h : c = '{' ∨ c = '[' ∨ c = '(') (rest : Text) :
    balance (c :: rest) = (balance rest).add 1 := by
  rcases h with rfl | rfl | rfl <;> exact balanceFrom_top _ (by decide) (by decide) (by decide)

theorem balance_closing {c : Char} (h : c = '}' ∨ c = ']' ∨ c = ')') (rest : Text) :
    balance (c :: rest) = (balance rest).add (-1) := by
  rcases h with rfl | rfl | rfl <;> exact balanceFrom_top _ (by decide) (by decide) (by decide)

theorem balance_literal {inside : Text} (h : IsInside .quotes inside) (rest : Text) :
    balance ('"' :: (inside ++ '"' :: rest)) = balance rest := by
  rw [balance, balanceFrom_top_quote]
  exact (balanceFrom_append_of_isInside h .string [] rest).trans (balanceFrom_string_quote _ _)

theorem balance_comment {inside : Text} (h : LacksCommentEnd inside) (rest : Text) :
    balance ('/' :: '*' :: (inside ++ '*' :: '/' :: rest)) = balance rest := by
  rw [balance, balanceFrom_top_slash_star, balanceFrom_comment_append h _ (by simp),
    balanceFrom_comment_star_slash, balance]

theorem balance_openComment {t : Text} (h : LacksCommentEnd t) :
    balance ('/' :: '*' :: t) = ⟨0, true⟩ := by
  have whole := @balanceFrom_comment_append t h [] [] (by simp)
  rw [List.append_nil] at whole
  rw [balance, balanceFrom_top_slash_star, whole]
  simp [balanceFrom]

theorem balance_other {c : Char} {rest : Text} (bracket : c ∉ ['{', '[', '(', '}', ']', ')'])
    (quote : c ≠ '"') (hash : c ≠ '#')
    (slash : c = '/' → rest.head? ≠ some '/' ∧ rest.head? ≠ some '*') :
    balance (c :: rest) = balance rest := by
  by_cases hc : c = '/'
  · subst hc
    obtain ⟨noSlash, noStar⟩ := slash rfl
    cases rest with
    | nil => simp [balance, balanceFrom_top_cons]
    | cons d after =>
      exact balanceFrom_top_slash _ (fun h => noSlash (congrArg some h))
        (fun h => noStar (congrArg some h))
  · have weight : bracketWeight c = 0 := by
      simp only [List.mem_cons, List.not_mem_nil, or_false, not_or] at bracket
      simp [bracketWeight, isOpener, isCloser, bracket]
    rw [balance, balanceFrom_top _ quote hash hc, weight, Balance.add_zero, balance]

/-- A line that is made of items changes the depth by its opening brackets less its closing ones,
and leaves a block comment open exactly if it ends in one. -/
theorem balance_of_isMadeOf {line : Text} {items : List LineItem} {ending : LineEnd}
    (h : IsMadeOf line items ending) :
    (balance line).delta =
        (items.countP LineItem.isOpening : Int) - (items.countP LineItem.isClosing : Int) ∧
      ((balance line).opensComment = true ↔ ending = .openComment) := by
  induction h with
  | nothing => simp [balance, balanceFrom]
  | hash t => simp [balance, balanceFrom_top_hash]
  | slashes t => simp [balance, balanceFrom_top_slash_slash]
  | openComment h => simp [balance_openComment h]
  | opening h _ ih =>
    rw [balance_opening h, List.countP_cons_of_pos rfl, List.countP_cons_of_neg Bool.false_ne_true]
    refine ⟨?_, ih.2⟩
    rw [Balance.delta_add, ih.1]
    omega
  | closing h _ ih =>
    rw [balance_closing h, List.countP_cons_of_neg Bool.false_ne_true, List.countP_cons_of_pos rfl]
    refine ⟨?_, ih.2⟩
    rw [Balance.delta_add, ih.1]
    omega
  -- No other item adds to either count.
  | literal h _ ih => rwa [balance_literal h]
  | comment h _ ih => rwa [balance_comment h]
  | other bracket quote hash slash _ ih => rwa [balance_other bracket quote hash slash]

/-- A line with an escaped quote in a literal, a literal in braces in an interpolation of it, and
two comments, the second of which is left open: of the brackets two count. -/
def nestedLine : Text :=
  "\x7b\"\\\"$\x7b\x7b\"\x7d\"\x7d\x7d\"/*é[*/(/*]".toList

theorem nestedLine_balance :
    IsMadeOf nestedLine
        [.opening '{', .literal "\\\"$\x7b\x7b\"\x7d\"\x7d\x7d".toList, .comment "é[".toList,
          .opening '('] .openComment ∧
      (balance nestedLine).delta = 2 ∧ (balance nestedLine).opensComment = true := by
  have brace : IsInside .quotes ['}'] := .character (by decide) (by decide) (by decide) .empty
  have braces := IsInside.braces (.literal brace .empty) .empty
  have inside := @IsInside.escape '"' _ (.interpolation (.inl rfl) braces .empty)
  have comment : LacksCommentEnd ['é', '['] := by unfold LacksCommentEnd; decide
  have last : LacksCommentEnd [']'] := by unfold LacksCommentEnd; decide
  have line := IsMadeOf.opening (.inl rfl) (.literal inside
    (.comment comment (.opening (.inr (.inr rfl)) (.openComment last))))
  have made : IsMadeOf nestedLine
      [.opening '{', .literal "\\\"$\x7b\x7b\"\x7d\"\x7d\x7d".toList, .comment "é[".toList,
        .opening '('] .openComment := by
    exact line
  obtain ⟨delta, opens⟩ := balance_of_isMadeOf made
  exact ⟨made, delta, opens.mpr rfl⟩

end ProviderDocs.Snippet
