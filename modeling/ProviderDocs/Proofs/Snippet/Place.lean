import Mathlib.Tactic.SplitIfs
import ProviderDocs.Proofs.Snippet.Bracket

/-!
# Places of a line

What encloses a place of a line, told by a machine that reads one character after the other
(`Place.next`): where two characters are read together, the place between them says which one came
first.  So the place behind the beginning of a line (`Place.after`) does not depend on how the line
goes on.

The balance of a line counts the brackets that stand outside (`Place.net`), from whatever encloses
the beginning of the line, and tells whether its end is in a block comment (`balanceFrom_eq`).
-/

namespace ProviderDocs.Snippet

/-- A place of a line. -/
inductive Place where
  /-- Within some enclosures, the innermost first. -/
  | within (enclosures : List Enclosure)
  /-- Outside, behind a slash. -/
  | slash
  /-- In a comment that ends with the line. -/
  | remark
  /-- In a block comment, behind a star. -/
  | star (outer : List Enclosure)
  /-- In a string literal, behind a backslash. -/
  | escape (outer : List Enclosure)
  /-- In a string literal, behind the sign of an interpolation. -/
  | sign (outer : List Enclosure)
deriving DecidableEq, Repr

namespace Place

/-- What encloses a place.  Nothing of a comment that ends with the line is left below it. -/
def enclosures : Place → List Enclosure
  | within enclosures => enclosures
  | slash | remark => []
  | star outer => .comment :: outer
  | escape outer | sign outer => .string :: outer

/-- A place that no string literal, interpolation or comment encloses. -/
def isOutside : Place → Bool
  | within [] | slash => true
  | _ => false

/-- The place behind a character that is read outside. -/
def nextOutside (c : Char) : Place :=
  if c = '"' then within [.string]
  else if c = '#' then remark
  else if c = '/' then slash
  else within []

/-- The place behind a character that is read in a block comment. -/
def nextInComment (outer : List Enclosure) (c : Char) : Place :=
  if c = '*' then star outer else within (.comment :: outer)

/-- The place behind a character that is read in a string literal. -/
def nextInString (outer : List Enclosure) (c : Char) : Place :=
  if c = '"' then within outer
  else if c = '\\' then escape outer
  else if c = '$' ∨ c = '%' then sign outer
  else within (.string :: outer)

/-- The place behind a character that is read in an interpolation. -/
def nextInInterpolation (braces : Nat) (outer : List Enclosure) (c : Char) : Place :=
  if c = '"' then within (.string :: .interpolation braces :: outer)
  else if c = '{' then within (.interpolation (braces + 1) :: outer)
  else if c = '}' then
    match braces with
    | 0 => within outer
    | n + 1 => within (.interpolation n :: outer)
  else within (.interpolation braces :: outer)

/-- The place behind a character. -/
def next : Place → Char → Place
  | within [], c => nextOutside c
  | within (.comment :: outer), c => nextInComment outer c
  | within (.string :: outer), c => nextInString outer c
  | within (.interpolation braces :: outer), c => nextInInterpolation braces outer c
  | slash, c =>
    if c = '/' then remark else if c = '*' then within [.comment] else nextOutside c
  | remark, _ => remark
  | star outer, c => if c = '/' then within outer else nextInComment outer c
  | escape outer, _ => within (.string :: outer)
  | sign outer, c =>
    if c = '{' then within (.interpolation 0 :: .string :: outer) else nextInString outer c

/-- The place behind a text. -/
def after (p : Place) (t : Text) : Place :=
  t.foldl next p

/-- The opening brackets less the closing ones, of those in a text that stand outside. -/
def net (p : Place) : Text → Int
  | [] => 0
  | c :: rest => (if p.isOutside then bracketWeight c else 0) + (p.next c).net rest

/-! ### Places and the balance of a line -/

/-- The balance of what follows a place, with the character before it if the two are read
together. -/
def balanceBehind : Place → Text → Balance
  | within enclosures, t => balanceFrom enclosures t
  | slash, t => balanceFrom [] ('/' :: t)
  | remark, _ => ⟨0, false⟩
  | star outer, t => balanceFrom (.comment :: outer) ('*' :: t)
  | escape outer, t => balanceFrom (.string :: outer) ('\\' :: t)
  | sign outer, t => balanceFrom (.string :: outer) ('$' :: t)

theorem balanceBehind_nil (p : Place) :
    p.balanceBehind [] = ⟨0, p.enclosures.head? == some .comment⟩ := by
  cases p <;> simp [balanceBehind, enclosures, balanceFrom]

theorem balanceFrom_outside (c : Char) (rest : Text) :
    balanceFrom [] (c :: rest) = ((nextOutside c).balanceBehind rest).add (bracketWeight c) := by
  have noBracket {d : Char} (hd : bracketWeight d = 0) (b : Balance) :
      b.add (bracketWeight d) = b := by rw [hd, Balance.add_zero]
  unfold nextOutside
  split_ifs with h1 h2 h3
  · rw [h1, balanceFrom_top_quote, noBracket rfl, balanceBehind]
  · rw [h2, balanceFrom_top_hash, noBracket rfl, balanceBehind]
  · rw [h3, noBracket rfl, balanceBehind]
  · rw [balanceFrom_top rest h1 h2 h3, balanceBehind]

theorem balanceFrom_inComment (outer : List Enclosure) (c : Char) (rest : Text) :
    balanceFrom (.comment :: outer) (c :: rest) = (nextInComment outer c).balanceBehind rest := by
  unfold nextInComment
  split_ifs with h
  · rw [h, balanceBehind]
  · rw [balanceFrom_comment outer rest h, balanceBehind]

theorem balanceFrom_inString (outer : List Enclosure) (c : Char) (rest : Text) :
    balanceFrom (.string :: outer) (c :: rest) = (nextInString outer c).balanceBehind rest := by
  unfold nextInString
  split_ifs with h1 h2 h3
  · rw [h1, balanceFrom_string_quote, balanceBehind]
  · rw [h2, balanceBehind]
  · -- The signs of an interpolation are read alike.
    rw [balanceBehind, balanceFrom_string_cons, balanceFrom_string_cons]
    rcases h3 with rfl | rfl <;> simp
  · rw [balanceFrom_string outer rest h1 h2 h3, balanceBehind]

theorem balanceFrom_inInterpolation (braces : Nat) (outer : List Enclosure) (c : Char)
    (rest : Text) :
    balanceFrom (.interpolation braces :: outer) (c :: rest) =
      (nextInInterpolation braces outer c).balanceBehind rest := by
  unfold nextInInterpolation
  split_ifs with h1 h2 h3
  · rw [h1, balanceFrom_interpolation_quote, balanceBehind]
  · rw [h2, balanceFrom_interpolation_open, balanceBehind]
  · cases braces with
    | zero => rw [h3, balanceFrom_interpolation_close_last, balanceBehind]
    | succ n => rw [h3, balanceFrom_interpolation_close, balanceBehind]
  · rw [balanceFrom_interpolation outer rest braces h1 h2 h3, balanceBehind]

/-- One character of a line adds to its balance only where it stands outside. -/
theorem balanceBehind_cons (p : Place) (c : Char) (rest : Text) :
    p.balanceBehind (c :: rest) =
      ((p.next c).balanceBehind rest).add (if p.isOutside then bracketWeight c else 0) := by
  cases p with
  | within enclosures =>
    rcases enclosures with _ | ⟨enclosure, outer⟩
    · exact balanceFrom_outside c rest
    · cases enclosure with
      | string => exact (balanceFrom_inString outer c rest).trans (Balance.add_zero _).symm
      | comment => exact (balanceFrom_inComment outer c rest).trans (Balance.add_zero _).symm
      | interpolation braces =>
        exact (balanceFrom_inInterpolation braces outer c rest).trans (Balance.add_zero _).symm
  | slash =>
    show balanceFrom [] ('/' :: c :: rest) =
      ((slash.next c).balanceBehind rest).add (bracketWeight c)
    rw [next]
    split_ifs with h1 h2
    · rw [h1, balanceFrom_top_slash_slash]
      rfl
    · rw [h2, balanceFrom_top_slash_star]
      exact (Balance.add_zero _).symm
    · rw [balanceFrom_top_slash rest h1 h2, balanceFrom_outside]
  | remark => rfl
  | star outer =>
    show balanceFrom (.comment :: outer) ('*' :: c :: rest) =
      (((star outer).next c).balanceBehind rest).add 0
    rw [Balance.add_zero]
    rw [next]
    split_ifs with h
    · rw [h, balanceFrom_comment_star_slash, balanceBehind]
    · rw [balanceFrom_comment_star outer rest h, balanceFrom_inComment]
  | escape outer =>
    show balanceFrom (.string :: outer) ('\\' :: c :: rest) =
      (((escape outer).next c).balanceBehind rest).add 0
    rw [Balance.add_zero, balanceFrom_string_backslash]
    rfl
  | sign outer =>
    show balanceFrom (.string :: outer) ('$' :: c :: rest) =
      (((sign outer).next c).balanceBehind rest).add 0
    rw [Balance.add_zero]
    rw [next]
    split_ifs with h
    · rw [h, balanceFrom_string_sign_brace outer rest (.inl rfl), balanceBehind]
    · rw [balanceFrom_string_sign outer rest (.inl rfl) h, balanceFrom_inString]

theorem balanceBehind_eq (p : Place) (t : Text) :
    p.balanceBehind t = ⟨p.net t, (p.after t).enclosures.head? == some .comment⟩ := by
  induction t generalizing p with
  | nil => exact p.balanceBehind_nil
  | cons c rest ih =>
    rw [balanceBehind_cons, ih]
    rfl

end Place

/-- The balance of a line is that of the brackets that stand outside, and it tells whether the line
ends in a block comment. -/
theorem balanceFrom_eq (enclosures : List Enclosure) (t : Text) :
    balanceFrom enclosures t = ⟨(Place.within enclosures).net t,
      ((Place.within enclosures).after t).enclosures.head? == some .comment⟩ :=
  Place.balanceBehind_eq (.within enclosures) t

end ProviderDocs.Snippet
