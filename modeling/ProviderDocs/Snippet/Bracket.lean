import ProviderDocs.Text.Basic

/-!
# Brackets of a line

A line of a configuration snippet is read from left to right, and its brackets count only outside
string literals, the interpolations inside them, and comments.  `balance` gives what the line does
to the lines below it: by how much it changes the bracket depth, and whether it leaves a block
comment open.
-/

namespace ProviderDocs.Snippet

/-- What encloses a place of a line. -/
inductive Enclosure where
  /-- A string literal. -/
  | string
  /-- An interpolation inside a string literal, with the number of its own braces still open. -/
  | interpolation (braces : Nat)
  /-- A block comment. -/
  | comment
deriving DecidableEq, Repr

/-- What a line does to the lines below it. -/
structure Balance where
  /-- The brackets opened less the brackets closed. -/
  delta : Int
  /-- Whether the line ends inside a block comment that it opened. -/
  opensComment : Bool
deriving DecidableEq, Repr

/-- An opening bracket of any of the three kinds. -/
def isOpener (c : Char) : Bool :=
  c == '{' || c == '[' || c == '('

/-- A closing bracket of any of the three kinds. -/
def isCloser (c : Char) : Bool :=
  c == '}' || c == ']' || c == ')'

/-- What one character outside all enclosures adds to the bracket depth. -/
def bracketWeight (c : Char) : Int :=
  if isOpener c then 1 else if isCloser c then -1 else 0

/-- Adds to the change of depth. -/
def Balance.add (n : Int) (b : Balance) : Balance :=
  { b with delta := n + b.delta }

/-- The balance of the rest of a line, from inside the given enclosures, the innermost first.

A backslash hides the character after it inside a string literal, and a block comment begins and
ends with two characters that are read together. -/
def balanceFrom (enclosures : List Enclosure) : Text → Balance
  | [] => ⟨0, enclosures.head? == some .comment⟩
  | c :: rest =>
    match enclosures with
    | [] =>
      if c = '"' then balanceFrom [.string] rest
      else if c = '#' then ⟨0, false⟩
      else if c = '/' then
        match rest with
        | '/' :: _ => ⟨0, false⟩
        | '*' :: inside => balanceFrom [.comment] inside
        | other => balanceFrom [] other
      else (balanceFrom [] rest).add (bracketWeight c)
    | .comment :: outer =>
      if c = '*' then
        match rest with
        | '/' :: after => balanceFrom outer after
        | other => balanceFrom (.comment :: outer) other
      else balanceFrom (.comment :: outer) rest
    | .string :: outer =>
      if c = '"' then balanceFrom outer rest
      else if c = '\\' then
        match rest with
        | [] => ⟨0, false⟩
        | _ :: after => balanceFrom (.string :: outer) after
      else if c = '$' ∨ c = '%' then
        match rest with
        | '{' :: inside => balanceFrom (.interpolation 0 :: .string :: outer) inside
        | other => balanceFrom (.string :: outer) other
      else balanceFrom (.string :: outer) rest
    | .interpolation braces :: outer =>
      if c = '"' then balanceFrom (.string :: .interpolation braces :: outer) rest
      else if c = '{' then balanceFrom (.interpolation (braces + 1) :: outer) rest
      else if c = '}' then
        match braces with
        | 0 => balanceFrom outer rest
        | n + 1 => balanceFrom (.interpolation n :: outer) rest
      else balanceFrom (.interpolation braces :: outer) rest

/-- The balance of a line that starts outside all enclosures. -/
def balance (line : Text) : Balance :=
  balanceFrom [] line

/-- The closing brackets that a line starts with. -/
def leadingClosers (line : Text) : Nat :=
  (line.takeWhile isCloser).length

/-- Whether a block comment that is open at the start of a line is closed on it. -/
def closesComment : Text → Bool
  | [] => false
  | c :: rest => (c == '*' && rest.head? == some '/') || closesComment rest

end ProviderDocs.Snippet
