import ProviderDocs.Text.Alphanumeric

/-!
# Attributes and block headers

The two kinds of line whose spacing a formatter settles: an attribute `key = value`, and a block
header that ends in an opening brace.
-/

namespace ProviderDocs.Snippet

/-- A character that a name may begin with. -/
def isNameStart (c : Char) : Bool :=
  c.isAlpha || c == '_'

/-- A character that a name may go on with. -/
def isNameChar (c : Char) : Bool :=
  c.isAlphanum || c == '_'

/-- A character that an attribute key may go on with. -/
def isKeyChar (c : Char) : Bool :=
  isNameChar c || c == '-'

/-- A `key = value` line. -/
structure Attribute where
  /-- A name, or a text between quotes, with the quotes. -/
  key : Text
  /-- What is assigned, without white space around it; it may be empty. -/
  value : Text
deriving DecidableEq, Repr

/-- Cuts a line after the key that it begins with. -/
def splitKey? : Text → Option (Text × Text)
  | [] => none
  | c :: rest =>
    if c = '"' then
      match rest.dropWhile (· != '"') with
      | [] => none
      | quote :: after => some (c :: rest.takeWhile (· != '"') ++ [quote], after)
    else if isNameStart c then
      some (c :: rest.takeWhile isKeyChar, rest.dropWhile isKeyChar)
    else none

/-- The attribute on a line, unless its sign is that of a comparison or an arrow. -/
def Attribute.ofLine? (line : Text) : Option Attribute :=
  match splitKey? line with
  | none => none
  | some (key, rest) =>
    match rest.dropWhile isSpaceOrTab with
    | '=' :: after =>
      let value := Text.trimEnd (after.dropWhile isSpaceOrTab)
      if value.head? = some '=' ∨ value.head? = some '>' then none else some ⟨key, value⟩
    | _ => none

/-- An attribute written out, its key padded to a width. -/
def Attribute.write (width : Nat) (attr : Attribute) : Text :=
  Text.trimEnd (attr.key.rightpad width ' ' ++ " = ".toList ++ attr.value)

/-- A character that a block header may end in before its brace. -/
def endsHeader (c : Char) : Bool :=
  c == '"' || isAlphanumeric c || c == '_'

/-- Sets one space before the brace that ends a block header; any other line stays as it is. -/
def spaceHeader (line : Text) : Text :=
  if line.getLast? = some '{' then
    let head := Text.trimEnd line.dropLast
    if head.getLast?.any endsHeader then head ++ [' ', '{'] else line
  else line

end ProviderDocs.Snippet
