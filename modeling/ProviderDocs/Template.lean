import ProviderDocs.Text.Basic

/-!
# Templates

A template is text with placeholders: a name of small letters and underscores between braces, with a
dollar sign in front.  `Template.ofText` takes a template apart once, from left to right, and `fill`
puts values in; a value is never looked at again, whatever it holds.
-/

namespace ProviderDocs

/-- The values of placeholders, by name; the first value of a name counts. -/
abbrev Values := List (Text × Text)

/-- A piece of a template. -/
inductive TemplatePiece where
  /-- A character that stands for itself. -/
  | char (c : Char)
  /-- A place for the value of a name. -/
  | placeholder (name : Text)
deriving DecidableEq, Repr

/-- A template taken apart. -/
abbrev Template := List TemplatePiece

namespace Template

/-- A character that the name of a placeholder may hold. -/
def isNameChar (c : Char) : Bool :=
  ('a' ≤ c && c ≤ 'z') || c == '_'

/-- The name of the placeholder that a text begins with. -/
def placeholder? : Text → Option Text
  | '$' :: '{' :: rest =>
    let name := rest.takeWhile isNameChar
    if !name.isEmpty && (rest.dropWhile isNameChar).head? == some '}' then some name else none
  | _ => none

/-- Takes a text apart of which the first `taken` characters belong to a placeholder already
found. -/
def ofTextAfter (taken : Nat) : Text → Template
  | [] => []
  | c :: rest =>
    match taken with
    | n + 1 => ofTextAfter n rest
    | 0 =>
      match placeholder? (c :: rest) with
      | some name => .placeholder name :: ofTextAfter (name.length + 2) rest
      | none => .char c :: ofTextAfter 0 rest

/-- Takes the text of a template apart. -/
def ofText (t : Text) : Template :=
  ofTextAfter 0 t

/-- A placeholder as it is written. -/
def placeholderText (name : Text) : Text :=
  '$' :: '{' :: name ++ ['}']

/-- What a piece comes to: a placeholder without a value stays as it is written. -/
def fillPiece (values : Values) : TemplatePiece → Text
  | .char c => [c]
  | .placeholder name => (values.lookup name).getD (placeholderText name)

/-- A template with values put in. -/
def fill (values : Values) (template : Template) : Text :=
  template.flatMap (fillPiece values)

/-- The text of a template with values put in. -/
def substitute (values : Values) (t : Text) : Text :=
  fill values (ofText t)

/-- Whether a name has a value that is not blank. -/
def hasContent (values : Values) (name : Text) : Bool :=
  (values.lookup name).any fun value => !Text.isBlank value

/-- A head followed by those sections that have content, each after an empty line.  A section is the
text of a template under the name of the value that has to have content. -/
def assemble (values : Values) (head : Text) (sections : List (Text × Text)) : Text :=
  substitute values head ++
    (sections.filter fun s => hasContent values s.1).flatMap
      fun s => '\n' :: substitute values s.2

/-- A text as a block of a front matter: each line but the first, which the template indents, two
spaces in. -/
def indentBlock (t : Text) : Text :=
  t.flatMap fun c => if c = '\n' then ['\n', ' ', ' '] else [c]

end Template

end ProviderDocs
