import ProviderDocs.Snippet.Attribute

/-!
# Heredocs

A line that ends in the operator `<<` or `<<-` and a marker opens a heredoc: the lines below it
belong to it as they are, up to and including the first that holds the marker alone.
-/

namespace ProviderDocs.Snippet

/-- The marker, when a text is what may follow the first two characters of a heredoc operator. -/
def markerAfter? (t : Text) : Option Text :=
  let rest := if t.head? = some '-' then t.tail else t
  match rest.dropWhile isSpaceOrTab with
  | [] => none
  | c :: name =>
    if isNameStart c ∧ (name.dropWhile isNameChar).all isSpaceOrTab then
      some (c :: name.takeWhile isNameChar)
    else none

/-- The marker of the heredoc that a line opens; the operator may stand anywhere on it. -/
def heredocMarker? : Text → Option Text
  | [] => none
  | c :: rest =>
    let here := if c = '<' ∧ rest.head? = some '<' then markerAfter? rest.tail else none
    here.or (heredocMarker? rest)

end ProviderDocs.Snippet
