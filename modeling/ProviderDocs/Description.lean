import ProviderDocs.Text.Line

/-!
# Descriptions

The description of an entity is free text in which two sections may be set off, one on importing and
one with examples.  A marker line, below an empty line, opens a section, which runs to the next
marker or to the end (`Description.ofText`); the two may come in either order, and only the first
marker of a section counts.
-/

namespace ProviderDocs

/-- A section that a description may set off. -/
inductive Marker where
  | importing
  | examples
deriving DecidableEq, Repr

/-- What a marker line says. -/
def Marker.header : Marker → Text
  | .importing => "Import".toList
  | .examples => "Example Usage".toList

/-- The section that a line opens, if it is a marker line. -/
def Marker.ofLine? (line : Text) : Option Marker :=
  if Text.lineContent line = Marker.importing.header then some .importing
  else if Text.lineContent line = Marker.examples.header then some .examples
  else none

/-- The section that a line opens below another line, unless it was opened before. -/
def Marker.opened? (seen : List Marker) (above line : Text) : Option Marker :=
  if Text.isEmptyLine above then (Marker.ofLine? line).filter fun m => !seen.contains m else none

/-- Cuts lines at the marker lines of sections not seen before: the lines before the first, without
the empty line above it, and each section with its lines. -/
def cutSections (seen : List Marker) : List Text → List Text × List (Marker × List Text)
  | [] => ([], [])
  | [line] => ([line], [])
  | above :: line :: rest =>
    match Marker.opened? seen above line with
    | some marker =>
      let cut := cutSections (marker :: seen) rest
      ([], (marker, cut.1) :: cut.2)
    | none =>
      let cut := cutSections seen (line :: rest)
      (above :: cut.1, cut.2)

/-- A description taken apart; no part has white space around it. -/
structure Description where
  /-- What stands before the first section. -/
  text : Text
  /-- The section on importing. -/
  importing : Option Text
  /-- The section with examples. -/
  examples : Option Text
deriving DecidableEq, Repr

/-- Lines as one text, without white space around it. -/
def trimmedLines (lines : List Text) : Text :=
  Text.trim (Text.joinLines lines)

/-- Takes a description apart. -/
def Description.ofText (t : Text) : Description :=
  let cut := cutSections [] (Text.splitLines t)
  { text := trimmedLines cut.1
    importing := (cut.2.lookup .importing).map trimmedLines
    examples := (cut.2.lookup .examples).map trimmedLines }

/-- The first paragraph of a description: what stands before the first empty line below its first
line. -/
def firstParagraph (t : Text) : Text :=
  match Text.splitLines t with
  | [] => []
  | first :: rest => trimmedLines (first :: rest.takeWhile fun line => !Text.isEmptyLine line)

end ProviderDocs
