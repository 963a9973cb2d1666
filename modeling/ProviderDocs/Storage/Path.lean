import ProviderDocs.Text.Line

/-!
# Paths

A path is a text of names with slashes between them.  Paths are kept as they are written, since
findings show them, and are taken apart only where a directory is looked for.
-/

namespace ProviderDocs.Path

/-- What stands between the slashes of a path. -/
def pieces (path : Text) : List Text :=
  Text.splitOn '/' path

/-- Whether a path starts at the top of the file system. -/
def isAbsolute (path : Text) : Bool :=
  path.head? == some '/'

/-- A path that is to be followed from a directory: an absolute path does not depend on it. -/
def join (directory path : Text) : Text :=
  if isAbsolute path then path
  else if directory.isEmpty || directory.getLast? == some '/' then directory ++ path
  else directory ++ ['/'] ++ path

/-- Whether a piece of a path leads nowhere else. -/
def isIdle (piece : Text) : Bool :=
  piece == [] || piece == ['.']

/-- Drops the pieces at the end of a path that lead nowhere else. -/
def dropIdle (pieces : List Text) : List Text :=
  (pieces.reverse.dropWhile isIdle).reverse

/-- The path of the directory around what a path leads to, unless that is the top or nothing. -/
def parent? (path : Text) : Option Text :=
  match pieces path with
  | [] => none
  | first :: rest =>
    match dropIdle rest with
    | [] => if first.isEmpty then none else some []
    | inner =>
      match dropIdle inner.dropLast with
      | [] => if first.isEmpty then some ['/'] else some first
      | outer => some (['/'].intercalate (first :: outer))

/-- A path and the directories around it, the innermost first, no more than `limit` of them. -/
def ancestorsWithin (limit : Nat) (path : Text) : List Text :=
  match limit with
  | 0 => []
  | limit + 1 => path :: ((parent? path).map (ancestorsWithin limit)).getD []

/-- A path and the directories around it, the innermost first.  Every parent is shorter than its
path. -/
def ancestors (path : Text) : List Text :=
  ancestorsWithin (path.length + 1) path

end ProviderDocs.Path
