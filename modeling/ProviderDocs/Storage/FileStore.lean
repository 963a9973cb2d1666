import ProviderDocs.Storage.FileCause
import ProviderDocs.Storage.Path

/-!
# File stores

What the library asks of a place to keep files: to read and write texts and to make directories, one
at a time.  Whatever does so, a file system or a value that stands for one, is a `FileStore`.
Directories around directories are made by `makeDirectories`.
-/

namespace ProviderDocs

/-- A place to keep files, by paths. -/
class FileStore (m : Type → Type) where
  /-- The text of a file. -/
  readText : Text → m (Except FileCause Text)
  /-- Makes the text of a file, or replaces it. -/
  writeText : Text → Text → m (Except FileCause Unit)
  /-- Makes a directory inside one that is there. -/
  makeDirectory : Text → m (Except FileCause Unit)
  /-- Whether there is a directory. -/
  isDirectory : Text → m Bool

namespace FileStore

variable {m : Type → Type} [Monad m] [FileStore m]

/-- What becomes of a failure to make a directory: nothing if it is there all the same. -/
def excuse (path : Text) (cause : FileCause) : m (Except FileCause Unit) := do
  if ← isDirectory path then return .ok () else return .error cause

/-- Makes the first directory of a path and the directories around it, the innermost first, after
those of them that are missing. -/
def makeDirectoriesOf : List Text → m (Except FileCause Unit)
  | [] => return .error (.other "failed to create whole tree".toList)
  | path :: around => do
    if path.isEmpty then return .ok ()
    match ← makeDirectory path with
    | .ok () => return .ok ()
    | .error .notFound =>
      match ← makeDirectoriesOf around with
      | .error cause => return .error cause
      | .ok () =>
        match ← makeDirectory path with
        | .ok () => return .ok ()
        | .error cause => excuse path cause
    | .error cause => excuse path cause

/-- Makes a directory and the directories around it, where they are missing. -/
def makeDirectories (path : Text) : m (Except FileCause Unit) :=
  makeDirectoriesOf (Path.ancestors path)

end FileStore

end ProviderDocs
