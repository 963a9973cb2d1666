import ProviderDocs.Text.Basic

/-!
# Causes of failed file operations

Why a file or directory cannot be read, written or made, with the text that a system gives for it
(`FileCause.message`).
-/

namespace ProviderDocs

/-- Why a file could not be read or written. -/
inductive FileCause where
  | notFound
  | exists
  | notDirectory
  | isDirectory
  /-- The operation does not apply. -/
  | invalid
  | nameTooLong
  /-- A directory that is to be removed holds something. -/
  | notEmpty
  /-- A path holds the character zero. -/
  | zeroInPath
  /-- A file does not hold text. -/
  | notText
  /-- Anything else, in the words of the system. -/
  | other (description : Text)
deriving DecidableEq, Repr

/-- The text of a cause. -/
def FileCause.message : FileCause → Text
  | .notFound => "No such file or directory (os error 2)".toList
  | .exists => "File exists (os error 17)".toList
  | .notDirectory => "Not a directory (os error 20)".toList
  | .isDirectory => "Is a directory (os error 21)".toList
  | .invalid => "Invalid argument (os error 22)".toList
  | .nameTooLong => "File name too long (os error 36)".toList
  | .notEmpty => "Directory not empty (os error 39)".toList
  | .zeroInPath => "file name contained an unexpected NUL byte".toList
  | .notText => "stream did not contain valid UTF-8".toList
  | .other description => description

end ProviderDocs
