import ProviderDocs.Page.Entity
import ProviderDocs.Text.Quoted

/-!
# Log records

The command says what it does in records of a log.  Each has a level, the target that it belongs to,
a message and values that are given by name, and is shown as one line (`LogRecord.text`).
-/

namespace ProviderDocs

/-- How much a record matters, and how much of a log is shown. -/
inductive LogLevel where
  /-- Shows nothing, and no record has it. -/
  | off
  | error
  | warn
  | info
  | debug
  | trace
deriving DecidableEq, Repr

namespace LogLevel

/-- The levels, from the one that shows least. -/
def all : List LogLevel := [.off, .error, .warn, .info, .debug, .trace]

/-- The name of a level. -/
def name : LogLevel → Text
  | .off => "off".toList
  | .error => "error".toList
  | .warn => "warn".toList
  | .info => "info".toList
  | .debug => "debug".toList
  | .trace => "trace".toList

/-- How much a level shows. -/
def rank : LogLevel → Nat
  | .off => 0
  | .error => 1
  | .warn => 2
  | .info => 3
  | .debug => 4
  | .trace => 5

/-- How a line gives its level. -/
def label : LogLevel → Text
  | .off => "  OFF".toList
  | .error => "ERROR".toList
  | .warn => " WARN".toList
  | .info => " INFO".toList
  | .debug => "DEBUG".toList
  | .trace => "TRACE".toList

end LogLevel

/-- A record of the log. -/
structure LogRecord where
  level : LogLevel
  /-- The part of the command that the record belongs to. -/
  target : Text
  message : Text
  /-- The values by name, as they are shown. -/
  values : List (Text × Text) := []
deriving DecidableEq, Repr

namespace LogRecord

/-- The line that shows a record. -/
def text (record : LogRecord) : Text :=
  record.level.label ++ [' '] ++ record.message ++
    record.values.flatMap fun (name, value) => [' '] ++ name ++ ['='] ++ value

/-- The names of what a record holds. -/
def fieldNames (record : LogRecord) : List Text :=
  "message".toList :: record.values.map Prod.fst

end LogRecord

/-! ### The records of the command -/

/-- The target of what concerns a run as a whole. -/
def commandTarget : Text := "tfdoc".toList

/-- The target of what concerns a single document. -/
def documentTarget : Text := "tfdoc::generate".toList

/-- The record on a page that is begun. -/
def Entity.logRecord (entity : Entity) : LogRecord where
  level := .debug
  target := documentTarget
  message := "rendering ".toList ++ entity.kind.label
  values := [("entity".toList, entity.name), ("product".toList, quoted entity.product)]

/-- The record on a document that was written at a path. -/
def writtenRecord (path : Text) : LogRecord where
  level := .debug
  target := documentTarget
  message := "wrote document".toList
  values := [("path".toList, path)]

/-- A character of a warning as a record shows it: the controls that a terminal may act on, tabs and
ends of lines apart, are escaped. -/
def shownChar (c : Char) : Text :=
  let digits := Nat.toDigits 16 c.toNat
  if c = '\x07' ∨ c = '\x08' ∨ c = '\x0c' then ['\\', 'x', '0'] ++ digits
  else if c = '\x1b' ∨ c = '\x7f' then ['\\', 'x'] ++ digits
  else if 0x80 ≤ c.toNat ∧ c.toNat ≤ 0x9F then ['\\', 'u', '{'] ++ digits ++ ['}']
  else [c]

/-- The record on a warning. -/
def Warning.logRecord (warning : Warning) : LogRecord where
  level := .warn
  target := commandTarget
  message := warning.message.flatMap shownChar

/-- The record on documents that agree with the files that are there. -/
def upToDateRecord (documents : Nat) : LogRecord where
  level := .info
  target := commandTarget
  message := "documentation is up to date".toList
  values := [("documents".toList, Text.ofNat documents)]

/-- The record on documents that were all written under a root. -/
def publishedRecord (documents : Nat) (root : Text) : LogRecord where
  level := .info
  target := commandTarget
  message := "documentation written".toList
  values := [("documents".toList, Text.ofNat documents), ("output".toList, root)]

end ProviderDocs
