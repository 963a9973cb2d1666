import ProviderDocs.CommandLine.Arguments
import ProviderDocs.CommandLine.LogFilter
import ProviderDocs.Publication

/-!
# Runs of the command

A run reads its arguments and the manifest, makes the documents, and then writes them or compares
them with the files that are there (`run`).  It says what it did and why it failed, line by line.
-/

namespace ProviderDocs

/-- What a run leaves behind beside the files. -/
structure RunResult where
  /-- Zero if it did what was asked. -/
  exitCode : Nat := 0
  /-- The lines of its output. -/
  output : List Text := []
  /-- The lines it says about what it does. -/
  messages : List Text := []
deriving DecidableEq, Repr

/-- The help. -/
def helpLines : List Text :=
  ["Generate provider reference documentation from a schema manifest",
    "",
    "Usage: tfdoc [OPTIONS] <MANIFEST>",
    "",
    "Arguments:",
    "  <MANIFEST>  Provider manifest (JSON)",
    "",
    "Options:",
    "  -o, --output <OUTPUT>  Documentation root [default: docs]",
    "      --check            Compare against the existing tree instead of writing",
    "      --deny-warnings    Fail if any warning was emitted",
    "  -h, --help             Print help"].map String.toList

/-- The line that says why a run failed. -/
def errorLine (message : Text) : Text :=
  "Error: ".toList ++ message

/-- The lines that say why a run failed, and the cause of that. -/
def causedLines (message cause : Text) : List Text :=
  [errorLine message, [], "Caused by:".toList] ++
    (Text.splitLines cause).map ("    ".toList ++ ·)

/-- The lines on a fault, with its cause. -/
def Fault.lines (fault : Fault) : List Text :=
  match fault with
  | .unreadable _ cause | .unwritable _ cause => causedLines fault.message cause.message
  | _ => [errorLine fault.message]

/-- A run that failed, with what it said before. -/
def failed (said why : List Text) : RunResult where
  exitCode := 1
  messages := said ++ why

/-- The result of a run whose arguments ask for nothing that can be done. -/
def ArgumentStop.result : ArgumentStop → RunResult
  | .help => { output := helpLines }
  | .refused fault => { exitCode := 2, messages := ["error: ".toList ++ fault.message] }

variable {m : Type → Type} [Monad m] [FileStore m]

/-- Compares documents with the files that are there. -/
def checkRun (filter : LogFilter) (root : Text) (documents : List Document) (said : List Text) :
    m RunResult := do
  match ← staleDocuments root documents with
  | .error fault => return failed said fault.lines
  | .ok [] =>
    return { messages := said ++ filter.line (upToDateRecord documents.length) }
  | .ok stale =>
    return failed (said ++ stale.map ("stale: ".toList ++ ·))
      [errorLine (Text.ofNat stale.length ++
        " document(s) out of date; rerun without --check".toList)]

/-- Writes documents. -/
def writeRun (filter : LogFilter) (root : Text) (documents : List Document) (said : List Text) :
    m RunResult := do
  let written ← writeDocuments root documents
  let said := said ++ written.paths.flatMap fun path => filter.line (writtenRecord path)
  match written.fault with
  | some fault => return failed said fault.lines
  | none =>
    return { messages := said ++ filter.line (publishedRecord documents.length root) }

/-- The log lines on the pages that are begun when the documents of a provider are made. -/
def Provider.begunLines (filter : LogFilter) (provider : Provider) : List Text :=
  provider.begunEntities.flatMap fun entity => filter.line entity.logRecord

/-- Makes the documents of a provider, and writes or compares them. -/
def documentRun (filter : LogFilter) (settings : Settings) (provider : Provider) : m RunResult := do
  let begun := provider.begunLines filter
  match (generate provider).result with
  | (.error fault, _) =>
    return failed begun (causedLines
      ("failed to generate documentation from ".toList ++ settings.manifest) fault.message)
  | (.ok documents, warnings) =>
    let said := begun ++ warnings.flatMap fun warning => filter.line warning.logRecord
    if settings.denyWarnings && !warnings.isEmpty then
      return failed said [errorLine (Text.ofNat warnings.length ++
        " warning(s) emitted with --deny-warnings".toList)]
    else if settings.check then checkRun filter settings.output documents said
    else writeRun filter settings.output documents said

/-- Runs the command. -/
def run (filter : LogFilter) (arguments : List Text) : m RunResult :=
  match Arguments.parse arguments with
  | .error stop => return stop.result
  | .ok settings => do
    match ← readManifest settings.manifest with
    | .error fault => return failed [] fault.lines
    | .ok provider => documentRun filter settings provider

end ProviderDocs
