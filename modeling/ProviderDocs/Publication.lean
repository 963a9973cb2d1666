import ProviderDocs.Manifest
import ProviderDocs.Site
import ProviderDocs.Storage.FileStore

/-!
# Publication

Manifests are read from a file store and documents written to it, below a root directory
(`readManifest`, `writeDocuments`).  Documents that are there already can be compared instead: those
that are missing or different are stale (`staleDocuments`).
-/

namespace ProviderDocs

variable {m : Type → Type} [Monad m] [FileStore m]

/-- Reads a manifest. -/
def readManifest (path : Text) : m (Except Fault Provider) := do
  match ← FileStore.readText path with
  | .error cause => return .error (.unreadable path cause)
  | .ok t =>
    match Provider.ofText? t with
    | some provider => return .ok provider
    | none => return .error (.invalidManifest path)

/-- The path of a document below a root. -/
def Document.pathBelow (root : Text) (document : Document) : Text :=
  Path.join root document.path

theorem Document.pathBelow_eq (root : Text) (document : Document) :
    document.pathBelow root = Path.join root document.path :=
  rfl

/-- Makes the directories around a path. -/
def makeParent (path : Text) : m (Except Fault Unit) := do
  match Path.parent? path with
  | none => return .ok ()
  | some parent =>
    match ← FileStore.makeDirectories parent with
    | .error cause => return .error (.unwritable parent cause)
    | .ok () => return .ok ()

/-- Writes one document, after the directories around it. -/
def writeDocument (root : Text) (document : Document) : m (Except Fault Unit) := do
  let path := document.pathBelow root
  match ← makeParent path with
  | .error fault => return .error fault
  | .ok () =>
    match ← FileStore.writeText path document.content with
    | .error cause => return .error (.unwritable path cause)
    | .ok () => return .ok ()

/-- What writing documents came to: the paths of those that were written, and the fault that ended
it, if there was one. -/
structure Written where
  paths : List Text := []
  fault : Option Fault := none
deriving DecidableEq, Repr

/-- Writes documents in order, up to the first that cannot be written. -/
def writeDocuments (root : Text) : List Document → m Written
  | [] => return {}
  | document :: rest => do
    match ← writeDocument root document with
    | .error fault => return { fault := some fault }
    | .ok () =>
      let written ← writeDocuments root rest
      return { written with paths := document.pathBelow root :: written.paths }

/-- Whether the file at a path is missing or holds another text. -/
def isStale (path content : Text) : m (Except Fault Bool) := do
  match ← FileStore.readText path with
  | .ok existing => return .ok (existing != content)
  | .error .notFound => return .ok true
  | .error cause => return .error (.unreadable path cause)

/-- The paths of the documents that are missing or hold another text, in order. -/
def staleDocuments (root : Text) : List Document → m (Except Fault (List Text))
  | [] => return .ok []
  | document :: rest => do
    let path := document.pathBelow root
    match ← isStale path document.content with
    | .error fault => return .error fault
    | .ok stale =>
      match ← staleDocuments root rest with
      | .error fault => return .error fault
      | .ok paths => return .ok (if stale then path :: paths else paths)

end ProviderDocs
