import ProviderDocs.EntityKind
import ProviderDocs.Storage.FileCause

/-!
# Faults

A fault is a finding that ends the making of documents.  It names the entity, field, line or file
that it is about, and has one text (`Fault.message`).
-/

namespace ProviderDocs

/-- A finding that keeps documents from being made, written or compared. -/
inductive Fault where
  | requiredAndOptional (entity field : Text)
  | forceNewOnComputed (entity field : Text)
  | emptyDescription (entity : Text)
  | missingExample (entity : Text)
  | missingCodeBlock (entity : Text)
  | unterminatedFence (entity : Text)
  /-- An entity is listed before any product. -/
  | entityWithoutProduct (line : Nat) (name : Text)
  /-- An entity is listed under no section of its product. -/
  | entityWithoutSection (line : Nat) (name : Text)
  /-- A section header stands before any product. -/
  | sectionWithoutProduct (line : Nat) (header : Text)
  /-- An entity of the manifest is not listed under its kind. -/
  | notListed (kind : EntityKind) (entity : Text)
  /-- An entity is listed twice under its kind, by these two products. -/
  | listedTwice (kind : EntityKind) (name first second : Text)
  | unreadable (path : Text) (cause : FileCause)
  | unwritable (path : Text) (cause : FileCause)
  /-- A file holds no manifest. -/
  | invalidManifest (path : Text)
deriving DecidableEq, Repr

/-- The text of a fault, without its cause. -/
def Fault.message : Fault → Text
  | .requiredAndOptional entity field =>
    entity ++ ": field ".toList ++ codeSpan field ++ " is marked both required and optional".toList
  | .forceNewOnComputed entity field =>
    entity ++ ": computed field ".toList ++ codeSpan field ++
      " of a data source must not be force_new".toList
  | .emptyDescription entity => entity ++ ": description is empty".toList
  | .missingExample entity => entity ++ ": description has no `Example Usage` section".toList
  | .missingCodeBlock entity =>
    entity ++ ": `Example Usage` contains no fenced code block".toList
  | .unterminatedFence entity =>
    entity ++ ": unterminated code fence in `Example Usage`".toList
  | .entityWithoutProduct line name =>
    "index line ".toList ++ Text.ofNat line ++ ": ".toList ++ codeSpan name ++
      " appears before any product header".toList
  | .entityWithoutSection line name =>
    "index line ".toList ++ Text.ofNat line ++ ": ".toList ++ codeSpan name ++
      " is not under a `Resource` or `Data Source` header".toList
  | .sectionWithoutProduct line header =>
    "index line ".toList ++ Text.ofNat line ++ ": ".toList ++ codeSpan header ++
      " header appears before any product header".toList
  | .notListed kind entity =>
    entity ++ ": ".toList ++ kind.label ++ " is not listed in the index".toList
  | .listedTwice kind name first second =>
    "index lists ".toList ++ kind.label ++ [' '] ++ codeSpan name ++ " under both ".toList ++
      codeSpan first ++ " and ".toList ++ codeSpan second
  | .unreadable path _ => "failed to read ".toList ++ path
  | .unwritable path _ => "failed to write ".toList ++ path
  | .invalidManifest path => "invalid manifest ".toList ++ path

end ProviderDocs
