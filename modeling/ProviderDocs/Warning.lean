import ProviderDocs.Text.Basic

/-!
# Warnings

A warning is a finding that does not keep a document from being made.  It names the entity or the
field that it is about, and has one text (`Warning.message`).
-/

namespace ProviderDocs

/-- A finding that an author should know of. -/
inductive Warning where
  /-- An argument has no description. -/
  | missingDescription (entity field : Text)
  /-- A deprecated field is documented. -/
  | deprecated (entity field : Text)
  /-- The product listing names an entity that the manifest does not have. -/
  | unknownListing (name : Text)
  /-- An example section goes on after its last code block. -/
  | trailingProse (entity : Text)
deriving DecidableEq, Repr

/-- The text of a warning. -/
def Warning.message : Warning → Text
  | .missingDescription entity field =>
    entity ++ ": argument ".toList ++ codeSpan field ++ " has no description".toList
  | .deprecated entity field =>
    entity ++ ": documenting deprecated field ".toList ++ codeSpan field
  | .unknownListing name =>
    "index lists ".toList ++ codeSpan name ++ " but no schema was supplied".toList
  | .trailingProse entity =>
    entity ++ ": prose after the last code block was dropped".toList

end ProviderDocs
