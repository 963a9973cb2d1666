import ProviderDocs.Text.Basic

/-!
# Kinds of entities

A provider has entities of two kinds.  Each kind has words of its own in findings, in the product
listing and on pages, and a directory for its documents.
-/

namespace ProviderDocs

/-- A resource or a data source. -/
inductive EntityKind where
  | resource
  | dataSource
deriving DecidableEq, Repr

/-- The words for a kind of entity. -/
def EntityKind.label : EntityKind → Text
  | .resource => "resource".toList
  | .dataSource => "data source".toList

/-- The directory of the documents of a kind, below that of their product. -/
def EntityKind.directory : EntityKind → Text
  | .resource => "r".toList
  | .dataSource => "d".toList

/-- The header of the entities of a kind in the product listing. -/
def EntityKind.header : EntityKind → Text
  | .resource => "Resource".toList
  | .dataSource => "Data Source".toList

/-- The header of the entities of a kind in the sidebar. -/
def EntityKind.plural : EntityKind → Text
  | .resource => "Resources".toList
  | .dataSource => "Data Sources".toList

end ProviderDocs
