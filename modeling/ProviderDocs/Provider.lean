import ProviderDocs.Listing
import ProviderDocs.Schema.Basic
import ProviderDocs.Text.LetterCase
import ProviderDocs.Text.Order

/-!
# Providers

A provider is what a manifest describes: its own configuration, its resources and data sources, and
the product listing that groups them.  The document of an entity lies below the directory of its
product (`documentPath`), which is named by the slug of the product (`slug`).
-/

namespace ProviderDocs

/-- The description and the schema of an entity, or of the provider itself. -/
structure Source where
  description : Text := []
  schema : Object := []

/-- A provider as its manifest gives it.  The entities of each kind stand under different names, in
ascending order of these. -/
structure Provider where
  /-- What the names of its entities begin with, before an underscore. -/
  nameSpace : Text
  /-- Its name for readers. -/
  title : Text
  /-- Its own description and configuration. -/
  configuration : Source := {}
  /-- The product listing. -/
  listing : Text := []
  /-- Its resources. -/
  resources : List (Text × Source) := []
  /-- Its data sources. -/
  dataSources : List (Text × Source) := []
  -- Of lists that are written out the order is found by evaluation.
  ordered_resources : isAscending (resources.map Prod.fst) = true := by exact Eq.refl true
  ordered_dataSources : isAscending (dataSources.map Prod.fst) = true := by exact Eq.refl true

namespace Provider

/-- The entities of one kind. -/
def sources (provider : Provider) : EntityKind → List (Text × Source)
  | .resource => provider.resources
  | .dataSource => provider.dataSources

/-- Whether a provider has an entity of a kind and a name. -/
def hasEntity (provider : Provider) (kind : EntityKind) (name : Text) : Bool :=
  (provider.sources kind).any fun entry => entry.1 == name

/-- The name of an entity without the namespace, which is kept if the name does not begin with
it. -/
def shortName (provider : Provider) (name : Text) : Text :=
  (List.isPrefixOf? (provider.nameSpace ++ ['_']) name).getD name

end Provider

/-! ### Paths of documents -/

/-- The slug of a heading: in lower case, with a hyphen for every space, and without any other
character that is neither alphanumeric nor a hyphen. -/
def slug (heading : Text) : Text :=
  ((Text.lowercase (Text.trim heading)).filter fun c =>
    isAlphanumeric c || c == ' ' || c == '-').map fun c => if c = ' ' then '-' else c

/-- The path of the document of an entity. -/
def documentPath (provider : Provider) (product : Text) (kind : EntityKind) (name : Text) : Text :=
  slug product ++ ['/'] ++ kind.directory ++ ['/'] ++ provider.shortName name ++ ".md".toList

/-- A list item that links to a path. -/
def linkItem (label target : Text) : Text :=
  "* [".toList ++ label ++ "](".toList ++ target ++ [')']

/-- The list items that link to the documents of the entities of one kind. -/
def linkItems (provider : Provider) (product : Product) (kind : EntityKind) : List Text :=
  (product.names kind).map fun name =>
    linkItem name (documentPath provider product.name kind name)

end ProviderDocs
