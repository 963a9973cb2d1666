import ProviderDocs.Page.Landing

/-!
# The documents of a provider

`generate` makes every document of a provider: the product listing is read, names that the provider
does not have are dropped from it with a warning (`documentedProducts`), no entity may be left in it
twice (`listedTwice?`), and every entity has to be listed under its kind.  The documents are the
pages of the resources and of the data sources, in the order of their names, and then the sidebar
and the landing page.
-/

namespace ProviderDocs

/-- A document and its path below the root of the documentation. -/
structure Document where
  path : Text
  content : Text
deriving DecidableEq, Repr

/-! ### The listing, checked against the provider -/

/-- A product without the names that the provider does not have. -/
def Product.documented (provider : Provider) (product : Product) : Product :=
  { product with
    resources := product.resources.filter (provider.hasEntity .resource)
    dataSources := product.dataSources.filter (provider.hasEntity .dataSource) }

/-- The names of a product that the provider does not have, data sources before resources. -/
def Product.unknownNames (provider : Provider) (product : Product) : List Text :=
  kindOrder.flatMap fun kind => (product.names kind).filter fun name =>
    !provider.hasEntity kind name

/-- The products that have entities to document. -/
def documentedProducts (provider : Provider) (products : List Product) : List Product :=
  (products.map (Product.documented provider)).filter fun product => !product.isEmpty

/-- An entity as a product lists it. -/
structure ListedEntity where
  kind : EntityKind
  name : Text
  product : Text
deriving DecidableEq, Repr

/-- The entities of some products, resources before data sources within each. -/
def listedEntities (products : List Product) : List ListedEntity :=
  products.flatMap fun product =>
    product.resources.map (⟨.resource, ·, product.name⟩) ++
      product.dataSources.map (⟨.dataSource, ·, product.name⟩)

/-- The product that some entries list an entity under. -/
def productOf? (entries : List ListedEntity) (kind : EntityKind) (name : Text) : Option Text :=
  (entries.find? fun entry => entry.kind == kind && entry.name == name).map ListedEntity.product

/-- The fault of the first entry that lists an entity again, given the entries before. -/
def listedTwiceAfter? (before : List ListedEntity) : List ListedEntity → Option Fault
  | [] => none
  | entry :: rest =>
    match productOf? before entry.kind entry.name with
    | some first => some (.listedTwice entry.kind entry.name first entry.product)
    | none => listedTwiceAfter? (before ++ [entry]) rest

/-- The fault of the first entry that lists an entity again. -/
def listedTwice? (entries : List ListedEntity) : Option Fault :=
  listedTwiceAfter? [] entries

/-- The products of a provider to document, and a warning for every name that is dropped. -/
def readListing (provider : Provider) : Report (List Product) := do
  let products ← Report.ofExcept (Listing.parse provider.nameSpace provider.listing)
  (products.flatMap (Product.unknownNames provider)).forM fun name => warn (.unknownListing name)
  let products := documentedProducts provider products
  match listedTwice? (listedEntities products) with
  | some fault => throw fault
  | none => return products

/-! ### Documents -/

/-- An entity of a manifest. -/
structure NamedSource where
  kind : EntityKind
  name : Text
  source : Source

/-- The entities of a provider, resources before data sources. -/
def Provider.namedSources (provider : Provider) : List NamedSource :=
  provider.resources.map (fun entry => ⟨.resource, entry.1, entry.2⟩) ++
    provider.dataSources.map (fun entry => ⟨.dataSource, entry.1, entry.2⟩)

/-- An entity of a manifest with the product that lists it. -/
def NamedSource.entity? (entries : List ListedEntity) (s : NamedSource) : Option Entity :=
  (productOf? entries s.kind s.name).map fun product => ⟨s.kind, s.name, product, s.source⟩

/-- The document of an entity. -/
def Entity.document (provider : Provider) (entity : Entity) : Report Document := do
  let page ← entity.page provider
  return ⟨documentPath provider entity.product entity.kind entity.name, page⟩

/-- The documents of entities of a manifest, each of which has to be listed. -/
def entityDocuments (provider : Provider) (entries : List ListedEntity) :
    List NamedSource → Report (List Document)
  | [] => return []
  | source :: rest =>
    match source.entity? entries with
    | none => throw (.notListed source.kind source.name)
    | some entity => do
      let document ← entity.document provider
      let documents ← entityDocuments provider entries rest
      return document :: documents

/-- The documents of a provider. -/
def generate (provider : Provider) : Report (List Document) := do
  let products ← readListing provider
  let pages ← entityDocuments provider (listedEntities products) provider.namedSources
  let landing ← landingPage provider products
  return pages ++ [⟨sidebarPath, sidebar provider products⟩, ⟨landingPath, landing⟩]

/-! ### Progress -/

/-- The entities whose pages are begun: all up to the first that is not listed, and up to and with
the first whose page ends in a fault. -/
def begunEntities (provider : Provider) (entries : List ListedEntity) :
    List NamedSource → List Entity
  | [] => []
  | source :: rest =>
    match source.entity? entries with
    | none => []
    | some entity =>
      match (entity.document provider).result.1 with
      | .ok _ => entity :: begunEntities provider entries rest
      | .error _ => [entity]

/-- The entities of a provider whose pages are begun when its documents are made. -/
def Provider.begunEntities (provider : Provider) : List Entity :=
  match (readListing provider).result.1 with
  | .ok products =>
    ProviderDocs.begunEntities provider (listedEntities products) provider.namedSources
  | .error _ => []

end ProviderDocs
