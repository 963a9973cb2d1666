import ProviderDocs.Fault
import ProviderDocs.Text.Line

/-!
# The product listing

Entities are grouped by product in a flat listing.  A line of it is a section header, an entity,
whose name begins with the prefix of the provider, or the name of a new product (`LineClass`).
Indentation and blank lines do not count.  An entity is filed under the nearest header above it,
which has to belong to the nearest product above it (`Listing.parse`).
-/

namespace ProviderDocs

/-- A product with its entities, each list in the order of the listing. -/
structure Product where
  name : Text
  resources : List Text := []
  dataSources : List Text := []
deriving DecidableEq, Repr

namespace Product

/-- The entities of one kind. -/
def names (product : Product) : EntityKind → List Text
  | .resource => product.resources
  | .dataSource => product.dataSources

/-- Adds an entity below the others of its kind. -/
def add (kind : EntityKind) (name : Text) (product : Product) : Product :=
  match kind with
  | .resource => { product with resources := product.resources ++ [name] }
  | .dataSource => { product with dataSources := product.dataSources ++ [name] }

/-- Whether a product has no entities. -/
def isEmpty (product : Product) : Bool :=
  product.resources.isEmpty && product.dataSources.isEmpty

end Product

namespace Listing

/-- What a line of the listing is. -/
inductive LineClass where
  | blank
  | header (kind : EntityKind)
  | entity (name : Text)
  | product (name : Text)
deriving DecidableEq, Repr

/-- What a line is, given the prefix of the names of entities. -/
def classifyLine (namePrefix line : Text) : LineClass :=
  let content := Text.trim line
  if content = [] then .blank
  else if content = EntityKind.resource.header then .header .resource
  else if content = EntityKind.dataSource.header then .header .dataSource
  else if namePrefix.isPrefixOf content then .entity content
  else .product content

/-- The product that the lines below belong to, and the header above them. -/
structure Open where
  product : Product
  kind : Option EntityKind := none
deriving DecidableEq, Repr

/-- The products read so far: those that are complete, and the one that is not. -/
structure State where
  complete : List Product := []
  last : Option Open := none
deriving DecidableEq, Repr

/-- The products read so far, in order. -/
def State.products (state : State) : List Product :=
  state.complete ++ (state.last.map Open.product).toList

/-- Takes in one line, whose number a fault gives. -/
def State.next (state : State) (number : Nat) : LineClass → Except Fault State
  | .blank => .ok state
  | .header kind =>
    match state.last with
    | none => .error (.sectionWithoutProduct number kind.header)
    | some last => .ok { state with last := some { last with kind := some kind } }
  | .entity name =>
    match state.last with
    | none => .error (.entityWithoutProduct number name)
    | some ⟨_, none⟩ => .error (.entityWithoutSection number name)
    | some ⟨product, some kind⟩ =>
      .ok { state with last := some ⟨product.add kind name, some kind⟩ }
  | .product name => .ok { complete := state.products, last := some { product := { name } } }

/-- Takes in lines, the first of which has the given number. -/
def parseFrom (namePrefix : Text) (state : State) (number : Nat) :
    List Text → Except Fault State
  | [] => .ok state
  | line :: rest => do
    let state ← state.next number (classifyLine namePrefix line)
    parseFrom namePrefix state (number + 1) rest

/-- The products of a listing, given the namespace that, with an underscore, begins the names of
entities. -/
def parse (nameSpace listing : Text) : Except Fault (List Product) := do
  let state ← parseFrom (nameSpace ++ ['_']) {} 1 (Text.splitLines listing)
  return state.products

end Listing

end ProviderDocs
