import ProviderDocs.Json.Reader
import ProviderDocs.Json.Record
import ProviderDocs.Provider

/-!
# Manifests

A manifest is a JSON value that describes a provider.  Providers, sources and fields are records,
and what they hold by name is a map.  `Provider.ofJson?` gives the provider that a value describes,
and `Provider.ofText?` the one that the text of a manifest does.
-/

namespace ProviderDocs

open Json (declaredMembers? positionalMembers? members? Members mapOf? pairwise_of_optional? text?
  bool?)

/-! ### Kinds -/

/-- The kind with a name. -/
def Kind.ofName (name : Text) : Kind :=
  if name = "bool".toList then .bool
  else if name = "int".toList then .int
  else if name = "float".toList then .float
  else if name = "string".toList then .string
  else if name = "list".toList then .list
  else if name = "map".toList then .map
  else if name = "set".toList then .set
  else .unknown

/-- The kind that a value describes: its name, or an object whose only member has that name and is
null. -/
def Kind.ofJson? : Json → Option Kind
  | .string text => text.map Kind.ofName
  | .object [(name, .null)] => name.map Kind.ofName
  | _ => none

/-! ### Fields -/

/-- The members of a field, in their declared order. -/
def fieldMembers : List Text :=
  ["type", "required", "optional", "computed", "force_new", "deprecated", "description",
    "elem"].map String.toList

/-- The field with some members, given its element. -/
def Field.ofMembers? (members : Members) (element : Option Element) : Option Field := do
  let kind ← members.optional? "type" Kind.ofJson? .unknown
  let required ← members.optional? "required" bool? false
  let «optional» ← members.optional? "optional" bool? false
  let computed ← members.optional? "computed" bool? false
  let forceNew ← members.optional? "force_new" bool? false
  let deprecated ← members.optional? "deprecated" text? []
  let description ← members.optional? "description" text? []
  some ⟨kind, required, «optional», computed, forceNew, deprecated, description, element⟩

mutual

/-- The field that a value describes. -/
def Field.ofJson? : Json → Option Field
  | .object entries => do
    let members ← declaredMembers? fieldMembers entries
    let element ← Element.ofEntries? entries
    Field.ofMembers? members element
  | .array items => do
    let members ← positionalMembers? fieldMembers items
    let element ← Element.ofItems? 7 items
    Field.ofMembers? members element
  | _ => none

/-- The element among the members of a field. -/
def Element.ofEntries? : List (Option Text × Json) → Option (Option Element)
  | [] => some none
  | (name, value) :: rest =>
    if name = some "elem".toList then Element.ofJson? value else Element.ofEntries? rest

/-- The element among the items of a field written as an array, so many items down. -/
def Element.ofItems? (place : Nat) : List Json → Option (Option Element)
  | [] => some none
  | value :: rest =>
    match place with
    | 0 => Element.ofJson? value
    | n + 1 => Element.ofItems? n rest

/-- The element that a value describes, if it is not null.  An object whose every member is a field
describes objects, and anything else a kind.  Since it is read both ways, no text or number anywhere
in it may be unsound. -/
def Element.ofJson? : Json → Option (Option Element)
  | .null => some none
  | .object entries =>
    if Json.membersAreSound entries then
      match Object.ofEntries? entries with
      | some fields => some (some (.object (orderNamed fields)))
      | none => (Kind.ofJson? (.object entries)).map fun kind => some (.scalar kind)
    else none
  | value => (Kind.ofJson? value).map fun kind => some (.scalar kind)

/-- The fields of an object, in the order of its members. -/
def Object.ofEntries? : List (Option Text × Json) → Option (List (Text × Field))
  | [] => some []
  | (none, _) :: _ => none
  | (some name, value) :: rest => do
    let field ← Field.ofJson? value
    let fields ← Object.ofEntries? rest
    some ((name, field) :: fields)

end

/-- The schema that a value describes. -/
def Object.ofJson? : Json → Option Object :=
  mapOf? Field.ofJson?

/-! ### Providers -/

/-- The members of a source, in their declared order. -/
def sourceMembers : List Text :=
  ["description", "schema"].map String.toList

/-- The source that a value describes. -/
def Source.ofJson? (value : Json) : Option Source := do
  let members ← members? sourceMembers value
  let description ← members.optional? "description" text? []
  let schema ← members.optional? "schema" Object.ofJson? []
  some { description, schema }

/-- The members of a provider, in their declared order. -/
def providerMembers : List Text :=
  ["namespace", "title", "provider", "index", "resources", "data_sources"].map String.toList

/-- The entities of one kind among the members of a provider. -/
def sources? (members : Members) (name : String) :
    Option {entries : List (Text × Source) // isAscending (entries.map Prod.fst) = true} :=
  match h : members.optional? name (mapOf? Source.ofJson?) [] with
  | some entries => some ⟨entries, isAscending_iff.mpr (pairwise_of_optional? h)⟩
  | none => none

/-- The provider that a value describes. -/
def Provider.ofJson? (value : Json) : Option Provider := do
  let members ← members? providerMembers value
  let nameSpace ← members.required? "namespace" text?
  let title ← members.required? "title" text?
  let configuration ← members.optional? "provider" Source.ofJson? {}
  let listing ← members.optional? "index" text? []
  let resources ← sources? members "resources"
  let dataSources ← sources? members "data_sources"
  some {
    nameSpace, title, configuration, listing
    resources := resources.1
    dataSources := dataSources.1
    ordered_resources := resources.2
    ordered_dataSources := dataSources.2 }

/-- The provider that the text of a manifest describes. -/
def Provider.ofText? (t : Text) : Option Provider :=
  (Json.read? t).bind Provider.ofJson?

end ProviderDocs
