import ProviderDocs.Manifest
import ProviderDocs.Proofs.Json.Record

/-!
# What a manifest says

A JSON value writes a provider if it is an object in the form that manifests have
(`Provider.WrittenAs`).  Kinds stand as their names, and any other name writes the unknown kind.  An
element is a name of a kind or an object of fields.  What has its default may be left out.  The
members of every object may be in any order, and records may have members of any other names.

Not all that is written is read.  An element is read in two ways, as an object of fields and as a
kind, and is kept as a whole for that, with all the members in it that are passed over elsewhere.
`Provider.ElementsAreSound` says that each of them can be kept.
-/

namespace ProviderDocs

open Json (AtEach AtMember DistinctNames MapLayout MapWrittenAs Member member?)

/-! ### Kinds -/

/-- The name of a kind in a manifest; the unknown kind has none of its own. -/
def Kind.name? : Kind → Option Text
  | .bool => some "bool".toList
  | .int => some "int".toList
  | .float => some "float".toList
  | .string => some "string".toList
  | .list => some "list".toList
  | .map => some "map".toList
  | .set => some "set".toList
  | .unknown => none

/-- Whether a name stands for a kind: its own name, or for the unknown kind any that no kind has. -/
def Kind.IsNamed (kind : Kind) (name : Text) : Prop :=
  kind.name? = some name ∨ kind = .unknown ∧ ∀ known : Kind, known.name? ≠ some name

theorem Kind.isNamed_ofName (name : Text) : (Kind.ofName name).IsNamed name := by
  unfold Kind.ofName
  split_ifs with hb hi hf hs hl hm hset
  · exact .inl (congrArg some hb.symm)
  · exact .inl (congrArg some hi.symm)
  · exact .inl (congrArg some hf.symm)
  · exact .inl (congrArg some hs.symm)
  · exact .inl (congrArg some hl.symm)
  · exact .inl (congrArg some hm.symm)
  · exact .inl (congrArg some hset.symm)
  · refine .inr ⟨rfl, fun known hk => ?_⟩
    cases known with
    | unknown => cases hk
    | bool => exact hb (Option.some.inj hk).symm
    | int => exact hi (Option.some.inj hk).symm
    | float => exact hf (Option.some.inj hk).symm
    | string => exact hs (Option.some.inj hk).symm
    | list => exact hl (Option.some.inj hk).symm
    | map => exact hm (Option.some.inj hk).symm
    | set => exact hset (Option.some.inj hk).symm

theorem Kind.ofName_of_name? {kind : Kind} {name : Text} (h : kind.name? = some name) :
    Kind.ofName name = kind := by
  cases kind with
  | unknown => cases h
  | _ =>
    obtain rfl := Option.some.inj h
    rfl

/-- Every name stands for one kind, which is the one that is read. -/
theorem Kind.ofName_eq_iff {name : Text} {kind : Kind} :
    Kind.ofName name = kind ↔ kind.IsNamed name := by
  constructor
  · rintro rfl
    exact isNamed_ofName name
  · rintro (h | ⟨rfl, none⟩)
    · exact ofName_of_name? h
    · rcases isNamed_ofName name with h | ⟨h, -⟩
      · exact absurd h (none _)
      · exact h

/-- A value writes a kind: a string with a name of it. -/
inductive Kind.WrittenAs (kind : Kind) : Json → Prop where
  | string {name : Text} (h : kind.IsNamed name) : WrittenAs kind (.string (some name))

/-! ### Fields -/

/-- The members of an object write a field, its element apart. -/
structure Field.MembersWrittenAs (field : Field) (entries : List (Option Text × Json)) :
    Prop where
  names : DistinctNames entries
  kind : Member field.kind.WrittenAs (field.kind = .unknown) (member? entries "type")
  required : Member (· = .bool field.required) (field.required = false)
    (member? entries "required")
  «optional» : Member (· = .bool field.optional) (field.optional = false)
    (member? entries "optional")
  computed : Member (· = .bool field.computed) (field.computed = false)
    (member? entries "computed")
  forceNew : Member (· = .bool field.forceNew) (field.forceNew = false)
    (member? entries "force_new")
  deprecated : Member (· = .string (some field.deprecated)) (field.deprecated = [])
    (member? entries "deprecated")
  description : Member (· = .string (some field.description)) (field.description = [])
    (member? entries "description")

/-- A value writes a field: an object of its members.  One that collects nothing has no element or
null in its place. -/
inductive Field.WrittenAs : Field → Json → Prop where
  | plain {field : Field} {entries : List (Option Text × Json)}
    (members : field.MembersWrittenAs entries) (element : field.element = none)
    (elem : Member (· = .null) True (member? entries "elem")) :
    WrittenAs field (.object entries)
  | scalar {field : Field} {entries : List (Option Text × Json)} {kind : Kind}
    (members : field.MembersWrittenAs entries) (element : field.element = some (.scalar kind))
    (elem : Member kind.WrittenAs False (member? entries "elem")) :
    WrittenAs field (.object entries)
  | object {field : Field} {entries : List (Option Text × Json)} {fields : Object}
    {value : Text → Json} {inner : List (Option Text × Json)}
    (members : field.MembersWrittenAs entries) (element : field.element = some (.object fields))
    (elem : member? entries "elem" = some (.object inner))
    (layout : MapLayout fields value inner)
    (each : ∀ entry ∈ fields, WrittenAs entry.2 (value entry.1)) :
    WrittenAs field (.object entries)

/-! ### Providers -/

/-- A value writes a source: an object of its description and its schema. -/
inductive Source.WrittenAs (source : Source) : Json → Prop where
  | object {entries : List (Option Text × Json)} (names : DistinctNames entries)
    (description : Member (· = .string (some source.description)) (source.description = [])
      (member? entries "description"))
    (schema : Member (MapWrittenAs Field.WrittenAs source.schema) (source.schema = [])
      (member? entries "schema")) :
    WrittenAs source (.object entries)

/-- A value writes a provider: an object of its members. -/
inductive Provider.WrittenAs (provider : Provider) : Json → Prop where
  | object {entries : List (Option Text × Json)} (names : DistinctNames entries)
    (nameSpace : Member (· = .string (some provider.nameSpace)) False
      (member? entries "namespace"))
    (title : Member (· = .string (some provider.title)) False (member? entries "title"))
    (configuration : Member provider.configuration.WrittenAs (provider.configuration = {})
      (member? entries "provider"))
    (listing : Member (· = .string (some provider.listing)) (provider.listing = [])
      (member? entries "index"))
    (resources : Member (MapWrittenAs Source.WrittenAs provider.resources)
      (provider.resources = []) (member? entries "resources"))
    (dataSources : Member (MapWrittenAs Source.WrittenAs provider.dataSources)
      (provider.dataSources = []) (member? entries "data_sources")) :
    WrittenAs provider (.object entries)

/-! ### Elements that can be kept -/

/-- The element of a field can be kept. -/
def Field.ElementIsSound : Json → Prop :=
  AtMember "elem" fun element => element.isSound = true

/-- The elements of the fields of a source can be kept. -/
def Source.ElementsAreSound : Json → Prop :=
  AtMember "schema" (AtEach Field.ElementIsSound)

/-- The elements of all fields in a manifest can be kept. -/
structure Provider.ElementsAreSound (manifest : Json) : Prop where
  configuration : AtMember "provider" Source.ElementsAreSound manifest
  resources : AtMember "resources" (AtEach Source.ElementsAreSound) manifest
  dataSources : AtMember "data_sources" (AtEach Source.ElementsAreSound) manifest

end ProviderDocs
