import ProviderDocs.Text.Basic

/-!
# Schemas

A schema is an object of named fields.  A field whose kind is a collection may say what it collects:
values of a scalar kind, or objects with fields of their own, so that a schema is a tree of any
depth.
-/

namespace ProviderDocs

/-- The declared kind of a field. -/
inductive Kind where
  | bool
  | int
  | float
  | string
  | list
  | map
  | set
  /-- Any kind with another name. -/
  | unknown
deriving DecidableEq, Repr

/-- The word for a kind in a document; an unknown kind has none. -/
def Kind.token : Kind → Text
  | .bool => "Bool".toList
  | .int => "Int".toList
  | .float => "Float64".toList
  | .string => "String".toList
  | .list => "List".toList
  | .map => "Map".toList
  | .set => "Set".toList
  | .unknown => []

/-- Whether the fields of a kind may hold elements. -/
def Kind.isCollection : Kind → Bool
  | .list | .map | .set => true
  | _ => false

mutual

/-- A field of a schema, whose name stands beside it in the object that holds it. -/
structure Field where
  kind : Kind := .unknown
  required : Bool := false
  optional : Bool := false
  computed : Bool := false
  /-- Whether a change of the field makes a new resource. -/
  forceNew : Bool := false
  /-- The deprecation notice; a field without one is not deprecated. -/
  deprecated : Text := []
  description : Text := []
  /-- What the field collects.  It counts only if the kind is a collection. -/
  element : Option Element := none

/-- What a collection holds. -/
inductive Element where
  /-- Objects with these fields. -/
  | object (fields : List (Text × Field))
  /-- Values of this kind. -/
  | scalar (kind : Kind)

end

instance : Inhabited Field := ⟨{}⟩

/-- The fields of an object, each under its name, in ascending order of the names. -/
abbrev Object := List (Text × Field)

namespace Field

/-- The object whose fields lie below a field. -/
def nested? (field : Field) : Option Object :=
  match field.element with
  | some (.object fields) => if field.kind.isCollection then some fields else none
  | _ => none

/-- The scalar kind that a field collects. -/
def scalar? (field : Field) : Option Kind :=
  match field.element with
  | some (.scalar kind) => if field.kind.isCollection then some kind else none
  | _ => none

/-- Whether a field is an argument, which the author of a configuration sets. -/
def isArgument (field : Field) : Bool :=
  field.required || field.optional

/-- Whether a field carries a deprecation notice. -/
def isDeprecated (field : Field) : Bool :=
  !field.deprecated.isEmpty

end Field

/-- The names of an object stand in strictly ascending order, so that none occurs twice. -/
def Object.Ordered (object : Object) : Prop :=
  (object.map Prod.fst).Pairwise (· < ·)

end ProviderDocs
