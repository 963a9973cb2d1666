import ProviderDocs.Schema.Attribute
import ProviderDocs.Schema.Section

/-!
# Classification of a schema

Every field at the top of a schema is an argument, required or optional, or an attribute, or is not
documented.  `classify` documents each field accordingly and brings the results in order.
-/

namespace ProviderDocs

/-- The documentation of a schema, in the order of a document. -/
structure Classification where
  /-- The lines of the required arguments. -/
  required : List Text := []
  /-- The lines of the optional arguments. -/
  optional : List Text := []
  /-- The entries of the attributes. -/
  attributes : List Text := []
  /-- The sections of the nested objects. -/
  sections : List Section := []
deriving DecidableEq, Repr

namespace Classification

/-- The lines of all arguments, the required ones first. -/
def arguments (c : Classification) : List Text :=
  c.required ++ c.optional

/-- The argument lines followed by the sections, with an empty line between any two. -/
def argumentsBody (c : Classification) : Text :=
  let lines := if c.arguments.isEmpty then [] else [Text.joinLines c.arguments]
  Text.joinParagraphs (lines ++ c.sections.map Section.text)

/-- Puts the documentation of one field in front of that of the fields after it. -/
def add (field : Field) (line : Text) (sections : List Section) (c : Classification) :
    Classification :=
  if field.required then
    { c with required := line :: c.required, sections := sections ++ c.sections }
  else { c with optional := line :: c.optional, sections := sections ++ c.sections }

/-- Brings each part in order. -/
def arrange (c : Classification) : Classification where
  required := dropRepeats id (ascending c.required)
  optional := dropRepeats id (ascending c.optional)
  attributes := ascending c.attributes
  sections := Section.arrange c.sections

end Classification

/-- Documents the fields at the top of a schema, in the order of the schema. -/
def classifyFields (subject : Subject) : Object → Report Classification
  | [] => return {}
  | (name, field) :: rest => do
    Report.ofExcept (field.validate subject name)
    if field.isArgument then
      let below ← sections subject 0 none name field
      let line ← documentArgument subject name field
      let c ← classifyFields subject rest
      return c.add field line below
    else if field.computed then
      let entry ← Report.ofExcept (attributeText? subject 0 name field)
      let c ← classifyFields subject rest
      return { c with attributes := entry.toList ++ c.attributes }
    else classifyFields subject rest

/-- Documents a schema. -/
def classify (subject : Subject) (schema : Object) : Report Classification := do
  let c ← classifyFields subject schema
  return c.arrange

end ProviderDocs
