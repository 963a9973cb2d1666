import ProviderDocs.Description
import ProviderDocs.Example
import ProviderDocs.Provider
import ProviderDocs.Schema.Classification
import ProviderDocs.Template

/-!
# The page of an entity

A page has a front matter and a heading, and below them the sections that have content: the
description, the examples, the arguments, the attributes and the notes on importing.  An entity
without a description or without an example has no page (`Entity.page`).
-/

namespace ProviderDocs

/-- The text above the sections of a page. -/
def entityHead : Text :=
  "---
subcategory: \"$\x7bproduct\x7d\"
layout: \"$\x7bnamespace\x7d\"
page_title: \"$\x7btitle\x7d: $\x7bname\x7d\"
description: |-
  $\x7bdescription_short\x7d
---

# $\x7bname\x7d
".toList

/-- The section with the description. -/
def descriptionSection : Text × Text :=
  ("description".toList, "$\x7bdescription\x7d\n".toList)

/-- The section with the examples. -/
def exampleSection : Text × Text :=
  ("example".toList, "## Example Usage\n\n$\x7bexample\x7d\n".toList)

/-- The section with the arguments. -/
def argumentsSection : Text × Text :=
  ("arguments".toList,
    ("## Argument Reference\n\n" ++ "The following arguments are supported:\n\n" ++
      "$\x7barguments\x7d\n").toList)

/-- The section with the attributes. -/
def attributesSection : Text × Text :=
  ("attributes".toList,
    ("## Attributes Reference\n\n" ++ "In addition to all arguments above, " ++
      "the following attributes are exported:\n\n" ++ "$\x7battributes\x7d\n").toList)

/-- The section on importing. -/
def importSection : Text × Text :=
  ("import".toList, "## Import\n\n$\x7bimport\x7d\n".toList)

/-- The sections of the page of an entity. -/
def entitySections : List (Text × Text) :=
  [descriptionSection, exampleSection, argumentsSection, attributesSection, importSection]

/-- The entry that opens the attributes of every resource. -/
def idAttribute : Text :=
  "* `id` - ID of the resource.".toList

/-- A resource or data source of a provider, with the product that lists it. -/
structure Entity where
  kind : EntityKind
  name : Text
  product : Text
  source : Source

namespace Entity

/-- The subject of the schema of an entity: a data source can only be read. -/
def subject (entity : Entity) : Subject :=
  ⟨entity.name, entity.kind == .dataSource⟩

/-- What the parts of a page are made of. -/
structure Content where
  description : Text
  examples : Text
  arguments : Text
  attributes : Text
  importing : Text
deriving DecidableEq, Repr

/-- Makes the content of the page of an entity. -/
def content (entity : Entity) : Report Content := do
  let description := Description.ofText (Text.trim entity.source.description)
  if description.text.isEmpty then throw (.emptyDescription entity.name)
  match description.examples with
  | none => throw (.missingExample entity.name)
  | some usage =>
    let examples ← readExamples entity.name true usage
    let c ← classify entity.subject entity.source.schema
    let id := if entity.kind = .resource then [idAttribute] else []
    return {
      description := description.text
      examples := writeExamples examples
      arguments := c.argumentsBody
      attributes := Text.joinLines (id ++ c.attributes)
      importing := description.importing.getD [] }

/-- The values that a page is filled with. -/
def values (provider : Provider) (entity : Entity) (content : Content) : Values :=
  [("product".toList, entity.product),
    ("namespace".toList, provider.nameSpace),
    ("title".toList, provider.title),
    ("name".toList, entity.name),
    ("description_short".toList, Template.indentBlock (firstParagraph content.description)),
    ("description".toList, content.description),
    ("example".toList, content.examples),
    ("arguments".toList, content.arguments),
    ("attributes".toList, content.attributes),
    ("import".toList, content.importing)]

/-- The page of an entity of a provider. -/
def page (provider : Provider) (entity : Entity) : Report Text := do
  let content ← entity.content
  return Template.assemble (entity.values provider content) entityHead entitySections

end Entity

end ProviderDocs
