import ProviderDocs.Page.Entity

/-!
# The pages of a provider

Beside the pages of its entities a provider has a landing page, with its own description, example
and arguments and the list of all documents (`landingPage`), and a sidebar, which is that list alone
(`sidebar`).  Both list the documents product by product, data sources before resources.
-/

namespace ProviderDocs

/-- The path of the landing page. -/
def landingPath : Text := "index.md".toList

/-- The path of the sidebar. -/
def sidebarPath : Text := "_sidebar.md".toList

/-- The name that findings give to the provider itself. -/
def providerName : Text := "provider".toList

/-- The kinds of entities in the order of a list of documents. -/
def kindOrder : List EntityKind := [.dataSource, .resource]

/-! ### The landing page -/

/-- The text above the sections of the landing page. -/
def landingHead : Text :=
  ("---
layout: \"$\x7bnamespace\x7d\"
page_title: \"Provider: $\x7btitle\x7d\"
description: |-
  The $\x7btitle\x7d provider is used to interact with the many resources supported by " ++
  "$\x7btitle\x7d. The provider needs to be configured with the proper credentials before it " ++
  "can be used.
---

# $\x7btitle\x7d Provider
").toList

/-- The section with the list of documents. -/
def resourcesSection : Text × Text :=
  ("resources".toList, "## Resources List\n\n$\x7bresources\x7d\n".toList)

/-- The sections of the landing page. -/
def landingSections : List (Text × Text) :=
  [descriptionSection, exampleSection, argumentsSection, resourcesSection]

/-- The documents of one kind of a product on the landing page: its header between empty lines, and
the links. -/
def landingLinks (provider : Provider) (product : Product) (kind : EntityKind) : List Text :=
  if (product.names kind).isEmpty then []
  else [[], kind.header, []] ++ linkItems provider product kind

/-- The documents of a product on the landing page. -/
def landingGroup (provider : Provider) (product : Product) : Text :=
  Text.joinLines
    (("### ".toList ++ product.name) :: kindOrder.flatMap (landingLinks provider product))

/-- The list of documents on the landing page. -/
def landingList (provider : Provider) (products : List Product) : Text :=
  Text.joinParagraphs (products.map (landingGroup provider))

/-- The landing page.  Unlike an entity, the provider need not have an example. -/
def landingPage (provider : Provider) (products : List Product) : Report Text := do
  let description := Description.ofText (Text.trim provider.configuration.description)
  let examples ←
    match description.examples with
    | some usage => readExamples providerName false usage
    | none => pure []
  let c ← classify ⟨providerName, false⟩ provider.configuration.schema
  let values : Values :=
    [("namespace".toList, provider.nameSpace),
      ("title".toList, provider.title),
      ("description".toList, description.text),
      ("example".toList, writeExamples examples),
      ("arguments".toList, c.argumentsBody),
      ("resources".toList, landingList provider products)]
  return Template.assemble values landingHead landingSections

/-! ### The sidebar -/

/-- The first line of the sidebar. -/
def sidebarHead : Text :=
  "* [$\x7btitle\x7d Provider](index.md)".toList

/-- The lines of the documents of one kind of a product in the sidebar. -/
def sidebarLinks (provider : Provider) (product : Product) (kind : EntityKind) : List Text :=
  if (product.names kind).isEmpty then []
  else
    ("  * ".toList ++ kind.plural) ::
      (linkItems provider product kind).map ("    ".toList ++ ·)

/-- The lines of a product in the sidebar. -/
def sidebarGroup (provider : Provider) (product : Product) : List Text :=
  ("* ".toList ++ product.name) :: kindOrder.flatMap (sidebarLinks provider product)

/-- The sidebar, each line of which ends in a newline. -/
def sidebar (provider : Provider) (products : List Product) : Text :=
  let head := Template.substitute [("title".toList, provider.title)] sidebarHead
  (head :: products.flatMap (sidebarGroup provider)).flatMap (· ++ ['\n'])

end ProviderDocs
