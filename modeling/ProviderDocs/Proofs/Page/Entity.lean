import ProviderDocs.Proofs.Template
import ProviderDocs.Proofs.Warnings

/-!
# What the page of an entity holds

A page is written out with its texts at their places (`Entity.pageText`): the head, and below it the
parts that have content, in a fixed order.  Every text stands there character for character, also
one that looks like a placeholder or that makes one with the text around it, since the template is
taken apart before any text is put in (`Entity.page_eq_pageText`).
-/

namespace ProviderDocs

open Template (substitute_append substitute_placeholder_append substitute_of_notMem
  substitute_section)

/-- The head of a page with what stands at its places. -/
def pageHead (product nameSpace title name short : Text) : Text :=
  "---\nsubcategory: \"".toList ++ product ++ "\"\nlayout: \"".toList ++ nameSpace ++
    "\"\npage_title: \"".toList ++ title ++ ": ".toList ++ name ++
    "\"\ndescription: |-\n  ".toList ++ short ++ "\n---\n\n# ".toList ++ name ++ "\n".toList

/-- A part of a page: an empty line, the heading and the content, unless this is blank. -/
def pagePart (heading : String) (content : Text) : Text :=
  if Text.isBlank content then [] else '\n' :: (heading.toList ++ content ++ ['\n'])

/-- A section holds its content as it is. -/
theorem sectionText_eq_pagePart {values : Values} {s : Text × Text} {content : Text}
    {heading : String} (hv : values.lookup s.1 = some content) (hn : Template.IsName s.1)
    (hh : '$' ∉ heading.toList)
    (ht : s.2 = heading.toList ++ (Template.placeholderText s.1 ++ ['\n'])) :
    Template.sectionText values s = pagePart heading content := by
  rw [Template.sectionText, pagePart, Template.hasContent, hv, ht, substitute_section hh hn hv,
    Option.any_some]
  cases Text.isBlank content <;> rfl

namespace Entity

variable {provider : Provider} {entity : Entity}

theorem substitute_entityHead (content : Content) :
    Template.substitute (entity.values provider content) entityHead =
      pageHead entity.product provider.nameSpace provider.title entity.name
        (Template.indentBlock (firstParagraph content.description)) := by
  have places : entityHead = "---\nsubcategory: \"".toList ++
      (Template.placeholderText "product".toList ++ ("\"\nlayout: \"".toList ++
      (Template.placeholderText "namespace".toList ++ ("\"\npage_title: \"".toList ++
      (Template.placeholderText "title".toList ++ (": ".toList ++
      (Template.placeholderText "name".toList ++ ("\"\ndescription: |-\n  ".toList ++
      (Template.placeholderText "description_short".toList ++ ("\n---\n\n# ".toList ++
      (Template.placeholderText "name".toList ++ "\n".toList))))))))))) := by
    decide +kernel
  rw [places, substitute_append (by decide), substitute_placeholder_append (by decide) rfl,
    substitute_append (by decide), substitute_placeholder_append (by decide) rfl,
    substitute_append (by decide), substitute_placeholder_append (by decide) rfl,
    substitute_append (by decide), substitute_placeholder_append (by decide) rfl,
    substitute_append (by decide), substitute_placeholder_append (by decide) rfl,
    substitute_append (by decide), substitute_placeholder_append (by decide) rfl,
    substitute_of_notMem (by decide)]
  unfold pageHead
  simp only [List.append_assoc]

/-- The page of an entity with some content, written out. -/
def pageText (provider : Provider) (entity : Entity) (content : Content) : Text :=
  pageHead entity.product provider.nameSpace provider.title entity.name
      ("\n  ".toList.intercalate (Text.splitLines (firstParagraph content.description))) ++
    pagePart "" content.description ++
    pagePart "## Example Usage\n\n" content.examples ++
    pagePart "## Argument Reference\n\nThe following arguments are supported:\n\n"
      content.arguments ++
    pagePart ("## Attributes Reference\n\n" ++ "In addition to all arguments above, " ++
      "the following attributes are exported:\n\n") content.attributes ++
    pagePart "## Import\n\n" content.importing

/-- The content of the page of an entity, given what is read off its description and its schema. -/
def contentOf (entity : Entity) (description : Description) (examples : List Example)
    (c : Classification) : Content where
  description := description.text
  examples := writeExamples examples
  arguments := c.argumentsBody
  attributes :=
    Text.joinLines ((if entity.kind = .resource then [idAttribute] else []) ++ c.attributes)
  importing := description.importing.getD []

theorem exists_of_content {content : Content} (h : entity.content.result.1 = .ok content) :
    ∃ usage examples c,
      (Description.ofText (Text.trim entity.source.description)).examples = some usage ∧
      (readExamples entity.name true usage).result.1 = .ok examples ∧
      (classify entity.subject entity.source.schema).result.1 = .ok c ∧
      content = entity.contentOf
        (Description.ofText (Text.trim entity.source.description)) examples c := by
  unfold Entity.content at h
  dsimp only at h
  split at h
  · cases h
  · split at h
    · cases h
    · rename_i usage hu
      obtain ⟨examples, he, h⟩ := (collects_readExamples _ _ _).exists_of_result_bind
        (fun _ => (collects_classify _).bind fun _ => .pure _) h
      obtain ⟨c, hc, h⟩ := (collects_classify _).exists_of_result_bind (fun _ => .pure _) h
      cases h
      exact ⟨usage, examples, c, hu, he, hc, rfl⟩

theorem assemble_entitySections (provider : Provider) (entity : Entity) (content : Content) :
    Template.assemble (entity.values provider content) entityHead entitySections =
      entity.pageText provider content := by
  have description : Template.sectionText (entity.values provider content) descriptionSection =
      pagePart "" content.description :=
    sectionText_eq_pagePart rfl (by decide) (by decide) (by decide +kernel)
  have examples : Template.sectionText (entity.values provider content) exampleSection =
      pagePart "## Example Usage\n\n" content.examples :=
    sectionText_eq_pagePart rfl (by decide) (by decide) (by decide +kernel)
  have arguments : Template.sectionText (entity.values provider content) argumentsSection =
      pagePart "## Argument Reference\n\nThe following arguments are supported:\n\n"
        content.arguments :=
    sectionText_eq_pagePart rfl (by decide) (by decide) (by decide +kernel)
  have attributes : Template.sectionText (entity.values provider content) attributesSection =
      pagePart ("## Attributes Reference\n\n" ++ "In addition to all arguments above, " ++
        "the following attributes are exported:\n\n") content.attributes :=
    sectionText_eq_pagePart rfl (by decide) (by decide) (by decide +kernel)
  have importing : Template.sectionText (entity.values provider content) importSection =
      pagePart "## Import\n\n" content.importing :=
    sectionText_eq_pagePart rfl (by decide) (by decide) (by decide +kernel)
  rw [Template.assemble_eq, substitute_entityHead, Template.indentBlock_eq, entitySections]
  simp only [List.flatMap_cons, List.flatMap_nil, description, examples, arguments, attributes,
    importing, List.append_nil, pageText, List.append_assoc]

/-- A page is the head with the texts of the entity at their places, followed by the parts that have
content; each text stands in it as it is. -/
theorem page_eq_pageText {page : Text} (h : (entity.page provider).result.1 = .ok page) :
    ∃ usage examples c,
      (Description.ofText (Text.trim entity.source.description)).examples = some usage ∧
      (readExamples entity.name true usage).result.1 = .ok examples ∧
      (classify entity.subject entity.source.schema).result.1 = .ok c ∧
      page = entity.pageText provider (entity.contentOf
        (Description.ofText (Text.trim entity.source.description)) examples c) := by
  obtain ⟨content, hc, h⟩ := entity.collects_content.exists_of_result_bind (fun _ => .pure _) h
  rw [(Report.ComesTo.pure _).result_eq, assemble_entitySections] at h
  obtain ⟨usage, examples, c, hu, he, hs, rfl⟩ := exists_of_content hc
  exact ⟨usage, examples, c, hu, he, hs, (Except.ok.inj h).symm⟩

end Entity

/-- A provider whose own texts look like placeholders. -/
def placeholderProvider : Provider where
  nameSpace := "$\x7bproduct\x7d".toList
  title := "$\x7bname".toList

/-- An entity of which every text holds a placeholder, or a part of one. -/
def placeholderEntity : Entity where
  kind := .resource
  name := "\x7d_$\x7btitle\x7d".toList
  product := "$\x7bnamespace\x7d$\x7b".toList
  source :=
    { description := Text.joinLines (["A $\x7bexample\x7d,", "$\x7bdescription\x7d.", "",
        "Example Usage", "", "```", "a = $\x7barguments\x7d", "```", "", "Import", "",
        "$\x7bimport\x7d"].map String.toList)
      schema := [("id".toList,
        { kind := .string, required := true, description := "$\x7battributes\x7d".toList })] }

/-- The page of this entity. -/
def placeholderPage : Text :=
  Text.joinLines (["---", "subcategory: \"$\x7bnamespace\x7d$\x7b\"",
    "layout: \"$\x7bproduct\x7d\"",
    "page_title: \"$\x7bname: \x7d_$\x7btitle\x7d\"", "description: |-", "  A $\x7bexample\x7d,",
    "  $\x7bdescription\x7d.", "---", "", "# \x7d_$\x7btitle\x7d", "", "A $\x7bexample\x7d,",
    "$\x7bdescription\x7d.", "", "## Example Usage", "", "```", "a = $\x7barguments\x7d", "```", "",
    "## Argument Reference", "", "The following arguments are supported:", "",
    "* `id` - (Required, String) $\x7battributes\x7d", "", "## Attributes Reference", "",
    "In addition to all arguments above, the following attributes are exported:", "",
    "* `id` - ID of the resource.", "", "## Import", "", "$\x7bimport\x7d", ""].map String.toList)

theorem placeholderEntity_page :
    ∃ page, (placeholderEntity.page placeholderProvider).result.1 = .ok page ∧
      page = placeholderPage ∧
      ∃ usage examples c,
        (Description.ofText (Text.trim placeholderEntity.source.description)).examples =
          some usage ∧
        (readExamples placeholderEntity.name true usage).result.1 = .ok examples ∧
        (classify placeholderEntity.subject placeholderEntity.source.schema).result.1 = .ok c ∧
        page = placeholderEntity.pageText placeholderProvider (placeholderEntity.contentOf
          (Description.ofText (Text.trim placeholderEntity.source.description)) examples c) := by
  have h : (placeholderEntity.page placeholderProvider).result.1 = .ok placeholderPage := by
    decide +kernel
  exact ⟨placeholderPage, h, rfl, Entity.page_eq_pageText h⟩

end ProviderDocs
