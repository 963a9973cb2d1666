import ProviderDocs.Proofs.Description.Paragraph
import ProviderDocs.Proofs.Page.Entity

/-!
# The front matter of a page

The front matter ends in a block with the first paragraph of the description, two spaces in.  No
line of the block is empty and no white space stands before the first (`IsDescriptionBlock`),
whatever the description holds, so that the block is indented as its first line is and ends where
the page closes the front matter (`Entity.page_frontMatter`).
-/

namespace ProviderDocs

open Text (Trimmed joinLines splitLines)

/-- The front matter of a page down to the line that opens the block with the description. -/
def frontMatterStart (product nameSpace title name : Text) : Text :=
  "---\nsubcategory: \"".toList ++ product ++ "\"\nlayout: \"".toList ++ nameSpace ++
    "\"\npage_title: \"".toList ++ title ++ ": ".toList ++ name ++ "\"\ndescription: |-\n".toList

/-- Lines two spaces in, each with a newline at its end. -/
def indentedLines (lines : List Text) : Text :=
  lines.flatMap fun line => "  ".toList ++ line ++ ['\n']

/-- The lines of a block are the first paragraph of a description: there is at least one line and
none is empty, and no white space stands before the first. -/
structure IsDescriptionBlock (description : Text) (lines : List Text) : Prop where
  first : ∃ c rest below, lines = (c :: rest) :: below ∧ isSpace c = false
  each : ∀ line ∈ lines, '\n' ∉ line ∧ ¬line.SaysOnly []
  paragraph : IsFirstParagraph description (joinLines lines)

theorem isDescriptionBlock_splitLines {description : Text} (h : Trimmed description)
    (hn : description ≠ []) :
    IsDescriptionBlock description (splitLines (firstParagraph description)) := by
  have paragraph := isFirstParagraph_firstParagraph h hn
  have something := paragraph.ne_nil h hn
  exact
    { first := paragraph.trimmed.exists_splitLines_eq something
      each := fun line hl =>
        ⟨Text.notMem_of_mem_splitOn hl, paragraph.not_saysOnly_nil something line hl⟩
      paragraph := by rwa [Text.joinLines_splitLines] }

/-- A text put between two spaces and a newline is a block of its lines. -/
theorem indentedLines_eq {lines : List Text} (hn : lines ≠ []) :
    indentedLines lines = "  ".toList ++ ("\n  ".toList.intercalate lines ++ ['\n']) := by
  induction lines with
  | nil => exact absurd rfl hn
  | cons line rest ih =>
    rcases eq_or_ne rest [] with rfl | hr
    · simp [indentedLines]
    · rw [indentedLines, List.flatMap_cons, ← indentedLines, ih hr,
        List.intercalate_cons_of_ne_nil hr]
      simp

theorem pageHead_eq (product nameSpace title name : Text) {lines : List Text} (hn : lines ≠ []) :
    pageHead product nameSpace title name ("\n  ".toList.intercalate lines) =
      frontMatterStart product nameSpace title name ++ indentedLines lines ++
        "---\n\n# ".toList ++ name ++ ['\n'] := by
  have opening : "\"\ndescription: |-\n  ".toList =
      "\"\ndescription: |-\n".toList ++ "  ".toList := by decide
  have closing : "\n---\n\n# ".toList = ['\n'] ++ "---\n\n# ".toList := by decide
  have newline : "\n".toList = ['\n'] := by decide
  rw [indentedLines_eq hn]
  unfold pageHead frontMatterStart
  simp only [opening, closing, newline, List.append_assoc]

namespace Entity

variable {provider : Provider} {entity : Entity}

/-- The description of a page is not blank. -/
theorem description_of_content {content : Content} (h : entity.content.result.1 = .ok content) :
    content.description =
        (Description.ofText (Text.trim entity.source.description)).text ∧
      content.description ≠ [] := by
  obtain ⟨usage, examples, c, -, -, -, rfl⟩ := exists_of_content h
  refine ⟨rfl, fun (empty : (Description.ofText _).text = []) => ?_⟩
  rw [Entity.content] at h
  simp only [empty] at h
  cases h

/-- A page begins with a front matter of the names of the entity, its product and its provider, and
with the first paragraph of the description in it, which stands there line by line in a block. -/
theorem page_frontMatter {page : Text} (h : (entity.page provider).result.1 = .ok page) :
    ∃ lines parts, IsDescriptionBlock
        (Description.ofText (Text.trim entity.source.description)).text lines ∧
      page = frontMatterStart entity.product provider.nameSpace provider.title entity.name ++
        indentedLines lines ++ "---\n\n# ".toList ++ entity.name ++ ['\n'] ++ parts := by
  obtain ⟨content, hc, h⟩ := entity.collects_content.exists_of_result_bind (fun _ => .pure _) h
  rw [(Report.ComesTo.pure _).result_eq, assemble_entitySections, pageText,
    pageHead_eq _ _ _ _ (Text.splitLines_ne_nil _)] at h
  obtain ⟨description, something⟩ := description_of_content hc
  have trimmed : Trimmed content.description := by
    rw [description]
    exact Text.trimmed_trim _
  have block := isDescriptionBlock_splitLines trimmed something
  rw [description] at block
  have whole := (Except.ok.inj h).symm
  rw [description] at whole
  simp only [List.append_assoc] at whole ⊢
  exact ⟨_, _, block, whole⟩

end Entity

/-- An entity whose description begins with lines that could end or alter a front matter. -/
def unrulyEntity : Entity where
  kind := .dataSource
  name := "cdn_zone".toList
  product := "CDN".toList
  source :=
    { description := Text.joinLines (["", " ---\r", "title: x", "    y: z", "\u00a0", "\t- a\r",
        "\u2003", " \t\r", "More.", "", "Example Usage", "", "```", "a = 1",
        "```"].map String.toList)
      schema := [] }

theorem unrulyEntity_page :
    ∃ page, (unrulyEntity.page placeholderProvider).result.1 = .ok page ∧
      ∃ lines parts, IsDescriptionBlock
          (Description.ofText (Text.trim unrulyEntity.source.description)).text lines ∧
        page = frontMatterStart unrulyEntity.product placeholderProvider.nameSpace
            placeholderProvider.title unrulyEntity.name ++
          indentedLines lines ++ "---\n\n# ".toList ++ unrulyEntity.name ++ ['\n'] ++ parts := by
  obtain ⟨page, h⟩ := Report.exists_result_eq_ok
    (show (unrulyEntity.page placeholderProvider).result.1.isOk = true by decide +kernel)
  exact ⟨page, h, Entity.page_frontMatter h⟩

/-- The lines of the block keep their returns and the white space within, also that of a line with
nothing else on it. -/
example :
    splitLines (firstParagraph
        (Description.ofText (Text.trim unrulyEntity.source.description)).text) =
      ["---\r", "title: x", "    y: z", "\u00a0", "\t- a"].map String.toList := by
  decide +kernel

end ProviderDocs
