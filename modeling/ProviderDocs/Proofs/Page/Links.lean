import Mathlib.Data.List.Forall2
import ProviderDocs.Page.Landing
import ProviderDocs.Proofs.Listing
import ProviderDocs.Proofs.Provider
import ProviderDocs.Proofs.Report
import ProviderDocs.Proofs.Template

/-!
# The lists of a provider's pages

The sidebar and the landing page list the documents of some products by their links
(`pageLinks`).  Every line of such a list that begins as a link does is one of these, and they are
there in the same order (`linkLines_sidebarList`, `linkLines_landingList`).  The lines that begin as
the heading of a product does are the headings of these products (`headingLines_sidebarList`,
`headingLines_landingList`).

A list item may be a link at any indentation (`IsLinkItem`).  On the landing page these are the
links to the documents alone (`holdsLinks_landingList`), and in the sidebar too, but for the
headings (`holdsLinks_sidebarList`): a product is put there as it is named, and its name may itself
be written as a link.
-/

namespace ProviderDocs

/-- The names of the entities of one kind of a product and the paths of their documents. -/
def productLinks (provider : Provider) (product : Product) (kind : EntityKind) :
    List (Text × Text) :=
  (product.names kind).map fun name => (name, documentPath provider product.name kind name)

/-- The names of entities and the paths of their documents, product by product, data sources before
resources. -/
def pageLinks (provider : Provider) (products : List Product) : List (Text × Text) :=
  products.flatMap fun product => kindOrder.flatMap (productLinks provider product)

/-- A link as it is written: its label in brackets, and its target in parentheses. -/
def linkText (link : Text × Text) : Text :=
  '[' :: (link.1 ++ "](".toList ++ link.2 ++ [')'])

/-- A list item that links to a path, as a line at some indentation. -/
def linkLine (indentation : Text) (link : Text × Text) : Text :=
  indentation ++ ("* ".toList ++ linkText link)

/-- Whether a line begins as a link does, at some indentation. -/
def isLinkLine (indentation line : Text) : Bool :=
  List.isPrefixOf (indentation ++ "* [".toList) line

/-- The lines of a text that begin as a link does, at some indentation. -/
def linkLines (indentation t : Text) : List Text :=
  (Text.splitLines t).filter (isLinkLine indentation)

/-- The lines of a text that begin with the sign of a heading. -/
def headingLines (sign t : Text) : List Text :=
  (Text.splitLines t).filter (List.isPrefixOf sign)

/-- The lines of a text that do not begin with the sign of a heading. -/
def otherLines (sign t : Text) : List Text :=
  (Text.splitLines t).filter fun line => !List.isPrefixOf sign line

theorem linkItem_eq (label target : Text) :
    linkItem label target = "* ".toList ++ linkText (label, target) :=
  rfl

theorem isLinkLine_linkLine (indentation : Text) (link : Text × Text) :
    isLinkLine indentation (linkLine indentation link) = true := by
  rw [isLinkLine, List.isPrefixOf_iff_prefix, linkLine, linkText]
  exact ⟨link.1 ++ "](".toList ++ link.2 ++ [')'], by simp⟩

theorem map_linkItems (provider : Provider) (product : Product) (kind : EntityKind)
    (indentation : Text) :
    (linkItems provider product kind).map (indentation ++ ·) =
      (productLinks provider product kind).map (linkLine indentation) := by
  simp [linkItems, productLinks, linkLine, linkItem_eq]

/-- A header above links is left out, and the links are not, if that is what the lines are taken
by. -/
theorem filter_links {provider : Provider} {product : Product} {kind : EntityKind}
    {indentation : Text} {header : List Text} {p : Text → Bool}
    (isLink : ∀ link, p (linkLine indentation link) = true)
    (h : ∀ line ∈ header, p line = false) :
    (if (product.names kind).isEmpty then []
      else header ++ (linkItems provider product kind).map (indentation ++ ·)).filter p =
      (productLinks provider product kind).map (linkLine indentation) := by
  split_ifs with hn
  · simp [productLinks, List.isEmpty_iff.mp hn]
  · have dropped : header.filter p = [] :=
      List.filter_eq_nil_iff.mpr fun line hl => by simp [h line hl]
    rw [map_linkItems, List.filter_append, dropped, List.nil_append, List.filter_eq_self]
    intro line hl
    obtain ⟨link, -, rfl⟩ := List.mem_map.mp hl
    exact isLink link

/-! ### List items that are links -/

/-- Whether the sign between a label and a target stands in a text. -/
def holdsTarget : Text → Bool
  | [] => false
  | c :: rest => List.isPrefixOf "](".toList (c :: rest) || holdsTarget rest

/-- Whether a text is a link. -/
def isLink : Text → Bool
  | '[' :: rest => rest.getLast? == some ')' && holdsTarget rest.dropLast
  | _ => false

/-- A line is a list item that holds a link and nothing else, at any indentation. -/
def IsLinkItem (line : Text) (link : Text × Text) : Prop :=
  ∃ indentation : Text, (∀ c ∈ indentation, isSpace c = true) ∧ line = linkLine indentation link

/-- Whether a line is a list item that holds a link and nothing else, at any indentation. -/
def isLinkItem (line : Text) : Bool :=
  match line.dropWhile isSpace with
  | '*' :: ' ' :: text => isLink text
  | _ => false

/-- The list items of a page that are links are those to some paths, in their order. -/
def HoldsLinks (lines : List Text) (links : List (Text × Text)) : Prop :=
  List.Forall₂ IsLinkItem (lines.filter isLinkItem) links

theorem holdsTarget_iff {t : Text} :
    holdsTarget t = true ↔ ∃ label target, t = label ++ "](".toList ++ target := by
  constructor
  · intro h
    induction t with
    | nil => cases h
    | cons c rest ih =>
      rw [holdsTarget, Bool.or_eq_true, List.isPrefixOf_iff_prefix] at h
      rcases h with ⟨target, here⟩ | further
      · exact ⟨[], target, here.symm⟩
      · obtain ⟨label, target, rfl⟩ := ih further
        exact ⟨c :: label, target, rfl⟩
  · rintro ⟨label, target, rfl⟩
    induction label with
    | nil => rfl
    | cons c label ih => exact Bool.or_eq_true_iff.mpr (.inr ih)

theorem isLink_iff {t : Text} : isLink t = true ↔ ∃ link, t = linkText link := by
  constructor
  · intro h
    unfold isLink at h
    split at h
    · rename_i rest
      rw [Bool.and_eq_true, beq_iff_eq] at h
      obtain ⟨inner, rfl⟩ := List.getLast?_eq_some_iff.mp h.1
      rw [List.dropLast_concat] at h
      obtain ⟨label, target, rfl⟩ := holdsTarget_iff.mp h.2
      exact ⟨(label, target), rfl⟩
    · cases h
  · rintro ⟨⟨label, target⟩, rfl⟩
    rw [linkText, isLink, List.getLast?_concat, List.dropLast_concat,
      holdsTarget_iff.mpr ⟨label, target, rfl⟩]
    rfl

theorem isLinkItem_iff {line : Text} : isLinkItem line = true ↔ ∃ link, IsLinkItem line link := by
  constructor
  · intro h
    unfold isLinkItem at h
    split at h
    · rename_i text item
      obtain ⟨link, rfl⟩ := isLink_iff.mp h
      have spaces : ∀ c ∈ line.takeWhile isSpace, isSpace c = true :=
        fun c hc => List.mem_takeWhile_imp hc
      have parts := List.takeWhile_append_dropWhile (p := isSpace) (l := line)
      rw [item] at parts
      exact ⟨link, _, spaces, parts.symm⟩
    · cases h
  · rintro ⟨link, indentation, spaces, rfl⟩
    -- White space ends at the sign of the item.
    have item : (linkLine indentation link).dropWhile isSpace = "* ".toList ++ linkText link := by
      rw [linkLine, List.dropWhile_append_of_pos spaces]
      rfl
    rw [isLinkItem, item]
    exact isLink_iff.mpr ⟨link, rfl⟩

/-- The name of a product is a link item exactly if it is written as a link. -/
theorem isLinkItem_append (name : Text) : isLinkItem ("* ".toList ++ name) = isLink name :=
  rfl

/-- The link items of a text are those among its headings and those among its other lines. -/
theorem countP_isLinkItem (sign t : Text) :
    (Text.splitLines t).countP isLinkItem =
      (headingLines sign t).countP isLinkItem + (otherLines sign t).countP isLinkItem :=
  List.countP_eq_countP_filter_add ..

/-- If no product is named by a link, all link items are among the other lines. -/
theorem filter_isLinkItem_otherLines {t : Text} {names : List Text}
    (headings : headingLines "* ".toList t = names.map ("* ".toList ++ ·))
    (h : ∀ name ∈ names, isLink name = false) :
    (otherLines "* ".toList t).filter isLinkItem = (Text.splitLines t).filter isLinkItem := by
  rw [otherLines, List.filter_filter]
  apply List.filter_congr
  intro line hl
  cases heading : List.isPrefixOf "* ".toList line with
  | false => rw [Bool.not_false, Bool.and_true]
  | true =>
    have among : line ∈ headingLines "* ".toList t := List.mem_filter.mpr ⟨hl, heading⟩
    obtain ⟨name, hn, rfl⟩ := List.mem_map.mp (headings ▸ among)
    rw [isLinkItem_append, h name hn]
    rfl

theorem holdsLinks_of_filter_eq {lines : List Text} {indentation : Text}
    {links : List (Text × Text)} (spaces : ∀ c ∈ indentation, isSpace c = true)
    (h : lines.filter isLinkItem = links.map (linkLine indentation)) : HoldsLinks lines links := by
  rw [HoldsLinks, h, List.forall₂_map_left_iff, List.forall₂_same]
  exact fun link _ => ⟨indentation, spaces, rfl⟩

theorem isLinkItem_linkLine {indentation : Text} (spaces : ∀ c ∈ indentation, isSpace c = true)
    (link : Text × Text) : isLinkItem (linkLine indentation link) = true :=
  isLinkItem_iff.mpr ⟨link, indentation, spaces, rfl⟩

/-! ### Headings -/

/-- A heading above lines without the sign of one is the only heading. -/
theorem filter_isPrefixOf_cons_append {sign line : Text} {rest : List Text}
    (h : ∀ line ∈ rest, List.isPrefixOf sign line = false) :
    ((sign ++ line) :: rest).filter (List.isPrefixOf sign) = [sign ++ line] := by
  have first : List.isPrefixOf sign (sign ++ line) = true :=
    List.isPrefixOf_iff_prefix.mpr (List.prefix_append sign line)
  rw [List.filter_cons_of_pos first, List.filter_eq_nil_iff.mpr fun line hl => by simp [h line hl]]

/-! ### Lines without newlines -/

theorem newline_notMem_of_mem_linkLines {product : Product} {kind : EntityKind}
    (hn : ∀ name ∈ product.names kind, '\n' ∉ name) {indentation : Text} (hi : '\n' ∉ indentation)
    (provider : Provider) :
    ∀ line ∈ (linkItems provider product kind).map (indentation ++ ·), '\n' ∉ line := by
  intro line hl
  rw [map_linkItems, productLinks, List.map_map] at hl
  obtain ⟨name, hm, rfl⟩ := List.mem_map.mp hl
  have inPath := newline_notMem_documentPath (hn name hm) provider product.name kind
  simp [linkLine, linkText, hi, hn name hm, inPath]

/-! ### The sidebar -/

/-- The sidebar below its first line. -/
def sidebarList (provider : Provider) (products : List Product) : Text :=
  (products.flatMap (sidebarGroup provider)).flatMap (· ++ ['\n'])

theorem sidebar_eq (provider : Provider) (products : List Product) :
    sidebar provider products =
      Template.substitute [("title".toList, provider.title)] sidebarHead ++
        '\n' :: sidebarList provider products := by
  simp [sidebar, sidebarList]

theorem substitute_sidebarHead (title : Text) :
    Template.substitute [("title".toList, title)] sidebarHead =
      "* [".toList ++ title ++ " Provider](index.md)".toList := by
  have places : sidebarHead = "* [".toList ++
      (Template.placeholderText "title".toList ++ " Provider](index.md)".toList) := by
    decide
  rw [places, Template.substitute_append (by decide),
    Template.substitute_placeholder_append (by decide) rfl,
    Template.substitute_of_notMem (by decide), List.append_assoc]

/-- The links in the lines of one product. -/
theorem filter_sidebarGroup {p : Text → Bool}
    (isLink : ∀ link, p (linkLine "    ".toList link) = true)
    (header : ∀ kind : EntityKind, p ("  * ".toList ++ kind.plural) = false)
    (heading : ∀ name, p ("* ".toList ++ name) = false) (provider : Provider) (product : Product) :
    (sidebarGroup provider product).filter p =
      (kindOrder.flatMap (productLinks provider product)).map (linkLine "    ".toList) := by
  have links (kind : EntityKind) : (sidebarLinks provider product kind).filter p =
      (productLinks provider product kind).map (linkLine "    ".toList) := by
    rw [← filter_links isLink (List.forall_mem_singleton.mpr (header kind))]
    rfl
  rw [sidebarGroup, List.filter_cons_of_neg (Bool.eq_false_iff.mp (heading _)),
    List.filter_flatMap, List.map_flatMap]
  simp only [links]

theorem newline_notMem_of_mem_sidebarGroup {product : Product}
    (h : Listing.NamesSatisfy ('\n' ∉ ·) product) (provider : Provider) :
    ∀ line ∈ sidebarGroup provider product, '\n' ∉ line := by
  intro line hl
  rcases List.mem_cons.mp hl with rfl | hl
  · simp [h.1]
  · obtain ⟨kind, -, hl⟩ := List.mem_flatMap.mp hl
    rw [sidebarLinks] at hl
    split_ifs at hl
    · exact absurd hl List.not_mem_nil
    · rcases List.mem_cons.mp hl with rfl | hl
      · cases kind <;> decide
      · exact newline_notMem_of_mem_linkLines (h.2 kind) (by decide) provider line hl

/-- The lines below the first one of the sidebar are those of the products. -/
theorem splitLines_sidebarList {products : List Product}
    (h : ∀ product ∈ products, Listing.NamesSatisfy ('\n' ∉ ·) product) (provider : Provider) :
    Text.splitLines (sidebarList provider products) =
      products.flatMap (sidebarGroup provider) ++ [[]] := by
  apply Text.splitLines_flatMap_newline
  intro line hl
  obtain ⟨product, hp, hl⟩ := List.mem_flatMap.mp hl
  exact newline_notMem_of_mem_sidebarGroup (h product hp) provider line hl

/-- The links are the lines of the products, in the same order, that are no headings and no headers
of a kind. -/
theorem filter_splitLines_sidebarList {p : Text → Bool}
    (isLink : ∀ link, p (linkLine "    ".toList link) = true)
    (header : ∀ kind : EntityKind, p ("  * ".toList ++ kind.plural) = false)
    (heading : ∀ name, p ("* ".toList ++ name) = false) (empty : p [] = false)
    {products : List Product} (h : ∀ product ∈ products, Listing.NamesSatisfy ('\n' ∉ ·) product)
    (provider : Provider) :
    (Text.splitLines (sidebarList provider products)).filter p =
      (pageLinks provider products).map (linkLine "    ".toList) := by
  rw [splitLines_sidebarList h, List.filter_append, List.filter_flatMap, pageLinks,
    List.map_flatMap, List.filter_cons_of_neg (Bool.eq_false_iff.mp empty)]
  simp only [filter_sidebarGroup isLink header heading]
  exact List.append_nil _

/-- The links in the sidebar are those of the products, in the same order. -/
theorem linkLines_sidebarList {products : List Product}
    (h : ∀ product ∈ products, Listing.NamesSatisfy ('\n' ∉ ·) product) (provider : Provider) :
    linkLines "    ".toList (sidebarList provider products) =
      (pageLinks provider products).map (linkLine "    ".toList) := by
  -- Headings and headers are indented less than links.
  have header (kind : EntityKind) :
      isLinkLine "    ".toList ("  * ".toList ++ kind.plural) = false := by
    cases kind <;> decide
  have heading (name : Text) : isLinkLine "    ".toList ("* ".toList ++ name) = false := by
    simp [isLinkLine, List.isPrefixOf]
  exact filter_splitLines_sidebarList (isLinkLine_linkLine _) header heading rfl h provider

/-- The link items in the sidebar, but for the headings, are those of the products, in the same
order. -/
theorem holdsLinks_sidebarList {products : List Product}
    (h : ∀ product ∈ products, Listing.NamesSatisfy ('\n' ∉ ·) product) (provider : Provider) :
    HoldsLinks (otherLines "* ".toList (sidebarList provider products))
      (pageLinks provider products) := by
  have spaces : ∀ c ∈ "    ".toList, isSpace c = true := List.all_eq_true.mp rfl
  refine holdsLinks_of_filter_eq spaces ?_
  rw [otherLines, List.filter_filter]
  refine filter_splitLines_sidebarList (fun link => ?_) (fun kind => ?_) (fun name => ?_) rfl h
    provider
  · rw [isLinkItem_linkLine spaces]
    rfl
  · cases kind <;> decide
  · simp [List.isPrefixOf]

/-- The heading in the lines of one product. -/
theorem filter_sidebarGroup_heading (provider : Provider) (product : Product) :
    (sidebarGroup provider product).filter (List.isPrefixOf "* ".toList) =
      ["* ".toList ++ product.name] := by
  rw [sidebarGroup]
  apply filter_isPrefixOf_cons_append
  -- Whatever stands below the heading is indented.
  intro line hl
  obtain ⟨kind, -, hl⟩ := List.mem_flatMap.mp hl
  unfold sidebarLinks at hl
  split_ifs at hl
  · exact absurd hl List.not_mem_nil
  · rcases List.mem_cons.mp hl with rfl | hl
    · simp [List.isPrefixOf]
    · obtain ⟨item, -, rfl⟩ := List.mem_map.mp hl
      simp [List.isPrefixOf]

/-- The product headings in the sidebar are those of the products, in the same order. -/
theorem headingLines_sidebarList {products : List Product}
    (h : ∀ product ∈ products, Listing.NamesSatisfy ('\n' ∉ ·) product) (provider : Provider) :
    headingLines "* ".toList (sidebarList provider products) =
      products.map fun product => "* ".toList ++ product.name := by
  rw [headingLines, splitLines_sidebarList h, List.filter_append, List.filter_flatMap,
    List.map_eq_flatMap]
  simp only [filter_sidebarGroup_heading]
  exact List.append_nil _

/-! ### The landing page -/

theorem landingLinks_eq (provider : Provider) (product : Product) (kind : EntityKind) :
    landingLinks provider product kind =
      if (product.names kind).isEmpty then []
      else [[], kind.header, []] ++ (linkItems provider product kind).map ([] ++ ·) := by
  simp [landingLinks]

/-- The lines of a product on the landing page are its heading and the lines of each kind. -/
theorem splitLines_landingGroup {product : Product}
    (h : Listing.NamesSatisfy ('\n' ∉ ·) product) (provider : Provider) :
    Text.splitLines (landingGroup provider product) =
      ("### ".toList ++ product.name) :: kindOrder.flatMap (landingLinks provider product) := by
  apply Text.splitLines_joinLines (List.cons_ne_nil _ _)
  intro line hl
  rcases List.mem_cons.mp hl with rfl | hl
  · simp [h.1]
  · obtain ⟨kind, -, hl⟩ := List.mem_flatMap.mp hl
    rw [landingLinks_eq] at hl
    split_ifs at hl
    · exact absurd hl List.not_mem_nil
    · rcases List.mem_append.mp hl with hl | hl
      · have header : ∀ line ∈ [[], kind.header, []], '\n' ∉ line := by cases kind <;> decide
        exact header line hl
      · exact newline_notMem_of_mem_linkLines (h.2 kind) List.not_mem_nil provider line hl

/-- The links in the lines of one product. -/
theorem filter_splitLines_landingGroup {p : Text → Bool}
    (isLink : ∀ link, p (linkLine [] link) = true)
    (header : ∀ kind : EntityKind, ∀ line ∈ [[], kind.header, []], p line = false)
    (heading : ∀ name, p ("### ".toList ++ name) = false) {product : Product}
    (h : Listing.NamesSatisfy ('\n' ∉ ·) product) (provider : Provider) :
    (Text.splitLines (landingGroup provider product)).filter p =
      (kindOrder.flatMap (productLinks provider product)).map (linkLine []) := by
  have links (kind : EntityKind) : (landingLinks provider product kind).filter p =
      (productLinks provider product kind).map (linkLine []) := by
    rw [landingLinks_eq]
    exact filter_links isLink (header kind)
  rw [splitLines_landingGroup h, List.filter_cons_of_neg (Bool.eq_false_iff.mp (heading _)),
    List.filter_flatMap, List.map_flatMap]
  simp only [links]

/-- The heading in the lines of one product. -/
theorem headingLines_landingGroup {product : Product}
    (h : Listing.NamesSatisfy ('\n' ∉ ·) product) (provider : Provider) :
    headingLines "### ".toList (landingGroup provider product) =
      ["### ".toList ++ product.name] := by
  rw [headingLines, splitLines_landingGroup h]
  apply filter_isPrefixOf_cons_append
  intro line hl
  obtain ⟨kind, -, hl⟩ := List.mem_flatMap.mp hl
  rw [landingLinks_eq] at hl
  split_ifs at hl
  · exact absurd hl List.not_mem_nil
  · rcases List.mem_append.mp hl with hl | hl
    · have header : ∀ line ∈ [[], kind.header, []],
          List.isPrefixOf "### ".toList line = false := by
        cases kind <;> decide
      exact header line hl
    · rw [map_linkItems] at hl
      obtain ⟨link, -, rfl⟩ := List.mem_map.mp hl
      simp [linkLine, List.isPrefixOf]

/-- The links are the lines of the products, in the same order, that are no headings, no headers of
a kind and not empty. -/
theorem filter_splitLines_landingList {p : Text → Bool}
    (isLink : ∀ link, p (linkLine [] link) = true)
    (header : ∀ kind : EntityKind, ∀ line ∈ [[], kind.header, []], p line = false)
    (heading : ∀ name, p ("### ".toList ++ name) = false)
    {products : List Product} (h : ∀ product ∈ products, Listing.NamesSatisfy ('\n' ∉ ·) product)
    (provider : Provider) :
    (Text.splitLines (landingList provider products)).filter p =
      (pageLinks provider products).map (linkLine []) := by
  have empty : p [] = false := header .resource [] List.mem_cons_self
  rw [landingList, Text.filter_splitLines_joinParagraphs empty, List.flatMap_map, pageLinks,
    List.map_flatMap]
  apply List.flatMap_congr
  intro product hp
  exact filter_splitLines_landingGroup isLink header heading (h product hp) provider

/-- The links in the list on the landing page are those of the products, in the same order. -/
theorem linkLines_landingList {products : List Product}
    (h : ∀ product ∈ products, Listing.NamesSatisfy ('\n' ∉ ·) product) (provider : Provider) :
    linkLines [] (landingList provider products) =
      (pageLinks provider products).map (linkLine []) := by
  have header (kind : EntityKind) :
      ∀ line ∈ [[], kind.header, []], isLinkLine [] line = false := by
    cases kind <;> decide
  have heading (name : Text) : isLinkLine [] ("### ".toList ++ name) = false := by
    simp [isLinkLine, List.isPrefixOf]
  exact filter_splitLines_landingList (isLinkLine_linkLine _) header heading h provider

/-- The link items in the list on the landing page are those of the products, in the same order. -/
theorem holdsLinks_landingList {products : List Product}
    (h : ∀ product ∈ products, Listing.NamesSatisfy ('\n' ∉ ·) product) (provider : Provider) :
    HoldsLinks (Text.splitLines (landingList provider products)) (pageLinks provider products) := by
  have spaces : ∀ c ∈ ([] : Text), isSpace c = true := by simp
  have header (kind : EntityKind) :
      ∀ line ∈ [[], kind.header, []], isLinkItem line = false := by
    cases kind <;> decide
  have heading (name : Text) : isLinkItem ("### ".toList ++ name) = false := rfl
  exact holdsLinks_of_filter_eq spaces
    (filter_splitLines_landingList (isLinkItem_linkLine spaces) header heading h provider)

/-- The product headings in the list on the landing page are those of the products, in the same
order. -/
theorem headingLines_landingList {products : List Product}
    (h : ∀ product ∈ products, Listing.NamesSatisfy ('\n' ∉ ·) product) (provider : Provider) :
    headingLines "### ".toList (landingList provider products) =
      products.map fun product => "### ".toList ++ product.name := by
  rw [headingLines, landingList, Text.filter_splitLines_joinParagraphs rfl, List.flatMap_map,
    List.map_eq_flatMap]
  apply List.flatMap_congr
  intro product hp
  exact headingLines_landingGroup (h product hp) provider

/-- The last section of the landing page, with the list of documents, if there are any. -/
def resourcesPart (list : Text) : Text :=
  if list.isEmpty then [] else "\n## Resources List\n\n".toList ++ list ++ ['\n']

theorem isBlank_landingList (provider : Provider) (products : List Product) :
    Text.isBlank (landingList provider products) = (landingList provider products).isEmpty := by
  cases products with
  | nil => rfl
  | cons product rest =>
    -- The list begins with the sign of a heading, which is not white space.
    obtain ⟨groups, hg⟩ := Text.exists_intercalate_cons ['\n', '\n'] (landingGroup provider product)
      (rest.map (landingGroup provider))
    obtain ⟨lines, hl⟩ := Text.exists_intercalate_cons ['\n'] ("### ".toList ++ product.name)
      (kindOrder.flatMap (landingLinks provider product))
    rw [landingList, List.map_cons, Text.joinParagraphs, hg, landingGroup, Text.joinLines, hl]
    rfl

/-- A section at the end of a page stands there if it has content. -/
theorem assemble_append_singleton (values : Values) (head : Text) (sections : List (Text × Text))
    (s : Text × Text) :
    Template.assemble values head (sections ++ [s]) =
      Template.assemble values head sections ++ Template.sectionText values s := by
  simp only [Template.assemble_eq, List.flatMap_append, List.flatMap_singleton, List.append_assoc]

theorem substitute_resourcesSection {values : Values} {list : Text}
    (h : values.lookup "resources".toList = some list) :
    Template.substitute values resourcesSection.2 =
      "## Resources List\n\n".toList ++ list ++ ['\n'] := by
  have places : resourcesSection.2 = "## Resources List\n\n".toList ++
      (Template.placeholderText "resources".toList ++ ['\n']) := by
    decide
  rw [places]
  exact Template.substitute_section (by decide) (by decide) h

/-- The values that the landing page is filled with. -/
def landingValues (provider : Provider) (products : List Product) (examples : List Example)
    (c : Classification) : Values :=
  [("namespace".toList, provider.nameSpace),
    ("title".toList, provider.title),
    ("description".toList,
      (Description.ofText (Text.trim provider.configuration.description)).text),
    ("example".toList, writeExamples examples),
    ("arguments".toList, c.argumentsBody),
    ("resources".toList, landingList provider products)]

theorem exists_of_landingPage_yields {provider : Provider} {products : List Product} {page : Text}
    (h : (landingPage provider products).Yields page) :
    ∃ examples c, page = Template.assemble (landingValues provider products examples c)
      landingHead landingSections := by
  rw [landingPage] at h
  dsimp only at h
  split at h
  all_goals
    obtain ⟨examples, -, h⟩ := Report.yields_bind h
    obtain ⟨c, -, h⟩ := Report.yields_bind h
    exact ⟨examples, c, Report.yields_pure h⟩

/-- The landing page ends in the list of documents. -/
theorem landingPage_yields {provider : Provider} {products : List Product} {page : Text}
    (h : (landingPage provider products).Yields page) :
    ∃ above, page = above ++ resourcesPart (landingList provider products) := by
  obtain ⟨examples, c, he⟩ := exists_of_landingPage_yields h
  have found : (landingValues provider products examples c).lookup "resources".toList =
      some (landingList provider products) := rfl
  -- The section is left out exactly when there is nothing to list.
  have content : Template.hasContent (landingValues provider products examples c)
      "resources".toList = !(landingList provider products).isEmpty := by
    rw [Template.hasContent, found, ← isBlank_landingList]
    rfl
  refine ⟨Template.assemble (landingValues provider products examples c) landingHead
    [descriptionSection, exampleSection, argumentsSection], ?_⟩
  have last := assemble_append_singleton (landingValues provider products examples c) landingHead
    [descriptionSection, exampleSection, argumentsSection] resourcesSection
  refine he.trans (last.trans (congrArg _ ?_))
  rw [Template.sectionText, show resourcesSection.1 = "resources".toList from rfl, content,
    substitute_resourcesSection found, resourcesPart]
  cases (landingList provider products).isEmpty <;> rfl

end ProviderDocs
