import Mathlib.Data.List.Perm.Basic
import ProviderDocs.Proofs.Page.Links
import ProviderDocs.Proofs.Site.Listing

/-!
# The links to all documents

The links of the documented products are those to the entities of the manifest, each once
(`pageLinks_perm`), since no entity is listed twice and every one is listed.  So the sidebar and the
landing page link to every page, in the same order (`generate_links`).  The sidebar names the
products beside these links, and links nowhere else exactly if no documented product is named by a
link (`linksPages_splitLines_iff`).
-/

namespace ProviderDocs

/-- What tells an entity of the manifest from any other. -/
def NamedSource.key (source : NamedSource) : EntityKind × Text :=
  (source.kind, source.name)

variable {provider : Provider}

/-- The entities of a manifest are different. -/
theorem Provider.nodup_map_key (provider : Provider) :
    (provider.namedSources.map NamedSource.key).Nodup := by
  have names {entries : List (Text × Source)} (ho : (entries.map Prod.fst).Pairwise (· < ·))
      (kind : EntityKind) : (entries.map fun entry => (kind, entry.1)).Nodup := by
    rw [show (fun entry : Text × Source => (kind, entry.1)) = (Prod.mk kind) ∘ Prod.fst from rfl,
      ← List.map_map]
    refine List.Nodup.map (fun _ _ he => (Prod.mk.inj he).2) (ho.imp fun hlt he => ?_)
    exact List.lt_irrefl _ (he ▸ hlt)
  unfold namedSources
  rw [List.map_append, List.map_map, List.map_map]
  refine (names (isAscending_iff.mp provider.ordered_resources) .resource).append
    (names (isAscending_iff.mp provider.ordered_dataSources) .dataSource) ?_
  intro key hr hd
  obtain ⟨_, -, rfl⟩ := List.mem_map.mp hr
  obtain ⟨_, -, hk⟩ := List.mem_map.mp hd
  cases congrArg Prod.fst hk

/-! ### Links and listed entities -/

/-- The link to the document of a listed entity. -/
def ListedEntity.link (provider : Provider) (entry : ListedEntity) : Text × Text :=
  (entry.name, documentPath provider entry.product entry.kind entry.name)

/-- The links are those to the listed entities, in another order. -/
theorem pageLinks_perm_map_link (provider : Provider) (products : List Product) :
    (pageLinks provider products).Perm
      ((listedEntities products).map (ListedEntity.link provider)) := by
  rw [pageLinks, listedEntities, List.map_flatMap]
  apply List.Perm.flatMap_left
  intro product _
  simp only [kindOrder, List.flatMap_cons, List.flatMap_nil, List.append_nil, productLinks,
    Product.names, List.map_append, List.map_map]
  exact List.perm_append_comm

/-- Different entities have different links. -/
theorem nodup_map_link {entries : List ListedEntity} (h : listedTwice? entries = none) :
    (entries.map (ListedEntity.link provider)).Nodup := by
  have keys := listedTwice?_eq_none_iff.mp h
  refine (List.Nodup.of_map _ keys).map_on fun entry he other ho hl => ?_
  -- The name is the label, and the kind is in the path.
  have name := (Prod.mk.inj hl).1
  have kind := kind_eq_of_documentPath_eq (Prod.mk.inj hl).2
  exact List.inj_on_of_nodup_map keys he ho (Prod.ext kind name)

/-- An entity of the manifest as some entries list it. -/
def NamedSource.listed (entries : List ListedEntity) (source : NamedSource) : ListedEntity where
  kind := source.kind
  name := source.name
  product := (productOf? entries source.kind source.name).getD []

/-- If every entity is listed once, and nothing else is, the listed entities are those of the
manifest, in another order. -/
theorem perm_map_listed {entries : List ListedEntity}
    (once : listedTwice? entries = none)
    (known : ∀ entry ∈ entries, provider.hasEntity entry.kind entry.name = true)
    (listed : ∀ source ∈ provider.namedSources,
      ∃ product, productOf? entries source.kind source.name = some product) :
    entries.Perm (provider.namedSources.map (NamedSource.listed entries)) := by
  have nodup : (provider.namedSources.map (NamedSource.listed entries)).Nodup := by
    apply List.Nodup.of_map ListedEntity.key
    rw [List.map_map]
    exact provider.nodup_map_key
  -- No entity occurs twice on either side, so that it is enough to compare what occurs.
  rw [List.perm_ext_iff_of_nodup (List.Nodup.of_map _ (listedTwice?_eq_none_iff.mp once)) nodup]
  intro entry
  constructor
  · intro he
    obtain ⟨source, hs, hk, hn⟩ := hasEntity_iff.mp (known entry he)
    refine List.mem_map.mpr ⟨source, hs, ?_⟩
    rw [NamedSource.listed, hk, hn, (productOf?_eq_some_iff once).mpr he]
    rfl
  · intro he
    obtain ⟨source, hs, rfl⟩ := List.mem_map.mp he
    obtain ⟨product, hp⟩ := listed source hs
    rw [NamedSource.listed, hp]
    exact mem_of_productOf?_eq_some hp

/-- The link to the page of an entity is the one to the entity as it is listed. -/
theorem map_zip_eq_map_link {entries : List ListedEntity} {sources : List NamedSource}
    {pages : List Document} (h : List.Forall₂ (IsPageOf provider entries) sources pages) :
    (sources.zip pages).map (fun entry => (entry.1.name, entry.2.path)) =
      (sources.map (NamedSource.listed entries)).map (ListedEntity.link provider) := by
  induction h with
  | nil => rfl
  | @cons source page _ _ isPage _ ih =>
    obtain ⟨product, hp, path⟩ := isPage.exists_path
    have link : (NamedSource.listed entries source).link provider = (source.name, page.path) := by
      rw [NamedSource.listed, hp, path]
      rfl
    rw [List.zip_cons_cons, List.map_cons, List.map_cons, List.map_cons, link, ih]

/-! ### All documents -/

/-- A document is the page of an entity of the manifest, below some product. -/
def IsPage (provider : Provider) (source : NamedSource) (document : Document) : Prop :=
  ∃ product, (Entity.document provider
    ⟨source.kind, source.name, product, source.source⟩).Yields document

theorem IsPageOf.isPage {entries : List ListedEntity} {source : NamedSource} {document : Document}
    (h : IsPageOf provider entries source document) : IsPage provider source document := by
  obtain ⟨entity, he, hd⟩ := h
  obtain ⟨product, -, rfl⟩ := Option.map_eq_some_iff.mp he
  exact ⟨product, hd⟩

/-- The link items among some lines of the sidebar and among those on the landing page are the same
links in the same order, and these are the links to the pages of the entities, each once. -/
structure LinksPages (provider : Provider) (pages : List Document)
    (sidebarLines landingLines : List Text) (links : List (Text × Text)) : Prop where
  sidebar : HoldsLinks sidebarLines links
  landing : HoldsLinks landingLines links
  nodup : links.Nodup
  perm : links.Perm
    ((provider.namedSources.zip pages).map fun entry => (entry.1.name, entry.2.path))

/-- All link items in the sidebar are links to the pages exactly if none of the headings is one,
that is if no product is named by a link. -/
theorem linksPages_splitLines_iff {pages : List Document} {list : Text}
    {landingLines names : List Text} {links : List (Text × Text)}
    (headings : headingLines "* ".toList list = names.map ("* ".toList ++ ·))
    (h : LinksPages provider pages (otherLines "* ".toList list) landingLines links) :
    (∃ all, LinksPages provider pages (Text.splitLines list) landingLines all) ↔
      ∀ name ∈ names, ∀ link, name ≠ linkText link := by
  constructor
  · rintro ⟨all, whole⟩ name hn link rfl
    -- There are as many links in all lines as in those that are no headings.
    have lengths : (Text.splitLines list).countP isLinkItem =
        (otherLines "* ".toList list).countP isLinkItem := by
      rw [List.countP_eq_length_filter, List.countP_eq_length_filter, whole.sidebar.length_eq,
        h.sidebar.length_eq]
      exact (whole.perm.trans h.perm.symm).length_eq
    have heading : "* ".toList ++ linkText link ∈ headingLines "* ".toList list :=
      headings ▸ List.mem_map_of_mem hn
    have counted : 0 < (headingLines "* ".toList list).countP isLinkItem :=
      List.countP_pos_iff.mpr ⟨_, heading, isLink_iff.mpr ⟨link, rfl⟩⟩
    rw [countP_isLinkItem "* ".toList] at lengths
    omega
  · intro plain
    have noLink : ∀ name ∈ names, isLink name = false := by
      intro name hn
      rw [Bool.eq_false_iff, ne_eq, isLink_iff]
      rintro ⟨link, hname⟩
      exact plain name hn link hname
    refine ⟨links, ?_, h.landing, h.nodup, h.perm⟩
    rw [HoldsLinks, ← filter_isLinkItem_otherLines headings noLink]
    exact h.sidebar

/-- Nothing that a documented product names goes over a line. -/
theorem newline_notMem_of_mem_documentedProducts {listed : List Product}
    (parsed : Listing.parse provider.nameSpace provider.listing = .ok listed) :
    ∀ product ∈ documentedProducts provider listed,
      Listing.NamesSatisfy ('\n' ∉ ·) product := by
  intro _ hm
  obtain ⟨product, found, rfl⟩ := List.mem_map.mp (List.mem_of_mem_filter hm)
  obtain ⟨name, names⟩ := Listing.newline_notMem_of_parse parsed product found
  refine ⟨name, fun kind entity he => ?_⟩
  rw [names_documented] at he
  exact names kind entity (List.mem_of_mem_filter he)

/-- The links of the documented products are those to the pages of the entities, in another
order. -/
theorem pageLinks_perm {listed : List Product} {pages : List Document}
    (once : listedTwice? (listedEntities (documentedProducts provider listed)) = none)
    (h : List.Forall₂ (IsPageOf provider (listedEntities (documentedProducts provider listed)))
      provider.namedSources pages) :
    (pageLinks provider (documentedProducts provider listed)).Perm
      ((provider.namedSources.zip pages).map fun entry => (entry.1.name, entry.2.path)) := by
  -- The pages are in the order of the manifest, the links in that of the listing.
  rw [map_zip_eq_map_link h]
  refine (pageLinks_perm_map_link provider _).trans ((perm_map_listed once ?_ ?_).map _)
  · intro entry he
    obtain ⟨_, -, -, -, has⟩ := mem_listedEntities_documentedProducts.mp he
    exact has
  · intro source hs
    obtain ⟨page, -, isPage⟩ := exists_of_forall₂ h hs
    obtain ⟨product, ho, -⟩ := isPage.exists_path
    exact ⟨product, ho⟩

/-- The documents of a provider are the pages of its entities, the sidebar and the landing page,
which ends in the list of documents.  But for the headings with the names of the products, the link
items of the last two are the links to all pages; and with the headings they are so exactly if none
of these products is named by a link. -/
theorem generate_links {documents : List Document}
    (h : (generate provider).result.1 = .ok documents) :
    ∃ listed pages list above landingList links,
      Listing.parse provider.nameSpace provider.listing = .ok listed ∧
      documents = pages ++
        [⟨sidebarPath, "* [".toList ++ provider.title ++ " Provider](index.md)\n".toList ++ list⟩,
          ⟨landingPath, above ++ resourcesPart landingList⟩] ∧
      List.Forall₂ (IsPage provider) provider.namedSources pages ∧
      headingLines "* ".toList list =
        (listed.filter provider.keeps).map (fun product => "* ".toList ++ product.name) ∧
      LinksPages provider pages (otherLines "* ".toList list) (Text.splitLines landingList) links ∧
      ((∃ all, LinksPages provider pages (Text.splitLines list) (Text.splitLines landingList) all) ↔
        ∀ product ∈ listed.filter provider.keeps, ∀ link, product.name ≠ linkText link) := by
  obtain ⟨products, pages, landing, hr, hp, hl, rfl⟩ := exists_of_generate h
  obtain ⟨above, rfl⟩ := landingPage_yields hl
  obtain ⟨listed, parsed, rfl, once⟩ := readListing_yields hr
  have newline := newline_notMem_of_mem_documentedProducts parsed
  have headings : headingLines "* ".toList
      (sidebarList provider (documentedProducts provider listed)) =
        ((listed.filter provider.keeps).map Product.name).map ("* ".toList ++ ·) := by
    rw [headingLines_sidebarList newline, ← map_name_documentedProducts, List.map_map]
    rfl
  have links : LinksPages provider pages
      (otherLines "* ".toList (sidebarList provider (documentedProducts provider listed)))
      (Text.splitLines (landingList provider (documentedProducts provider listed)))
      (pageLinks provider (documentedProducts provider listed)) := {
    sidebar := holdsLinks_sidebarList newline provider
    landing := holdsLinks_landingList newline provider
    nodup := (pageLinks_perm_map_link provider _).nodup_iff.mpr (nodup_map_link once)
    perm := pageLinks_perm once hp }
  refine ⟨listed, pages, _, above, _, _, parsed, ?_, hp.imp fun _ _ isPage => isPage.isPage, ?_,
    links, ?_⟩
  · rw [sidebar_eq, substitute_sidebarHead]
    simp
  · rw [headings, List.map_map]
    rfl
  · rw [linksPages_splitLines_iff headings links, List.forall_mem_map]

/-- A provider with a resource and a data source of one name, and a product that is listed twice. -/
def cdnProvider (product : Text) : Provider :=
  let source : Source :=
    { description := "A thing.\n\nExample Usage\n\n```\na = 1\n```\n".toList }
  { nameSpace := "edgenext".toList
    title := "EdgeNext".toList
    listing := Text.joinLines
      (product :: (["Data Source", "edgenext_cdn", "Resource", "edgenext_cdn",
        "edgenext_old"].map String.toList ++
          product :: ["Resource", "edgenext_rule"].map String.toList))
    resources := [("edgenext_cdn".toList, source), ("edgenext_rule".toList, source)]
    dataSources := [("edgenext_cdn".toList, source)] }

theorem cdnProvider_links :
    ∃ documents, (generate (cdnProvider "CDN".toList)).result.1 = .ok documents ∧
      ∃ pages list above landingList links,
        documents = pages ++
          [⟨sidebarPath, "* [EdgeNext Provider](index.md)\n".toList ++ list⟩,
            ⟨landingPath, above ++ resourcesPart landingList⟩] ∧
        List.Forall₂ (IsPage (cdnProvider "CDN".toList)) (cdnProvider "CDN".toList).namedSources
          pages ∧
        LinksPages (cdnProvider "CDN".toList) pages (Text.splitLines list)
          (Text.splitLines landingList) links := by
  obtain ⟨documents, h⟩ := Report.exists_result_eq_ok
    (show (generate (cdnProvider "CDN".toList)).result.1.isOk = true by decide +kernel)
  obtain ⟨listed, pages, list, above, landingList, links, parsed, rfl, hp, -, -, all⟩ :=
    generate_links h
  -- Neither of the two products is named by a link.
  have plain : ∀ product ∈ listed.filter (cdnProvider "CDN".toList).keeps, ∀ link,
      product.name ≠ linkText link := by
    have names : (Listing.parse (cdnProvider "CDN".toList).nameSpace
        (cdnProvider "CDN".toList).listing).map (fun listed =>
          (listed.filter (cdnProvider "CDN".toList).keeps).map Product.name) =
        .ok ["CDN".toList, "CDN".toList] := by
      decide +kernel
    rw [parsed] at names
    intro product hm link named
    have among : linkText link ∈ ["CDN".toList, "CDN".toList] := by
      rw [← Except.ok.inj names, ← named]
      exact List.mem_map_of_mem hm
    simp [linkText] at among
  obtain ⟨links, whole⟩ := all.mpr plain
  exact ⟨_, h, pages, list, above, landingList, links, rfl, hp, whole⟩

/-- A product that is named by a link is one more link in the sidebar, wherever it leads. -/
theorem bracketedProduct_not_linksPages :
    ∃ documents, (generate (cdnProvider "[Foo](bar.md)".toList)).result.1 = .ok documents ∧
      ¬∃ pages list above landingList links,
        documents = pages ++
          [⟨sidebarPath, "* [EdgeNext Provider](index.md)\n".toList ++ list⟩,
            ⟨landingPath, above ++ resourcesPart landingList⟩] ∧
        List.Forall₂ (IsPage (cdnProvider "[Foo](bar.md)".toList))
          (cdnProvider "[Foo](bar.md)".toList).namedSources pages ∧
        LinksPages (cdnProvider "[Foo](bar.md)".toList) pages (Text.splitLines list)
          (Text.splitLines landingList) links := by
  obtain ⟨documents, h⟩ := Report.exists_result_eq_ok
    (show (generate (cdnProvider "[Foo](bar.md)".toList)).result.1.isOk = true by decide +kernel)
  refine ⟨documents, h, ?_⟩
  rintro ⟨pages, list, above, landingList, links, rfl, -, whole⟩
  -- The lines of the two products are links, too.
  have counted : (generate (cdnProvider "[Foo](bar.md)".toList)).result.1.map (fun documents =>
      documents.reverse[1]?.map fun sidebar =>
        let list := sidebar.content.drop "* [EdgeNext Provider](index.md)\n".toList.length
        ((Text.splitLines list).filter isLinkItem).length) = .ok (some 5) := by
    decide +kernel
  rw [h, Except.map, List.reverse_append] at counted
  have five : ((Text.splitLines list).filter isLinkItem).length = 5 :=
    Option.some.inj (Except.ok.inj counted)
  have three : (cdnProvider "[Foo](bar.md)".toList).namedSources.length = 3 := rfl
  have inSidebar := whole.sidebar.length_eq
  have toPages := whole.perm.length_eq
  rw [List.length_map, List.length_zip] at toPages
  omega

end ProviderDocs
