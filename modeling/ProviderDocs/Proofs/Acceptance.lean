import ProviderDocs.Proofs.Navigation
import ProviderDocs.Proofs.Site.Listing
import ProviderDocs.Proofs.Warnings

/-!
# The providers that have documents

The documents of a provider are made exactly when the provider is consistent with its product
listing (`Provider.Consistent`).  Otherwise what is found is the first thing that is wrong
(`Provider.FirstFault`): the listing itself, an entity that is listed again, the first entity
without a page, or the landing page, in this order.  Names in the listing that the provider does not
have are none of these.  Each of them is warned of once and is left out of every list, and so is a
product that is left without names (`generate_outcome`).
-/

namespace ProviderDocs

variable {provider : Provider}

/-! ### Pages -/

/-- An entity of the manifest below a product. -/
def NamedSource.below (source : NamedSource) (product : Text) : Entity :=
  ⟨source.kind, source.name, product, source.source⟩

/-- An entity is listed, and the page that it has below its product can be made. -/
def HasPage (provider : Provider) (entries : List ListedEntity) (source : NamedSource) : Prop :=
  ∃ product page, ⟨source.kind, source.name, product⟩ ∈ entries ∧
    ((source.below product).page provider).result.1 = .ok page

/-- What keeps an entity from having a page: it is not listed, or there is a fault in its page. -/
inductive PageFault (provider : Provider) (entries : List ListedEntity) (source : NamedSource) :
    Fault → Prop
  | notListed (h : (source.kind, source.name) ∉ entries.map ListedEntity.key) :
    PageFault provider entries source (.notListed source.kind source.name)
  | page {product : Text} {fault : Fault} (listed : ⟨source.kind, source.name, product⟩ ∈ entries)
    (h : ((source.below product).page provider).result.1 = .error fault) :
    PageFault provider entries source fault

/-- What becomes of the document of an entity. -/
def documentOutcome (provider : Provider) (entries : List ListedEntity) (source : NamedSource) :
    Except Fault Document :=
  match source.entity? entries with
  | some entity => (entity.document provider).result.1
  | none => .error (.notListed source.kind source.name)

/-- A document ends in a fault exactly when its page does. -/
theorem Entity.result_document (entity : Entity) :
    (entity.document provider).result.1 = do
      let page ← (entity.page provider).result.1
      return ⟨documentPath provider entity.product entity.kind entity.name, page⟩ :=
  entity.collects_page.result_fst_bind fun _ => .pure _

theorem result_entityDocuments (entries : List ListedEntity) (sources : List NamedSource) :
    (entityDocuments provider entries sources).result.1 =
      sources.mapM (documentOutcome provider entries) := by
  induction sources with
  | nil => rfl
  | cons source rest ih =>
    rw [entityDocuments, List.mapM_cons, ← ih, documentOutcome]
    cases source.entity? entries with
    | none => rfl
    | some entity =>
      have rest : ∀ document : Document, Report.Collects (do
          let documents ← entityDocuments provider entries rest
          return document :: documents) Warning.OnPage :=
        fun _ => (collects_entityDocuments entries rest).bind fun _ => .pure _
      refine (entity.collects_document.result_fst_bind rest).trans (congrArg _ (funext ?_))
      intro document
      exact (collects_entityDocuments entries _).result_fst_bind fun _ => .pure _

section Outcomes

variable {entries : List ListedEntity} {source : NamedSource}

theorem documentOutcome_of_productOf?_eq_none
    (h : productOf? entries source.kind source.name = none) :
    documentOutcome provider entries source = .error (.notListed source.kind source.name) := by
  rw [documentOutcome, NamedSource.entity?, h]
  rfl

theorem documentOutcome_of_productOf?_eq_some {product : Text}
    (h : productOf? entries source.kind source.name = some product) :
    documentOutcome provider entries source = do
      let page ← ((source.below product).page provider).result.1
      return ⟨documentPath provider product source.kind source.name, page⟩ := by
  rw [documentOutcome, NamedSource.entity?, h]
  exact (source.below product).result_document

theorem hasPage_iff (once : listedTwice? entries = none) :
    HasPage provider entries source ↔
      ∃ document, documentOutcome provider entries source = .ok document := by
  unfold HasPage
  simp only [← productOf?_eq_some_iff once]
  cases hp : productOf? entries source.kind source.name with
  | none => simp [documentOutcome_of_productOf?_eq_none hp]
  | some product =>
    simp only [documentOutcome_of_productOf?_eq_some hp, bind_eq_ok_iff, pure_eq_ok_iff,
      Option.some.injEq, exists_and_left, exists_eq_left']
    constructor
    · rintro ⟨page, hr⟩
      exact ⟨_, page, hr, rfl⟩
    · rintro ⟨_, page, hr, -⟩
      exact ⟨page, hr⟩

theorem pageFault_iff (once : listedTwice? entries = none) {fault : Fault} :
    PageFault provider entries source fault ↔
      documentOutcome provider entries source = .error fault := by
  constructor
  · rintro (h | ⟨listed, h⟩)
    · exact documentOutcome_of_productOf?_eq_none (productOf?_eq_none_iff.mpr h)
    · rw [documentOutcome_of_productOf?_eq_some ((productOf?_eq_some_iff once).mpr listed), h]
      rfl
  · intro h
    cases hp : productOf? entries source.kind source.name with
    | none =>
      rw [documentOutcome_of_productOf?_eq_none hp] at h
      cases h
      exact .notListed (productOf?_eq_none_iff.mp hp)
    | some product =>
      rw [documentOutcome_of_productOf?_eq_some hp, bind_eq_error_iff] at h
      rcases h with h | ⟨page, -, h⟩
      · exact .page (mem_of_productOf?_eq_some hp) h
      · exact absurd h not_pure_eq_error

/-- All documents of the entities are made when each entity has a page. -/
theorem entityDocuments_eq_ok_iff (once : listedTwice? entries = none)
    {sources : List NamedSource} :
    (∃ documents, (entityDocuments provider entries sources).result.1 = .ok documents) ↔
      ∀ source ∈ sources, HasPage provider entries source := by
  simp only [hasPage_iff once]
  rw [result_entityDocuments]
  exact exists_mapM_eq_ok_iff

/-- The fault of the documents is that of the first entity without a page. -/
theorem entityDocuments_eq_error_iff (once : listedTwice? entries = none)
    {sources : List NamedSource} {fault : Fault} :
    (entityDocuments provider entries sources).result.1 = .error fault ↔
      ∃ before source after, sources = before ++ source :: after ∧
        (∀ other ∈ before, HasPage provider entries other) ∧
        PageFault provider entries source fault := by
  simp only [hasPage_iff once, pageFault_iff once]
  rw [result_entityDocuments]
  exact mapM_eq_error_iff

end Outcomes

/-! ### All documents -/

/-- The documents of a provider with some products: the pages, the sidebar and the landing page. -/
def documentsBelow (provider : Provider) (products : List Product) : Report (List Document) := do
  let pages ← entityDocuments provider (listedEntities products) provider.namedSources
  let landing ← landingPage provider products
  return pages ++ [⟨sidebarPath, sidebar provider products⟩, ⟨landingPath, landing⟩]

theorem generate_eq_bind (provider : Provider) :
    generate provider = readListing provider >>= documentsBelow provider :=
  rfl

theorem collects_documentsBelow (products : List Product) :
    (documentsBelow provider products).Collects Warning.OnPage :=
  (collects_entityDocuments _ _).bind fun _ => (collects_landingPage products).bind fun _ => .pure _

theorem result_documentsBelow (products : List Product) :
    (documentsBelow provider products).result.1 = do
      let pages ← (entityDocuments provider (listedEntities products)
        provider.namedSources).result.1
      let landing ← (landingPage provider products).result.1
      return pages ++ [⟨sidebarPath, sidebar provider products⟩, ⟨landingPath, landing⟩] := by
  have last (pages : List Document) : Report.Collects (do
      let landing ← landingPage provider products
      return pages ++ [⟨sidebarPath, sidebar provider products⟩, ⟨landingPath, landing⟩])
        Warning.OnPage :=
    (collects_landingPage products).bind fun _ => .pure _
  refine ((collects_entityDocuments _ _).result_fst_bind last).trans (congrArg _ (funext ?_))
  intro pages
  exact (collects_landingPage products).result_fst_bind fun _ => .pure _

/-- A provider and the products of its listing are consistent: the listing can be read, it lists no
entity of the provider twice and every one of them under its kind, and all pages can be made. -/
structure Provider.Consistent (provider : Provider) (listed : List Product) : Prop where
  parsed : Listing.parse provider.nameSpace provider.listing = .ok listed
  once : ((provider.known listed).map ListedEntity.key).Nodup
  complete : ∀ source ∈ provider.namedSources,
    ∃ product ∈ listed, source.name ∈ product.names source.kind
  pages : ∀ source ∈ provider.namedSources, ∀ product ∈ listed,
    source.name ∈ product.names source.kind →
      ∃ page, ((source.below product.name).page provider).result.1 = .ok page
  landing : ∃ page, (landingPage provider (documentedProducts provider listed)).result.1 = .ok page

/-- The first thing that is wrong with a provider: nothing before it is, in the order of these
cases. -/
inductive Provider.FirstFault (provider : Provider) : Fault → Prop
  /-- The listing cannot be read. -/
  | listing {fault : Fault}
    (h : Listing.parse provider.nameSpace provider.listing = .error fault) :
    FirstFault provider fault
  /-- An entity of the provider is listed again. -/
  | listedTwice {listed : List Product} {first second : ListedEntity}
    (parsed : Listing.parse provider.nameSpace provider.listing = .ok listed)
    (h : ListsAgain (provider.known listed) first second) :
    FirstFault provider
      (.listedTwice second.kind second.name first.product second.product)
  /-- An entity has no page, and all entities before it in the manifest have one.  Resources stand
  before data sources there, each in the order of their names. -/
  | page {listed : List Product} {before after : List NamedSource} {source : NamedSource}
    {fault : Fault} (parsed : Listing.parse provider.nameSpace provider.listing = .ok listed)
    (once : ((provider.known listed).map ListedEntity.key).Nodup)
    (split : provider.namedSources = before ++ source :: after)
    (made : ∀ other ∈ before, HasPage provider (provider.known listed) other)
    (h : PageFault provider (provider.known listed) source fault) : FirstFault provider fault
  /-- There is a fault in the landing page alone. -/
  | landing {listed : List Product} {fault : Fault}
    (parsed : Listing.parse provider.nameSpace provider.listing = .ok listed)
    (once : ((provider.known listed).map ListedEntity.key).Nodup)
    (made : ∀ source ∈ provider.namedSources, HasPage provider (provider.known listed) source)
    (h : (landingPage provider (documentedProducts provider listed)).result.1 = .error fault) :
    FirstFault provider fault

/-- An entity of the manifest is known below the products that list it under its kind. -/
theorem mem_known_iff {listed : List Product} {source : NamedSource}
    (hs : source ∈ provider.namedSources) {owner : Text} :
    ⟨source.kind, source.name, owner⟩ ∈ provider.known listed ↔
      ∃ product ∈ listed, product.name = owner ∧ source.name ∈ product.names source.kind := by
  have has : provider.hasEntity source.kind source.name = true :=
    hasEntity_iff.mpr ⟨source, hs, rfl, rfl⟩
  rw [Provider.known, List.mem_filter, mem_listedEntities]
  simp [has]

/-- An entity of the manifest has a page when it is listed under its kind, and the page can be
made. -/
theorem hasPage_known_iff {listed : List Product}
    (once : ((provider.known listed).map ListedEntity.key).Nodup) {source : NamedSource}
    (hs : source ∈ provider.namedSources) :
    HasPage provider (provider.known listed) source ↔
      (∃ product ∈ listed, source.name ∈ product.names source.kind) ∧
        ∀ product ∈ listed, source.name ∈ product.names source.kind →
          ∃ page, ((source.below product.name).page provider).result.1 = .ok page := by
  constructor
  · rintro ⟨owner, page, mem, made⟩
    obtain ⟨product, hp, -, hn⟩ := (mem_known_iff hs).mp mem
    refine ⟨⟨product, hp, hn⟩, fun other ho hn => ?_⟩
    -- No other product lists the entity.
    have mem' := (mem_known_iff hs).mpr ⟨other, ho, rfl, hn⟩
    cases List.inj_on_of_nodup_map once mem mem' rfl
    exact ⟨page, made⟩
  · rintro ⟨⟨product, hp, hn⟩, made⟩
    obtain ⟨page, hr⟩ := made product hp hn
    exact ⟨product.name, page, (mem_known_iff hs).mpr ⟨product, hp, rfl, hn⟩, hr⟩

theorem result_generate (provider : Provider) :
    (generate provider).result.1 = (readListing provider).result.1 >>= fun products =>
      (documentsBelow provider products).result.1 :=
  collects_readListing.result_fst_bind fun products =>
    (collects_documentsBelow products).imp fun _ _ => trivial

theorem generate_eq_ok_iff :
    (∃ documents, (generate provider).result.1 = .ok documents) ↔
      ∃ listed, provider.Consistent listed := by
  simp only [result_generate, bind_eq_ok_iff, readListing_eq_ok_iff, result_documentsBelow]
  constructor
  · rintro ⟨_, _, ⟨listed, parsed, once, rfl⟩, pages, hp, landing, hl, -⟩
    rw [listedEntities_documentedProducts] at hp
    have made := (entityDocuments_eq_ok_iff (listedTwice?_eq_none_iff.mpr once)).mp ⟨pages, hp⟩
    exact ⟨listed, {
      parsed, once
      complete := fun source hs => ((hasPage_known_iff once hs).mp (made source hs)).1
      pages := fun source hs => ((hasPage_known_iff once hs).mp (made source hs)).2
      landing := ⟨landing, hl⟩ }⟩
  · rintro ⟨listed, h⟩
    have made : ∀ source ∈ provider.namedSources,
        HasPage provider (provider.known listed) source := fun source hs =>
      (hasPage_known_iff h.once hs).mpr ⟨h.complete source hs, h.pages source hs⟩
    obtain ⟨pages, hp⟩ :=
      (entityDocuments_eq_ok_iff (listedTwice?_eq_none_iff.mpr h.once)).mpr made
    obtain ⟨landing, hl⟩ := h.landing
    rw [← listedEntities_documentedProducts] at hp
    exact ⟨_, _, ⟨listed, h.parsed, h.once, rfl⟩, pages, hp, landing, hl, rfl⟩

theorem generate_eq_error_iff {fault : Fault} :
    (generate provider).result.1 = .error fault ↔ provider.FirstFault fault := by
  simp only [result_generate, bind_eq_error_iff, readListing_eq_ok_iff, readListing_eq_error_iff,
    result_documentsBelow]
  constructor
  · rintro ((h | ⟨listed, parsed, first, second, h, rfl⟩) | ⟨_, ⟨listed, parsed, once, rfl⟩, h⟩)
    · exact .listing h
    · exact .listedTwice parsed h
    · have twice := listedTwice?_eq_none_iff.mpr once
      rw [listedEntities_documentedProducts] at h
      rcases h with h | ⟨pages, hp, h | ⟨_, -, h⟩⟩
      · obtain ⟨before, source, after, split, made, h⟩ :=
          (entityDocuments_eq_error_iff twice).mp h
        exact .page parsed once split made h
      · exact .landing parsed once ((entityDocuments_eq_ok_iff twice).mp ⟨pages, hp⟩) h
      · exact absurd h not_pure_eq_error
  · rintro (h | ⟨parsed, h⟩ | ⟨parsed, once, split, made, h⟩ | ⟨parsed, once, made, h⟩)
    · exact .inl (.inl h)
    · exact .inl (.inr ⟨_, parsed, _, _, h, rfl⟩)
    · refine .inr ⟨_, ⟨_, parsed, once, rfl⟩, .inl ?_⟩
      rw [listedEntities_documentedProducts,
        entityDocuments_eq_error_iff (listedTwice?_eq_none_iff.mpr once)]
      exact ⟨_, _, _, split, made, h⟩
    · refine .inr ⟨_, ⟨_, parsed, once, rfl⟩, .inr ?_⟩
      obtain ⟨pages, hp⟩ :=
        (entityDocuments_eq_ok_iff (listedTwice?_eq_none_iff.mpr once)).mpr made
      rw [← listedEntities_documentedProducts] at hp
      exact ⟨pages, hp, .inl h⟩

/-! ### What comes with the documents -/

/-- The lines of a list, with links at some indentation and headings with some sign, are those of
what a provider has of a listing. -/
structure ListsKnown (provider : Provider) (listed : List Product) (indentation sign list : Text) :
    Prop where
  /-- There is a link for each known entity, and no other. -/
  links : (linkLines indentation list).Perm
    ((provider.known listed).map fun entry => linkLine indentation (entry.link provider))
  /-- There is no link for an entity that is dropped, below any product. -/
  notLinked : ∀ entry ∈ provider.dropped listed, ∀ product, linkLine indentation
    (entry.name, documentPath provider product entry.kind entry.name) ∉ Text.splitLines list
  /-- There is a heading for each product that keeps some of its names, and no other. -/
  headings : headingLines sign list =
    (listed.filter provider.keeps).map fun product => sign ++ product.name

/-- The link of a dropped entity is none of those to known entities. -/
theorem linkLine_notMem {listed : List Product} {indentation : Text} {lines : List Text}
    (parsed : Listing.parse provider.nameSpace provider.listing = .ok listed)
    (h : (lines.filter (isLinkLine indentation)).Perm
      ((provider.known listed).map fun entry => linkLine indentation (entry.link provider)))
    {entry : ListedEntity} (hd : entry ∈ provider.dropped listed) (product : Text) :
    linkLine indentation (entry.name, documentPath provider product entry.kind entry.name) ∉
      lines := by
  intro hl
  have isLink := List.mem_filter.mpr ⟨hl, isLinkLine_linkLine indentation _⟩
  obtain ⟨other, ho, same⟩ := List.mem_map.mp (h.mem_iff.mp isLink)
  have hasPrefix {entry : ListedEntity} (he : entry ∈ listedEntities listed) :
      provider.nameSpace ++ ['_'] <+: entry.name := by
    obtain ⟨product, hp, -, hn⟩ := mem_listedEntities.mp he
    exact Listing.isPrefix_of_parse parsed hp hn
  obtain ⟨hd, unknown⟩ := List.mem_filter.mp hd
  obtain ⟨ho, known⟩ := List.mem_filter.mp ho
  -- Both are links to the same entity, which the provider has and does not have.
  obtain ⟨kind, name⟩ := eq_of_linkItem_eq (hasPrefix ho) (hasPrefix hd)
    (List.append_cancel_left same)
  rw [kind, name] at known
  simp [known] at unknown

theorem listsKnown_of {listed : List Product} {indentation sign list : Text}
    (parsed : Listing.parse provider.nameSpace provider.listing = .ok listed)
    (links : linkLines indentation list =
      (pageLinks provider (documentedProducts provider listed)).map (linkLine indentation))
    (headings : headingLines sign list =
      (documentedProducts provider listed).map fun product => sign ++ product.name) :
    ListsKnown provider listed indentation sign list := by
  have known : (linkLines indentation list).Perm
      ((provider.known listed).map fun entry => linkLine indentation (entry.link provider)) := by
    have perm := (pageLinks_perm_map_link provider (documentedProducts provider listed)).map
      (linkLine indentation)
    rw [listedEntities_documentedProducts, List.map_map, ← links] at perm
    exact perm
  refine ⟨known, fun entry hd product => linkLine_notMem parsed known hd product, ?_⟩
  have names := congrArg (List.map (sign ++ ·)) (map_name_documentedProducts provider listed)
  rw [List.map_map, List.map_map] at names
  exact headings.trans names

/-- The documents of a provider and the warnings that come with them. -/
structure Provider.Documented (provider : Provider) (listed : List Product)
    (documents : List Document) (warnings : List Warning) : Prop where
  /-- The warnings begin with one for each entity that is dropped. -/
  warnings : ∃ (unknown : List Text) (later : List Warning),
    warnings = unknown.map .unknownListing ++ later ∧
    unknown.Perm ((provider.dropped listed).map ListedEntity.name) ∧
    ∀ warning ∈ later, warning.OnPage
  /-- The documents are the pages of the entities, the sidebar and the landing page, and the last
  two list what is known. -/
  lists : ∃ pages list above landingList,
    documents = pages ++
      [⟨sidebarPath,
          Template.substitute [("title".toList, provider.title)] sidebarHead ++ '\n' :: list⟩,
        ⟨landingPath, above ++ resourcesPart landingList⟩] ∧
    List.Forall₂ (IsPage provider) provider.namedSources pages ∧
    ListsKnown provider listed "    ".toList "* ".toList list ∧
    ListsKnown provider listed [] "### ".toList landingList

/-- A provider has documents exactly when it is consistent with its listing; otherwise the fault is
that of the first thing that is wrong.  With the documents come warnings of all names that are
dropped, and none of these is linked. -/
theorem generate_outcome (provider : Provider) :
    ((∃ documents, (generate provider).result.1 = .ok documents) ↔
        ∃ listed, provider.Consistent listed) ∧
      (∀ fault, (generate provider).result.1 = .error fault ↔ provider.FirstFault fault) ∧
      ∀ documents, (generate provider).result.1 = .ok documents →
        ∃ listed, provider.Consistent listed ∧
          provider.Documented listed documents (generate provider).result.2 := by
  refine ⟨generate_eq_ok_iff, fun fault => generate_eq_error_iff, fun documents h => ?_⟩
  obtain ⟨listed, consistent⟩ := generate_eq_ok_iff.mp ⟨documents, h⟩
  have parsed := consistent.parsed
  have newline := newline_notMem_of_mem_documentedProducts parsed
  refine ⟨listed, consistent, ?_, ?_⟩
  · have read := comesTo_readListing parsed
    rw [listedTwice?_eq_none_iff.mpr consistent.once] at read
    have below : (documentsBelow provider (documentedProducts provider listed)).Collects
        Warning.OnPage :=
      collects_documentsBelow _
    have whole := (read.bind below.comesTo).result_eq
    rw [← generate_eq_bind] at whole
    exact ⟨_, _, congrArg Prod.snd whole, unknownNames_perm provider listed, below.forall_mem⟩
  · obtain ⟨products, pages, landing, hr, hp, hl, rfl⟩ := exists_of_generate h
    obtain ⟨above, rfl⟩ := landingPage_yields hl
    obtain ⟨other, parsed', rfl, -⟩ := readListing_yields hr
    obtain rfl : other = listed := Except.ok.inj (parsed'.symm.trans parsed)
    refine ⟨pages, _, above, _, ?_, hp.imp fun _ _ isPage => isPage.isPage,
      listsKnown_of parsed (linkLines_sidebarList newline provider)
        (headingLines_sidebarList newline provider),
      listsKnown_of parsed (linkLines_landingList newline provider)
        (headingLines_landingList newline provider)⟩
    rw [sidebar_eq]

/-- A provider whose listing names an entity that it does not have, twice below one product and
alone below another. -/
def staleProvider : Provider :=
  let source : Source :=
    { description := "A thing.\n\nExample Usage\n\n```\na = 1\n```\n".toList }
  { nameSpace := "edgenext".toList
    title := "EdgeNext".toList
    listing := Text.joinLines (["CDN", "Resource", "edgenext_cdn", "edgenext_old", "edgenext_old",
      "Legacy", "Data Source", "edgenext_old", "CDN", "Data Source", "edgenext_cdn"].map
        String.toList)
    resources := [("edgenext_cdn".toList, source)]
    dataSources := [("edgenext_cdn".toList, source)] }

theorem staleProvider_documented :
    ∃ documents, (generate staleProvider).result.1 = .ok documents ∧
      ∃ listed, staleProvider.Consistent listed ∧
        staleProvider.Documented listed documents (generate staleProvider).result.2 := by
  obtain ⟨documents, h⟩ := Report.exists_result_eq_ok
    (show (generate staleProvider).result.1.isOk = true by decide +kernel)
  exact ⟨documents, h, (generate_outcome staleProvider).2.2 documents h⟩

example : (generate staleProvider).result.2 =
    List.replicate 3 (.unknownListing "edgenext_old".toList) := by
  decide +kernel

end ProviderDocs
