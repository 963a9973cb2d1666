import ProviderDocs.Proofs.Navigation

/-!
# Documents with different paths

The documents of a provider are one page for each of its entities, the sidebar and the landing page,
and no two of them have the same path (`generate_paths_nodup`).  Slugs have no part in this: two
products may have the same slug, or an empty one.  What tells two pages of one kind apart is what
their names hold behind the prefix, and every entity with a page has the prefix, since it is listed
(`isPrefix_of_isPageOf`).
-/

namespace ProviderDocs

variable {provider : Provider}

theorem isPrefix_of_isPageOf {listed : List Product} {source : NamedSource} {page : Document}
    (parsed : Listing.parse provider.nameSpace provider.listing = .ok listed)
    (h : IsPageOf provider (listedEntities (documentedProducts provider listed)) source page) :
    provider.nameSpace ++ ['_'] <+: source.name := by
  obtain ⟨owner, ho, -⟩ := h.exists_path
  have entry := mem_of_productOf?_eq_some ho
  obtain ⟨product, hm, -, hn, -⟩ := mem_listedEntities_documentedProducts.mp entry
  exact Listing.isPrefix_of_parse parsed hm hn

/-- The pages of different entities have different paths. -/
theorem nodup_map_path {entries : List ListedEntity} {pages : List Document}
    (h : List.Forall₂ (IsPageOf provider entries) provider.namedSources pages)
    (hn : ∀ source ∈ provider.namedSources, provider.nameSpace ++ ['_'] <+: source.name) :
    (pages.map Document.path).Nodup := by
  have paths : pages.map Document.path = provider.namedSources.map fun source =>
      ((NamedSource.listed entries source).link provider).2 := by
    have links := congrArg (List.map Prod.snd) (map_zip_eq_map_link h)
    rw [List.map_map, List.map_map, List.map_map] at links
    calc pages.map Document.path
        = ((provider.namedSources.zip pages).map Prod.snd).map Document.path := by
          rw [List.map_snd_zip h.length_eq.ge]
      _ = _ := by rw [List.map_map]; exact links
  rw [paths]
  refine (List.Nodup.of_map _ provider.nodup_map_key).map_on fun source hs other ho same => ?_
  have kind : source.kind = other.kind := kind_eq_of_documentPath_eq same
  have name : source.name = other.name :=
    name_eq_of_documentPath_eq (hn source hs) (hn other ho) same
  exact List.inj_on_of_nodup_map provider.nodup_map_key hs ho (Prod.ext kind name)

/-- The documents of a provider are the pages of its entities, in the order of the manifest, the
sidebar and the landing page, and no two of them have the same path. -/
theorem generate_paths_nodup {documents : List Document}
    (h : (generate provider).result.1 = .ok documents) :
    ∃ pages sidebar landing,
      documents = pages ++ [⟨sidebarPath, sidebar⟩, ⟨landingPath, landing⟩] ∧
      List.Forall₂ (IsPage provider) provider.namedSources pages ∧
      (documents.map Document.path).Nodup := by
  obtain ⟨products, pages, landing, hr, hp, -, rfl⟩ := exists_of_generate h
  obtain ⟨listed, parsed, rfl, -⟩ := readListing_yields hr
  refine ⟨pages, _, landing, rfl, hp.imp fun _ _ isPage => isPage.isPage, ?_⟩
  have distinct : (pages.map Document.path).Nodup := by
    apply nodup_map_path hp
    intro source hs
    obtain ⟨page, -, isPage⟩ := exists_of_forall₂ hp hs
    exact isPrefix_of_isPageOf parsed isPage
  -- The other two stand in the root, and no page does.
  have inDirectory : ∀ path ∈ pages.map Document.path, '/' ∈ path := by
    intro path hm
    obtain ⟨page, hpage, rfl⟩ := List.mem_map.mp hm
    obtain ⟨source, -, isPage⟩ := exists_of_forall₂ hp.flip hpage
    obtain ⟨product, -, path⟩ := IsPageOf.exists_path isPage
    rw [path]
    exact slash_mem_documentPath provider product source.kind source.name
  have inRoot : [sidebarPath, landingPath].Nodup ∧
      ∀ path ∈ [sidebarPath, landingPath], '/' ∉ path := by
    decide
  rw [List.map_append]
  exact distinct.append inRoot.1 fun path hm hr => inRoot.2 path hr (inDirectory path hm)

/-- A provider with two products of punctuation alone, and a resource and a data source of one
name. -/
def punctuationProvider : Provider :=
  let source : Source :=
    { description := "A thing.\n\nExample Usage\n\n```\na = 1\n```\n".toList }
  { nameSpace := "edgenext".toList
    title := "EdgeNext".toList
    listing := Text.joinLines (["!!!", "Resource", "edgenext_cdn", "Data Source", "edgenext_cdn",
      "???", "Resource", "edgenext_rule"].map String.toList)
    resources := [("edgenext_cdn".toList, source), ("edgenext_rule".toList, source)]
    dataSources := [("edgenext_cdn".toList, source)] }

theorem punctuationProvider_paths_nodup :
    ∃ documents, (generate punctuationProvider).result.1 = .ok documents ∧
      ∃ pages sidebar landing,
        documents = pages ++ [⟨sidebarPath, sidebar⟩, ⟨landingPath, landing⟩] ∧
        List.Forall₂ (IsPage punctuationProvider) punctuationProvider.namedSources pages ∧
        (documents.map Document.path).Nodup := by
  obtain ⟨documents, h⟩ := Report.exists_result_eq_ok
    (show (generate punctuationProvider).result.1.isOk = true by decide +kernel)
  exact ⟨documents, h, generate_paths_nodup h⟩

end ProviderDocs
