import ProviderDocs.Proofs.Provider
import ProviderDocs.Proofs.Publication
import ProviderDocs.Proofs.Site

/-!
# Whether documents stay below their root

A document is written below the root when its path is confined, and the path of a page is confined
exactly when the slug of its product is not empty and nothing in the name of its entity, up to the
last slash, leads elsewhere (`isConfined_documentPath_iff`).  `generate_confined_iff` says which
providers have only such documents.
-/

namespace ProviderDocs

/-! ### Paths of pages -/

/-- A product and the name of an entity give a page a place below the root: the product has a slug,
and all that the name says before its last slash are names. -/
def Provider.GivesPlace (provider : Provider) (product name : Text) : Prop :=
  slug product ≠ [] ∧ ∀ piece ∈ (Path.pieces (provider.shortName name)).dropLast, Path.IsName piece

theorem isName_append_extension (piece : Text) : Path.IsName (piece ++ ".md".toList) := by
  have last : (piece ++ ".md".toList).getLast? = some 'd' := by
    rw [List.getLast?_append_of_ne_nil _ (by decide)]
    rfl
  refine ⟨?_, ?_, ?_⟩ <;>
  · intro h
    rw [h] at last
    exact absurd last (by decide)

theorem isConfined_documentPath_iff {provider : Provider} {product name : Text}
    {kind : EntityKind} :
    Path.IsConfined (documentPath provider product kind name) ↔
      provider.GivesPlace product name := by
  obtain ⟨last, pieces⟩ : ∃ last, Path.pieces (provider.shortName name ++ ".md".toList) =
      (Path.pieces (provider.shortName name)).dropLast ++ [last ++ ".md".toList] :=
    Text.exists_splitOn_append (by decide) _
  -- The slug and the names above the last slash decide; the other pieces are names in any case.
  have directory : Path.IsName kind.directory := by
    cases kind <;> exact ⟨by decide, by decide, by decide⟩
  unfold Path.IsConfined Provider.GivesPlace
  rw [pieces_documentPath, pieces]
  simp only [List.forall_mem_cons, List.forall_mem_append, isName_slug_iff, directory,
    isName_append_extension, true_and, List.not_mem_nil, false_implies, implies_true, and_true]

/-! ### All documents -/

/-- A place below another one. -/
def IsBelow (outer location : Location) : Prop :=
  ∃ names, names ≠ [] ∧ location = outer ++ names

/-- Writing documents with confined paths leaves everything outside the root alone, but for the
directories that lead to it. -/
theorem agreesOutside_writeDocuments {documents : List Document}
    (h : ∀ document ∈ documents, Path.IsConfined document.path) (root : Text) (disk : Disk) :
    Disk.AgreesOutside (IsBelow (Disk.place disk.home root)) disk
      ((writeDocuments root documents : StateM Disk Written).run disk).2 := by
  refine staysWithin_writeDocuments (fun document hd => ?_) disk rfl
  rw [place_join (h document hd)]
  exact ⟨_, Text.splitOn_ne_nil _ _, rfl⟩

/-- Every entity that is listed and that the provider has is given a place below the root. -/
def Provider.GivesPlaces (provider : Provider) : Prop :=
  ∀ listed, Listing.parse provider.nameSpace provider.listing = .ok listed →
    ∀ product ∈ listed, ∀ kind, ∀ name ∈ product.names kind,
      provider.hasEntity kind name = true → provider.GivesPlace product.name name

theorem forall_isConfined_iff {provider : Provider} {documents : List Document}
    (h : (generate provider).result.1 = .ok documents) :
    (∀ document ∈ documents, Path.IsConfined document.path) ↔ provider.GivesPlaces := by
  obtain ⟨products, pages, landing, hr, hp, -, rfl⟩ := exists_of_generate h
  obtain ⟨found, hf, rfl, once⟩ := readListing_yields hr
  constructor
  · intro confined listed hl product hm kind name hn has
    obtain rfl : found = listed := Except.ok.inj (hf.symm.trans hl)
    -- The entity has a page, and it is the product in question that gives it its path.
    obtain ⟨source, hs, rfl, rfl⟩ := hasEntity_iff.mp has
    have owner := (productOf?_eq_some_iff once).mpr
      (mem_listedEntities_documentedProducts.mpr ⟨product, hm, rfl, hn, has⟩)
    obtain ⟨page, hpage, isPage⟩ := exists_of_forall₂ hp hs
    obtain ⟨other, ho, path⟩ := isPage.exists_path
    rw [owner] at ho
    cases ho
    rw [← isConfined_documentPath_iff, ← path]
    exact confined page (List.mem_append_left _ hpage)
  · intro places document hd
    rcases List.mem_append.mp hd with hd | hd
    · obtain ⟨source, hs, isPage⟩ := exists_of_forall₂ hp.flip hd
      obtain ⟨owner, ho, path⟩ := IsPageOf.exists_path isPage
      have entry := mem_of_productOf?_eq_some ho
      obtain ⟨product, hm, rfl, hn, has⟩ := mem_listedEntities_documentedProducts.mp entry
      rw [path, isConfined_documentPath_iff]
      exact places found hf product hm _ _ hn has
    · -- The other two documents stand in the root.
      have fixed (path : Text) (hp : path = sidebarPath ∨ path = landingPath) :
          Path.IsConfined path := by
        intro piece hpiece
        rcases hp with rfl | rfl
        · obtain rfl := List.mem_singleton.mp hpiece
          exact ⟨by decide, by decide, by decide⟩
        · obtain rfl := List.mem_singleton.mp hpiece
          exact ⟨by decide, by decide, by decide⟩
      simp only [List.mem_cons, List.not_mem_nil, or_false] at hd
      rcases hd with rfl | rfl
      · exact fixed _ (.inl rfl)
      · exact fixed _ (.inr rfl)

/-- The documents of a provider all have paths of names alone, and none is written outside the root,
whatever the root and the disk, exactly when the provider gives every entity a place below the
root. -/
theorem generate_confined_iff {provider : Provider} {documents : List Document}
    (h : (generate provider).result.1 = .ok documents) :
    ((∀ document ∈ documents,
        Path.isAbsolute document.path = false ∧ Path.IsConfined document.path) ∧
      ∀ (root : Text) (disk : Disk),
        Disk.AgreesOutside (IsBelow (Disk.place disk.home root)) disk
          ((writeDocuments root documents : StateM Disk Written).run disk).2) ↔
      provider.GivesPlaces := by
  rw [← forall_isConfined_iff h]
  constructor
  · rintro ⟨paths, -⟩ document hd
    exact (paths document hd).2
  · intro confined
    refine ⟨fun document hd => ?_, agreesOutside_writeDocuments confined⟩
    exact ⟨(confined document hd).isAbsolute_eq_false, confined document hd⟩

/-- A provider with one resource, which is listed under one product. -/
def oneResource (product name : Text) : Provider where
  nameSpace := "edgenext".toList
  title := "EdgeNext".toList
  listing := Text.joinLines [product, EntityKind.resource.header, name]
  resources :=
    [(name, { description := "A thing.\n\nExample Usage\n\n```\na = 1\n```\n".toList })]

theorem oneResource_confined :
    ∃ documents,
      (generate (oneResource "CDN".toList "edgenext_cdn".toList)).result.1 = .ok documents ∧
      (∀ document ∈ documents,
        Path.isAbsolute document.path = false ∧ Path.IsConfined document.path) ∧
      ∀ (root : Text) (disk : Disk),
        Disk.AgreesOutside (IsBelow (Disk.place disk.home root)) disk
          ((writeDocuments root documents : StateM Disk Written).run disk).2 := by
  obtain ⟨documents, h⟩ := Report.exists_result_eq_ok
    (show (generate (oneResource "CDN".toList "edgenext_cdn".toList)).result.1.isOk = true by
      decide +kernel)
  refine ⟨documents, h, (generate_confined_iff h).mpr ?_⟩
  intro listed hl product hm kind name hn _
  have parsed : Listing.parse "edgenext".toList
      (oneResource "CDN".toList "edgenext_cdn".toList).listing =
        .ok [⟨"CDN".toList, ["edgenext_cdn".toList], []⟩] := by decide +kernel
  obtain rfl := Except.ok.inj (parsed.symm.trans hl)
  obtain rfl := List.mem_singleton.mp hm
  cases kind with
  | resource =>
    obtain rfl := List.mem_singleton.mp hn
    have whole : (Path.pieces ((oneResource "CDN".toList "edgenext_cdn".toList).shortName
        "edgenext_cdn".toList)).dropLast = [] := by decide +kernel
    refine ⟨by decide +kernel, ?_⟩
    rw [whole]
    exact fun _ hp => absurd hp List.not_mem_nil
  | dataSource => exact absurd hn List.not_mem_nil

/-- The slug of a product of punctuation alone is empty, and the path of its page is absolute. -/
theorem punctuation_not_confined :
    ¬∀ (provider : Provider) (documents : List Document),
      (generate provider).result.1 = .ok documents →
      (∀ document ∈ documents,
        Path.isAbsolute document.path = false ∧ Path.IsConfined document.path) ∧
      ∀ (root : Text) (disk : Disk),
        Disk.AgreesOutside (IsBelow (Disk.place disk.home root)) disk
          ((writeDocuments root documents : StateM Disk Written).run disk).2 := by
  intro claim
  have made : (generate (oneResource "!!!".toList "edgenext_cdn".toList)).result.1.toOption.map
      (fun documents => documents.head?.map Document.path) = some (some "/r/cdn.md".toList) := by
    decide +kernel
  cases h : (generate (oneResource "!!!".toList "edgenext_cdn".toList)).result.1 with
  | error fault =>
    rw [h] at made
    cases made
  | ok documents =>
    rw [h] at made
    obtain ⟨document, hd, path⟩ := Option.map_eq_some_iff.mp (Option.some.inj made)
    have relative := ((claim _ documents h).1 document (List.mem_of_mem_head? hd)).1
    rw [path] at relative
    exact absurd relative (by decide)

end ProviderDocs
