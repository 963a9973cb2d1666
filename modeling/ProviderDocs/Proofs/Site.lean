import Mathlib.Data.List.Forall2
import Mathlib.Data.List.Nodup
import ProviderDocs.Proofs.Report
import ProviderDocs.Site

/-!
# The documents of a provider

What is known of documents that were made: the products are those of the listing without the names
that the provider does not have (`readListing_yields`), each entity is listed by one of them
(`productOf?_eq_some_iff`), and the documents are the pages of the entities, each at the path that
its product gives it, followed by the sidebar and the landing page (`exists_of_generate`).
-/

namespace ProviderDocs

/-! ### Entities of the listing -/

/-- What tells a listed entity from any other. -/
def ListedEntity.key (entry : ListedEntity) : EntityKind × Text :=
  (entry.kind, entry.name)

theorem productOf?_eq_none_iff {entries : List ListedEntity} {kind : EntityKind} {name : Text} :
    productOf? entries kind name = none ↔ (kind, name) ∉ entries.map ListedEntity.key := by
  simp only [productOf?, Option.map_eq_none_iff, List.find?_eq_none, List.mem_map, not_exists,
    not_and, ListedEntity.key, Prod.mk.injEq, Bool.and_eq_true, beq_iff_eq]

theorem mem_of_productOf?_eq_some {entries : List ListedEntity} {kind : EntityKind}
    {name product : Text} (h : productOf? entries kind name = some product) :
    ⟨kind, name, product⟩ ∈ entries := by
  obtain ⟨entry, hf, rfl⟩ := Option.map_eq_some_iff.mp h
  have found := List.find?_some hf
  simp only [Bool.and_eq_true, beq_iff_eq] at found
  obtain ⟨rfl, rfl⟩ := found
  exact List.mem_of_find?_eq_some hf

/-- An entry that lists no entity again is different from those before it. -/
theorem nodup_append_singleton {before : List ListedEntity} {entry : ListedEntity}
    (hb : (before.map ListedEntity.key).Nodup)
    (h : productOf? before entry.kind entry.name = none) :
    ((before ++ [entry]).map ListedEntity.key).Nodup := by
  have fresh : entry.key ∉ before.map ListedEntity.key := productOf?_eq_none_iff.mp h
  rw [List.map_append]
  exact hb.append (List.nodup_singleton _) (by simpa using fresh)

theorem listedTwiceAfter?_eq_none_iff {before entries : List ListedEntity}
    (hb : (before.map ListedEntity.key).Nodup) :
    listedTwiceAfter? before entries = none ↔ ((before ++ entries).map ListedEntity.key).Nodup := by
  -- The entries before are different from each other; the next one has to be different from them.
  induction entries generalizing before with
  | nil => simpa [listedTwiceAfter?] using hb
  | cons entry rest ih =>
    rw [listedTwiceAfter?]
    cases hp : productOf? before entry.kind entry.name with
    | some first =>
      -- The entry stands among those before it, and once more after them.
      refine iff_of_false (by simp) fun h => ?_
      have mem := List.mem_map_of_mem (mem_of_productOf?_eq_some hp) (f := ListedEntity.key)
      rw [List.map_append, List.map_cons] at h
      exact (List.nodup_append.mp h).2.2 _ mem _ List.mem_cons_self rfl
    | none =>
      rw [show before ++ entry :: rest = before ++ [entry] ++ rest by simp]
      exact ih (nodup_append_singleton hb hp)

/-- No entity is listed twice when the entities that are listed are different. -/
theorem listedTwice?_eq_none_iff {entries : List ListedEntity} :
    listedTwice? entries = none ↔ (entries.map ListedEntity.key).Nodup :=
  listedTwiceAfter?_eq_none_iff List.nodup_nil

/-- If no entity is listed twice, the product of an entity is the one that lists it. -/
theorem productOf?_eq_some_iff {entries : List ListedEntity} (h : listedTwice? entries = none)
    {kind : EntityKind} {name product : Text} :
    productOf? entries kind name = some product ↔ ⟨kind, name, product⟩ ∈ entries := by
  refine ⟨mem_of_productOf?_eq_some, fun hm => ?_⟩
  cases hp : productOf? entries kind name with
  | none => exact absurd (List.mem_map_of_mem hm) (productOf?_eq_none_iff.mp hp)
  | some found =>
    -- Two entries for one entity are the same one.
    have same := List.inj_on_of_nodup_map (listedTwice?_eq_none_iff.mp h)
      (mem_of_productOf?_eq_some hp) hm rfl
    cases same
    rfl

theorem mem_listedEntities {products : List Product} {entry : ListedEntity} :
    entry ∈ listedEntities products ↔
      ∃ product ∈ products,
        product.name = entry.product ∧ entry.name ∈ product.names entry.kind := by
  obtain ⟨kind, name, owner⟩ := entry
  simp only [listedEntities, List.mem_flatMap, List.mem_append, List.mem_map]
  cases kind <;> simp [Product.names, and_comm]

theorem names_documented (provider : Provider) (product : Product) (kind : EntityKind) :
    (product.documented provider).names kind =
      (product.names kind).filter (provider.hasEntity kind) := by
  cases kind <;> rfl

theorem Product.isEmpty_eq_false_of_mem {product : Product} {kind : EntityKind} {name : Text}
    (h : name ∈ product.names kind) : product.isEmpty = false := by
  have ne := List.ne_nil_of_mem h
  cases kind <;> simp_all [Product.names, isEmpty]

/-- The entities of documented products are those of the listing that the provider has. -/
theorem mem_listedEntities_documentedProducts {provider : Provider} {listed : List Product}
    {entry : ListedEntity} :
    entry ∈ listedEntities (documentedProducts provider listed) ↔
      ∃ product ∈ listed, product.name = entry.product ∧ entry.name ∈ product.names entry.kind ∧
        provider.hasEntity entry.kind entry.name = true := by
  rw [mem_listedEntities]
  constructor
  · rintro ⟨_, hm, ho, hn⟩
    obtain ⟨product, hp, rfl⟩ := List.mem_map.mp (List.mem_of_mem_filter hm)
    rw [names_documented, List.mem_filter] at hn
    exact ⟨product, hp, ho, hn⟩
  · rintro ⟨product, hp, ho, hn⟩
    -- With this entity in it, the product is not one of those that are left out.
    rw [← List.mem_filter, ← names_documented] at hn
    refine ⟨product.documented provider, List.mem_filter.mpr ⟨List.mem_map_of_mem hp, ?_⟩, ho, hn⟩
    rw [Product.isEmpty_eq_false_of_mem hn]
    rfl

/-! ### Entities of the manifest -/

theorem hasEntity_iff {provider : Provider} {kind : EntityKind} {name : Text} :
    provider.hasEntity kind name = true ↔
      ∃ source ∈ provider.namedSources, source.kind = kind ∧ source.name = name := by
  simp only [Provider.hasEntity, Provider.namedSources, List.any_eq_true, beq_iff_eq,
    List.mem_append, List.mem_map]
  constructor
  · rintro ⟨entry, hm, rfl⟩
    cases kind with
    | resource => exact ⟨⟨.resource, entry.1, entry.2⟩, .inl ⟨entry, hm, rfl⟩, rfl, rfl⟩
    | dataSource => exact ⟨⟨.dataSource, entry.1, entry.2⟩, .inr ⟨entry, hm, rfl⟩, rfl, rfl⟩
  · rintro ⟨_, ⟨entry, hm, rfl⟩ | ⟨entry, hm, rfl⟩, rfl, rfl⟩
    · exact ⟨entry, hm, rfl⟩
    · exact ⟨entry, hm, rfl⟩

/-! ### Documents that were made -/

/-- What stands in the first of two lists that go together has its counterpart in the second. -/
theorem exists_of_forall₂ {α β : Type} {R : α → β → Prop} {items : List α} {others : List β}
    (h : List.Forall₂ R items others) {item : α} (hi : item ∈ items) :
    ∃ other ∈ others, R item other := by
  induction h with
  | nil => exact absurd hi List.not_mem_nil
  | cons head _ ih =>
    rcases List.mem_cons.mp hi with rfl | hi
    · exact ⟨_, List.mem_cons_self, head⟩
    · obtain ⟨other, ho, hr⟩ := ih hi
      exact ⟨other, List.mem_cons_of_mem _ ho, hr⟩

theorem readListing_yields {provider : Provider} {products : List Product}
    (h : (readListing provider).Yields products) :
    ∃ listed, Listing.parse provider.nameSpace provider.listing = .ok listed ∧
      products = documentedProducts provider listed ∧
      listedTwice? (listedEntities products) = none := by
  obtain ⟨listed, hl, h⟩ := Report.yields_bind h
  obtain ⟨_, -, h⟩ := Report.yields_bind h
  refine ⟨listed, Report.yields_ofExcept hl, ?_⟩
  dsimp only at h
  split at h
  · exact absurd h Report.not_yields_throw
  · rw [Report.yields_pure h]
    exact ⟨rfl, ‹_›⟩

theorem Entity.path_of_document_yields {provider : Provider} {entity : Entity} {document : Document}
    (h : (entity.document provider).Yields document) :
    document.path = documentPath provider entity.product entity.kind entity.name := by
  obtain ⟨page, -, h⟩ := Report.yields_bind h
  rw [Report.yields_pure h]

/-- A document is the page of an entity of the manifest, below the product that lists it. -/
def IsPageOf (provider : Provider) (entries : List ListedEntity) (source : NamedSource)
    (document : Document) : Prop :=
  ∃ entity, source.entity? entries = some entity ∧ (entity.document provider).Yields document

theorem IsPageOf.exists_path {provider : Provider} {entries : List ListedEntity}
    {source : NamedSource} {document : Document} (h : IsPageOf provider entries source document) :
    ∃ product, productOf? entries source.kind source.name = some product ∧
      document.path = documentPath provider product source.kind source.name := by
  obtain ⟨entity, he, hd⟩ := h
  obtain ⟨product, hp, rfl⟩ := Option.map_eq_some_iff.mp he
  have path := Entity.path_of_document_yields hd
  exact ⟨product, hp, path⟩

/-- There is one page for each entity, in the same order. -/
theorem forall₂_entityDocuments {provider : Provider} {entries : List ListedEntity}
    {sources : List NamedSource} {documents : List Document}
    (h : (entityDocuments provider entries sources).Yields documents) :
    List.Forall₂ (IsPageOf provider entries) sources documents := by
  induction sources generalizing documents with
  | nil =>
    rw [entityDocuments] at h
    rw [Report.yields_pure h]
    exact .nil
  | cons source rest ih =>
    rw [entityDocuments] at h
    split at h
    · exact absurd h Report.not_yields_throw
    · rename_i entity he
      obtain ⟨document, hd, h⟩ := Report.yields_bind h
      obtain ⟨documents, hr, h⟩ := Report.yields_bind h
      rw [Report.yields_pure h]
      exact .cons ⟨entity, he, hd⟩ (ih hr)

/-- The documents that were made are one page for each entity of the manifest, the sidebar and the
landing page. -/
theorem exists_of_generate {provider : Provider} {documents : List Document}
    (h : (generate provider).result.1 = .ok documents) :
    ∃ products pages landing, (readListing provider).Yields products ∧
      List.Forall₂ (IsPageOf provider (listedEntities products)) provider.namedSources pages ∧
      (landingPage provider products).Yields landing ∧
      documents = pages ++ [⟨sidebarPath, sidebar provider products⟩, ⟨landingPath, landing⟩] := by
  have h := Report.yields_of_result h
  rw [generate] at h
  obtain ⟨products, hp, h⟩ := Report.yields_bind h
  obtain ⟨pages, hd, h⟩ := Report.yields_bind h
  obtain ⟨landing, hl, h⟩ := Report.yields_bind h
  exact ⟨products, pages, landing, hp, forall₂_entityDocuments hd, hl, Report.yields_pure h⟩

end ProviderDocs
