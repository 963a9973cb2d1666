import Mathlib.Data.List.Perm.Basic
import ProviderDocs.Proofs.Site

/-!
# What is taken from a listing

Of the entities of a listing those are taken that the provider has
(`listedEntities_documentedProducts`), and a product of which nothing is taken is left out
(`map_name_documentedProducts`).  There is one warning for each entity that is dropped
(`unknownNames_perm`).  The listing ends in a fault if it cannot be read, or if an entity that is
taken is listed again (`readListing_eq_error_iff`).
-/

namespace ProviderDocs

variable {provider : Provider}

/-! ### Known and unknown names -/

/-- The entities of a listing that a provider has. -/
def Provider.known (provider : Provider) (listed : List Product) : List ListedEntity :=
  (listedEntities listed).filter fun entry => provider.hasEntity entry.kind entry.name

/-- The entities of a listing that a provider does not have. -/
def Provider.dropped (provider : Provider) (listed : List Product) : List ListedEntity :=
  (listedEntities listed).filter fun entry => !provider.hasEntity entry.kind entry.name

/-- Whether a product has names that a provider has. -/
def Provider.keeps (provider : Provider) (product : Product) : Bool :=
  !(provider.known [product]).isEmpty

theorem listedEntities_cons (product : Product) (rest : List Product) :
    listedEntities (product :: rest) = listedEntities [product] ++ listedEntities rest := by
  simp [listedEntities]

/-- The names of a product that are documented are those that the provider has. -/
theorem listedEntities_documented (provider : Provider) (product : Product) :
    listedEntities [product.documented provider] = provider.known [product] := by
  simp only [Provider.known, listedEntities, Product.documented, List.flatMap_cons,
    List.flatMap_nil, List.append_nil, List.filter_append, List.filter_map]
  rfl

theorem isEmpty_listedEntities (product : Product) :
    (listedEntities [product]).isEmpty = product.isEmpty := by
  rw [Bool.eq_iff_iff]
  simp [listedEntities, Product.isEmpty]

theorem keeps_eq (provider : Provider) (product : Product) :
    provider.keeps product = !(product.documented provider).isEmpty := by
  rw [Provider.keeps, ← listedEntities_documented, isEmpty_listedEntities]

/-- A product that is left out has no names to list. -/
theorem listedEntities_documentedProducts (provider : Provider) (listed : List Product) :
    listedEntities (documentedProducts provider listed) = provider.known listed := by
  induction listed with
  | nil => rfl
  | cons product rest ih =>
    have parts : provider.known (product :: rest) =
        listedEntities [product.documented provider] ++ provider.known rest := by
      rw [listedEntities_documented, Provider.known, listedEntities_cons, List.filter_append]
      rfl
    rw [parts, ← ih, documentedProducts, List.map_cons, List.filter_cons]
    split_ifs with hk
    · exact listedEntities_cons _ _
    · have none : listedEntities [product.documented provider] = [] := by
        rw [← List.isEmpty_iff, isEmpty_listedEntities]
        simpa using hk
      rw [none]
      rfl

/-- The documented products are those that keep some of their names. -/
theorem map_name_documentedProducts (provider : Provider) (listed : List Product) :
    (documentedProducts provider listed).map Product.name =
      (listed.filter provider.keeps).map Product.name := by
  have kept : provider.keeps = (fun product : Product => !product.isEmpty) ∘
      Product.documented provider :=
    funext (keeps_eq provider)
  rw [documentedProducts, List.filter_map, List.map_map, kept]
  rfl

/-- There is one unknown name for each entity that is dropped. -/
theorem unknownNames_perm (provider : Provider) (listed : List Product) :
    (listed.flatMap (Product.unknownNames provider)).Perm
      ((provider.dropped listed).map ListedEntity.name) := by
  rw [Provider.dropped, listedEntities, List.filter_flatMap, List.map_flatMap]
  apply List.Perm.flatMap_left
  intro product _
  simp only [Product.unknownNames, kindOrder, List.flatMap_cons, List.flatMap_nil, List.append_nil,
    Product.names, List.filter_append, List.filter_map, List.map_append, List.map_map,
    Function.comp_def, List.map_id']
  exact List.perm_append_comm

/-! ### The first repetition -/

/-- An entry lists an entity again that another entry lists before it; all entries up to it list
different entities. -/
inductive ListsAgain (entries : List ListedEntity) (first second : ListedEntity) : Prop
  | intro {before after : List ListedEntity} (split : entries = before ++ second :: after)
    (once : (before.map ListedEntity.key).Nodup) (mem : first ∈ before)
    (same : first.key = second.key)

/-- The fault of an entity that is listed by two entries. -/
def ListedEntity.again (first second : ListedEntity) : Fault :=
  .listedTwice second.kind second.name first.product second.product

theorem listedTwiceAfter?_append {before entries : List ListedEntity}
    (h : ((before ++ entries).map ListedEntity.key).Nodup) (rest : List ListedEntity) :
    listedTwiceAfter? before (entries ++ rest) = listedTwiceAfter? (before ++ entries) rest := by
  induction entries generalizing before with
  | nil => rw [List.nil_append, List.append_nil]
  | cons entry entries ih =>
    have fresh : productOf? before entry.kind entry.name = none := by
      rw [productOf?_eq_none_iff]
      intro hm
      rw [List.map_append, List.map_cons] at h
      exact (List.nodup_append.mp h).2.2 _ hm _ List.mem_cons_self rfl
    rw [show before ++ entry :: entries = before ++ [entry] ++ entries by simp] at h ⊢
    rw [List.cons_append, listedTwiceAfter?, fresh]
    exact ih h

theorem exists_listsAgain_of_listedTwiceAfter? {before entries : List ListedEntity} {fault : Fault}
    (hb : (before.map ListedEntity.key).Nodup)
    (h : listedTwiceAfter? before entries = some fault) :
    ∃ first second, ListsAgain (before ++ entries) first second ∧ fault = first.again second := by
  induction entries generalizing before with
  | nil => cases h
  | cons entry rest ih =>
    rw [listedTwiceAfter?] at h
    cases hp : productOf? before entry.kind entry.name with
    | some product =>
      rw [hp] at h
      cases h
      have mem : ⟨entry.kind, entry.name, product⟩ ∈ before := mem_of_productOf?_eq_some hp
      exact ⟨_, entry, ⟨rfl, hb, mem, rfl⟩, rfl⟩
    | none =>
      rw [hp] at h
      rw [show before ++ entry :: rest = before ++ [entry] ++ rest by simp]
      exact ih (nodup_append_singleton hb hp) h

/-- The fault of a listing is that of the first entry that lists an entity again. -/
theorem listedTwice?_eq_some_iff {entries : List ListedEntity} {fault : Fault} :
    listedTwice? entries = some fault ↔
      ∃ first second, ListsAgain entries first second ∧ fault = first.again second := by
  constructor
  · exact exists_listsAgain_of_listedTwiceAfter? List.nodup_nil
  · rintro ⟨first, second, @⟨before, after, rfl, once, mem, same⟩, rfl⟩
    have found : productOf? before first.kind first.name = some first.product :=
      (productOf?_eq_some_iff (listedTwice?_eq_none_iff.mpr once)).mpr mem
    obtain ⟨kind, name⟩ := Prod.mk.inj same
    rw [kind, name] at found
    have upTo : listedTwiceAfter? [] (before ++ second :: after) =
        listedTwiceAfter? before (second :: after) :=
      listedTwiceAfter?_append (show (([] ++ before).map ListedEntity.key).Nodup from once) _
    rw [listedTwice?, upTo, listedTwiceAfter?, found]
    rfl

/-! ### The listing -/

theorem comesTo_readListing_of_error {fault : Fault}
    (h : Listing.parse provider.nameSpace provider.listing = .error fault) :
    (readListing provider).ComesTo (.error fault) [] := by
  rw [readListing, h]
  exact (Report.ComesTo.ofExcept _).bind_error

/-- A listing that can be read gives a warning for each unknown name. -/
theorem comesTo_readListing {listed : List Product}
    (h : Listing.parse provider.nameSpace provider.listing = .ok listed) :
    (readListing provider).ComesTo
      (match listedTwice? (provider.known listed) with
        | some fault => .error fault
        | none => .ok (documentedProducts provider listed))
      ((listed.flatMap (Product.unknownNames provider)).map .unknownListing) := by
  have warned : Report.ComesTo
      (forM ((listed.flatMap (Product.unknownNames provider)).map .unknownListing) warn) (.ok ())
      ((listed.flatMap (Product.unknownNames provider)).map .unknownListing) :=
    .forM_warn _
  rw [List.forM_map] at warned
  rw [readListing, h]
  refine (Report.ComesTo.ofExcept _).bind ?_
  rw [← List.append_nil (List.map _ _)]
  refine warned.bind ?_
  dsimp only
  rw [listedEntities_documentedProducts]
  cases listedTwice? (provider.known listed) with
  | some fault => exact .throw fault
  | none => exact .pure _

theorem readListing_eq_ok_iff {products : List Product} :
    (readListing provider).result.1 = .ok products ↔
      ∃ listed, Listing.parse provider.nameSpace provider.listing = .ok listed ∧
        ((provider.known listed).map ListedEntity.key).Nodup ∧
        products = documentedProducts provider listed := by
  cases parsed : Listing.parse provider.nameSpace provider.listing with
  | error fault => simp [(comesTo_readListing_of_error parsed).result_eq]
  | ok listed =>
    rw [(comesTo_readListing parsed).result_eq]
    simp only [Except.ok.injEq, exists_eq_left', ← listedTwice?_eq_none_iff]
    cases listedTwice? (provider.known listed) <;> simp [eq_comm]

theorem readListing_eq_error_iff {fault : Fault} :
    (readListing provider).result.1 = .error fault ↔
      Listing.parse provider.nameSpace provider.listing = .error fault ∨
        ∃ listed, Listing.parse provider.nameSpace provider.listing = .ok listed ∧
          ∃ first second, ListsAgain (provider.known listed) first second ∧
            fault = first.again second := by
  cases parsed : Listing.parse provider.nameSpace provider.listing with
  | error fault => simp [(comesTo_readListing_of_error parsed).result_eq]
  | ok listed =>
    rw [(comesTo_readListing parsed).result_eq]
    simp only [reduceCtorEq, false_or, Except.ok.injEq, exists_eq_left', ← listedTwice?_eq_some_iff]
    cases listedTwice? (provider.known listed) <;> simp

theorem collects_readListing : (readListing provider).Collects fun _ => True := by
  cases parsed : Listing.parse provider.nameSpace provider.listing with
  | error fault => exact ⟨_, _, comesTo_readListing_of_error parsed, fun _ _ => trivial⟩
  | ok listed => exact ⟨_, _, comesTo_readListing parsed, fun _ _ => trivial⟩

end ProviderDocs
