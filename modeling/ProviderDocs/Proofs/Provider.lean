import ProviderDocs.Proofs.Storage.Path
import ProviderDocs.Provider

/-!
# Slugs and paths of pages

A slug holds nothing but alphanumeric characters and hyphens (`notMem_slug`), and the path of a page
is made of it, the directory of the kind and what is left of the name of the entity
(`pieces_documentPath`).  So the path tells a resource from a data source
(`kind_eq_of_documentPath_eq`), and two names with the prefix of the provider from each other
(`name_eq_of_documentPath_eq`), whatever the slugs are.
-/

namespace ProviderDocs

/-! ### Slugs -/

theorem isAlphanumeric_or_eq_of_mem_slug {c : Char} {heading : Text} (h : c ∈ slug heading) :
    isAlphanumeric c = true ∨ c = '-' := by
  obtain ⟨d, hd, rfl⟩ := List.mem_map.mp h
  have kept := (List.mem_filter.mp hd).2
  simp only [Bool.or_eq_true, beq_iff_eq] at kept
  split_ifs with hs
  · exact .inr rfl
  · tauto

/-- No slug holds any other character below the letters beyond ASCII. -/
theorem notMem_slug {c : Char} (hc : c.toNat < 0xAA)
    (h : c.isAlphanum = false ∧ c ≠ '-') (heading : Text) : c ∉ slug heading := by
  intro hm
  rcases isAlphanumeric_or_eq_of_mem_slug hm with ha | ha
  · rw [isAlphanumeric_eq_isAlphanum hc, h.1] at ha
    exact absurd ha (by decide)
  · exact h.2 ha

/-- A slug is a single piece of a path. -/
theorem pieces_slug (heading : Text) : Path.pieces (slug heading) = [slug heading] :=
  Text.splitOn_eq_singleton (notMem_slug (by decide) (by decide) heading)

/-- A slug that is not empty is a name, since it holds no dots. -/
theorem isName_slug_iff {heading : Text} : Path.IsName (slug heading) ↔ slug heading ≠ [] := by
  have dot : '.' ∉ slug heading := notMem_slug (by decide) (by decide) heading
  refine ⟨fun h => h.1, fun h => ⟨h, ?_, ?_⟩⟩
  · intro he
    exact dot (he ▸ List.mem_cons_self)
  · intro he
    exact dot (he ▸ List.mem_cons_self)

/-! ### Names of entities -/

/-- What is left of a name stood in it. -/
theorem Provider.shortName_subset (provider : Provider) (name : Text) :
    provider.shortName name ⊆ name := by
  unfold shortName
  cases h : List.isPrefixOf? (provider.nameSpace ++ ['_']) name with
  | none => exact List.Subset.refl _
  | some rest =>
    conv_rhs => rw [← List.append_eq_of_isPrefixOf?_eq_some h]
    exact List.subset_append_right _ _

/-- Nothing but the prefix is taken from a name that begins with it. -/
theorem Provider.append_shortName {provider : Provider} {name : Text}
    (h : provider.nameSpace ++ ['_'] <+: name) :
    provider.nameSpace ++ ['_'] ++ provider.shortName name = name := by
  obtain ⟨rest, rfl⟩ := h
  rw [shortName, List.isPrefixOf?_eq_some_iff_append_eq.mpr rfl]
  rfl

/-! ### Paths of pages -/

theorem documentPath_eq (provider : Provider) (product : Text) (kind : EntityKind) (name : Text) :
    documentPath provider product kind name = slug product ++ '/' :: (kind.directory ++ '/' ::
      (provider.shortName name ++ ".md".toList)) := by
  simp [documentPath]

/-- A path of a page has a piece for the product, one for the kind and those of the name. -/
theorem pieces_documentPath (provider : Provider) (product : Text) (kind : EntityKind)
    (name : Text) :
    Path.pieces (documentPath provider product kind name) = slug product :: kind.directory ::
      Path.pieces (provider.shortName name ++ ".md".toList) := by
  rw [documentPath_eq, Path.pieces_append_slash, Path.pieces_append_slash, pieces_slug]
  cases kind <;> rfl

/-- The path of a page tells a resource from a data source. -/
theorem kind_eq_of_documentPath_eq {provider : Provider} {product product' name name' : Text}
    {kind kind' : EntityKind}
    (h : documentPath provider product kind name = documentPath provider product' kind' name') :
    kind = kind' := by
  have pieces := congrArg Path.pieces h
  rw [pieces_documentPath, pieces_documentPath] at pieces
  have directory := (List.cons.inj (List.cons.inj pieces).2).1
  cases kind <;> cases kind' <;> first | rfl | exact absurd directory (by decide)

/-- The path of a page tells the names of two listed entities apart. -/
theorem name_eq_of_documentPath_eq {provider : Provider} {product product' name name' : Text}
    {kind kind' : EntityKind} (hn : provider.nameSpace ++ ['_'] <+: name)
    (hn' : provider.nameSpace ++ ['_'] <+: name')
    (h : documentPath provider product kind name = documentPath provider product' kind' name') :
    name = name' := by
  have pieces := congrArg Path.pieces h
  rw [pieces_documentPath, pieces_documentPath] at pieces
  -- Neither the slug nor the kind holds a slash, so that what follows the second one is the same.
  have file : provider.shortName name ++ ".md".toList =
      provider.shortName name' ++ ".md".toList := by
    have := congrArg (['/'].intercalate) (List.cons.inj (List.cons.inj pieces).2).2
    rwa [Path.pieces, Path.pieces, Text.intercalate_splitOn, Text.intercalate_splitOn] at this
  have short : provider.shortName name = provider.shortName name' := List.append_cancel_right file
  rw [← Provider.append_shortName hn, ← Provider.append_shortName hn', short]

/-- The path of a page holds a slash. -/
theorem slash_mem_documentPath (provider : Provider) (product : Text) (kind : EntityKind)
    (name : Text) : '/' ∈ documentPath provider product kind name := by
  simp [documentPath_eq]

theorem newline_notMem_documentPath {name : Text} (h : '\n' ∉ name) (provider : Provider)
    (product : Text) (kind : EntityKind) : '\n' ∉ documentPath provider product kind name := by
  have inSlug : '\n' ∉ slug product := notMem_slug (by decide) (by decide) product
  have inName : '\n' ∉ provider.shortName name := fun hm => h (provider.shortName_subset name hm)
  rw [documentPath_eq]
  cases kind <;> simp [inSlug, inName, EntityKind.directory]

/-! ### Links -/

theorem length_documentPath (provider : Provider) (product : Text) (kind : EntityKind)
    (name : Text) : (documentPath provider product kind name).length =
      (slug product).length + (provider.shortName name).length + 6 := by
  rw [documentPath_eq]
  cases kind <;> simp [EntityKind.directory] <;> omega

/-- The short name of a longer name is longer by as much. -/
theorem Provider.shortName_append {provider : Provider} {name : Text}
    (h : provider.nameSpace ++ ['_'] <+: name) (rest : Text) :
    provider.shortName (name ++ rest) = provider.shortName name ++ rest := by
  have whole : provider.nameSpace ++ ['_'] <+: name ++ rest := h.trans (List.prefix_append _ _)
  have same : provider.nameSpace ++ ['_'] ++ provider.shortName (name ++ rest) =
      provider.nameSpace ++ ['_'] ++ (provider.shortName name ++ rest) := by
    rw [append_shortName whole, ← List.append_assoc, append_shortName h]
  exact List.append_cancel_left same

/-- No link is that of a longer name: what follows the shorter name would have to stand in the slug
of its product. -/
theorem eq_nil_of_linkItem_eq {provider : Provider} {product product' name rest : Text}
    {kind kind' : EntityKind} (hn : provider.nameSpace ++ ['_'] <+: name)
    (h : linkItem name (documentPath provider product kind name) =
      linkItem (name ++ rest) (documentPath provider product' kind' (name ++ rest))) :
    rest = [] := by
  have after : "](".toList ++ documentPath provider product kind name ++ [')'] =
      rest ++ "](".toList ++ documentPath provider product' kind' (name ++ rest) ++ [')'] := by
    simpa [linkItem] using h
  match rest with
  | [] => rfl
  | [c] => simp at after
  | c :: d :: x =>
    obtain ⟨-, -, same⟩ : ']' = c ∧ '(' = d ∧
        documentPath provider product kind name ++ [')'] =
          x ++ ']' :: '(' ::
            (documentPath provider product' kind' (name ++ c :: d :: x) ++ [')']) := by
      simpa using after
    have short : x.length < (slug product).length := by
      have lengths := congrArg List.length same
      simp [length_documentPath, Provider.shortName_append hn] at lengths
      omega
    -- The bracket behind the longer name stands within the slug, which holds none.
    have bracket : (slug product)[x.length]? = some ']' := by
      have there := congrArg (·[x.length]?) same
      rw [documentPath_eq] at there
      simpa [List.getElem?_append_left short] using there
    exact absurd (List.mem_of_getElem? bracket) (notMem_slug (by decide) (by decide) product)

/-- A link tells two listed entities apart. -/
theorem eq_of_linkItem_eq {provider : Provider} {product product' name name' : Text}
    {kind kind' : EntityKind} (hn : provider.nameSpace ++ ['_'] <+: name)
    (hn' : provider.nameSpace ++ ['_'] <+: name')
    (h : linkItem name (documentPath provider product kind name) =
      linkItem name' (documentPath provider product' kind' name')) :
    kind = kind' ∧ name = name' := by
  have texts : name ++ ("](".toList ++ documentPath provider product kind name ++ [')']) =
      name' ++ ("](".toList ++ documentPath provider product' kind' name' ++ [')']) := by
    simpa [linkItem] using h
  have names : name = name' := by
    rcases List.append_eq_append_iff.mp texts with ⟨rest, rfl, -⟩ | ⟨rest, rfl, -⟩
    · rw [eq_nil_of_linkItem_eq hn h, List.append_nil]
    · rw [eq_nil_of_linkItem_eq hn' h.symm, List.append_nil]
  subst names
  have paths := List.append_cancel_left (List.append_cancel_right (List.append_cancel_left texts))
  exact ⟨kind_eq_of_documentPath_eq paths, rfl⟩

end ProviderDocs
