import ProviderDocs.Listing
import ProviderDocs.Proofs.Text.Lines

/-!
# The names in a listing

Every product and every entity that is read off a listing is named by what stands on one of its
lines (`exists_line_of_parse`), and the name of an entity begins with the prefix that tells it from
a product (`isPrefix_of_parse`).  Both are cases of one law: what the lines name is filed as it is
(`forall_parse`).
-/

namespace ProviderDocs.Listing

/-- The name of a product and the names of its entities satisfy `P`. -/
def NamesSatisfy (P : Text → Prop) (product : Product) : Prop :=
  P product.name ∧ ∀ kind, ∀ name ∈ product.names kind, P name

/-- The name of a product satisfies `P`, and those of its entities satisfy `Q`. -/
def Files (P Q : Text → Prop) (product : Product) : Prop :=
  P product.name ∧ ∀ kind, ∀ name ∈ product.names kind, Q name

variable {P Q : Text → Prop}

theorem NamesSatisfy.imp {R : Text → Prop} {product : Product} (h : NamesSatisfy P product)
    (hpr : ∀ name, P name → R name) : NamesSatisfy R product :=
  ⟨hpr _ h.1, fun kind name hn => hpr _ (h.2 kind name hn)⟩

theorem Files.add {product : Product} (h : Files P Q product) {name : Text} (hn : Q name)
    (kind : EntityKind) : Files P Q (product.add kind name) := by
  obtain ⟨hp, he⟩ := h
  refine ⟨by cases kind <;> exact hp, fun other entity hm => ?_⟩
  have : entity ∈ product.names other ∨ entity = name := by
    cases kind <;> cases other <;>
      simp_all [Product.add, Product.names]
  rcases this with hm | rfl
  · exact he other entity hm
  · exact hn

/-- The products read so far are those before the last line, with what that line names. -/
theorem State.forall_next {state next : State} {number : Nat} {line : LineClass}
    (h : ∀ product ∈ state.products, Files P Q product)
    (hp : ∀ name, line = .product name → P name) (he : ∀ name, line = .entity name → Q name)
    (hn : state.next number line = .ok next) :
    ∀ product ∈ next.products, Files P Q product := by
  obtain ⟨complete, last⟩ := state
  -- Only an entity changes the last product, and only a product adds one.
  cases line with
  | blank =>
    cases hn
    exact h
  | header kind =>
    cases last with
    | none => cases hn
    | some last =>
      cases hn
      simpa [products] using h
  | entity name =>
    match last, hn with
    | some ⟨product, some kind⟩, hn =>
      cases hn
      simp only [products, List.mem_append, Option.map_some, Option.toList_some,
        List.mem_singleton] at h ⊢
      rintro other (ho | rfl)
      · exact h other (.inl ho)
      · exact (h product (.inr rfl)).add (he name rfl) kind
  | product name =>
    cases hn
    intro other ho
    rcases List.mem_append.mp ho with ho | ho
    · exact h other ho
    · obtain rfl : other = { name } := by simpa using ho
      exact ⟨hp name rfl, fun kind entity hm => by cases kind <;> cases hm⟩

/-- What a line names is what stands on it. -/
theorem trim_eq_of_classifyLine {namePrefix line name : Text}
    (h : classifyLine namePrefix line = .entity name ∨
      classifyLine namePrefix line = .product name) :
    Text.trim line = name := by
  unfold classifyLine at h
  dsimp only at h
  split_ifs at h <;> simp_all

/-- Only what begins with the prefix is an entity. -/
theorem isPrefix_of_classifyLine {namePrefix line name : Text}
    (h : classifyLine namePrefix line = .entity name) : namePrefix <+: name := by
  unfold classifyLine at h
  dsimp only at h
  split_ifs at h with _ _ _ hp
  cases h
  exact List.isPrefixOf_iff_prefix.mp hp

theorem forall_parseFrom {namePrefix : Text} {state after : State} {number : Nat}
    {lines : List Text} (h : ∀ product ∈ state.products, Files P Q product)
    (hp : ∀ line ∈ lines, ∀ name, classifyLine namePrefix line = .product name → P name)
    (he : ∀ line ∈ lines, ∀ name, classifyLine namePrefix line = .entity name → Q name)
    (hr : parseFrom namePrefix state number lines = .ok after) :
    ∀ product ∈ after.products, Files P Q product := by
  induction lines generalizing state number with
  | nil =>
    cases hr
    exact h
  | cons line rest ih =>
    rw [parseFrom] at hr
    cases hn : state.next number (classifyLine namePrefix line) with
    | error fault =>
      rw [hn] at hr
      cases hr
    | ok next =>
      rw [hn] at hr
      have first : ∀ product ∈ next.products, Files P Q product :=
        State.forall_next h (hp line List.mem_cons_self) (he line List.mem_cons_self) hn
      exact ih first (fun other ho => hp other (List.mem_cons_of_mem _ ho))
        (fun other ho => he other (List.mem_cons_of_mem _ ho)) hr

/-- What holds of the names on the lines of a listing holds of the products that are read off it. -/
theorem forall_parse {nameSpace listing : Text} {products : List Product}
    (h : parse nameSpace listing = .ok products)
    (hp : ∀ line ∈ Text.splitLines listing, ∀ name,
      classifyLine (nameSpace ++ ['_']) line = .product name → P name)
    (he : ∀ line ∈ Text.splitLines listing, ∀ name,
      classifyLine (nameSpace ++ ['_']) line = .entity name → Q name) :
    ∀ product ∈ products, Files P Q product := by
  unfold parse at h
  cases hr : parseFrom (nameSpace ++ ['_']) {} 1 (Text.splitLines listing) with
  | error fault =>
    rw [hr] at h
    cases h
  | ok state =>
    rw [hr] at h
    cases h
    exact forall_parseFrom (fun _ hm => by cases hm) hp he hr

/-- Whatever is named by a listing is what stands on one of its lines. -/
theorem exists_line_of_parse {nameSpace listing : Text} {products : List Product}
    (h : parse nameSpace listing = .ok products) :
    ∀ product ∈ products,
      NamesSatisfy (fun name => ∃ line ∈ Text.splitLines listing, Text.trim line = name)
        product := by
  let named (name : Text) : Prop := ∃ line ∈ Text.splitLines listing, Text.trim line = name
  have files : ∀ product ∈ products, Files named named product :=
    forall_parse h (fun line hl _ hc => ⟨line, hl, trim_eq_of_classifyLine (.inr hc)⟩)
      fun line hl _ hc => ⟨line, hl, trim_eq_of_classifyLine (.inl hc)⟩
  exact files

/-- The entities of a listing have names with the prefix. -/
theorem isPrefix_of_parse {nameSpace listing : Text} {products : List Product}
    (h : parse nameSpace listing = .ok products) {product : Product} (hm : product ∈ products)
    {kind : EntityKind} {name : Text} (hn : name ∈ product.names kind) :
    nameSpace ++ ['_'] <+: name := by
  have files : Files (fun _ => True) (nameSpace ++ ['_'] <+: ·) product :=
    forall_parse h (fun _ _ _ _ => trivial) (fun _ _ _ hc => isPrefix_of_classifyLine hc) product hm
  exact files.2 kind name hn

/-- Nothing that is named by a listing goes over a line. -/
theorem newline_notMem_of_parse {nameSpace listing : Text} {products : List Product}
    (h : parse nameSpace listing = .ok products) :
    ∀ product ∈ products, NamesSatisfy ('\n' ∉ ·) product := by
  intro product hp
  refine (exists_line_of_parse h product hp).imp fun name ⟨line, hl, hn⟩ => ?_
  rw [← hn]
  exact fun hm => Text.notMem_of_mem_splitOn hl (Text.trim_subset line hm)

end ProviderDocs.Listing
