import ProviderDocs.Proofs.Listing.Layout
import ProviderDocs.Proofs.Text.Lines

/-!
# The listing of products that were read

Products can be listed again: the name of each on a line, below it a header and the data sources, if
there are any, and then a header and the resources (`Product.listingLines`).  What reading a listing
gives can be listed in this way and is read again as it was, also with white space around the lines
and with blank lines between them (`parse_listingLines`).

* `relistable_of_parse`: every name that was read off a line is what it was taken for when it stands
  alone on a line;
* `lines_partOf`, `product_partOf`: the lines of such a product are the part of a listing that is
  read as the product;
* `parseFrom_of_spaced`: white space and blank lines change nothing but the numbers of lines.
-/

namespace ProviderDocs

/-- The header of one kind and the entities below it, unless there are none. -/
def headedLines (kind : EntityKind) (names : List Text) : List Text :=
  if names = [] then [] else kind.header :: names

/-- The lines that list a product with its data sources and its resources. -/
def Product.listingLines (product : Product) : List Text :=
  product.name :: (headedLines .dataSource product.dataSources ++
    headedLines .resource product.resources)

namespace Listing

variable {nameSpace : Text}

/-- Lines with white space around them, and with blank lines between them. -/
inductive Spaced : List Text → List Text → Prop where
  | nil : Spaced [] []
  | blank {blank : Text} {lines spaced : List Text} (hb : Text.isBlank blank = true)
    (hn : '\n' ∉ blank) (rest : Spaced lines spaced) : Spaced lines (blank :: spaced)
  | line (before after line : Text) {lines spaced : List Text}
    (hb : ∀ c ∈ before, isSpace c = true ∧ c ≠ '\n')
    (ha : ∀ c ∈ after, isSpace c = true ∧ c ≠ '\n') (rest : Spaced lines spaced) :
    Spaced (line :: lines) ((before ++ line ++ after) :: spaced)

/-- A line may stand as it is. -/
theorem Spaced.cons (line : Text) {lines spaced : List Text} (rest : Spaced lines spaced) :
    Spaced (line :: lines) (line :: spaced) := by
  have around := Spaced.line [] [] line (by simp) (by simp) rest
  rwa [List.nil_append, List.append_nil] at around

theorem Spaced.refl (lines : List Text) : Spaced lines lines := by
  induction lines with
  | nil => exact .nil
  | cons line lines ih => exact ih.cons line

/-! ### White space -/

theorem next_ok_of_next_ok {state next : State} {number : Nat} {c : LineClass}
    (h : state.next number c = .ok next) (other : Nat) : state.next other c = .ok next := by
  obtain ⟨complete, last⟩ := state
  cases c with
  | blank => exact h
  | header kind =>
    cases last with
    | none => cases h
    | some last => exact h
  | entity name =>
    match last, h with
    | some ⟨product, some kind⟩, h => exact h
  | product name => exact h

/-- White space around lines, and blank lines between them, change no more than the numbers. -/
theorem parseFrom_of_spaced {lines spaced : List Text} (h : Spaced lines spaced)
    {state after : State} {number : Nat}
    (hr : parseFrom (nameSpace ++ ['_']) state number lines = .ok after) (other : Nat) :
    parseFrom (nameSpace ++ ['_']) state other spaced = .ok after := by
  induction h generalizing state number other with
  | nil => exact hr
  | blank hb _ _ ih =>
    rw [parseFrom, classifyLine_of_isBlank hb]
    exact ih hr (other + 1)
  | line before after line hb ha _ ih =>
    have same : classifyLine (nameSpace ++ ['_']) (before ++ line ++ after) =
        classifyLine (nameSpace ++ ['_']) line := by
      rw [classifyLine, Text.trim_append_right _ fun c hc => (ha c hc).1,
        Text.trim_append_left _ fun c hc => (hb c hc).1]
      rfl
    rw [parseFrom] at hr
    obtain ⟨next, hn, hr⟩ := bind_eq_ok_iff.mp hr
    rw [parseFrom, same, next_ok_of_next_ok hn other]
    exact ih hr (other + 1)

theorem Spaced.newline_notMem {lines spaced : List Text} (h : Spaced lines spaced)
    (hl : ∀ line ∈ lines, '\n' ∉ line) : ∀ line ∈ spaced, '\n' ∉ line := by
  induction h with
  | nil => exact hl
  | blank _ hn _ ih => exact List.forall_mem_cons.mpr ⟨hn, ih hl⟩
  | line before after line hb ha _ ih =>
    obtain ⟨first, later⟩ := List.forall_mem_cons.mp hl
    refine List.forall_mem_cons.mpr ⟨?_, ih later⟩
    rw [List.mem_append, List.mem_append]
    rintro ((hm | hm) | hm)
    · exact (hb _ hm).2 rfl
    · exact first hm
    · exact (ha _ hm).2 rfl

theorem parse_joinLines {lines : List Text} (hl : ∀ line ∈ lines, '\n' ∉ line) {state : State}
    (h : parseFrom (nameSpace ++ ['_']) {} 1 lines = .ok state) :
    parse nameSpace (Text.joinLines lines) = .ok state.products := by
  rcases eq_or_ne lines [] with rfl | hn
  · cases h
    rfl
  · rw [parse, Text.splitLines_joinLines hn hl, h]
    rfl

/-! ### Listing products -/

/-- Each name of a product stands on one line, and it stands for what it is when it stands there
alone. -/
def Relistable (nameSpace : Text) : Product → Prop :=
  Files (fun name => (LineClass.product name).StandsOn nameSpace name ∧ '\n' ∉ name)
    fun name => (LineClass.entity name).StandsOn nameSpace name ∧ '\n' ∉ name

/-- What stands on a line stands there without the white space around it, too. -/
theorem standsOn_trim {line : Text} {c : LineClass} (h : c.StandsOn nameSpace line) :
    c.StandsOn nameSpace (Text.trim line) := by
  rw [← classifyLine_eq_iff] at h ⊢
  rw [← h, classifyLine, classifyLine, Text.trim_eq_self_iff.mpr (Text.trimmed_trim line)]

theorem relistable_of_parse {listing : Text} {products : List Product}
    (h : parse nameSpace listing = .ok products) :
    ∀ product ∈ products, Relistable nameSpace product := by
  have oneLine {line : Text} (hl : line ∈ Text.splitLines listing) : '\n' ∉ Text.trim line :=
    fun hm => Text.notMem_of_mem_splitOn hl (Text.trim_subset line hm)
  refine forall_parse h (fun line hl name hc => ?_) fun line hl name hc => ?_
  · obtain rfl := trim_eq_of_classifyLine (.inr hc)
    exact ⟨standsOn_trim (classifyLine_eq_iff.mp hc), oneLine hl⟩
  · obtain rfl := trim_eq_of_classifyLine (.inl hc)
    exact ⟨standsOn_trim (classifyLine_eq_iff.mp hc), oneLine hl⟩

/-- The section of one kind, unless there are no entities. -/
def headedSections (kind : EntityKind) (names : List Text) : List HeaderLines :=
  if names = [] then [] else [⟨kind, kind.header, names⟩]

/-- The part of a listing that lists a product. -/
def partOf (product : Product) : ProductLines where
  line := product.name
  gap := []
  sections := headedSections .dataSource product.dataSources ++
    headedSections .resource product.resources

theorem flatMap_headedSections (kind : EntityKind) (names : List Text) :
    (headedSections kind names).flatMap HeaderLines.lines = headedLines kind names := by
  unfold headedSections headedLines
  split_ifs
  · rfl
  · simp [HeaderLines.lines]

theorem lines_partOf (product : Product) : (partOf product).lines = product.listingLines := by
  rw [ProductLines.lines, partOf, List.nil_append, List.flatMap_append, flatMap_headedSections,
    flatMap_headedSections]
  rfl

theorem header_standsOn (kind : EntityKind) :
    (LineClass.header kind).StandsOn nameSpace kind.header := by
  have trimmed : Text.trim kind.header = kind.header := by cases kind <;> decide
  exact trimmed

theorem wellFormed_headedSections {kind : EntityKind} {names : List Text}
    (h : ∀ name ∈ names, (LineClass.entity name).StandsOn nameSpace name) :
    ∀ s ∈ headedSections kind names, s.WellFormed nameSpace := by
  intro s hs
  unfold headedSections at hs
  split_ifs at hs
  · exact absurd hs List.not_mem_nil
  · obtain rfl := List.mem_singleton.mp hs
    exact ⟨header_standsOn kind, fun name hn => .inr ⟨name, h name hn⟩⟩

/-- The entities of a section are those that it was made of. -/
theorem names_section {names : List Text}
    (h : ∀ name ∈ names, (LineClass.entity name).StandsOn nameSpace name) (kind : EntityKind)
    (line : Text) : HeaderLines.names ⟨kind, line, names⟩ = names := by
  have all : names.filter (fun line => !Text.isBlank line) = names :=
    List.filter_eq_self.mpr fun name hn => by simp [isBlank_eq_false_of_entity (h name hn)]
  rw [HeaderLines.names, all]
  exact (List.map_congr_left fun name hn => (h name hn).1).trans (List.map_id names)

theorem names_headedSections {kind : EntityKind} {names : List Text}
    (h : ∀ name ∈ names, (LineClass.entity name).StandsOn nameSpace name) (other : EntityKind) :
    ((headedSections kind names).filter fun s => s.kind == other).flatMap HeaderLines.names =
      if kind = other then names else [] := by
  rw [headedSections]
  rcases eq_or_ne names [] with rfl | hn
  · simp
  · rw [if_neg hn]
    by_cases hk : kind = other
    · simp [hk, names_section h]
    · simp [hk]

theorem product_partOf {product : Product} (h : Relistable nameSpace product) :
    (partOf product).product = product := by
  have resources : ∀ name ∈ product.resources, (LineClass.entity name).StandsOn nameSpace name :=
    fun name hn => (h.2 .resource name hn).1
  have dataSources : ∀ name ∈ product.dataSources,
      (LineClass.entity name).StandsOn nameSpace name :=
    fun name hn => (h.2 .dataSource name hn).1
  have names (kind : EntityKind) : (partOf product).names kind = product.names kind := by
    rw [ProductLines.names, partOf, List.filter_append, List.flatMap_append,
      names_headedSections dataSources, names_headedSections resources]
    cases kind <;> simp [Product.names]
  rw [ProductLines.product, names, names]
  exact congrArg (Product.mk · _ _) h.1.1.1

theorem wellFormed_partOf {product : Product} (h : Relistable nameSpace product) :
    (partOf product).WellFormed nameSpace where
  line := ⟨product.name, h.1.1⟩
  gap := fun _ hl => absurd hl List.not_mem_nil
  sections := List.forall_mem_append.mpr
    ⟨wellFormed_headedSections fun name hn => (h.2 .dataSource name hn).1,
      wellFormed_headedSections fun name hn => (h.2 .resource name hn).1⟩

theorem newline_notMem_listingLines {product : Product} (h : Relistable nameSpace product) :
    ∀ line ∈ product.listingLines, '\n' ∉ line := by
  have headed {kind : EntityKind} :
      ∀ line ∈ headedLines kind (product.names kind), '\n' ∉ line := by
    intro line hl
    unfold headedLines at hl
    split_ifs at hl
    · exact absurd hl List.not_mem_nil
    · rcases List.mem_cons.mp hl with rfl | hl
      · cases kind <;> decide
      · exact (h.2 kind line hl).2
  exact List.forall_mem_cons.mpr ⟨h.1.2, List.forall_mem_append.mpr ⟨headed, headed⟩⟩

/-- What a listing was read as can be listed with the data sources of each product above its
resources, and it is read as that again, whatever white space and blank lines are put around and
between the lines. -/
theorem parse_listingLines {listing : Text} {products : List Product}
    (h : parse nameSpace listing = .ok products) :
    parse nameSpace (Text.joinLines (products.flatMap Product.listingLines)) = .ok products ∧
      ∀ lines, Spaced (products.flatMap Product.listingLines) lines →
        parse nameSpace (Text.joinLines lines) = .ok products := by
  have relistable := relistable_of_parse h
  suffices spaced : ∀ lines, Spaced (products.flatMap Product.listingLines) lines →
      parse nameSpace (Text.joinLines lines) = .ok products from ⟨spaced _ (.refl _), spaced⟩
  intro lines hs
  have oneLine : ∀ line ∈ products.flatMap Product.listingLines, '\n' ∉ line := by
    intro line hl
    obtain ⟨product, hp, hl⟩ := List.mem_flatMap.mp hl
    exact newline_notMem_listingLines (relistable product hp) line hl
  have parts : (products.map partOf).flatMap ProductLines.lines =
      products.flatMap Product.listingLines := by
    rw [List.flatMap_map]
    exact List.flatMap_congr fun product _ => lines_partOf product
  have same : (products.map partOf).map ProductLines.product = products := by
    rw [List.map_map]
    exact (List.map_congr_left fun product hp => product_partOf (relistable product hp)).trans
      (List.map_id products)
  have wellFormed : ∀ p ∈ products.map partOf, p.WellFormed nameSpace :=
    List.forall_mem_map.mpr fun product hp => wellFormed_partOf (relistable product hp)
  obtain ⟨after, read, result⟩ := parseFrom_parts wellFormed {} 1
  rw [parts] at read
  rw [parse_joinLines (hs.newline_notMem oneLine) (parseFrom_of_spaced hs read 1), result, same]
  rfl

/-- Headers that alternate, and an empty namespace. -/
theorem parse_listingLines_alternating :
    parse [] "CDN\nResource\n _a\r\nData Source\n_b\nResource\n_c\n".toList =
        .ok [⟨"CDN".toList, ["_a".toList, "_c".toList], ["_b".toList]⟩] ∧
      parse [] "CDN\nData Source\n_b\nResource\n_a\n_c".toList =
        .ok [⟨"CDN".toList, ["_a".toList, "_c".toList], ["_b".toList]⟩] ∧
      parse [] " \t\nCDN\nData Source \n\t_b\nResource\n_a\n\n_c\n".toList =
        .ok [⟨"CDN".toList, ["_a".toList, "_c".toList], ["_b".toList]⟩] := by
  have read : parse [] "CDN\nResource\n _a\r\nData Source\n_b\nResource\n_c\n".toList =
      .ok [⟨"CDN".toList, ["_a".toList, "_c".toList], ["_b".toList]⟩] := by
    decide +kernel
  obtain ⟨canonical, spaced⟩ := parse_listingLines read
  refine ⟨read, canonical, spaced ([" \t", "CDN", "Data Source ", "\t_b", "Resource", "_a", "",
    "_c", ""].map String.toList) ?_⟩
  exact .blank (by decide) (by decide) <| .cons _ <|
    .line [] [' '] "Data Source".toList (by simp) (by simp [isSpace]) <|
    .line ['\t'] [] "_b".toList (by simp [isSpace]) (by simp) <| .cons _ <| .cons _ <|
    .blank (by decide) (by decide) <| .cons _ <| .blank (by decide) (by decide) .nil

end Listing

end ProviderDocs
