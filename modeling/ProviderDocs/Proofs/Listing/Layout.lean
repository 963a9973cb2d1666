import ProviderDocs.Proofs.Listing.Misplaced

/-!
# The layout of a listing

A listing in which nothing is misplaced falls into parts, each a line with a product and the lines
down to the next product, and a part falls into sections, each a line with a header and the lines
down to the next header (`LaysOut`).  So the section that an entity stands in is that of the nearest
header above it, and the part that of the nearest product.

* `exists_cuts`: lines are cut at those with products, and then at those with headers; what stands
  above the first of these is blank, or else misplaced (`exists_part`, `exists_laysOut`);
* `parse_of_laysOut`: lines that are laid out are read part by part, and each part gives a product
  with the entities of its sections;
* `parse_outcome`: what reading a listing comes to.
-/

namespace ProviderDocs.Listing

variable {nameSpace : Text}

/-! ### Parts and sections -/

/-- A line with a header, and the lines below it that belong to it. -/
structure HeaderLines where
  kind : EntityKind
  line : Text
  body : List Text

/-- A line with a product, and the lines below it that belong to it. -/
structure ProductLines where
  line : Text
  /-- The lines above the first header. -/
  gap : List Text
  sections : List HeaderLines

namespace HeaderLines

def lines (s : HeaderLines) : List Text :=
  s.line :: s.body

/-- The entities of a section, in the order of their lines. -/
def names (s : HeaderLines) : List Text :=
  (s.body.filter fun line => !Text.isBlank line).map Text.trim

/-- Below the header there are blank lines and lines with entities. -/
structure WellFormed (nameSpace : Text) (s : HeaderLines) : Prop where
  line : (LineClass.header s.kind).StandsOn nameSpace s.line
  body : ∀ line ∈ s.body,
    Text.isBlank line = true ∨ ∃ name, (LineClass.entity name).StandsOn nameSpace line

end HeaderLines

namespace ProductLines

def lines (p : ProductLines) : List Text :=
  p.line :: (p.gap ++ p.sections.flatMap HeaderLines.lines)

/-- The entities below the headers of one kind, in the order of their lines. -/
def names (p : ProductLines) (kind : EntityKind) : List Text :=
  (p.sections.filter fun s => s.kind == kind).flatMap HeaderLines.names

/-- The product with its entities. -/
def product (p : ProductLines) : Product where
  name := Text.trim p.line
  resources := p.names .resource
  dataSources := p.names .dataSource

/-- Below the product there are blank lines and sections. -/
structure WellFormed (nameSpace : Text) (p : ProductLines) : Prop where
  line : ∃ name, (LineClass.product name).StandsOn nameSpace p.line
  gap : ∀ line ∈ p.gap, Text.isBlank line = true
  sections : ∀ s ∈ p.sections, s.WellFormed nameSpace

end ProductLines

/-- Lines are blank lines followed by parts. -/
structure LaysOut (nameSpace : Text) (lines gap : List Text) (parts : List ProductLines) :
    Prop where
  whole : lines = gap ++ parts.flatMap ProductLines.lines
  gap : ∀ line ∈ gap, Text.isBlank line = true
  parts : ∀ p ∈ parts, p.WellFormed nameSpace

/-! ### Cutting lines -/

/-- A list is cut at its items with a property. -/
theorem exists_cuts {α : Type} (P : α → Prop) (items : List α) :
    ∃ (gap : List α) (cuts : List (α × List α)),
      items = gap ++ cuts.flatMap (fun cut => cut.1 :: cut.2) ∧ (∀ item ∈ gap, ¬P item) ∧
        ∀ cut ∈ cuts, P cut.1 ∧ ∀ item ∈ cut.2, ¬P item := by
  induction items with
  | nil => exact ⟨[], [], rfl, by simp, by simp⟩
  | cons item rest ih =>
    obtain ⟨gap, cuts, rfl, none, each⟩ := ih
    by_cases h : P item
    · exact ⟨[], (item, gap) :: cuts, rfl, by simp, List.forall_mem_cons.mpr ⟨⟨h, none⟩, each⟩⟩
    · exact ⟨item :: gap, cuts, rfl, List.forall_mem_cons.mpr ⟨h, none⟩, each⟩

/-- A line on which neither a product nor a header stands is blank, or an entity stands on it. -/
theorem blank_or_entity {line : Text}
    (hp : ∀ name, ¬(LineClass.product name).StandsOn nameSpace line)
    (hh : ∀ kind, ¬(LineClass.header kind).StandsOn nameSpace line) :
    Text.isBlank line = true ∨ ∃ name, (LineClass.entity name).StandsOn nameSpace line := by
  cases hc : classifyLine (nameSpace ++ ['_']) line with
  | blank => exact .inl (classifyLine_eq_iff.mp hc)
  | header kind => exact absurd (classifyLine_eq_iff.mp hc) (hh kind)
  | entity name => exact .inr ⟨name, classifyLine_eq_iff.mp hc⟩
  | product name => exact absurd (classifyLine_eq_iff.mp hc) (hp name)

/-- The lines below a product are cut at the headers. -/
theorem exists_sections {lines : List Text} (h : NamesNoProduct nameSpace lines) :
    ∃ (gap : List Text) (sections : List HeaderLines),
      lines = gap ++ sections.flatMap HeaderLines.lines ∧
        (∀ line ∈ gap, ∀ kind, ¬(LineClass.header kind).StandsOn nameSpace line) ∧
        ∀ s ∈ sections, s.WellFormed nameSpace := by
  obtain ⟨gap, cuts, rfl, none, each⟩ :=
    exists_cuts (fun line => ∃ kind, (LineClass.header kind).StandsOn nameSpace line) lines
  simp only [not_exists] at none each
  suffices hs : ∃ sections : List HeaderLines,
      cuts.flatMap (fun cut => cut.1 :: cut.2) = sections.flatMap HeaderLines.lines ∧
        ∀ s ∈ sections, s.WellFormed nameSpace by
    obtain ⟨sections, whole, wellFormed⟩ := hs
    exact ⟨gap, sections, by rw [whole], none, wellFormed⟩
  replace h := (List.forall_mem_append.mp h).2
  clear none
  induction cuts with
  | nil => exact ⟨[], rfl, by simp⟩
  | cons cut cuts ih =>
    obtain ⟨⟨⟨kind, header⟩, body⟩, each⟩ := List.forall_mem_cons.mp each
    rw [List.flatMap_cons, List.cons_append, List.forall_mem_cons, List.forall_mem_append] at h
    obtain ⟨sections, whole, wellFormed⟩ := ih each h.2.2
    refine ⟨⟨kind, cut.1, cut.2⟩ :: sections, by rw [List.flatMap_cons, whole]; rfl, ?_⟩
    exact List.forall_mem_cons.mpr
      ⟨⟨header, fun line hl => blank_or_entity (h.2.1 line hl) (body line hl)⟩, wellFormed⟩

/-- A line with a product and the lines below it are a part, if none of these is misplaced. -/
theorem exists_part (start : List Text) {product : Text} {rest : List Text}
    (hp : ∃ name, (LineClass.product name).StandsOn nameSpace product)
    (hr : NamesNoProduct nameSpace rest)
    (h : ∀ above line below, product :: rest = above ++ line :: below →
      ∀ fault, ¬Misplaced nameSpace (start ++ above) line fault) :
    ∃ p : ProductLines, p.lines = product :: rest ∧ p.WellFormed nameSpace := by
  obtain ⟨name, stands⟩ := hp
  obtain ⟨gap, sections, rfl, noHeader, wellFormed⟩ := exists_sections hr
  refine ⟨⟨product, gap, sections⟩, rfl, ⟨name, stands⟩, fun line hl => ?_, wellFormed⟩
  have noProduct : NamesNoProduct nameSpace gap := (List.forall_mem_append.mp hr).1
  -- An entity here would lack a header.
  refine (blank_or_entity (noProduct line hl) (noHeader line hl)).resolve_right ?_
  rintro ⟨entity, misplaced⟩
  obtain ⟨before, after, rfl⟩ := List.append_of_mem hl
  have lacks : LacksHeader nameSpace (start ++ product :: before) :=
    ⟨start, product, before, name, rfl, stands, (List.forall_mem_append.mp noProduct).1,
      (List.forall_mem_append.mp noHeader).1⟩
  exact h (product :: before) line (after ++ sections.flatMap HeaderLines.lines) (by simp) _
    (.unsectioned misplaced lacks)

/-- Lines of which none is misplaced are laid out. -/
theorem exists_laysOut {lines : List Text}
    (h : ∀ above line below, lines = above ++ line :: below →
      ∀ fault, ¬Misplaced nameSpace above line fault) :
    ∃ gap parts, LaysOut nameSpace lines gap parts := by
  obtain ⟨gap, cuts, rfl, none, each⟩ :=
    exists_cuts (fun line => ∃ name, (LineClass.product name).StandsOn nameSpace line) lines
  simp only [not_exists] at none each
  have blank : ∀ line ∈ gap, Text.isBlank line = true := by
    intro line hl
    have noProduct := none line hl
    obtain ⟨before, after, rfl⟩ := List.append_of_mem hl
    have above : NamesNoProduct nameSpace before := (List.forall_mem_append.mp none).1
    have right := h before line _ (by rw [List.append_assoc]; rfl)
    rcases blank_or_entity noProduct fun kind stands => right _ (.header stands above) with
      blank | ⟨entity, stands⟩
    · exact blank
    · exact absurd (.entity stands above) (right _)
  suffices hs : ∀ start, (∀ above line below,
      cuts.flatMap (fun cut => cut.1 :: cut.2) = above ++ line :: below →
        ∀ fault, ¬Misplaced nameSpace (start ++ above) line fault) →
      ∃ parts : List ProductLines,
        cuts.flatMap (fun cut => cut.1 :: cut.2) = parts.flatMap ProductLines.lines ∧
          ∀ p ∈ parts, p.WellFormed nameSpace by
    obtain ⟨parts, whole, wellFormed⟩ := hs gap fun above line below he =>
      h (gap ++ above) line below (by rw [he, List.append_assoc])
    exact ⟨gap, parts, by rw [whole], blank, wellFormed⟩
  clear h none blank
  induction cuts with
  | nil => exact fun _ _ => ⟨[], rfl, by simp⟩
  | cons cut cuts ih =>
    intro start h
    obtain ⟨⟨stands, below⟩, each⟩ := List.forall_mem_cons.mp each
    obtain ⟨p, whole, wellFormed⟩ := exists_part start stands below
      fun above line below he => h above line (below ++ cuts.flatMap fun cut => cut.1 :: cut.2)
        (by rw [List.flatMap_cons, he, List.append_assoc]; rfl)
    obtain ⟨parts, whole', wellFormed'⟩ := ih each (start ++ (cut.1 :: cut.2))
      fun above line below he => by
        rw [List.append_assoc]
        exact h _ line below (by rw [List.flatMap_cons, he, List.append_assoc])
    exact ⟨p :: parts, by rw [List.flatMap_cons, List.flatMap_cons, whole, whole'],
      List.forall_mem_cons.mpr ⟨wellFormed, wellFormed'⟩⟩

/-! ### Reading part by part -/

theorem classifyLine_of_isBlank {line : Text} (h : Text.isBlank line = true) :
    classifyLine (nameSpace ++ ['_']) line = .blank :=
  classifyLine_eq_iff.mpr h

/-- Adds entities below the others of their kind. -/
def addAll (kind : EntityKind) (names : List Text) (product : Product) : Product :=
  names.foldl (fun product name => product.add kind name) product

/-- Adds the entities of sections, each below the others of its kind. -/
def addSections (sections : List HeaderLines) (product : Product) : Product :=
  sections.foldl (fun product s => addAll s.kind s.names product) product

theorem addAll_eq (kind : EntityKind) (names : List Text) (product : Product) :
    addAll kind names product =
      match kind with
      | .resource => { product with resources := product.resources ++ names }
      | .dataSource => { product with dataSources := product.dataSources ++ names } := by
  induction names generalizing product with
  | nil => cases kind <;> simp [addAll]
  | cons name names ih =>
    have step : addAll kind (name :: names) product = addAll kind names (product.add kind name) :=
      rfl
    rw [step, ih]
    cases kind <;> simp [Product.add]

/-- A part gives the product with the entities of its sections. -/
theorem addSections_eq (sections : List HeaderLines) (product : Product) :
    addSections sections product =
      { name := product.name
        resources := product.resources ++
          (sections.filter fun s => s.kind == .resource).flatMap HeaderLines.names
        dataSources := product.dataSources ++
          (sections.filter fun s => s.kind == .dataSource).flatMap HeaderLines.names } := by
  induction sections generalizing product with
  | nil => simp [addSections]
  | cons s sections ih =>
    have step : addSections (s :: sections) product =
        addSections sections (addAll s.kind s.names product) := rfl
    rw [step, ih, addAll_eq]
    cases hk : s.kind <;> simp [hk]

/-- Blank lines change nothing. -/
theorem parseFrom_of_blank {lines : List Text} (h : ∀ line ∈ lines, Text.isBlank line = true)
    (state : State) (number : Nat) :
    parseFrom (nameSpace ++ ['_']) state number lines = .ok state := by
  induction lines generalizing number with
  | nil => rfl
  | cons line rest ih =>
    obtain ⟨first, later⟩ := List.forall_mem_cons.mp h
    rw [parseFrom, classifyLine_of_isBlank first]
    exact ih later (number + 1)

/-- The entities below a header are added to the product in order. -/
theorem parseFrom_body {body : List Text}
    (h : ∀ line ∈ body,
      Text.isBlank line = true ∨ ∃ name, (LineClass.entity name).StandsOn nameSpace line)
    (complete : List Product) (product : Product) (kind : EntityKind) (number : Nat) :
    parseFrom (nameSpace ++ ['_']) ⟨complete, some ⟨product, some kind⟩⟩ number body =
      .ok ⟨complete, some ⟨addAll kind
        ((body.filter fun line => !Text.isBlank line).map Text.trim) product, some kind⟩⟩ := by
  induction body generalizing product number with
  | nil => rfl
  | cons line rest ih =>
    obtain ⟨first, later⟩ := List.forall_mem_cons.mp h
    rw [parseFrom]
    rcases first with blank | ⟨name, stands⟩
    · rw [classifyLine_of_isBlank blank, List.filter_cons_of_neg (by simp [blank])]
      exact ih later product (number + 1)
    · have something : Text.isBlank line = false := isBlank_eq_false_of_entity stands
      rw [classifyLine_eq_iff.mpr stands, List.filter_cons_of_pos (by simp [something]),
        List.map_cons, stands.1]
      exact ih later (product.add kind name) (number + 1)

theorem parseFrom_sections {sections : List HeaderLines}
    (h : ∀ s ∈ sections, s.WellFormed nameSpace) (complete : List Product) (product : Product)
    (kind : Option EntityKind) (number : Nat) :
    ∃ last, parseFrom (nameSpace ++ ['_']) ⟨complete, some ⟨product, kind⟩⟩ number
        (sections.flatMap HeaderLines.lines) =
      .ok ⟨complete, some ⟨addSections sections product, last⟩⟩ := by
  induction sections generalizing product kind number with
  | nil => exact ⟨kind, rfl⟩
  | cons s sections ih =>
    obtain ⟨⟨line, body⟩, later⟩ := List.forall_mem_cons.mp h
    have read : parseFrom (nameSpace ++ ['_']) ⟨complete, some ⟨product, kind⟩⟩ number s.lines =
        .ok ⟨complete, some ⟨addAll s.kind s.names product, some s.kind⟩⟩ := by
      rw [HeaderLines.lines, parseFrom, classifyLine_eq_iff.mpr line]
      exact parseFrom_body body complete product s.kind (number + 1)
    obtain ⟨last, rest⟩ := ih later (addAll s.kind s.names product) (some s.kind)
      (number + s.lines.length)
    refine ⟨last, ?_⟩
    rw [List.flatMap_cons, parseFrom_append, read]
    exact rest

/-- A part is read as its product, which becomes the last one. -/
theorem parseFrom_part {p : ProductLines} (h : p.WellFormed nameSpace) (state : State)
    (number : Nat) :
    ∃ last, parseFrom (nameSpace ++ ['_']) state number p.lines =
      .ok ⟨state.products, some ⟨p.product, last⟩⟩ := by
  obtain ⟨⟨name, line⟩, gap, sections⟩ := h
  obtain ⟨last, read⟩ := parseFrom_sections sections state.products { name } none
    (number + 1 + p.gap.length)
  have product : addSections p.sections { name } = p.product := by
    rw [addSections_eq, ProductLines.product, line.1]
    rfl
  rw [product] at read
  refine ⟨last, ?_⟩
  rw [ProductLines.lines, parseFrom, classifyLine_eq_iff.mpr line]
  show parseFrom _ ⟨state.products, some ⟨{ name }, none⟩⟩ (number + 1) _ = _
  rw [parseFrom_append, parseFrom_of_blank gap]
  exact read

theorem parseFrom_parts {parts : List ProductLines} (h : ∀ p ∈ parts, p.WellFormed nameSpace)
    (state : State) (number : Nat) :
    ∃ after, parseFrom (nameSpace ++ ['_']) state number (parts.flatMap ProductLines.lines) =
        .ok after ∧ after.products = state.products ++ parts.map ProductLines.product := by
  induction parts generalizing state number with
  | nil => exact ⟨state, rfl, by simp⟩
  | cons p parts ih =>
    obtain ⟨first, later⟩ := List.forall_mem_cons.mp h
    obtain ⟨last, read⟩ := parseFrom_part first state number
    obtain ⟨after, rest, products⟩ := ih later ⟨state.products, some ⟨p.product, last⟩⟩
      (number + p.lines.length)
    refine ⟨after, ?_, ?_⟩
    · rw [List.flatMap_cons, parseFrom_append, read]
      exact rest
    · rw [products]
      simp [State.products]

/-- A listing that is laid out is read as the products of its parts. -/
theorem parse_of_laysOut {listing : Text} {gap : List Text} {parts : List ProductLines}
    (h : LaysOut nameSpace (Text.splitLines listing) gap parts) :
    parse nameSpace listing = .ok (parts.map ProductLines.product) := by
  obtain ⟨after, read, products⟩ := parseFrom_parts h.parts {} (1 + gap.length)
  have whole : parseFrom (nameSpace ++ ['_']) {} 1 (Text.splitLines listing) = .ok after := by
    rw [h.whole, parseFrom_append, parseFrom_of_blank h.gap]
    exact read
  rw [parse, whole]
  exact congrArg Except.ok products

theorem exists_laysOut_of_parse {listing : Text} {products : List Product}
    (h : parse nameSpace listing = .ok products) :
    ∃ gap parts, LaysOut nameSpace (Text.splitLines listing) gap parts := by
  refine exists_laysOut fun above line below whole fault misplaced => ?_
  obtain ⟨other, refused⟩ :=
    exists_parse_eq_error_iff.mpr ⟨above, line, below, fault, whole, misplaced⟩
  rw [h] at refused
  cases refused

/-- Reading a listing ends in a fault exactly if some line of it is misplaced, and the fault is that
of the first such line.  Otherwise the listing is laid out in parts, and reading it gives the
products of the parts in order, each with the entities of its sections. -/
theorem parse_outcome (nameSpace listing : Text) :
    ((∃ fault, parse nameSpace listing = .error fault) ↔
        ∃ above line below fault, Text.splitLines listing = above ++ line :: below ∧
          Misplaced nameSpace above line fault) ∧
      (∀ fault, parse nameSpace listing = .error fault ↔
        FirstMisplaced nameSpace (Text.splitLines listing) fault) ∧
      ∀ products, parse nameSpace listing = .ok products ↔
        ∃ gap parts, LaysOut nameSpace (Text.splitLines listing) gap parts ∧
          products = parts.map ProductLines.product := by
  refine ⟨exists_parse_eq_error_iff, fun fault => parse_eq_error_iff, fun products => ?_⟩
  constructor
  · intro h
    obtain ⟨gap, parts, laysOut⟩ := exists_laysOut_of_parse h
    rw [parse_of_laysOut laysOut] at h
    exact ⟨gap, parts, laysOut, (Except.ok.inj h).symm⟩
  · rintro ⟨gap, parts, laysOut, rfl⟩
    exact parse_of_laysOut laysOut

/-- Headers may alternate, and a blank line counts only for the number of a fault. -/
example :
    parse "n".toList "A\n Resource\nn_a\r\n\nData Source\nn_b\nResource\nn_c\nB".toList =
        .ok [⟨"A".toList, ["n_a".toList, "n_c".toList], ["n_b".toList]⟩, ⟨"B".toList, [], []⟩] ∧
      parse "n".toList "A\nResource\n\nB\n n_b\nn_c".toList =
        .error (.entityWithoutSection 5 "n_b".toList) := by
  decide +kernel

end ProviderDocs.Listing
