import ProviderDocs.Proofs.Listing
import ProviderDocs.Proofs.Report

/-!
# Misplaced lines of a listing

A line of a listing is blank, or a header, an entity or a product stands on it
(`LineClass.StandsOn`).  A header or an entity is misplaced if no product stands above it, and so is
an entity that no header separates from the last product above it (`Misplaced`).

* `next_eq_error_iff`: a line is refused exactly if it is misplaced, since the state recalls whether
  a product stands above it and whether a header stands below the last one (`State.Recalls`);
* `parse_eq_error_iff`: reading a listing ends in the fault of the first misplaced line;
* `exists_parse_eq_error_iff`: and it ends in a fault if any line is misplaced.
-/

namespace ProviderDocs.Listing

variable {nameSpace : Text}

/-! ### Lines -/

/-- What a line is, by what is left of it without the white space around: nothing, a header, a name
that begins with the namespace and an underscore, or any other name. -/
def LineClass.StandsOn (nameSpace line : Text) : LineClass → Prop
  | .blank => Text.isBlank line = true
  | .header kind => Text.trim line = kind.header
  | .entity name => Text.trim line = name ∧ nameSpace ++ ['_'] <+: name
  | .product name =>
    Text.trim line = name ∧ name ≠ [] ∧ (∀ kind : EntityKind, name ≠ kind.header) ∧
      ¬nameSpace ++ ['_'] <+: name

theorem ne_header_of_isPrefix {name : Text} (h : nameSpace ++ ['_'] <+: name) (kind : EntityKind) :
    name ≠ kind.header := by
  rintro rfl
  have underscore : '_' ∈ kind.header := h.subset (by simp)
  revert underscore
  cases kind <;> decide

/-- What stands on a line is what reading takes the line for. -/
theorem classifyLine_eq_iff {line : Text} {c : LineClass} :
    classifyLine (nameSpace ++ ['_']) line = c ↔ c.StandsOn nameSpace line := by
  unfold classifyLine
  dsimp only
  constructor
  · rintro rfl
    split_ifs with blank resource dataSource entity
    · exact (Text.trim_eq_nil_iff line).mp blank
    · exact resource
    · exact dataSource
    · exact ⟨rfl, List.isPrefixOf_iff_prefix.mp entity⟩
    · refine ⟨rfl, blank, fun kind => ?_, mt List.isPrefixOf_iff_prefix.mpr entity⟩
      cases kind
      · exact resource
      · exact dataSource
  · cases c with
    | blank => exact fun h => if_pos ((Text.trim_eq_nil_iff line).mpr h)
    | header kind =>
      intro (h : Text.trim line = kind.header)
      rw [h]
      cases kind <;> rfl
    | entity name =>
      rintro ⟨h, entity⟩
      have something : name ≠ [] := by
        rintro rfl
        simp at entity
      rw [h, if_neg something, if_neg (ne_header_of_isPrefix entity _),
        if_neg (ne_header_of_isPrefix entity _), if_pos (List.isPrefixOf_iff_prefix.mpr entity)]
    | product name =>
      rintro ⟨h, something, noHeader, noEntity⟩
      rw [h, if_neg something, if_neg (noHeader _), if_neg (noHeader _),
        if_neg (mt List.isPrefixOf_iff_prefix.mp noEntity)]

/-- A line with an entity on it is not blank. -/
theorem isBlank_eq_false_of_entity {name line : Text}
    (h : (LineClass.entity name).StandsOn nameSpace line) : Text.isBlank line = false := by
  rw [← Bool.not_eq_true, ← Text.trim_eq_nil_iff, h.1]
  rintro rfl
  simpa using h.2

/-! ### Misplaced lines -/

/-- No product stands on any of the lines. -/
def NamesNoProduct (nameSpace : Text) (lines : List Text) : Prop :=
  ∀ line ∈ lines, ∀ name, ¬(LineClass.product name).StandsOn nameSpace line

/-- The last product among the lines has no header below it. -/
def LacksHeader (nameSpace : Text) (lines : List Text) : Prop :=
  ∃ above line below name, lines = above ++ line :: below ∧
    (LineClass.product name).StandsOn nameSpace line ∧ NamesNoProduct nameSpace below ∧
    ∀ other ∈ below, ∀ kind, ¬(LineClass.header kind).StandsOn nameSpace other

/-- What is wrong with a line below others: a header or an entity stands on it, and none of them
names a product, or an entity does, and the last product lacks a header.  The fault gives the
number of the line and what stands on it. -/
inductive Misplaced (nameSpace : Text) (above : List Text) (line : Text) : Fault → Prop where
  | header {kind : EntityKind} (stands : (LineClass.header kind).StandsOn nameSpace line)
    (none : NamesNoProduct nameSpace above) :
    Misplaced nameSpace above line (.sectionWithoutProduct (above.length + 1) kind.header)
  | entity {name : Text} (stands : (LineClass.entity name).StandsOn nameSpace line)
    (none : NamesNoProduct nameSpace above) :
    Misplaced nameSpace above line (.entityWithoutProduct (above.length + 1) name)
  | unsectioned {name : Text} (stands : (LineClass.entity name).StandsOn nameSpace line)
    (lacks : LacksHeader nameSpace above) :
    Misplaced nameSpace above line (.entityWithoutSection (above.length + 1) name)

theorem namesNoProduct_nil : NamesNoProduct nameSpace [] :=
  fun _ hl => absurd hl List.not_mem_nil

theorem namesNoProduct_append_singleton {above : List Text} {line : Text} :
    NamesNoProduct nameSpace (above ++ [line]) ↔ NamesNoProduct nameSpace above ∧
      ∀ name, ¬(LineClass.product name).StandsOn nameSpace line := by
  simp [NamesNoProduct, or_imp, forall_and]

theorem lacksHeader_append_singleton {above : List Text} {line : Text} :
    LacksHeader nameSpace (above ++ [line]) ↔
      (∃ name, (LineClass.product name).StandsOn nameSpace line) ∨
        LacksHeader nameSpace above ∧ (∀ name, ¬(LineClass.product name).StandsOn nameSpace line) ∧
          ∀ kind, ¬(LineClass.header kind).StandsOn nameSpace line := by
  constructor
  · rintro ⟨start, product, below, name, whole, stands, none, noHeader⟩
    -- The line itself is the last product, or it stands below that one.
    rcases List.eq_nil_or_concat below with rfl | ⟨between, last, rfl⟩
    · obtain ⟨-, he⟩ := List.append_inj' whole rfl
      cases he
      exact .inl ⟨name, stands⟩
    · rw [List.concat_eq_append] at none noHeader whole
      rw [← List.cons_append, ← List.append_assoc] at whole
      obtain ⟨rfl, he⟩ := List.append_inj' whole rfl
      cases he
      obtain ⟨none, noProduct⟩ := namesNoProduct_append_singleton.mp none
      obtain ⟨noHeader, last⟩ := List.forall_mem_append.mp noHeader
      exact .inr ⟨⟨start, product, between, name, rfl, stands, none, noHeader⟩, noProduct,
        last line (List.mem_singleton_self _)⟩
  · rintro (⟨name, stands⟩ | ⟨⟨start, product, below, name, rfl, stands, none, noHeader⟩,
      noProduct, last⟩)
    · exact ⟨above, line, [], name, rfl, stands, namesNoProduct_nil, by simp⟩
    · refine ⟨start, product, below ++ [line], name, by simp, stands,
        namesNoProduct_append_singleton.mpr ⟨none, noProduct⟩, ?_⟩
      exact List.forall_mem_append.mpr ⟨noHeader, List.forall_mem_singleton.mpr last⟩

/-! ### One line -/

/-- A state tells of the lines above whether they name a product, and whether the last one lacks a
header. -/
structure State.Recalls (nameSpace : Text) (state : State) (above : List Text) : Prop where
  product : state.last = none ↔ NamesNoProduct nameSpace above
  header : (∃ product, state.last = some ⟨product, none⟩) ↔ LacksHeader nameSpace above

theorem State.recalls_nil : State.Recalls nameSpace {} [] where
  product := iff_of_true rfl namesNoProduct_nil
  header := by simp [LacksHeader]

theorem State.Recalls.next {state next : State} {above : List Text} {line : Text} {number : Nat}
    (h : state.Recalls nameSpace above)
    (hn : state.next number (classifyLine (nameSpace ++ ['_']) line) = .ok next) :
    next.Recalls nameSpace (above ++ [line]) := by
  obtain ⟨product, header⟩ := h
  suffices hs : (next.last = none ↔ NamesNoProduct nameSpace above ∧
        ∀ name, classifyLine (nameSpace ++ ['_']) line ≠ .product name) ∧
      ((∃ product, next.last = some ⟨product, none⟩) ↔
        (∃ name, classifyLine (nameSpace ++ ['_']) line = .product name) ∨
          LacksHeader nameSpace above ∧
            (∀ name, classifyLine (nameSpace ++ ['_']) line ≠ .product name) ∧
              ∀ kind, classifyLine (nameSpace ++ ['_']) line ≠ .header kind) by
    simp only [ne_eq, classifyLine_eq_iff] at hs
    exact ⟨hs.1.trans namesNoProduct_append_singleton.symm,
      hs.2.trans lacksHeader_append_singleton.symm⟩
  rw [← product, ← header]
  obtain ⟨complete, last⟩ := state
  cases hc : classifyLine (nameSpace ++ ['_']) line with
  | blank =>
    rw [hc] at hn
    cases hn
    simp
  | header kind =>
    rw [hc] at hn
    cases last with
    | none => cases hn
    | some last =>
      cases hn
      simp
  | entity name =>
    rw [hc] at hn
    match last, hn with
    | some ⟨product, some kind⟩, hn =>
      cases hn
      simp
  | product name =>
    rw [hc] at hn
    cases hn
    simp

/-- A line is refused exactly if it is misplaced. -/
theorem next_eq_error_iff {state : State} {above : List Text} {line : Text} {fault : Fault}
    (h : state.Recalls nameSpace above) :
    state.next (above.length + 1) (classifyLine (nameSpace ++ ['_']) line) = .error fault ↔
      Misplaced nameSpace above line fault := by
  obtain ⟨product, header⟩ := h
  obtain ⟨complete, last⟩ := state
  constructor
  · intro hf
    cases hc : classifyLine (nameSpace ++ ['_']) line with
    | blank =>
      rw [hc] at hf
      cases hf
    | header kind =>
      rw [hc] at hf
      cases last with
      | none =>
        cases hf
        exact .header (classifyLine_eq_iff.mp hc) (product.mp rfl)
      | some last => cases hf
    | entity name =>
      rw [hc] at hf
      match last, hf with
      | none, hf =>
        cases hf
        exact .entity (classifyLine_eq_iff.mp hc) (product.mp rfl)
      | some ⟨found, none⟩, hf =>
        cases hf
        exact .unsectioned (classifyLine_eq_iff.mp hc) (header.mp ⟨found, rfl⟩)
    | product name =>
      rw [hc] at hf
      cases hf
  · rintro (⟨stands, none⟩ | ⟨stands, none⟩ | ⟨stands, lacks⟩)
    · obtain rfl : last = _ := product.mpr none
      rw [classifyLine_eq_iff.mpr stands]
      rfl
    · obtain rfl : last = _ := product.mpr none
      rw [classifyLine_eq_iff.mpr stands]
      rfl
    · obtain ⟨found, rfl : last = _⟩ := header.mpr lacks
      rw [classifyLine_eq_iff.mpr stands]
      rfl

/-! ### Line after line -/

theorem parseFrom_append (namePrefix : Text) (state : State) (number : Nat)
    (first second : List Text) :
    parseFrom namePrefix state number (first ++ second) =
      (parseFrom namePrefix state number first >>= fun between =>
        parseFrom namePrefix between (number + first.length) second) := by
  induction first generalizing state number with
  | nil => rfl
  | cons line rest ih =>
    rw [List.cons_append, parseFrom, parseFrom, bind_assoc]
    refine bind_congr fun next => ?_
    rw [ih, List.length_cons, Nat.add_assoc, Nat.add_comm 1]

/-- Reading ends in a fault at the first line that is refused. -/
theorem parseFrom_eq_error_iff {namePrefix : Text} {state : State} {number : Nat}
    {lines : List Text} {fault : Fault} :
    parseFrom namePrefix state number lines = .error fault ↔
      ∃ above line below between, lines = above ++ line :: below ∧
        parseFrom namePrefix state number above = .ok between ∧
        between.next (number + above.length) (classifyLine namePrefix line) = .error fault := by
  constructor
  · intro h
    induction lines generalizing state number with
    | nil => cases h
    | cons line rest ih =>
      rw [parseFrom, bind_eq_error_iff] at h
      rcases h with hf | ⟨next, hn, hf⟩
      · exact ⟨[], line, rest, state, rfl, rfl, hf⟩
      · obtain ⟨above, other, below, between, rfl, read, hf⟩ := ih hf
        refine ⟨line :: above, other, below, between, rfl, ?_, ?_⟩
        · rw [parseFrom, hn]
          exact read
        · rwa [List.length_cons, Nat.add_comm above.length, ← Nat.add_assoc]
  · rintro ⟨above, line, below, between, rfl, read, hf⟩
    rw [parseFrom_append, read, bind_eq_error_iff]
    exact .inr ⟨between, rfl, bind_eq_error_iff.mpr (.inl hf)⟩

theorem State.Recalls.parseFrom {state between : State} {above lines : List Text} {number : Nat}
    (h : state.Recalls nameSpace above)
    (hr : parseFrom (nameSpace ++ ['_']) state number lines = .ok between) :
    between.Recalls nameSpace (above ++ lines) := by
  induction lines generalizing state above number with
  | nil =>
    cases hr
    rwa [List.append_nil]
  | cons line rest ih =>
    rw [Listing.parseFrom] at hr
    obtain ⟨next, hn, hr⟩ := bind_eq_ok_iff.mp hr
    have later := ih (h.next hn) hr
    rwa [List.append_assoc] at later

/-! ### From the first line on -/

/-- A line below others that were read is refused exactly if it is misplaced. -/
theorem refuses_iff {above : List Text} {line : Text} {state : State} {fault : Fault}
    (h : parseFrom (nameSpace ++ ['_']) {} 1 above = .ok state) :
    state.next (1 + above.length) (classifyLine (nameSpace ++ ['_']) line) = .error fault ↔
      Misplaced nameSpace above line fault := by
  have recalls : state.Recalls nameSpace ([] ++ above) := State.recalls_nil.parseFrom h
  rw [Nat.add_comm]
  exact next_eq_error_iff recalls

/-- A line is misplaced with a fault, and none above it is misplaced. -/
def FirstMisplaced (nameSpace : Text) (lines : List Text) (fault : Fault) : Prop :=
  ∃ above line below, lines = above ++ line :: below ∧ Misplaced nameSpace above line fault ∧
    ∀ before other after, above = before ++ other :: after →
      ∀ fault, ¬Misplaced nameSpace before other fault

/-- Lines that are read to the end hold none that is misplaced. -/
theorem not_misplaced_of_parseFrom {lines above below : List Text} {line : Text} {state : State}
    (h : parseFrom (nameSpace ++ ['_']) {} 1 lines = .ok state)
    (hl : lines = above ++ line :: below) (fault : Fault) :
    ¬Misplaced nameSpace above line fault := by
  intro misplaced
  rw [hl, parseFrom_append] at h
  obtain ⟨between, read, h⟩ := bind_eq_ok_iff.mp h
  rw [parseFrom, (refuses_iff read).mpr misplaced] at h
  cases h

theorem parse_eq_error_iff_parseFrom {listing : Text} {fault : Fault} :
    parse nameSpace listing = .error fault ↔
      parseFrom (nameSpace ++ ['_']) {} 1 (Text.splitLines listing) = .error fault := by
  rw [parse, bind_eq_error_iff]
  simp

/-- Reading a listing ends in the fault of the first misplaced line. -/
theorem parse_eq_error_iff {listing : Text} {fault : Fault} :
    parse nameSpace listing = .error fault ↔
      FirstMisplaced nameSpace (Text.splitLines listing) fault := by
  rw [parse_eq_error_iff_parseFrom, parseFrom_eq_error_iff]
  constructor
  · rintro ⟨above, line, below, between, whole, read, refused⟩
    exact ⟨above, line, below, whole, (refuses_iff read).mp refused,
      fun before other after => not_misplaced_of_parseFrom read⟩
  · rintro ⟨above, line, below, whole, misplaced, none⟩
    cases read : parseFrom (nameSpace ++ ['_']) {} 1 above with
    | ok between =>
      exact ⟨above, line, below, between, whole, read, (refuses_iff read).mpr misplaced⟩
    | error other =>
      -- Reading cannot end further up, where nothing is misplaced.
      obtain ⟨before, first, after, between, rfl, read, refused⟩ := parseFrom_eq_error_iff.mp read
      exact absurd ((refuses_iff read).mp refused) (none before first after rfl other)

/-- Reading a listing ends in a fault if any line is misplaced. -/
theorem exists_parse_eq_error_iff {listing : Text} :
    (∃ fault, parse nameSpace listing = .error fault) ↔
      ∃ above line below fault, Text.splitLines listing = above ++ line :: below ∧
        Misplaced nameSpace above line fault := by
  constructor
  · rintro ⟨fault, h⟩
    obtain ⟨above, line, below, whole, misplaced, -⟩ := parse_eq_error_iff.mp h
    exact ⟨above, line, below, fault, whole, misplaced⟩
  · rintro ⟨above, line, below, fault, whole, misplaced⟩
    cases read : parseFrom (nameSpace ++ ['_']) {} 1 (Text.splitLines listing) with
    | ok state => exact absurd misplaced (not_misplaced_of_parseFrom read whole fault)
    | error other => exact ⟨other, parse_eq_error_iff_parseFrom.mpr read⟩

end ProviderDocs.Listing
