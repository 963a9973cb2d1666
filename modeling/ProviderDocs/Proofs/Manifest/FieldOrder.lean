import ProviderDocs.Proofs.Manifest.Reading
import ProviderDocs.Proofs.Schema.NestedObjects

/-!
# The order of the fields in a manifest

A manifest names the fields of an object in members, where a name may occur twice and in any order.
In the schema that it describes the fields of every object have different names, in ascending order
(`ordered_of_ofJson?`), at the top as in all objects that a field leads to.  An object cannot carry
this itself, as a provider does, since its fields may hold objects again.  The sections of a field
that was read are in pre-order without further assumptions (`exists_listsObjects_of_ofJson?`).
-/

namespace ProviderDocs

open Json (mapEntries? mapEntries?_eq_some_iff mapOf?)

/-- A field that some value describes. -/
def Field.IsRead (field : Field) : Prop :=
  ∃ j, Field.ofJson? j = some field

/-- The fields of a map that was read were read, and stand in the order of their names. -/
theorem ordered_of_mapEntries? {entries : List (Option Text × Json)} {fields : List (Text × Field)}
    (h : mapEntries? Field.ofJson? entries = some fields) :
    Object.Ordered (orderNamed fields) ∧ ∀ entry ∈ orderNamed fields, entry.2.IsRead := by
  have each : List.Forall₂ (fun (entry : Text × Field) _ => entry.2.IsRead ∧ True) fields entries :=
    (mapEntries?_eq_some_iff.mp h).flip.imp fun entry member read => ⟨⟨member.2, read.2⟩, trivial⟩
  have all := ((List.forall₂_and_left fields entries).mp each).1
  exact ⟨pairwise_orderNamed fields, fun entry he => all entry (orderNamed_subset fields he)⟩

/-! ### Elements -/

/-- Objects that are read as an element are a map of fields. -/
theorem exists_mapEntries?_of_ofJson? {j : Json} {inner : Object}
    (h : Element.ofJson? j = some (some (.object inner))) :
    ∃ entries fields, mapEntries? Field.ofJson? entries = some fields ∧
      inner = orderNamed fields := by
  cases j with
  | string text =>
    rw [Element.ofJson?_string] at h
    obtain ⟨name, -, he⟩ := Option.map_eq_some_iff.mp h
    cases he
  | object entries =>
    rw [Element.ofJson?, Object.ofEntries?_eq] at h
    split_ifs at h
    cases hf : mapEntries? Field.ofJson? entries with
    | none => simp [hf] at h
    | some fields =>
      rw [hf] at h
      cases h
      exact ⟨entries, fields, hf, rfl⟩
  | _ => cases h

theorem exists_ofJson?_of_ofItems? {place : Nat} {items : List Json} {element : Element}
    (h : Element.ofItems? place items = some (some element)) :
    ∃ j, Element.ofJson? j = some (some element) := by
  induction items generalizing place with
  | nil => cases place <;> cases h
  | cons value rest ih =>
    cases place with
    | zero => exact ⟨value, h⟩
    | succ n => exact ih h

theorem exists_ofJson?_of_ofEntries? {entries : List (Option Text × Json)} {element : Element}
    (h : Element.ofEntries? entries = some (some element)) :
    ∃ j, Element.ofJson? j = some (some element) := by
  rw [Element.ofEntries?_eq] at h
  split at h
  · exact ⟨_, h⟩
  · cases h

theorem element_of_ofMembers? {members : Json.Members} {element : Option Element} {field : Field}
    (h : Field.ofMembers? members element = some field) : field.element = element := by
  simp only [Field.ofMembers?, Option.bind_eq_bind, Option.bind_eq_some_iff,
    Option.some.injEq] at h
  obtain ⟨_, -, _, -, _, -, _, -, _, -, _, -, _, -, rfl⟩ := h
  rfl

/-- The element of a field that was read was read itself. -/
theorem Field.IsRead.exists_element {field : Field} {element : Element} (h : field.IsRead)
    (he : field.element = some element) : ∃ j, Element.ofJson? j = some (some element) := by
  obtain ⟨j, h⟩ := h
  cases j with
  | object entries =>
    simp only [Field.ofJson?, Option.bind_eq_bind, Option.bind_eq_some_iff] at h
    obtain ⟨_, -, read, hr, h⟩ := h
    rw [← element_of_ofMembers? h, he] at hr
    exact exists_ofJson?_of_ofEntries? hr
  | array items =>
    simp only [Field.ofJson?, Option.bind_eq_bind, Option.bind_eq_some_iff] at h
    obtain ⟨_, -, read, hr, h⟩ := h
    rw [← element_of_ofMembers? h, he] at hr
    exact exists_ofJson?_of_ofItems? hr
  | _ => cases h

/-! ### Schemas -/

theorem element_of_nested?_eq_some {field : Field} {inner : Object}
    (h : field.nested? = some inner) : field.element = some (.object inner) := by
  unfold Field.nested? at h
  split at h
  · split_ifs at h
    cases h
    assumption
  · cases h

theorem Field.IsRead.ordered_nested {field : Field} {inner : Object} (h : field.IsRead)
    (hn : field.nested? = some inner) : inner.Ordered ∧ ∀ entry ∈ inner, entry.2.IsRead := by
  obtain ⟨j, hj⟩ := h.exists_element (element_of_nested?_eq_some hn)
  obtain ⟨entries, fields, hf, rfl⟩ := exists_mapEntries?_of_ofJson? hj
  exact ordered_of_mapEntries? hf

/-- Every object that a field leads to is in order, if the field was read. -/
theorem Field.IsRead.leadsInOrder {field : Field} (h : field.IsRead) (name : Text) :
    field.LeadsInOrder name := by
  intro way object leads
  induction leads with
  | own hn => exact (h.ordered_nested hn).1
  | further hn hm _ _ ih => exact ih ((h.ordered_nested hn).2 _ hm)

/-- The schema that a value describes is in order, and so is every object that its fields lead
to. -/
theorem ordered_of_ofJson? {j : Json} {schema : Object} (h : Object.ofJson? j = some schema) :
    schema.Ordered ∧ ∀ name field, (name, field) ∈ schema → field.LeadsInOrder name := by
  cases j with
  | object entries =>
    obtain ⟨fields, hf, rfl⟩ := Option.map_eq_some_iff.mp h
    obtain ⟨ordered, read⟩ := ordered_of_mapEntries? hf
    exact ⟨ordered, fun name field hm => (read (name, field) hm).leadsInOrder name⟩
  | _ => cases h

/-- The sections of a field in a schema that was read are those of the objects that it leads to, one
for each and in pre-order. -/
theorem exists_listsObjects_of_ofJson? {j : Json} {schema : Object} {subject : Subject}
    {depth : Nat} {parent : Option Text} {name : Text} {field : Field} {found : List Section}
    (h : Object.ofJson? j = some schema) (hm : (name, field) ∈ schema)
    (hs : (sections subject depth parent name field).Yields found) :
    ∃ places, field.ListsObjects name places ∧
      List.Forall₂ (Section.IsAt depth parent) places found :=
  ⟨_, listsObjects_objects ((ordered_of_ofJson? h).2 name field hm), forall₂_sections hs⟩

end ProviderDocs
