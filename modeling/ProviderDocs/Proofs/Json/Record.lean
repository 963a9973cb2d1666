import Mathlib.Data.List.Perm.Basic
import ProviderDocs.Json.Record
import ProviderDocs.Proofs.Text.Order

/-!
# Records and maps, whatever the order of their members

A record is read member by member, so that the order of its members and those that are not declared
do not matter: a declared member is what the object has under its name
(`lookup_of_declaredMembers?`), and if no name occurs twice the record can be read
(`exists_members?`).  A map is read from its members in any order (`mapOf?_of_mapWrittenAs`).
-/

namespace ProviderDocs.Json

variable {α : Type} {declared : List Text} {entries : List (Option Text × Json)} {members : Members}
  {name : String} {P : Json → Prop}

/-- The member of an object with a name. -/
def member? (entries : List (Option Text × Json)) (name : String) : Option Json :=
  entries.lookup (some name.toList)

/-- A property of the member of an object with a name, if there is one. -/
def AtMember (name : String) (P : Json → Prop) : Json → Prop
  | .object entries => ∀ value ∈ member? entries name, P value
  | _ => True

/-- A property of every member of an object. -/
def AtEach (P : Json → Prop) : Json → Prop
  | .object entries => ∀ entry ∈ entries, P entry.2
  | _ => True

/-! ### Records -/

/-- The names of an object are texts, and none of them occurs twice. -/
structure DistinctNames (entries : List (Option Text × Json)) : Prop where
  texts : none ∉ entries.map Prod.fst
  nodup : (entries.map Prod.fst).Nodup

/-- A declared member of a record is the member of the object with its name. -/
theorem lookup_of_declaredMembers? (h : declaredMembers? declared entries = some members)
    {name : Text} (hn : name ∈ declared) : members.lookup name = entries.lookup (some name) := by
  induction entries generalizing members with
  | nil =>
    cases h
    rfl
  | cons entry rest ih =>
    obtain ⟨_ | first, value⟩ := entry
    · cases h
    · obtain ⟨below, hb, h⟩ := Option.bind_eq_some_iff.mp h
      have later : below.lookup name = rest.lookup (some name) := ih hb
      by_cases heq : name = first
      · subst heq
        split_ifs at h with hd
        · simp [hn] at hd
        · cases h
          rw [List.lookup_cons_self, List.lookup_cons_self]
      · have other : ((name == first) = false) ∧ ((some name == some first) = false) := by
          simpa using heq
        rw [List.lookup_cons, other.2, ← later]
        split_ifs at h
        · cases h
          rfl
        · cases h
          rw [List.lookup_cons, other.1]

theorem exists_declaredMembers? (h : DistinctNames entries) (declared : List Text) :
    ∃ members, declaredMembers? declared entries = some members := by
  obtain ⟨texts, nodup⟩ := h
  induction entries with
  | nil => exact ⟨[], rfl⟩
  | cons entry rest ih =>
    obtain ⟨_ | first, value⟩ := entry
    · exact absurd List.mem_cons_self texts
    · obtain ⟨new, nodup⟩ := List.nodup_cons.mp nodup
      obtain ⟨below, hb⟩ := ih (List.not_mem_of_not_mem_cons texts) nodup
      rw [declaredMembers?, hb, Option.bind_eq_bind, Option.bind_some]
      split_ifs with hd hl
      · exact ⟨below, rfl⟩
      · have found : below.lookup first = rest.lookup (some first) :=
          lookup_of_declaredMembers? hb (by simpa using hd)
        rw [found, List.lookup_isSome_iff] at hl
        obtain ⟨entry, he, hf⟩ := hl
        exact absurd (List.mem_map.mpr ⟨entry, he, (beq_iff_eq.mp hf).symm⟩) new
      · exact ⟨_, rfl⟩

/-- A record whose names are distinct can be read, and each declared member is the member of the
object with its name. -/
theorem exists_members? (h : DistinctNames entries) (declared : List Text) :
    ∃ members, members? declared (.object entries) = some members ∧
      ∀ {name : String}, name.toList ∈ declared →
        members.lookup name.toList = member? entries name := by
  obtain ⟨members, hm⟩ := exists_declaredMembers? h declared
  exact ⟨members, hm, lookup_of_declaredMembers? hm⟩

/-! ### Members -/

/-- A member is written as a value of some sort, or it is left out on some condition. -/
inductive Member (writes : Json → Prop) (absent : Prop) : Option Json → Prop where
  | written {value : Json} (h : writes value) : Member writes absent (some value)
  | omitted (h : absent) : Member writes absent none

/-- The value of a member that may be left out is read, if every way to write it is. -/
theorem optional?_of_member {read? : Json → Option α} {writes : Json → Prop} {value absent : α}
    (hl : members.lookup name.toList = member? entries name)
    (h : Member writes (value = absent) (member? entries name))
    (hr : ∀ j ∈ member? entries name, writes j → read? j = some value) :
    members.optional? name read? absent = some value := by
  unfold Members.optional?
  rw [hl]
  generalize member? entries name = found at h hr ⊢
  cases h with
  | written h => exact hr _ rfl h
  | omitted h => exact congrArg some h.symm

/-- The value of a member that has to be there is read, if every way to write it is. -/
theorem required?_of_member {read? : Json → Option α} {writes : Json → Prop} {value : α}
    (hl : members.lookup name.toList = member? entries name)
    (h : Member writes False (member? entries name))
    (hr : ∀ j, writes j → read? j = some value) :
    members.required? name read? = some value := by
  unfold Members.required?
  rw [hl]
  generalize member? entries name = found at h ⊢
  cases h with
  | written h => exact hr _ h
  | omitted h => exact h.elim

/-- What holds of every value that is read holds of a member that was read. -/
theorem atMember_of_optional? {read? : Json → Option α} {value absent : α}
    (hl : members.lookup name.toList = member? entries name)
    (h : members.optional? name read? absent = some value)
    (hr : ∀ j value, read? j = some value → P j) : AtMember name P (.object entries) := by
  intro j hj
  unfold Members.optional? at h
  rw [hl, Option.mem_def.mp hj] at h
  exact hr j value h

/-! ### Maps -/

/-- An object has a member for each value of a map, in any order; the map has its values under
different names, in ascending order. -/
structure MapLayout (values : List (Text × α)) (value : Text → Json)
    (entries : List (Option Text × Json)) : Prop where
  ordered : (values.map Prod.fst).Pairwise (· < ·)
  perm : entries.Perm (values.map fun entry => (some entry.1, value entry.1))

/-- A value writes a map: an object with a member for each of its values, in any order. -/
inductive MapWrittenAs (writes : α → Json → Prop) (values : List (Text × α)) : Json → Prop where
  | object {value : Text → Json} {entries : List (Option Text × Json)}
    (layout : MapLayout values value entries)
    (each : ∀ entry ∈ values, writes entry.2 (value entry.1)) :
    MapWrittenAs writes values (.object entries)

theorem MapLayout.singleton (name : Text) (value : α) (j : Json) :
    MapLayout [(name, value)] (fun _ => j) [(some name, j)] :=
  ⟨List.pairwise_singleton _ _, .refl _⟩

theorem MapWrittenAs.singleton {writes : α → Json → Prop} {value : α} {j : Json} (name : Text)
    (h : writes value j) : MapWrittenAs writes [(name, value)] (.object [(some name, j)]) :=
  .object (.singleton name value j) (List.forall_mem_singleton.mpr h)

/-- The values of a map are read one by one. -/
theorem mapEntries?_eq_some_iff {read? : Json → Option α} {values : List (Text × α)} :
    mapEntries? read? entries = some values ↔
      List.Forall₂ (fun entry value => entry.1 = some value.1 ∧ read? entry.2 = some value.2)
        entries values := by
  induction entries generalizing values with
  | nil =>
    rw [mapEntries?, Option.some.injEq, List.forall₂_nil_left_iff, eq_comm]
  | cons entry rest ih =>
    rw [List.forall₂_cons_left_iff]
    obtain ⟨_ | name, j⟩ := entry
    · refine iff_of_false (by simp [mapEntries?]) ?_
      rintro ⟨_, _, ⟨he, -⟩, -⟩
      cases he
    · simp only [mapEntries?, Option.bind_eq_bind, Option.bind_eq_some_iff, Option.some.injEq]
      constructor
      · rintro ⟨first, hf, later, hl, rfl⟩
        exact ⟨(name, first), later, ⟨rfl, hf⟩, ih.mp hl, rfl⟩
      · rintro ⟨first, later, ⟨he, hf⟩, hl, rfl⟩
        refine ⟨first.2, hf, later, ih.mpr hl, ?_⟩
        rw [he]

/-- A map is read from its members, in whatever order they are. -/
theorem orderNamed_of_layout {read? : Json → Option α} {values : List (Text × α)}
    {value : Text → Json} (layout : MapLayout values value entries)
    (each : ∀ entry ∈ values, read? (value entry.1) = some entry.2) :
    (mapEntries? read? entries).map orderNamed = some values := by
  have inOrder : List.Forall₂ (fun entry value => entry.1 = some value.1 ∧
      read? entry.2 = some value.2)
      (values.map fun entry => (some entry.1, value entry.1)) values := by
    rw [List.forall₂_map_left_iff, List.forall₂_same]
    exact fun entry he => ⟨rfl, each entry he⟩
  obtain ⟨read, hr, hp⟩ := List.perm_comp_forall₂ layout.perm inOrder
  rw [mapEntries?_eq_some_iff.mpr hr, Option.map_some, orderNamed_eq_of_perm hp layout.ordered]

/-- A map is read as it is written, if every way to write one of its values is, on a condition that
its members meet. -/
theorem mapOf?_of_mapWrittenAs {read? : Json → Option α} {writes : α → Json → Prop} {j : Json}
    {values : List (Text × α)} (h : MapWrittenAs writes values j) (hp : AtEach P j)
    (hr : ∀ value j, writes value j → P j → read? j = some value) :
    mapOf? read? j = some values := by
  cases h with
  | @object value entries layout each =>
    refine orderNamed_of_layout layout fun entry he => hr _ _ (each entry he) ?_
    have member : (some entry.1, value entry.1) ∈ entries :=
      layout.perm.mem_iff.mpr (List.mem_map_of_mem he)
    exact hp _ member

/-- What holds of every value that is read holds of each value of a map that was read. -/
theorem atEach_of_mapOf? {read? : Json → Option α} {j : Json} {values : List (Text × α)}
    (h : mapOf? read? j = some values) (hr : ∀ j value, read? j = some value → P j) :
    AtEach P j := by
  cases j with
  | object entries =>
    obtain ⟨read, h, -⟩ := Option.map_eq_some_iff.mp h
    have each : List.Forall₂ (fun entry _ => P entry.2 ∧ True) entries read :=
      (mapEntries?_eq_some_iff.mp h).imp fun entry value hv => ⟨hr entry.2 value.2 hv.2, trivial⟩
    exact ((List.forall₂_and_left entries read).mp each).1
  | _ => trivial

end ProviderDocs.Json
