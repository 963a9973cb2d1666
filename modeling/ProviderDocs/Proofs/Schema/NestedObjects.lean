import Mathlib.Data.List.Forall2
import ProviderDocs.Proofs.Schema.Walks

/-!
# The objects that a field leads to

A field leads to the object below it, and through the arguments of this object to further ones
(`Field.LeadsTo`).  The way to an object names the fields on it, from the first one on, so that the
objects are in pre-order when their ways ascend (`Field.ListsObjects`).

The sections of a field are those of the objects that it leads to, in pre-order, each with the depth
and the parent that its way gives (`sections_preOrder`):

* `forall₂_sections`: the walk makes a section of each object, in its own order (`Field.objects`);
* `mem_objects_iff`, `pairwise_objects`: this order lists the objects, by ascending ways;
* `sections_cutUnlisted`: what lies below a child that is no argument is not looked at.
-/

namespace ProviderDocs

variable {subject : Subject}

/-! ### Objects and the ways to them -/

/-- A field leads to an object by the way of some names: its own, and those of the arguments down to
the one that holds the object, each of which stands in the object of the one before. -/
inductive Field.LeadsTo : Field → Text → List Text → Object → Prop where
  | own {field : Field} {name : Text} {object : Object} (hn : field.nested? = some object) :
    LeadsTo field name [name] object
  | further {field holder : Field} {name child : Text} {way : List Text} {inner object : Object}
    (hn : field.nested? = some inner) (hm : (child, holder) ∈ inner)
    (ha : holder.isArgument = true) (leads : holder.LeadsTo child way object) :
    LeadsTo field name (name :: way) object

/-- In each object that a field leads to the names ascend. -/
def Field.LeadsInOrder (field : Field) (name : Text) : Prop :=
  ∀ way object, field.LeadsTo name way object → object.Ordered

/-- Objects are those that a field leads to, each once and in pre-order: an object stands before
those that are reached through it, and what is reached through a child before what is reached
through a child with a greater name. -/
structure Field.ListsObjects (field : Field) (name : Text) (places : List (List Text × Object)) :
    Prop where
  mem_iff : ∀ way object, (way, object) ∈ places ↔ field.LeadsTo name way object
  pairwise : (places.map Prod.fst).Pairwise (List.Lex (· < ·))

/-- A section is that of the object at the end of a way.  It names the last field of the way, its
parent is the field before that, and its depth grows by one with each step of the way; where the way
has one field only, parent and depth are those given for it. -/
def Section.IsAt (depth : Nat) (parent : Option Text) (place : List Text × Object) (s : Section) :
    Prop :=
  ∃ above, place.1 = above ++ [s.name] ∧ s.parent = above.getLast?.or parent ∧
    s.depth = depth + above.length ∧ s.lines = place.2.sectionLines

mutual

/-- The objects that a field leads to, the one that it holds before those further down. -/
def Field.objects (name : Text) (field : Field) : List (List Text × Object) :=
  match field with
  | { kind, element, .. } =>
    match element with
    | some (.object fields) =>
      if kind.isCollection then
        ([name], fields) :: (Object.argumentObjects fields).map (Prod.map (List.cons name) id)
      else []
    | _ => []

/-- The objects that the arguments of an object lead to. -/
def Object.argumentObjects : Object → List (List Text × Object)
  | [] => []
  | (name, field) :: rest =>
    if field.isArgument then field.objects name ++ Object.argumentObjects rest
    else Object.argumentObjects rest

end

theorem objects_of_nested?_eq_none {field : Field} (h : field.nested? = none) (name : Text) :
    field.objects name = [] := by
  obtain ⟨_, _, _, _, _, _, _, _ | ⟨_⟩ | ⟨_⟩⟩ := field <;> simp_all [Field.objects, Field.nested?]

theorem objects_of_nested?_eq_some {field : Field} {inner : Object}
    (h : field.nested? = some inner) (name : Text) :
    field.objects name =
      ([name], inner) :: inner.argumentObjects.map (Prod.map (List.cons name) id) := by
  obtain ⟨kind, _, _, _, _, _, _, _ | ⟨_⟩ | ⟨_⟩⟩ := field
  · simp [Field.nested?] at h
  · cases hk : kind.isCollection <;> simp_all [Field.objects, Field.nested?]
  · simp [Field.nested?] at h

theorem objects_eq_nil_iff {field : Field} {name : Text} :
    field.objects name = [] ↔ field.nested? = none := by
  cases hn : field.nested? with
  | none => simp [objects_of_nested?_eq_none hn]
  | some inner => simp [objects_of_nested?_eq_some hn]

theorem argumentObjects_eq_flatMap (object : Object) :
    object.argumentObjects =
      (object.filter fun entry => entry.2.isArgument).flatMap
        fun entry => entry.2.objects entry.1 := by
  induction object with
  | nil => rfl
  | cons entry rest ih =>
    obtain ⟨name, field⟩ := entry
    rw [Object.argumentObjects, List.filter_cons, ih]
    split_ifs
    · rfl
    · rfl

theorem mem_argumentObjects_iff {object : Object} {place : List Text × Object} :
    place ∈ object.argumentObjects ↔
      ∃ name field, (name, field) ∈ object ∧ field.isArgument = true ∧
        place ∈ field.objects name := by
  rw [argumentObjects_eq_flatMap, List.mem_flatMap]
  constructor
  · rintro ⟨⟨name, field⟩, hm, hp⟩
    obtain ⟨hm, ha⟩ := List.mem_filter.mp hm
    exact ⟨name, field, hm, ha, hp⟩
  · rintro ⟨name, field, hm, ha, hp⟩
    exact ⟨(name, field), List.mem_filter.mpr ⟨hm, ha⟩, hp⟩

/-! ### The walk lists the objects -/

/-- If this is known of the object below a field, it is known of the field. -/
theorem mem_objects_iff_of {field : Field}
    (h : ∀ inner, field.nested? = some inner → ∀ way object, (way, object) ∈ inner.argumentObjects ↔
      ∃ name holder, (name, holder) ∈ inner ∧ holder.isArgument = true ∧
        holder.LeadsTo name way object)
    {name : Text} {way : List Text} {object : Object} :
    (way, object) ∈ field.objects name ↔ field.LeadsTo name way object := by
  constructor
  · intro hm
    cases hn : field.nested? with
    | none =>
      rw [objects_of_nested?_eq_none hn] at hm
      exact absurd hm List.not_mem_nil
    | some inner =>
      rw [objects_of_nested?_eq_some hn, List.mem_cons] at hm
      rcases hm with he | hm
      · cases he
        exact .own hn
      · obtain ⟨⟨rest, last⟩, hl, he⟩ := List.mem_map.mp hm
        cases he
        obtain ⟨child, holder, hc, ha, leads⟩ := (h inner hn rest last).mp hl
        exact .further hn hc ha leads
  · intro leads
    cases leads with
    | own hn =>
      rw [objects_of_nested?_eq_some hn]
      exact List.mem_cons_self
    | @further _ holder _ child way inner _ hn hc ha leads =>
      rw [objects_of_nested?_eq_some hn]
      exact List.mem_cons_of_mem _ (List.mem_map.mpr
        ⟨(way, object), (h inner hn way object).mpr ⟨child, holder, hc, ha, leads⟩, rfl⟩)

theorem mem_argumentObjects_iff_leadsTo (object : Object) :
    ∀ way inner, (way, inner) ∈ object.argumentObjects ↔
      ∃ name field, (name, field) ∈ object ∧ field.isArgument = true ∧
        field.LeadsTo name way inner := by
  induction object using Object.induction with
  | h object below =>
    intro way inner
    rw [mem_argumentObjects_iff]
    refine exists_congr fun name => exists_congr fun field => and_congr_right fun hm =>
      and_congr_right fun _ => ?_
    exact mem_objects_iff_of (below name field · hm)

theorem mem_objects_iff {field : Field} {name : Text} {way : List Text} {object : Object} :
    (way, object) ∈ field.objects name ↔ field.LeadsTo name way object :=
  mem_objects_iff_of fun inner _ => mem_argumentObjects_iff_leadsTo inner

/-- A way begins with the name of the field that it starts at. -/
theorem Field.LeadsTo.exists_way {field : Field} {name : Text} {way : List Text} {object : Object}
    (h : field.LeadsTo name way object) : ∃ rest, way = name :: rest := by
  cases h with
  | own => exact ⟨[], rfl⟩
  | further => exact ⟨_, rfl⟩

/-- If this is known of the object below a field, it is known of the field. -/
theorem pairwise_objects_of {field : Field} {name : Text}
    (h : ∀ inner, field.nested? = some inner →
      (inner.argumentObjects.map Prod.fst).Pairwise (List.Lex (· < ·))) :
    ((field.objects name).map Prod.fst).Pairwise (List.Lex (· < ·)) := by
  cases hn : field.nested? with
  | none =>
    rw [objects_of_nested?_eq_none hn]
    exact .nil
  | some inner =>
    rw [objects_of_nested?_eq_some hn, List.map_cons, List.pairwise_cons, List.map_map]
    constructor
    · intro way hw
      obtain ⟨⟨rest, object⟩, hm, rfl⟩ := List.mem_map.mp hw
      obtain ⟨child, holder, -, -, leads⟩ := (mem_argumentObjects_iff_leadsTo _ _ _).mp hm
      obtain ⟨later, rfl⟩ := leads.exists_way
      exact .cons .nil
    · have ways : Prod.fst ∘ Prod.map (List.cons name) id =
          List.cons name ∘ (Prod.fst : List Text × Object → List Text) := rfl
      rw [ways, ← List.map_map]
      exact List.pairwise_map.mpr ((h inner hn).imp .cons)

/-- What is reached through different children of an object is in the order of their names. -/
theorem pairwise_argumentObjects (object : Object) (ordered : object.Ordered)
    (further : ∀ name field, (name, field) ∈ object → field.isArgument = true →
      field.LeadsInOrder name) :
    (object.argumentObjects.map Prod.fst).Pairwise (List.Lex (· < ·)) := by
  induction object using Object.induction with
  | h object below =>
    rw [argumentObjects_eq_flatMap, List.map_flatMap, List.pairwise_flatMap]
    constructor
    · rintro ⟨name, field⟩ hm
      obtain ⟨hm, ha⟩ := List.mem_filter.mp hm
      refine pairwise_objects_of fun inner hn => below name field inner hm hn ?_ ?_
      · exact further name field hm ha _ _ (.own hn)
      · exact fun child holder hc hh way last leads =>
          further name field hm ha _ _ (.further hn hc hh leads)
    · refine (List.Pairwise.filter _ (List.pairwise_map.mp ordered)).imp ?_
      rintro ⟨name, field⟩ ⟨name', field'⟩ less way hw way' hw'
      obtain ⟨⟨way, inner⟩, hm, rfl⟩ := List.mem_map.mp hw
      obtain ⟨⟨way', inner'⟩, hm', rfl⟩ := List.mem_map.mp hw'
      obtain ⟨rest, rfl⟩ := (mem_objects_iff.mp hm).exists_way
      obtain ⟨rest', rfl⟩ := (mem_objects_iff.mp hm').exists_way
      exact .rel less

theorem pairwise_objects {field : Field} {name : Text} (ordered : field.LeadsInOrder name) :
    ((field.objects name).map Prod.fst).Pairwise (List.Lex (· < ·)) :=
  pairwise_objects_of fun inner hn =>
    pairwise_argumentObjects inner (ordered _ _ (.own hn)) fun _ _ hm ha _ _ leads =>
      ordered _ _ (.further hn hm ha leads)

theorem listsObjects_objects {field : Field} {name : Text} (ordered : field.LeadsInOrder name) :
    field.ListsObjects name (field.objects name) where
  mem_iff _ _ := mem_objects_iff
  pairwise := pairwise_objects ordered

/-! ### The walk makes their sections -/

/-- A section further down, seen from one field further up. -/
theorem Section.IsAt.cons {depth : Nat} {parent : Option Text} {name : Text}
    {place : List Text × Object} {s : Section} (h : s.IsAt (depth + 1) (some name) place) :
    s.IsAt depth parent (Prod.map (List.cons name) id place) := by
  obtain ⟨above, way, holder, level, lines⟩ := h
  refine ⟨name :: above, congrArg (List.cons name) way, ?_, ?_, lines⟩
  · rw [holder, List.getLast?_cons]
    cases above.getLast? <;> rfl
  · rw [level, List.length_cons]
    omega

/-- If this is known of the object below a field, it is known of the field. -/
theorem forall₂_sections_of {field : Field}
    (h : ∀ inner, field.nested? = some inner → ∀ depth parent found,
      inner.SectionsAre subject depth parent found →
        List.Forall₂ (Section.IsAt depth parent) inner.argumentObjects found)
    {depth : Nat} {parent : Option Text} {name : Text} {found : List Section}
    (hy : (sections subject depth parent name field).Yields found) :
    List.Forall₂ (Section.IsAt depth parent) (field.objects name) found := by
  cases hn : field.nested? with
  | none =>
    rw [sections_of_nested?_eq_none hn] at hy
    rw [Report.yields_pure hy, objects_of_nested?_eq_none hn]
    exact .nil
  | some inner =>
    obtain ⟨below, hb, rfl⟩ := sections_yields hn hy
    rw [objects_of_nested?_eq_some hn]
    refine .cons ⟨[], rfl, rfl, rfl, rfl⟩ (List.forall₂_map_left_iff.mpr ?_)
    exact (h inner hn _ _ below hb).imp fun _ _ => .cons

theorem forall₂_argumentObjects (object : Object) :
    ∀ depth parent found, object.SectionsAre subject depth parent found →
      List.Forall₂ (Section.IsAt depth parent) object.argumentObjects found := by
  induction object using Object.induction with
  | h object below =>
    intro depth parent found h
    induction h with
    | nil => exact .nil
    | skip ha _ ih =>
      rw [Object.argumentObjects, if_neg (by simp [ha])]
      exact ih fun name field inner hm => below name field inner (List.mem_cons_of_mem _ hm)
    | @take name field rest part found ha first _ ih =>
      rw [Object.argumentObjects, if_pos ha]
      exact List.rel_append (forall₂_sections_of (below name field · List.mem_cons_self) first)
        (ih fun name field inner hm => below name field inner (List.mem_cons_of_mem _ hm))

theorem forall₂_sections {depth : Nat} {parent : Option Text} {name : Text} {field : Field}
    {found : List Section} (h : (sections subject depth parent name field).Yields found) :
    List.Forall₂ (Section.IsAt depth parent) (field.objects name) found :=
  forall₂_sections_of (fun inner _ => forall₂_argumentObjects inner) h

/-! ### What is not looked at -/

mutual

/-- A field with nothing left below those children that are no arguments. -/
def Field.cutUnlisted (field : Field) : Field :=
  match field with
  | { kind, required, optional, computed, forceNew, deprecated, description, element } =>
    match element with
    | some (.object fields) =>
      ⟨kind, required, optional, computed, forceNew, deprecated, description,
        some (.object (Object.cutUnlisted fields))⟩
    | element => ⟨kind, required, optional, computed, forceNew, deprecated, description, element⟩

/-- The fields of an object, with nothing left below those that are no arguments. -/
def Object.cutUnlisted : Object → Object
  | [] => []
  | (name, field) :: rest =>
    (name, if field.isArgument then field.cutUnlisted else { field with element := none }) ::
      Object.cutUnlisted rest

end

theorem cutUnlisted_eq (field : Field) :
    field.cutUnlisted = field.mapFields Object.cutUnlisted := by
  obtain ⟨_, _, _, _, _, _, _, _ | ⟨_⟩ | ⟨_⟩⟩ := field <;> rfl

/-- If this is known of the object below a field, it is known of the field. -/
theorem sections_cutUnlisted_of {field : Field}
    (h : ∀ inner, field.nested? = some inner → ∀ depth name,
      argumentLists subject depth name inner.cutUnlisted = argumentLists subject depth name inner)
    (depth : Nat) (parent : Option Text) (name : Text) :
    sections subject depth parent name field.cutUnlisted =
      sections subject depth parent name field := by
  have below := nested?_mapFields Object.cutUnlisted field
  rw [← cutUnlisted_eq] at below
  cases hn : field.nested? with
  | none =>
    rw [hn, Option.map_none] at below
    rw [sections_of_nested?_eq_none hn, sections_of_nested?_eq_none below]
  | some inner =>
    rw [hn, Option.map_some] at below
    rw [sections_of_nested?_eq_some hn, sections_of_nested?_eq_some below, h inner hn]

theorem argumentLists_cutUnlisted (object : Object) :
    ∀ depth name, argumentLists subject depth name object.cutUnlisted =
      argumentLists subject depth name object := by
  induction object using Object.induction with
  | h object inner =>
    intro depth name
    induction object with
    | nil => rfl
    | cons entry rest ih =>
      obtain ⟨child, field⟩ := entry
      have ih := ih fun name field object hm => inner name field object (List.mem_cons_of_mem _ hm)
      have below := sections_cutUnlisted_of (inner child field · List.mem_cons_self) (depth + 1)
        (some name) child
      rw [Object.cutUnlisted, argumentLists, argumentLists, ih]
      by_cases ha : field.isArgument = true
      · rw [if_pos ha, below, cutUnlisted_eq, validate_mapFields, isArgument_mapFields,
          documentArgument_mapFields, add_mapFields]
      · -- A child that is no argument is checked, and the check does not look below it.
        have same : ({ field with element := none } : Field).isArgument = field.isArgument := rfl
        have valid : ({ field with element := none } : Field).validate subject child =
            field.validate subject child := rfl
        rw [if_neg ha, same, valid, if_neg ha, if_neg ha]

theorem sections_cutUnlisted (depth : Nat) (parent : Option Text) (name : Text) (field : Field) :
    sections subject depth parent name field.cutUnlisted =
      sections subject depth parent name field :=
  sections_cutUnlisted_of (fun inner _ => argumentLists_cutUnlisted inner) depth parent name

/-! ### The sections of a field -/

/-- The sections of a field are those of the objects that it leads to, one for each and in
pre-order; there are none exactly if the field holds no object.  They do not depend on what lies
below children that are no arguments, and neither does what the walk comes to. -/
theorem sections_preOrder {depth : Nat} {parent : Option Text} {name : Text} {field : Field}
    {found : List Section} (ordered : field.LeadsInOrder name)
    (h : (sections subject depth parent name field).Yields found) :
    (∃ places, field.ListsObjects name places ∧
        List.Forall₂ (Section.IsAt depth parent) places found) ∧
      (found = [] ↔ field.nested? = none) ∧
      ∀ other : Field, other.cutUnlisted = field.cutUnlisted →
        sections subject depth parent name other = sections subject depth parent name field := by
  have walked := forall₂_sections h
  refine ⟨⟨_, listsObjects_objects ordered, walked⟩, ?_, fun other same => ?_⟩
  · rw [← @objects_eq_nil_iff field name, ← List.length_eq_zero_iff, ← List.length_eq_zero_iff,
      walked.length_eq]
  · rw [← sections_cutUnlisted, same, sections_cutUnlisted]

/-- A rule and a group hold rules, and a child that is computed holds something else. -/
def ruleField (unseen : Object) : Field :=
  let key : Field := { kind := .string, required := true, description := "Key.".toList }
  let rule : Field :=
    { kind := .set, «optional» := true, description := "Rule.".toList,
      element := some (.object [("key".toList, key)]) }
  let group : Field :=
    { kind := .list, required := true, description := "Group.".toList,
      element := some (.object [("rule".toList, rule)]) }
  let hits : Field :=
    { kind := .list, computed := true, description := "Hits.".toList,
      element := some (.object unseen) }
  { kind := .map, description := "Rule.".toList,
    element := some (.object
      [("group".toList, group), ("hits".toList, hits), ("rule".toList, rule)]) }

theorem ruleField_preOrder :
    ∃ found, (ruleField []).LeadsInOrder "rule".toList ∧
      (sections ⟨"cdn_zone".toList, true⟩ 2 (some "zone".toList) "rule".toList
        (ruleField [])).Yields found ∧
      (∃ places, (ruleField []).ListsObjects "rule".toList places ∧
        List.Forall₂ (Section.IsAt 2 (some "zone".toList)) places found) ∧
      found ≠ [] ∧
      ∀ unseen, sections ⟨"cdn_zone".toList, true⟩ 2 (some "zone".toList) "rule".toList
          (ruleField unseen) =
        sections ⟨"cdn_zone".toList, true⟩ 2 (some "zone".toList) "rule".toList (ruleField []) := by
  have ascend : ∀ place ∈ (ruleField []).objects "rule".toList,
      (place.2.map Prod.fst).Pairwise (· < ·) := by decide +kernel
  have ordered : (ruleField []).LeadsInOrder "rule".toList :=
    fun way object leads => ascend (way, object) (mem_objects_iff.mpr leads)
  obtain ⟨found, h⟩ := Report.exists_result_eq_ok
    (show (sections ⟨"cdn_zone".toList, true⟩ 2 (some "zone".toList) "rule".toList
      (ruleField [])).result.1.isOk = true by decide +kernel)
  have yields := Report.yields_of_result h
  obtain ⟨listed, nothing, unchanged⟩ := sections_preOrder ordered yields
  refine ⟨found, ordered, yields, listed, fun none => ?_, fun unseen => unchanged _ rfl⟩
  exact absurd (nothing.mp none) (by simp [ruleField, Field.nested?, Kind.isCollection])

/-- Two of the ways end with one name, below fields with different names. -/
example :
    ((ruleField []).objects "rule".toList).map Prod.fst =
      [["rule"], ["rule", "group"], ["rule", "group", "rule"], ["rule", "rule"]].map
        (List.map String.toList) := by
  decide +kernel

end ProviderDocs
