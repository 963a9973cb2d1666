import ProviderDocs.Schema.Basic

/-!
# Fields that are reached in a schema

A schema is a tree: below a field that collects objects lie the fields of these.  A field is reached
when every field above it is one that the walk descends into (`Object.Reaches`); a walk that
descends into every field reaches them all (`Object.Holds`), and the trail of a field names those
above it (`Object.Trail`).  What holds of an object when it holds of all objects below its fields
holds of every object (`Object.induction`).
-/

namespace ProviderDocs.Object

/-- A walk through an object that goes on below the fields of one kind comes to a field, which
stands under its name. -/
inductive Reaches (descends : Field → Bool) : Object → Text × Field → Prop where
  /-- The fields of the object itself. -/
  | here {object : Object} {entry : Text × Field} (h : entry ∈ object) :
    Reaches descends object entry
  /-- The fields that are reached in the object below a field. -/
  | further {object inner : Object} {name : Text} {field : Field} {entry : Text × Field}
    (h : (name, field) ∈ object) (hd : descends field = true) (hn : field.nested? = some inner)
    (hi : Reaches descends inner entry) : Reaches descends object entry

/-- A field stands anywhere in the tree of an object. -/
def Holds (object : Object) (entry : Text × Field) : Prop :=
  object.Reaches (fun _ => true) entry

variable {descends : Field → Bool} {object : Object} {entry : Text × Field}

/-- What any walk reaches stands in the tree. -/
theorem Reaches.holds (h : object.Reaches descends entry) : object.Holds entry := by
  induction h with
  | here h => exact .here h
  | further h _ hn _ ih => exact .further h rfl hn ih

theorem not_reaches_nil : ¬Reaches descends [] entry := by
  rintro (h | ⟨h, -, -, -⟩) <;> exact absurd h List.not_mem_nil

/-- What is reached in an object is its first field, is reached below its first field, or is reached
in the rest of it. -/
theorem reaches_cons_iff {name : Text} {field : Field} {rest : Object} :
    Reaches descends ((name, field) :: rest) entry ↔
      (entry = (name, field) ∨
        descends field = true ∧
          ∃ inner, field.nested? = some inner ∧ inner.Reaches descends entry) ∨
      Reaches descends rest entry := by
  constructor
  · rintro (h | ⟨h, hd, hn, hi⟩)
    · exact (List.mem_cons.mp h).imp .inl .here
    · rcases List.mem_cons.mp h with he | h
      · cases he
        exact .inl (.inr ⟨hd, _, hn, hi⟩)
      · exact .inr (.further h hd hn hi)
  · rintro ((rfl | ⟨hd, inner, hn, hi⟩) | (h | ⟨h, hd, hn, hi⟩))
    · exact .here List.mem_cons_self
    · exact .further List.mem_cons_self hd hn hi
    · exact .here (List.mem_cons_of_mem _ h)
    · exact .further (List.mem_cons_of_mem _ h) hd hn hi

theorem sizeOf_nested?_lt {name : Text} {field : Field} {inner : Object}
    (h : (name, field) ∈ object) (hn : field.nested? = some inner) :
    sizeOf inner < sizeOf object := by
  have mem := List.sizeOf_lt_of_mem h
  obtain ⟨kind, required, «optional», computed, forceNew, deprecated, description, element⟩ := field
  -- Only an object element holds fields, and it is a part of the field.
  rcases element with _ | ⟨fields⟩ | ⟨scalar⟩
  · simp [Field.nested?] at hn
  · simp only [Field.nested?, Option.ite_none_right_eq_some, Option.some.injEq] at hn
    obtain ⟨-, rfl⟩ := hn
    simp only [Prod.mk.sizeOf_spec, Field.mk.sizeOf_spec, Option.some.sizeOf_spec,
      Element.object.sizeOf_spec] at mem
    omega
  · simp [Field.nested?] at hn

/-! ### Trails -/

/-- A walk through an object that goes on below the fields of one kind comes to a field by way of
those above it, of which the outermost is the first. -/
inductive Trail (descends : Field → Bool) : Object → List (Text × Field) → Text × Field → Prop where
  | here {object : Object} {entry : Text × Field} (h : entry ∈ object) :
    Trail descends object [] entry
  | further {object inner : Object} {name : Text} {field : Field} {above : List (Text × Field)}
    {entry : Text × Field} (h : (name, field) ∈ object) (hd : descends field = true)
    (hn : field.nested? = some inner) (ht : Trail descends inner above entry) :
    Trail descends object ((name, field) :: above) entry

theorem Trail.imp {other : Field → Bool} {above : List (Text × Field)}
    (h : object.Trail descends above entry) (ho : ∀ e ∈ above, other e.2 = true) :
    object.Trail other above entry := by
  induction h with
  | here h => exact .here h
  | further h _ hn _ ih =>
    obtain ⟨first, later⟩ := List.forall_mem_cons.mp ho
    exact .further h first hn (ih later)

theorem Trail.descends_of_mem {above : List (Text × Field)}
    (h : object.Trail descends above entry) : ∀ e ∈ above, descends e.2 = true := by
  induction h with
  | here => exact fun _ he => absurd he List.not_mem_nil
  | further _ hd _ _ ih => exact List.forall_mem_cons.mpr ⟨hd, ih⟩

/-- The last field above another one holds the object that this one stands in. -/
theorem Trail.exists_of_concat {outer : List (Text × Field)} {holder : Text × Field}
    (h : object.Trail descends (outer ++ [holder]) entry) :
    object.Trail descends outer holder ∧ descends holder.2 = true ∧
      ∃ inner, holder.2.nested? = some inner ∧ entry ∈ inner := by
  induction outer generalizing object with
  | nil =>
    cases h with
    | further hm hd hn ht =>
      cases ht with
      | here he => exact ⟨.here hm, hd, _, hn, he⟩
  | cons top outer ih =>
    cases h with
    | further hm hd hn ht =>
      obtain ⟨trail, last⟩ := ih ht
      exact ⟨.further hm hd hn trail, last⟩

/-! ### Induction -/

/-- Induction on the depth of an object. -/
theorem induction {P : Object → Prop}
    (h : ∀ object : Object, (∀ name field inner, (name, field) ∈ object →
      field.nested? = some inner → P inner) → P object) (object : Object) : P object :=
  h object fun _ _ inner hm hn =>
    have := sizeOf_nested?_lt hm hn
    induction h inner
termination_by sizeOf object

end ProviderDocs.Object
