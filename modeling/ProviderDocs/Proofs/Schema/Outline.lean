import Mathlib.Data.List.Forall2
import ProviderDocs.Proofs.Schema.TopLevel

/-!
# The outline of an attribute

The entry of an attribute lists a tree of items, each with the items below it, and the fields
without a description are cut off that tree together with all that lies below them
(`attributeText?_outline`).  The items of an object are brought in order as texts, with the items
below them; these stay together, since a text is moved as a whole (`Outline.text_item`).
-/

namespace ProviderDocs

variable {subject : Subject}

/-- An item of a list, with the items below it. -/
inductive Outline where
  | item (entry : Text × Field) (below : List Outline)

namespace Outline

/-- The field of the first item. -/
def entry : Outline → Text × Field
  | item entry _ => entry

mutual

/-- The items of an outline as they are listed from a level on, each before those below it. -/
def items (level : Nat) : Outline → List Text
  | item entry below =>
    itemText level entry.1 entry.2 :: itemsOf (level + 1) below

/-- The items of several outlines, one outline after the other. -/
def itemsOf (level : Nat) : List Outline → List Text
  | [] => []
  | first :: rest => first.items level ++ itemsOf level rest

end

/-- An outline as it is listed from a level on. -/
def text (level : Nat) (outline : Outline) : Text :=
  Text.joinLines (outline.items level)

theorem items_ne_nil (level : Nat) (outline : Outline) : outline.items level ≠ [] := by
  cases outline
  exact List.cons_ne_nil _ _

theorem itemsOf_eq_flatten (level : Nat) (outlines : List Outline) :
    itemsOf level outlines = (outlines.map (items level)).flatten := by
  induction outlines with
  | nil => rfl
  | cons first rest ih => rw [itemsOf, ih, List.map_cons, List.flatten_cons]

/-- Below an item stand the texts of the outlines below it, one after the other. -/
theorem text_item (level : Nat) (entry : Text × Field) (below : List Outline) :
    (item entry below).text level =
      Text.joinLines (itemText level entry.1 entry.2 :: below.map (text (level + 1))) := by
  have blocks : below.map (text (level + 1)) =
      (below.map (items (level + 1))).map Text.joinLines := List.map_map.symm
  have full : ∀ block ∈ below.map (items (level + 1)), block ≠ [] :=
    List.forall_mem_map.mpr fun outline _ => outline.items_ne_nil _
  rw [blocks, text, items, itemsOf_eq_flatten]
  exact (Text.joinLines_append_map_joinLines [_] full).symm

end Outline

/-- The described fields of the object below a field, whatever their flags. -/
def Field.describedBelow (field : Field) : Object :=
  (field.nested?.getD []).filter fun entry => entry.2.isDescribed

/-- An outline is that of its field from a level on: below every item stand the items of the
described fields below its field, each once, in ascending order of their whole texts. -/
inductive Outline.Arranged : Nat → Outline → Prop where
  | item {level : Nat} {entry : Text × Field} {below : List Outline}
    (children : (below.map Outline.entry).Perm entry.2.describedBelow)
    (order : (below.map (Outline.text (level + 1))).Pairwise fun t u => ¬u < t)
    (further : ∀ outline ∈ below, outline.Arranged (level + 1)) :
    Arranged level (.item entry below)

/-! ### The outline of an entry -/

/-- The outline of a field from a level on is listed by a text. -/
def ListsOutline (level : Nat) (entry : Text × Field) (t : Text) : Prop :=
  ∃ outline : Outline, outline.entry = entry ∧ outline.Arranged level ∧ outline.text level = t

/-- Texts that list the outlines of some fields are the texts of outlines. -/
theorem exists_outlines {level : Nat} {entries : List (Text × Field)} {texts : List Text}
    (h : List.Forall₂ (ListsOutline level) entries texts) :
    ∃ outlines : List Outline, outlines.map Outline.entry = entries ∧
      (∀ outline ∈ outlines, outline.Arranged level) ∧
      outlines.map (Outline.text level) = texts := by
  induction h with
  | nil => exact ⟨[], rfl, by simp, rfl⟩
  | cons first _ ih =>
    obtain ⟨outline, rfl, arranged, rfl⟩ := first
    obtain ⟨outlines, rfl, later, rfl⟩ := ih
    exact ⟨outline :: outlines, rfl, List.forall_mem_cons.mpr ⟨arranged, later⟩, rfl⟩

/-- Below an item the texts of outlines are brought in order. -/
theorem listsOutline_joinLines {level : Nat} {name : Text} {field : Field} {texts : List Text}
    (h : List.Forall₂ (ListsOutline (level + 1)) field.describedBelow texts) :
    ListsOutline level (name, field)
      (Text.joinLines (itemText level name field :: ascending texts)) := by
  obtain ⟨outlines, entries, arranged, rfl⟩ := exists_outlines h
  have sorted := orderBy_perm (Outline.text (level + 1)) outlines
  refine ⟨.item (name, field) (orderBy (Outline.text (level + 1)) outlines), rfl,
    .item ?_ ?_ ?_, ?_⟩
  · rw [← entries]
    exact sorted.map _
  · exact List.pairwise_map.mpr (pairwise_orderBy _ outlines)
  · exact fun outline ho => arranged outline (sorted.mem_iff.mp ho)
  · rw [Outline.text_item, map_orderBy]

/-- What a described field contributes is the outline of the field. -/
theorem listsOutline_of_mem (object : Object) :
    ∀ {level : Nat} {name : Text} {field : Field} {t : Text}, (name, field) ∈ object →
      attributeText? subject level name field = .ok (some t) →
      ListsOutline level (name, field) t := by
  induction object using Object.induction with
  | h object inner =>
    intro level name field t hm h
    cases hd : Text.isBlank field.description with
    | true =>
      rw [attributeText?_of_isBlank hd] at h
      cases h
    | false =>
      cases hn : field.nested? with
      | none =>
        rw [attributeText?_of_nested?_eq_none hd hn, attributeItem_eq] at h
        cases h
        have none : List.Forall₂ (ListsOutline (level + 1)) field.describedBelow [] := by
          simp [Field.describedBelow, hn]
        simpa [ascending, orderBy, Text.joinLines] using listsOutline_joinLines none
      | some nested =>
        rw [attributeText?_of_nested?_eq_some hd hn, attributeItem_eq] at h
        obtain ⟨texts, ht, h⟩ := bind_eq_ok_iff.mp h
        cases h
        apply listsOutline_joinLines
        have listed := (attributeTexts_eq_ok ht).forall₂
        simp only [Bool.true_and] at listed
        rw [Field.describedBelow, hn, Option.getD_some]
        -- Only of fields that stand in the object is it known that they have outlines.
        refine ((List.forall₂_and_left _ _).mpr ⟨fun _ => id, listed⟩).imp ?_
        rintro ⟨child, below⟩ item ⟨hc, hi⟩
        exact inner name field nested hm hn (List.mem_filter.mp hc).1 hi

/-! ### What lies below a field without a description -/

mutual

/-- A field with nothing left below those fields that have no description. -/
def Field.cutBlank (field : Field) : Field :=
  match field with
  | { kind, required, optional, computed, forceNew, deprecated, description, element } =>
    if Text.isBlank description then
      ⟨kind, required, optional, computed, forceNew, deprecated, description, none⟩
    else
      match element with
      | some (.object fields) =>
        ⟨kind, required, optional, computed, forceNew, deprecated, description,
          some (.object (Object.cutBlank fields))⟩
      | element => ⟨kind, required, optional, computed, forceNew, deprecated, description, element⟩

/-- The fields of an object, with nothing left below those that have no description. -/
def Object.cutBlank : Object → Object
  | [] => []
  | (name, field) :: rest => (name, field.cutBlank) :: Object.cutBlank rest

end

section cutBlank

variable {field : Field}

theorem description_cutBlank : field.cutBlank.description = field.description := by
  obtain ⟨_, _, _, _, _, _, _, _ | ⟨_⟩ | ⟨_⟩⟩ := field <;> unfold Field.cutBlank <;>
    split_ifs <;> rfl

theorem validate_cutBlank (name : Text) :
    field.cutBlank.validate subject name = field.validate subject name := by
  obtain ⟨_, _, _, _, _, _, _, _ | ⟨_⟩ | ⟨_⟩⟩ := field <;> unfold Field.cutBlank <;>
    split_ifs <;> rfl

theorem nested?_cutBlank (h : Text.isBlank field.description = false) :
    field.cutBlank.nested? = field.nested?.map Object.cutBlank := by
  obtain ⟨kind, _, _, _, _, _, _, _ | ⟨_⟩ | ⟨_⟩⟩ := field <;> unfold Field.cutBlank <;>
    rw [if_neg (by simpa using h)] <;> cases kind <;> rfl

end cutBlank

/-- If this is known of the object below a field, it is known of the entry of the field. -/
theorem attributeText?_cutBlank_of {field : Field}
    (h : ∀ inner, field.nested? = some inner → ∀ level,
      attributeTexts subject level inner.cutBlank = attributeTexts subject level inner)
    (level : Nat) (name : Text) :
    attributeText? subject level name field.cutBlank =
      attributeText? subject level name field := by
  cases hd : Text.isBlank field.description with
  | true =>
    rw [attributeText?_of_isBlank hd, attributeText?_of_isBlank (by rwa [description_cutBlank])]
  | false =>
    have hd' : Text.isBlank field.cutBlank.description = false := by
      rwa [description_cutBlank]
    have below := nested?_cutBlank hd
    cases hn : field.nested? with
    | none =>
      rw [hn, Option.map_none] at below
      rw [attributeText?_of_nested?_eq_none hd hn, attributeText?_of_nested?_eq_none hd' below,
        description_cutBlank]
    | some inner =>
      rw [hn, Option.map_some] at below
      rw [attributeText?_of_nested?_eq_some hd hn, attributeText?_of_nested?_eq_some hd' below,
        description_cutBlank, h inner hn]

theorem attributeTexts_cutBlank (object : Object) :
    ∀ level, attributeTexts subject level object.cutBlank =
      attributeTexts subject level object := by
  induction object using Object.induction with
  | h object inner =>
    intro level
    induction object with
    | nil => rfl
    | cons entry rest ih =>
      obtain ⟨name, field⟩ := entry
      rw [Object.cutBlank, attributeTexts, attributeTexts, validate_cutBlank,
        attributeText?_cutBlank_of (inner name field · List.mem_cons_self),
        ih fun name field object hm => inner name field object (List.mem_cons_of_mem _ hm)]

theorem attributeText?_cutBlank (level : Nat) (name : Text) (field : Field) :
    attributeText? subject level name field.cutBlank = attributeText? subject level name field :=
  attributeText?_cutBlank_of (fun inner _ => attributeTexts_cutBlank inner) level name

/-! ### The entry of an attribute -/

/-- The entry of an accepted field is missing if the field has no description, and is an outline of
the field otherwise.  It does not depend on what lies below fields without a description. -/
theorem attributeText?_outline {level : Nat} {name : Text} {field : Field} {entry : Option Text}
    (h : attributeText? subject level name field = .ok entry) :
    (entry = none ↔ Text.isBlank field.description = true) ∧
      (Text.isBlank field.description = false → ∃ outline : Outline,
        outline.entry = (name, field) ∧ outline.Arranged level ∧
          entry = some (outline.text level)) ∧
      ∀ other : Field, other.cutBlank = field.cutBlank →
        attributeText? subject level name other = .ok entry := by
  have outlined : Text.isBlank field.description = false → ∃ outline : Outline,
      outline.entry = (name, field) ∧ outline.Arranged level ∧
        entry = some (outline.text level) := by
    intro hd
    obtain ⟨below, rfl, -⟩ := attributeText?_eq_ok (by simp [Field.isDescribed, hd]) h
    obtain ⟨outline, he, arranged, text⟩ :=
      listsOutline_of_mem [(name, field)] List.mem_cons_self h
    exact ⟨outline, he, arranged, text ▸ rfl⟩
  refine ⟨⟨fun missing => ?_, fun hd => ?_⟩, outlined, fun other same => ?_⟩
  · by_contra hd
    obtain ⟨outline, -, -, found⟩ := outlined (Bool.not_eq_true _ ▸ hd)
    rw [missing] at found
    cases found
  · rw [attributeText?_of_isBlank hd] at h
    cases h
    rfl
  · rw [← attributeText?_cutBlank, same, attributeText?_cutBlank, h]

/-- The state of a zone.  The order of the texts is not that of the names, one of the descriptions
has two lines, and a child without a description holds other fields. -/
def stateField (unseen : Object) : Field :=
  let code : Field := { kind := .int, «optional» := true, description := "Code.".toList }
  let node : Field :=
    { kind := .set, required := true, description := " Node,\n  or none. ".toList,
      element := some (.object
        [("a".toList, { code with kind := .string }), ("code".toList, code)]) }
  let hidden : Field :=
    { kind := .list, computed := true, description := "\t".toList,
      element := some (.object unseen) }
  { kind := .list, computed := true, description := "State.".toList,
    element := some (.object
      [("node".toList, node), ("node-a".toList, code), ("unseen".toList, hidden)]) }

theorem stateField_outline :
    ∃ entry, attributeText? ⟨"cdn_zone".toList, true⟩ 1 "state".toList (stateField []) = .ok entry ∧
      entry ≠ none ∧
      (∃ outline : Outline, outline.entry = ("state".toList, stateField []) ∧
        outline.Arranged 1 ∧ entry = some (outline.text 1)) ∧
      ∀ unseen, attributeText? ⟨"cdn_zone".toList, true⟩ 1 "state".toList (stateField unseen) =
        .ok entry := by
  have described : Text.isBlank (stateField []).description = false := by decide
  have accepted : ∃ entry,
      attributeText? ⟨"cdn_zone".toList, true⟩ 1 "state".toList (stateField []) = .ok entry :=
    ⟨_, rfl⟩
  obtain ⟨entry, h⟩ := accepted
  obtain ⟨missing, outlined, unchanged⟩ := attributeText?_outline h
  refine ⟨entry, h, fun none => ?_, outlined described, fun unseen => unchanged _ ?_⟩
  · exact absurd (missing.mp none) (by simp [described])
  · rfl

/-- The entries below an item are in the order of the texts, which is not that of the names. -/
example :
    attributeText? ⟨"cdn_zone".toList, true⟩ 1 "state".toList (stateField []) =
      .ok (some (Text.joinLines
        ["  * `state` - State.".toList, "    * `node-a` - Code.".toList,
          "    * `node` - Node,".toList, "  or none.".toList,
          "      * `a` - Code.".toList, "      * `code` - Code.".toList])) := by
  decide +kernel

end ProviderDocs
