import ProviderDocs.Schema.Argument
import ProviderDocs.Text.Line
import ProviderDocs.Text.Order

/-!
# Attributes

An attribute is documented by a list item with the items of the fields below it, whatever their
flags, one level further in.  A field without a description is left out together with all that lies
below it.
-/

namespace ProviderDocs

/-- The list item of an attribute at a level, without the items below it. -/
def attributeItem (level : Nat) (name description : Text) : Text :=
  List.replicate (2 * level) ' ' ++ "* ".toList ++ codeSpan name ++ " - ".toList ++ description

mutual

/-- The entry of an attribute at a level, unless its description is blank. -/
def attributeText? (subject : Subject) (level : Nat) (name : Text) (field : Field) :
    Except Fault (Option Text) :=
  match field with
  | { kind, description, element, .. } =>
    if Text.isBlank description then .ok none
    else
      let item := attributeItem level name (Text.trim description)
      match element with
      | some (.object fields) =>
        if kind.isCollection then do
          let below ← attributeTexts subject (level + 1) fields
          return some (Text.joinLines (item :: ascending below))
        else .ok (some item)
      | _ => .ok (some item)

/-- The entries of the fields of an object, at a level, in the order of the object. -/
def attributeTexts (subject : Subject) (level : Nat) :
    List (Text × Field) → Except Fault (List Text)
  | [] => .ok []
  | (name, field) :: rest => do
    field.validate subject name
    let entry ← attributeText? subject level name field
    let entries ← attributeTexts subject level rest
    return entry.toList ++ entries

end

/-- A field with a blank description is left out. -/
theorem attributeText?_of_isBlank {subject : Subject} {level : Nat} {name : Text} {field : Field}
    (h : Text.isBlank field.description = true) :
    attributeText? subject level name field = .ok none := by
  obtain ⟨kind, required, «optional», computed, forceNew, deprecated, description, element⟩ := field
  rw [attributeText?, if_pos h]

/-- A described field without an object below it is an item of its own. -/
theorem attributeText?_of_nested?_eq_none {subject : Subject} {level : Nat} {name : Text}
    {field : Field} (h : Text.isBlank field.description = false) (hn : field.nested? = none) :
    attributeText? subject level name field =
      .ok (some (attributeItem level name (Text.trim field.description))) := by
  obtain ⟨kind, required, «optional», computed, forceNew, deprecated, description, element⟩ := field
  rw [attributeText?, if_neg (by simp [h])]
  rcases element with _ | ⟨fields⟩ | ⟨scalar⟩ <;> simp_all [Field.nested?]

/-- A described field with an object below it is an item followed by those of the object. -/
theorem attributeText?_of_nested?_eq_some {subject : Subject} {level : Nat} {name : Text}
    {field : Field} {fields : Object} (h : Text.isBlank field.description = false)
    (hn : field.nested? = some fields) :
    attributeText? subject level name field = (do
      let below ← attributeTexts subject (level + 1) fields
      return some (Text.joinLines
        (attributeItem level name (Text.trim field.description) :: ascending below))) := by
  obtain ⟨kind, required, «optional», computed, forceNew, deprecated, description, element⟩ := field
  rw [attributeText?, if_neg (by simp [h])]
  rcases element with _ | ⟨inner⟩ | ⟨scalar⟩
  · simp [Field.nested?] at hn
  · by_cases hk : kind.isCollection = true
    · simp only [Field.nested?, hk, if_true, Option.some.injEq] at hn
      simp [hk, hn]
    · simp [Field.nested?, hk] at hn
  · simp [Field.nested?] at hn

end ProviderDocs
