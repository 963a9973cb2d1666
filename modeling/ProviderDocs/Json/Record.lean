import ProviderDocs.Json.Basic
import ProviderDocs.Text.Order

/-!
# Records and maps

Two ways to read an object.  A record has members with declared names: it may leave some out, hold
others that are not declared, or be written as an array of its members in their declared order
(`members?`).  A map has members with names of the author's choice (`mapOf?`); its values come out
in ascending order of their names (`pairwise_of_mapOf?`).
-/

namespace ProviderDocs.Json

/-! ### Scalars -/

/-- The text of a string. -/
def text? : Json → Option Text
  | .string text => text
  | _ => none

/-- A truth value. -/
def bool? : Json → Option Bool
  | .bool value => some value
  | _ => none

/-! ### Records -/

/-- The members of a record that have one of the declared names. -/
abbrev Members := List (Text × Json)

/-- The members of an object that have one of the declared names.  Every name has to be a text, and
no declared name may occur twice. -/
def declaredMembers? (declared : List Text) : List (Option Text × Json) → Option Members
  | [] => some []
  | (none, _) :: _ => none
  | (some name, value) :: rest => do
    let members ← declaredMembers? declared rest
    if !declared.contains name then some members
    else if (members.lookup name).isSome then none
    else some ((name, value) :: members)

/-- The members of a record written as an array, which may be cut short. -/
def positionalMembers? (declared : List Text) (items : List Json) : Option Members :=
  if items.length ≤ declared.length then some (declared.zip items) else none

/-- The members of a record, however it is written. -/
def members? (declared : List Text) : Json → Option Members
  | .object entries => declaredMembers? declared entries
  | .array items => positionalMembers? declared items
  | _ => none

/-- What a member that may be left out says. -/
def Members.optional? {α : Type} (members : Members) (name : String) (read? : Json → Option α)
    (absent : α) : Option α :=
  match members.lookup name.toList with
  | some value => read? value
  | none => some absent

/-- What a member that has to be there says. -/
def Members.required? {α : Type} (members : Members) (name : String) (read? : Json → Option α) :
    Option α :=
  (members.lookup name.toList).bind read?

/-! ### Maps -/

/-- The values of a map.  Every name has to be a text and every value readable, also one that gives
way to a later value of its name. -/
def mapEntries? {α : Type} (read? : Json → Option α) :
    List (Option Text × Json) → Option (List (Text × α))
  | [] => some []
  | (none, _) :: _ => none
  | (some name, value) :: rest => do
    let value ← read? value
    let entries ← mapEntries? read? rest
    some ((name, value) :: entries)

/-- The values of a map, in ascending order of their names. -/
def mapOf? {α : Type} (read? : Json → Option α) : Json → Option (List (Text × α))
  | .object entries => (mapEntries? read? entries).map orderNamed
  | _ => none

section

variable {α : Type} {read? : Json → Option α} {values : List (Text × α)}

theorem pairwise_of_mapOf? {value : Json} (h : mapOf? read? value = some values) :
    (values.map Prod.fst).Pairwise (· < ·) := by
  cases value with
  | object entries =>
    obtain ⟨read, -, rfl⟩ := Option.map_eq_some_iff.mp h
    exact pairwise_orderNamed read
  | _ => cases h

/-- The values of a map that may be left out stand in order, too. -/
theorem pairwise_of_optional? {members : Members} {name : String}
    (h : members.optional? name (mapOf? read?) [] = some values) :
    (values.map Prod.fst).Pairwise (· < ·) := by
  unfold Members.optional? at h
  split at h
  · exact pairwise_of_mapOf? h
  · cases h
    exact .nil

end

end ProviderDocs.Json
