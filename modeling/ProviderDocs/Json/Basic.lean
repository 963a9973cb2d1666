import ProviderDocs.Json.Numeral

/-!
# JSON values

A value keeps what a strict reader of its text can tell apart: the members of an object in their
order, repeated names included, the digits of a number, and whether a string is a text at all, since
an escape may name half of a surrogate pair.  Whatever is inside too many arrays and objects is not
kept.  Some values can only be passed over; the others are sound (`Json.isSound`).
-/

namespace ProviderDocs

/-- A JSON value. -/
inductive Json where
  | null
  | bool (value : Bool)
  | number (value : Numeral)
  /-- A string, or nothing if an escape in it names half of a surrogate pair. -/
  | string (text : Option Text)
  | array (items : List Json)
  | object (members : List (Option Text × Json))
  /-- An array or an object inside too many others. -/
  | tooDeep

instance : Inhabited Json := ⟨.null⟩

mutual

/-- Whether every string and name in a value is a text, every number finite in double precision,
and no array or object too deep. -/
def Json.isSound : Json → Bool
  | .null | .bool _ => true
  | .number n => n.isFinite
  | .string text => text.isSome
  | .array items => Json.areSound items
  | .object members => Json.membersAreSound members
  | .tooDeep => false

/-- Whether each of some values is sound. -/
def Json.areSound : List Json → Bool
  | [] => true
  | item :: rest => item.isSound && Json.areSound rest

/-- Whether each of some members is sound. -/
def Json.membersAreSound : List (Option Text × Json) → Bool
  | [] => true
  | (name, value) :: rest => name.isSome && value.isSound && Json.membersAreSound rest

end

end ProviderDocs
