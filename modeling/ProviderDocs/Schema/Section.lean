import ProviderDocs.Schema.Argument
import ProviderDocs.Text.Line
import ProviderDocs.Text.Order

/-!
# Sections of nested objects

The arguments of a nested object are listed in a section of their own, titled with the name of the
field that holds the object.  `sections` collects the section of a field and of all objects below it
that are reached through arguments; `arrange` brings sections into the order of a document.
-/

namespace ProviderDocs

/-- The section of one nested object. -/
structure Section where
  /-- The name of the field that holds the object. -/
  name : Text
  /-- The name of the field one level up. -/
  parent : Option Text
  /-- The number of objects around the field. -/
  depth : Nat
  /-- The lines of the required arguments, then those of the optional ones. -/
  lines : List Text
deriving DecidableEq, Repr

namespace Section

/-- The line that opens a section.  Below the top it names the field one level up too. -/
def title (s : Section) : Text :=
  match s.parent with
  | some parent =>
    if 0 < s.depth then
      "The ".toList ++ codeSpan s.name ++ " object of ".toList ++ codeSpan parent ++
        " supports the following:".toList
    else "The ".toList ++ codeSpan s.name ++ " object supports the following:".toList
  | none => "The ".toList ++ codeSpan s.name ++ " object supports the following:".toList

/-- The text of a section. -/
def text (s : Section) : Text :=
  if s.lines.isEmpty then s.title
  else Text.joinParagraphs [s.title, Text.joinLines s.lines]

/-! ### Order in a document -/

/-- Where in a document a section belongs. -/
inductive Tier where
  /-- Its object is held by a field at the top. -/
  | root
  /-- The field one level up is named as one at the top. -/
  | child
  | other
deriving DecidableEq, Repr

/-- The tier of a section, given the names of the fields at the top that hold objects. -/
def tier (roots : List Text) (s : Section) : Tier :=
  if s.depth = 0 then .root
  else if s.parent.any (roots.contains ·) then .child
  else .other

/-- The names of the fields at the top among some sections. -/
def rootNames (sections : List Section) : List Text :=
  (sections.filter (·.depth == 0)).map Section.name

/-- The sections of one tier, in ascending order of their texts. -/
def inTier (sections : List Section) (t : Tier) : List Section :=
  orderBy text (sections.filter fun s => s.tier (rootNames sections) == t)

/-- Sections in the order of a document: tier after tier, and of neighbours with one text the
first. -/
def arrange (sections : List Section) : List Section :=
  dropRepeats text ([.root, .child, .other].flatMap (inTier sections))

end Section

/-! ### The sections below a field -/

/-- What the arguments of an object come to. -/
structure ArgumentLists where
  required : List Text := []
  optional : List Text := []
  /-- The sections of the objects further down. -/
  below : List Section := []

/-- Adds an argument in front, with the sections below it. -/
def ArgumentLists.add (field : Field) (line : Text) (below : List Section)
    (lists : ArgumentLists) : ArgumentLists :=
  if field.required then
    { lists with required := line :: lists.required, below := below ++ lists.below }
  else { lists with optional := line :: lists.optional, below := below ++ lists.below }

mutual

/-- The section of a field that holds an object, if it does, and those of the objects further down
that are reached through arguments. -/
def sections (subject : Subject) (depth : Nat) (parent : Option Text) (name : Text)
    (field : Field) : Report (List Section) :=
  match field with
  | { kind, element, .. } =>
    match element with
    | some (.object fields) =>
      if kind.isCollection then do
        let lists ← argumentLists subject depth name fields
        let lines := ascending lists.required ++ ascending lists.optional
        return ⟨name, parent, depth, lines⟩ :: lists.below
      else return []
    | _ => return []

/-- Documents the arguments of the object held by the field `name`, in the order of the object. -/
def argumentLists (subject : Subject) (depth : Nat) (name : Text) :
    List (Text × Field) → Report ArgumentLists
  | [] => return {}
  | (child, field) :: rest => do
    Report.ofExcept (field.validate subject child)
    if field.isArgument then
      let line ← documentArgument subject child field
      let below ← sections subject (depth + 1) (some name) child field
      let lists ← argumentLists subject depth name rest
      return lists.add field line below
    else argumentLists subject depth name rest

end

/-- A field without an object below it has no section. -/
theorem sections_of_nested?_eq_none {subject : Subject} {depth : Nat} {parent : Option Text}
    {name : Text} {field : Field} (h : field.nested? = none) :
    sections subject depth parent name field = pure [] := by
  obtain ⟨kind, required, «optional», computed, forceNew, deprecated, description, element⟩ := field
  rcases element with _ | ⟨fields⟩ | ⟨scalar⟩ <;> simp_all [sections, Field.nested?]

/-- A field with an object below it has a section, followed by those of the objects further
down. -/
theorem sections_of_nested?_eq_some {subject : Subject} {depth : Nat} {parent : Option Text}
    {name : Text} {field : Field} {fields : Object} (h : field.nested? = some fields) :
    sections subject depth parent name field = (do
      let lists ← argumentLists subject depth name fields
      let lines := ascending lists.required ++ ascending lists.optional
      return ⟨name, parent, depth, lines⟩ :: lists.below) := by
  obtain ⟨kind, required, «optional», computed, forceNew, deprecated, description, element⟩ := field
  rcases element with _ | ⟨inner⟩ | ⟨scalar⟩
  · simp [Field.nested?] at h
  · by_cases hk : kind.isCollection = true
    · simp only [Field.nested?, hk, if_true, Option.some.injEq] at h
      simp [sections, hk, h]
    · simp [Field.nested?, hk] at h
  · simp [Field.nested?] at h

end ProviderDocs
