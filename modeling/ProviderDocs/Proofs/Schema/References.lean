import ProviderDocs.Proofs.Schema.Arrangement
import ProviderDocs.Proofs.Schema.Walks

/-!
# The sections that arguments refer to

The line of an argument that holds an object refers to the section of that object by name.
`classify_sections` says that the section is there, whatever the depth of the argument, and that
there is no other section:

* `mem_sectionsAre_iff`: what is collected are the sections of the arguments that hold objects, each
  with the trail that leads to its argument;
* `listsArguments_text`: the text of a section lists the arguments of its object.
-/

namespace ProviderDocs

variable {subject : Subject}

/-- The name of the field that a trail ends in, above a field of the object that it holds. -/
def holderName? (above : List (Text × Field)) : Option Text :=
  above.getLast?.map Prod.fst

/-- The line that opens the section of an object: below the top it names two fields. -/
def objectTitle (above : List (Text × Field)) (name : Text) : Text :=
  match holderName? above with
  | none => "The ".toList ++ codeSpan name ++ " object supports the following:".toList
  | some parent =>
    "The ".toList ++ codeSpan name ++ " object of ".toList ++ codeSpan parent ++
      " supports the following:".toList

/-- A title, and lines below it after an empty line, if there are any. -/
def titledLines (title : Text) (lines : List Text) : Text :=
  if lines = [] then title else title ++ "\n\n".toList ++ Text.joinLines lines

/-- A text lists the arguments of an object: below its title stand the lines of the required ones
and then those of the optional ones, each in ascending order. -/
def ListsArguments (above : List (Text × Field)) (name : Text) (object : Object) (t : Text) :
    Prop :=
  ∃ required optional, Text.AscendingOf (object.lines Field.required) required ∧
    Text.AscendingOf (object.lines Field.optional) optional ∧
    t = titledLines (objectTitle above name) (required ++ optional)

/-- An argument holds an object, and so do all fields above it, which are arguments too. -/
def Object.HoldsObject (schema : Object) (above : List (Text × Field)) (name : Text)
    (object : Object) : Prop :=
  ∃ field, schema.Trail Field.isArgument above (name, field) ∧ field.isArgument = true ∧
    field.nested? = some object

/-! ### The sections that are collected -/

/-- The section of an object that is reached along a trail, from some depth on. -/
def sectionAt (depth : Nat) (parent : Option Text) (above : List (Text × Field)) (name : Text)
    (object : Object) : Section :=
  ⟨name, (holderName? above).or parent, depth + above.length, object.sectionLines⟩

theorem sectionAt_cons (depth : Nat) (parent : Option Text) (name : Text) (field : Field)
    (above : List (Text × Field)) (child : Text) (object : Object) :
    sectionAt depth parent ((name, field) :: above) child object =
      sectionAt (depth + 1) (some name) above child object := by
  have holder : (holderName? ((name, field) :: above)).or parent =
      (holderName? above).or (some name) := by
    unfold holderName?
    rw [List.getLast?_cons]
    cases above.getLast? <;> rfl
  have level : depth + (above.length + 1) = depth + 1 + above.length := by omega
  rw [sectionAt, sectionAt, holder, List.length_cons, level]

theorem mem_sectionsAre_iff (object : Object) :
    ∀ {depth : Nat} {parent : Option Text} {found : List Section},
      object.SectionsAre subject depth parent found → ∀ s,
        s ∈ found ↔ ∃ above name inner, object.HoldsObject above name inner ∧
          s = sectionAt depth parent above name inner := by
  induction object using Object.induction with
  | h object below =>
    intro depth parent found h s
    constructor
    · intro hs
      obtain ⟨name, field, part, hm, ha, hy, hs⟩ := h.exists_of_mem hs
      cases hn : field.nested? with
      | none =>
        rw [sections_of_nested?_eq_none hn] at hy
        rw [Report.yields_pure hy] at hs
        exact absurd hs List.not_mem_nil
      | some inner =>
        obtain ⟨further, hf, rfl⟩ := sections_yields hn hy
        rcases List.mem_cons.mp hs with rfl | hs
        · exact ⟨[], name, inner, ⟨field, .here hm, ha, hn⟩, rfl⟩
        · obtain ⟨above, child, last, ⟨holder, ht, hh⟩, rfl⟩ :=
            (below name field inner hm hn hf s).mp hs
          exact ⟨(name, field) :: above, child, last, ⟨holder, .further hm ha hn ht, hh⟩,
            (sectionAt_cons ..).symm⟩
    · rintro ⟨above, child, last, ⟨holder, ht, hh, hl⟩, rfl⟩
      cases ht with
      | here hm =>
        obtain ⟨part, hy, hsub⟩ := h.exists_subset hm hh
        obtain ⟨further, -, rfl⟩ := sections_yields hl hy
        exact hsub List.mem_cons_self
      | @further _ inner name field above _ hm ha hn ht =>
        obtain ⟨part, hy, hsub⟩ := h.exists_subset hm ha
        obtain ⟨further, hf, rfl⟩ := sections_yields hn hy
        rw [sectionAt_cons]
        exact hsub (List.mem_cons_of_mem _
          ((below name field inner hm hn hf _).mpr ⟨above, child, last, ⟨holder, ht, hh, hl⟩, rfl⟩))

/-! ### The sections of a document -/

theorem title_sectionAt (above : List (Text × Field)) (name : Text) (object : Object) :
    (sectionAt 0 none above name object).title = objectTitle above name := by
  rcases List.eq_nil_or_concat above with rfl | ⟨start, last, rfl⟩
  · rfl
  · simp [sectionAt, objectTitle, holderName?, Section.title]

theorem Section.text_eq (s : Section) : s.text = titledLines s.title s.lines := by
  unfold text titledLines
  cases s.lines with
  | nil => rfl
  | cons line rest => simp [Text.joinParagraphs]

/-- The text of a section lists the arguments of its object. -/
theorem listsArguments_text (above : List (Text × Field)) (name : Text) (object : Object) :
    ListsArguments above name object (sectionAt 0 none above name object).text := by
  refine ⟨_, _, ascending_spec _, ascending_spec _, ?_⟩
  rw [Section.text_eq, title_sectionAt]
  rfl

theorem exists_section {schema : Object} {found : Classification}
    (covers : found.Covers subject schema) {above : List (Text × Field)} {name : Text}
    {object : Object} (holds : schema.HoldsObject above name object) :
    ∃ s ∈ found.arrange.sections, s.text = (sectionAt 0 none above name object).text := by
  have mem : sectionAt 0 none above name object ∈ found.sections :=
    (mem_sectionsAre_iff schema covers.sections _).mpr ⟨above, name, object, holds, rfl⟩
  exact Section.exists_mem_arrange_iff.mpr ⟨_, mem, rfl⟩

/-- In an accepted schema every argument that holds an object, at the top or below arguments alone,
has a section that lists the arguments of that object, and there are no other sections. -/
theorem classify_sections {schema : Object} {c : Classification}
    (h : (classify subject schema).result.1 = .ok c) :
    (∀ above name object, schema.HoldsObject above name object →
        ∃ s ∈ c.sections, ListsArguments above name object s.text) ∧
      ∀ s ∈ c.sections, ∃ above name object, schema.HoldsObject above name object ∧
        ListsArguments above name object s.text := by
  obtain ⟨found, covers, rfl⟩ := classify_eq_ok h
  constructor
  · intro above name object holds
    obtain ⟨s, hs, text⟩ := exists_section covers holds
    exact ⟨s, hs, text ▸ listsArguments_text above name object⟩
  · intro s hs
    obtain ⟨collected, hc, text⟩ := Section.exists_mem_arrange_iff.mp ⟨s, hs, rfl⟩
    obtain ⟨above, name, object, holds, rfl⟩ :=
      (mem_sectionsAre_iff schema covers.sections collected).mp hc
    exact ⟨above, name, object, holds, text ▸ listsArguments_text above name object⟩

/-- An object `x` is held twice by a field `a`, at the top and below `b`, so that two of its
sections have one text. -/
def twinSchema : Object :=
  let key : Field := { kind := .string, required := true, description := "Key.".toList }
  let x : Field :=
    { kind := .list, optional := true, description := "X.".toList,
      element := some (.object [("key".toList, key)]) }
  let a : Field :=
    { kind := .set, required := true, description := "A.".toList,
      element := some (.object [("x".toList, x)]) }
  let b : Field :=
    { kind := .list, optional := true, description := "B.".toList,
      element := some (.object [("a".toList, a)]) }
  [("a".toList, a), ("b".toList, b)]

theorem twinSchema_sections :
    ∃ c, (classify ⟨"edgenext_x".toList, false⟩ twinSchema).result.1 = .ok c ∧
      (∀ above name object, twinSchema.HoldsObject above name object →
        ∃ s ∈ c.sections, ListsArguments above name object s.text) ∧
      ∀ s ∈ c.sections, ∃ above name object, twinSchema.HoldsObject above name object ∧
        ListsArguments above name object s.text := by
  obtain ⟨c, h⟩ := Report.exists_result_eq_ok
    (show (classify ⟨"edgenext_x".toList, false⟩ twinSchema).result.1.isOk = true by
      decide +kernel)
  exact ⟨c, h, classify_sections h⟩

end ProviderDocs
