import Mathlib.Tactic.SplitIfs
import ProviderDocs.Proofs.Report
import ProviderDocs.Proofs.Schema.EntryText
import ProviderDocs.Proofs.Schema.Reach
import ProviderDocs.Schema.Classification

/-!
# What the walks over a schema come to

Three walks go through the fields of an object in order, each taking from some of the fields what
these give (`Object.Gathers`):

* `argumentLists_yields`: the walk over a nested object gives the lines of its arguments and the
  sections below them;
* `attributeTexts_eq_ok`: the walk below an attribute gives the entries of all fields;
* `classifyFields_yields`: the walk over the top of a schema gives the lines of the arguments, the
  sections below them and the entries of the attributes.

A walk that comes to an end has found no field that is both required and optional, so that the lines
of the optional arguments are those of the fields with that flag.
-/

namespace ProviderDocs

variable {subject : Subject} {α : Type}

/-! ### Gathering -/

/-- A walk takes from each selected field of an object, one after the other, a list that the field
gives. -/
inductive Object.Gathers (selects : Field → Bool) (gives : Text → Field → List α → Prop) :
    Object → List α → Prop where
  | nil : Gathers selects gives [] []
  | skip {name : Text} {field : Field} {rest : Object} {found : List α}
    (h : selects field = false) (later : Gathers selects gives rest found) :
    Gathers selects gives ((name, field) :: rest) found
  | take {name : Text} {field : Field} {rest : Object} {part found : List α}
    (h : selects field = true) (first : gives name field part)
    (later : Gathers selects gives rest found) :
    Gathers selects gives ((name, field) :: rest) (part ++ found)

namespace Object.Gathers

variable {selects : Field → Bool} {gives : Text → Field → List α → Prop} {object : Object}
  {found : List α}

theorem exists_of_mem (h : object.Gathers selects gives found) {item : α} (hi : item ∈ found) :
    ∃ name field part, (name, field) ∈ object ∧ selects field = true ∧ gives name field part ∧
      item ∈ part := by
  induction h with
  | nil => exact absurd hi List.not_mem_nil
  | skip _ _ ih =>
    obtain ⟨name, field, part, hm, hs, hg, hi⟩ := ih hi
    exact ⟨name, field, part, List.mem_cons_of_mem _ hm, hs, hg, hi⟩
  | take hs first _ ih =>
    rcases List.mem_append.mp hi with hi | hi
    · exact ⟨_, _, _, List.mem_cons_self, hs, first, hi⟩
    · obtain ⟨name, field, part, hm, hs, hg, hi⟩ := ih hi
      exact ⟨name, field, part, List.mem_cons_of_mem _ hm, hs, hg, hi⟩

theorem exists_subset (h : object.Gathers selects gives found) {name : Text} {field : Field}
    (hm : (name, field) ∈ object) (hs : selects field = true) :
    ∃ part, gives name field part ∧ part ⊆ found := by
  induction h with
  | nil => exact absurd hm List.not_mem_nil
  | skip hf _ ih =>
    rcases List.mem_cons.mp hm with he | hm
    · cases he
      exact absurd (hs.symm.trans hf) (by decide)
    · exact ih hm
  | take _ first _ ih =>
    rcases List.mem_cons.mp hm with he | hm
    · cases he
      exact ⟨_, first, List.subset_append_left _ _⟩
    · obtain ⟨part, hg, hsub⟩ := ih hm
      exact ⟨part, hg, List.subset_append_of_subset_right _ hsub⟩

end Object.Gathers

/-! ### Lines of arguments -/

/-- The lines of the fields of an object with one flag, in the order of the object. -/
def Object.lines (flag : Field → Bool) (object : Object) : List Text :=
  (object.filter fun entry => flag entry.2).map fun entry => argumentText entry.1 entry.2

theorem lines_cons (flag : Field → Bool) (name : Text) (field : Field) (rest : Object) :
    Object.lines flag ((name, field) :: rest) =
      if flag field then argumentText name field :: rest.lines flag else rest.lines flag := by
  unfold Object.lines
  rw [List.filter_cons]
  split_ifs <;> rfl

theorem mem_lines {flag : Field → Bool} {object : Object} {name : Text} {field : Field}
    (hm : (name, field) ∈ object) (hf : flag field = true) :
    argumentText name field ∈ object.lines flag :=
  List.mem_map.mpr ⟨(name, field), List.mem_filter.mpr ⟨hm, hf⟩, rfl⟩

/-- Two lists hold the lines of the required and of the optional fields of an object. -/
structure Object.LinesAre (object : Object) (required optional : List Text) : Prop where
  required : required = object.lines Field.required
  optional : optional = object.lines Field.optional

namespace Object.LinesAre

variable {name : Text} {field : Field} {rest : Object} {required optional : List Text}

theorem skip (h : rest.LinesAre required optional) (ha : field.isArgument = false) :
    LinesAre ((name, field) :: rest) required optional := by
  rw [Field.isArgument, Bool.or_eq_false_iff] at ha
  refine ⟨?_, ?_⟩
  · rw [lines_cons, if_neg (by simp [ha.1]), h.required]
  · rw [lines_cons, if_neg (by simp [ha.2]), h.optional]

/-- A required field that passed the check is not optional too. -/
theorem cons_required (h : rest.LinesAre required optional)
    (hv : field.validate subject name = .ok ()) (hq : field.required = true) :
    LinesAre ((name, field) :: rest) (argumentText name field :: required) optional := by
  have ho : field.optional = false := by
    unfold Field.validate Field.fault? at hv
    cases ho : field.optional with
    | false => rfl
    | true => simp [hq, ho] at hv
  refine ⟨?_, ?_⟩
  · rw [lines_cons, if_pos hq, h.required]
  · rw [lines_cons, if_neg (by simp [ho]), h.optional]

theorem cons_optional (h : rest.LinesAre required optional) (ha : field.isArgument = true)
    (hq : ¬field.required = true) :
    LinesAre ((name, field) :: rest) required (argumentText name field :: optional) := by
  have ho : field.optional = true := by simpa [Field.isArgument, hq] using ha
  refine ⟨?_, ?_⟩
  · rw [lines_cons, if_neg hq, h.required]
  · rw [lines_cons, if_pos ho, h.optional]

end Object.LinesAre

theorem documentArgument_yields {name line : Text} {field : Field}
    (h : (documentArgument subject name field).Yields line) : line = argumentText name field := by
  obtain ⟨_, -, h⟩ := Report.yields_bind h
  rw [Report.yields_pure h, argumentLine_eq]

/-! ### Fields with another object below them -/

/-- A field with the object below it changed, if it holds one. -/
def Field.mapFields (f : Object → Object) (field : Field) : Field :=
  match field.element with
  | some (.object fields) => { field with element := some (.object (f fields)) }
  | _ => field

section mapFields

variable (f : Object → Object) (field : Field)

@[simp] theorem isArgument_mapFields : (field.mapFields f).isArgument = field.isArgument := by
  obtain ⟨_, _, _, _, _, _, _, _ | ⟨_⟩ | ⟨_⟩⟩ := field <;> rfl

@[simp] theorem required_mapFields : (field.mapFields f).required = field.required := by
  obtain ⟨_, _, _, _, _, _, _, _ | ⟨_⟩ | ⟨_⟩⟩ := field <;> rfl

theorem nested?_mapFields : (field.mapFields f).nested? = field.nested?.map f := by
  obtain ⟨kind, _, _, _, _, _, _, _ | ⟨_⟩ | ⟨_⟩⟩ := field <;> cases kind <;> rfl

theorem validate_mapFields (name : Text) :
    (field.mapFields f).validate subject name = field.validate subject name := by
  obtain ⟨_, _, _, _, _, _, _, _ | ⟨_⟩ | ⟨_⟩⟩ := field <;> rfl

theorem typeColumn_mapFields (name : Text) :
    typeColumn name (field.mapFields f) = typeColumn name field := by
  obtain ⟨kind, _, _, _, _, _, _, _ | ⟨_⟩ | ⟨_⟩⟩ := field <;> cases kind <;> rfl

/-- The line of an argument does not say what the fields of its object are. -/
theorem documentArgument_mapFields (name : Text) :
    documentArgument subject name (field.mapFields f) = documentArgument subject name field := by
  have same : argumentLine name (field.mapFields f) = argumentLine name field := by
    unfold argumentLine argumentOptions
    rw [typeColumn_mapFields]
    obtain ⟨_, _, _, _, _, _, _, _ | ⟨_⟩ | ⟨_⟩⟩ := field <;> rfl
  rw [documentArgument, same]
  obtain ⟨_, _, _, _, _, _, _, _ | ⟨_⟩ | ⟨_⟩⟩ := field <;> rfl

/-- To which list an argument goes does not depend on the object below it. -/
theorem add_mapFields : ArgumentLists.add (field.mapFields f) = ArgumentLists.add field := by
  funext line below lists
  rw [ArgumentLists.add, required_mapFields, ArgumentLists.add]

end mapFields

/-! ### The sections of arguments -/

/-- Sections are those of the arguments of an object, and of what lies below them. -/
def Object.SectionsAre (subject : Subject) (depth : Nat) (parent : Option Text) :
    Object → List Section → Prop :=
  Object.Gathers Field.isArgument fun name field part =>
    (sections subject depth parent name field).Yields part

/-- What the arguments of an object come to. -/
structure ArgumentLists.Covers (subject : Subject) (depth : Nat) (name : Text) (object : Object)
    (lists : ArgumentLists) : Prop where
  lines : object.LinesAre lists.required lists.optional
  below : object.SectionsAre subject (depth + 1) (some name) lists.below

theorem argumentLists_yields {depth : Nat} {name : Text} {object : Object} {lists : ArgumentLists}
    (h : (argumentLists subject depth name object).Yields lists) :
    lists.Covers subject depth name object := by
  induction object generalizing lists with
  | nil =>
    rw [argumentLists] at h
    rw [Report.yields_pure h]
    exact ⟨⟨rfl, rfl⟩, .nil⟩
  | cons entry rest ih =>
    obtain ⟨child, field⟩ := entry
    rw [argumentLists] at h
    obtain ⟨_, hv, h⟩ := Report.yields_bind h
    have valid := Report.yields_ofExcept hv
    split_ifs at h with ha
    · obtain ⟨line, hl, h⟩ := Report.yields_bind h
      obtain ⟨below, hb, h⟩ := Report.yields_bind h
      obtain ⟨later, hr, h⟩ := Report.yields_bind h
      obtain rfl := documentArgument_yields hl
      obtain ⟨lines, sections⟩ := ih hr
      rw [Report.yields_pure h, ArgumentLists.add]
      -- An argument goes to one of the two lists, and what lies below it to the sections.
      split_ifs with hq
      · exact ⟨lines.cons_required valid hq, .take ha hb sections⟩
      · exact ⟨lines.cons_optional ha hq, .take ha hb sections⟩
    · have hno : field.isArgument = false := by simpa using ha
      obtain ⟨lines, sections⟩ := ih h
      exact ⟨lines.skip hno, .skip hno sections⟩

/-- The lines of a section: those of the required arguments of its object and then those of the
optional ones, each in ascending order. -/
def Object.sectionLines (object : Object) : List Text :=
  ascending (object.lines Field.required) ++ ascending (object.lines Field.optional)

theorem sections_yields {depth : Nat} {parent : Option Text} {name : Text} {field : Field}
    {inner : Object} {part : List Section} (hn : field.nested? = some inner)
    (h : (sections subject depth parent name field).Yields part) :
    ∃ below, inner.SectionsAre subject (depth + 1) (some name) below ∧
      part = ⟨name, parent, depth, inner.sectionLines⟩ :: below := by
  rw [sections_of_nested?_eq_some hn] at h
  obtain ⟨lists, hl, h⟩ := Report.yields_bind h
  obtain ⟨lines, below⟩ := argumentLists_yields hl
  refine ⟨lists.below, below, ?_⟩
  rw [Report.yields_pure h, lines.required, lines.optional]
  rfl

/-! ### The entries of attributes -/

/-- Texts are the entries of the selected fields of an object. -/
def Object.EntriesAre (subject : Subject) (level : Nat) (selects : Field → Bool) :
    Object → List Text → Prop :=
  Object.Gathers selects fun name field part =>
    ∃ entry, attributeText? subject level name field = .ok entry ∧ part = entry.toList

theorem attributeTexts_eq_ok {level : Nat} {object : Object} {texts : List Text}
    (h : attributeTexts subject level object = .ok texts) :
    object.EntriesAre subject level (fun _ => true) texts := by
  induction object generalizing texts with
  | nil =>
    rw [attributeTexts] at h
    cases h
    exact .nil
  | cons entry rest ih =>
    obtain ⟨name, field⟩ := entry
    rw [attributeTexts] at h
    cases hv : field.validate subject name with
    | error fault =>
      rw [hv] at h
      cases h
    | ok _ =>
      cases hf : attributeText? subject level name field with
      | error fault =>
        rw [hv, hf] at h
        cases h
      | ok text =>
        cases hr : attributeTexts subject level rest with
        | error fault =>
          rw [hv, hf, hr] at h
          cases h
        | ok later =>
          rw [hv, hf, hr] at h
          cases h
          exact .take rfl ⟨text, hf, rfl⟩ (ih hr)

/-! ### The top of a schema -/

/-- Whether a field is documented among the attributes if it stands at the top of a schema. -/
def Field.isAttribute (field : Field) : Bool :=
  !field.isArgument && field.computed

/-- What the fields at the top of a schema come to. -/
structure Classification.Covers (subject : Subject) (schema : Object) (c : Classification) :
    Prop where
  lines : schema.LinesAre c.required c.optional
  attributes : schema.EntriesAre subject 0 Field.isAttribute c.attributes
  sections : schema.SectionsAre subject 0 none c.sections

theorem classifyFields_yields {schema : Object} {c : Classification}
    (h : (classifyFields subject schema).Yields c) : c.Covers subject schema := by
  induction schema generalizing c with
  | nil =>
    rw [classifyFields] at h
    rw [Report.yields_pure h]
    exact ⟨⟨rfl, rfl⟩, .nil, .nil⟩
  | cons entry rest ih =>
    obtain ⟨name, field⟩ := entry
    rw [classifyFields] at h
    obtain ⟨_, hv, h⟩ := Report.yields_bind h
    have valid := Report.yields_ofExcept hv
    -- An argument has a line and sections, an attribute has an entry, any other field has nothing.
    split_ifs at h with ha hc
    · obtain ⟨below, hb, h⟩ := Report.yields_bind h
      obtain ⟨line, hl, h⟩ := Report.yields_bind h
      obtain ⟨later, hr, h⟩ := Report.yields_bind h
      obtain rfl := documentArgument_yields hl
      obtain ⟨lines, attributes, sections⟩ := ih hr
      have hat : field.isAttribute = false := by simp [Field.isAttribute, ha]
      rw [Report.yields_pure h, Classification.add]
      split_ifs with hq
      · exact ⟨lines.cons_required valid hq, .skip hat attributes, .take ha hb sections⟩
      · exact ⟨lines.cons_optional ha hq, .skip hat attributes, .take ha hb sections⟩
    · have hno : field.isArgument = false := by simpa using ha
      have hat : field.isAttribute = true := by simp [Field.isAttribute, hno, hc]
      obtain ⟨entry, he, h⟩ := Report.yields_bind h
      obtain ⟨later, hr, h⟩ := Report.yields_bind h
      obtain ⟨lines, attributes, sections⟩ := ih hr
      rw [Report.yields_pure h]
      exact ⟨lines.skip hno, .take hat ⟨entry, Report.yields_ofExcept he, rfl⟩ attributes,
        .skip hno sections⟩
    · have hno : field.isArgument = false := by simpa using ha
      have hat : field.isAttribute = false := by simp [Field.isAttribute, hc]
      obtain ⟨lines, attributes, sections⟩ := ih h
      exact ⟨lines.skip hno, .skip hat attributes, .skip hno sections⟩

/-- An accepted schema is documented by what its fields come to, in order. -/
theorem classify_eq_ok {schema : Object} {c : Classification}
    (h : (classify subject schema).result.1 = .ok c) :
    ∃ found : Classification, found.Covers subject schema ∧ c = found.arrange := by
  obtain ⟨found, hf, h⟩ := Report.yields_bind (Report.yields_of_result h)
  exact ⟨found, classifyFields_yields hf, Report.yields_pure h⟩

end ProviderDocs
