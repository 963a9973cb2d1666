import ProviderDocs.Proofs.Schema.Coverage

/-!
# The fields at the top of a schema

The documentation of an accepted schema lists the fields at its top by their flags, each list in
ascending order of the texts (`classify_topLevel`).

* `listsArguments_arrange`: two of the lists hold the lines of the fields with one flag, none of
  them twice;
* `Object.EntriesAre.forall₂`: the third holds an item for each of the other computed fields that
  has a description, also if two are the same;
* `classify_append_cons`: a field without a flag might as well be missing.
-/

namespace ProviderDocs

variable {subject : Subject}

/-- Texts are the lines of the fields of an object with one flag, in strictly ascending order. -/
structure Object.ListsArguments (object : Object) (flag : Field → Bool) (texts : List Text) :
    Prop where
  pairwise : texts.Pairwise (· < ·)
  mem_iff : ∀ t, t ∈ texts ↔
    ∃ name field, (name, field) ∈ object ∧ flag field = true ∧ t = argumentText name field

/-- Texts are the items of the attributes of an object that have a description, in ascending order:
one for each of them, also if two are the same. -/
def Object.ListsAttributes (subject : Subject) (object : Object) (texts : List Text) : Prop :=
  ∃ items, List.Forall₂
      (fun entry item => attributeText? subject 0 entry.1 entry.2 = .ok (some item))
      (object.filter fun entry => entry.2.isAttribute && entry.2.isDescribed) items ∧
    Text.AscendingOf items texts

theorem mem_lines_iff {flag : Field → Bool} {object : Object} {t : Text} :
    t ∈ object.lines flag ↔
      ∃ name field, (name, field) ∈ object ∧ flag field = true ∧ t = argumentText name field := by
  constructor
  · intro h
    obtain ⟨⟨name, field⟩, hm, rfl⟩ := List.mem_map.mp h
    obtain ⟨hm, hf⟩ := List.mem_filter.mp hm
    exact ⟨name, field, hm, hf, rfl⟩
  · rintro ⟨name, field, hm, hf, rfl⟩
    exact mem_lines hm hf

/-- Lines brought in order without repetitions list the fields that they were made of. -/
theorem listsArguments_arrange (object : Object) (flag : Field → Bool) :
    object.ListsArguments flag (dropRepeats id (ascending (object.lines flag))) where
  pairwise := pairwise_lt_dropRepeats (ascending_spec _).pairwise
  mem_iff _ := mem_dropRepeats_id_iff.trans (mem_ascending_iff.trans mem_lines_iff)

/-- Each selected field with a description has an item, and no other field has one. -/
theorem Object.EntriesAre.forall₂ {level : Nat} {selects : Field → Bool} {object : Object}
    {texts : List Text} (h : object.EntriesAre subject level selects texts) :
    List.Forall₂ (fun entry item => attributeText? subject level entry.1 entry.2 = .ok (some item))
      (object.filter fun entry => selects entry.2 && entry.2.isDescribed) texts := by
  induction h with
  | nil => exact .nil
  | skip hs _ ih =>
    rw [List.filter_cons_of_neg (by simp [hs])]
    exact ih
  | @take name field _ _ _ hs first _ ih =>
    obtain ⟨item, he, rfl⟩ := first
    by_cases hd : field.isDescribed = true
    · obtain ⟨below, rfl, -⟩ := attributeText?_eq_ok hd he
      rw [List.filter_cons_of_pos (by simp [hs, hd])]
      exact .cons he ih
    · have blank : Text.isBlank field.description = true := by simpa [Field.isDescribed] using hd
      rw [attributeText?_of_isBlank blank] at he
      cases he
      rw [List.filter_cons_of_neg (by simp [hd])]
      exact ih

/-! ### Fields without a flag -/

theorem validate_of_flagless {field : Field} (hr : field.required = false)
    (hc : field.computed = false) (name : Text) : field.validate subject name = .ok () := by
  simp [Field.validate, Field.fault?, hr, hc]

/-- A field that is neither required nor optional nor computed is passed over. -/
theorem classifyFields_append_cons {field : Field} (hr : field.required = false)
    (ho : field.optional = false) (hc : field.computed = false) (name : Text)
    (before after : Object) :
    classifyFields subject (before ++ (name, field) :: after) =
      classifyFields subject (before ++ after) := by
  induction before with
  | nil =>
    have noArgument : field.isArgument = false := by simp [Field.isArgument, hr, ho]
    rw [List.nil_append, List.nil_append, classifyFields, validate_of_flagless hr hc]
    simp only [noArgument, hc, Bool.false_eq_true, if_false]
    rfl
  | cons entry before ih =>
    rw [List.cons_append, List.cons_append, classifyFields, classifyFields, ih]

theorem classify_append_cons {field : Field} (hr : field.required = false)
    (ho : field.optional = false) (hc : field.computed = false) (name : Text)
    (before after : Object) :
    classify subject (before ++ (name, field) :: after) = classify subject (before ++ after) := by
  rw [classify, classifyFields_append_cons hr ho hc]
  rfl

/-! ### The lists -/

/-- The documentation of an accepted schema lists the required fields, the optional ones and the
computed ones that are neither, if these have a description; and a field without any of the three
flags makes no difference. -/
theorem classify_topLevel {schema : Object} {c : Classification}
    (h : (classify subject schema).result.1 = .ok c) :
    schema.ListsArguments Field.required c.required ∧
      schema.ListsArguments Field.optional c.optional ∧
      schema.ListsAttributes subject c.attributes ∧
      ∀ before name field after, schema = before ++ (name, field) :: after →
        field.required = false → field.optional = false → field.computed = false →
        classify subject schema = classify subject (before ++ after) := by
  obtain ⟨found, covers, rfl⟩ := classify_eq_ok h
  refine ⟨?_, ?_, ⟨found.attributes, covers.attributes.forall₂, ascending_spec _⟩, ?_⟩
  · rw [Classification.arrange, covers.lines.required]
    exact listsArguments_arrange schema Field.required
  · rw [Classification.arrange, covers.lines.optional]
    exact listsArguments_arrange schema Field.optional
  · rintro before name field after rfl hr ho hc
    exact classify_append_cons hr ho hc name before after

/-- A schema in which the lines of two arguments are the same, and the items of two attributes. -/
def sharedLinesSchema : Object :=
  [("a".toList,
      { kind := .string, required := true, description := "x` - (Required, String) y".toList }),
    ("a` - (Required, String) x".toList,
      { kind := .string, required := true, description := "y".toList }),
    ("b".toList, { kind := .string, forceNew := true, description := "D.".toList }),
    ("c".toList, { kind := .int, computed := true, description := "d` - e".toList }),
    ("c` - d".toList, { kind := .int, computed := true, description := "e".toList }),
    ("f".toList, { kind := .int, computed := true, description := " ".toList }),
    ("g".toList,
      { kind := .list, «optional» := true, computed := true, description := "D.".toList,
        element := some (.object [("h".toList, { required := true })]) })]

theorem sharedLinesSchema_topLevel :
    ∃ c, (classify ⟨"cdn_zone".toList, true⟩ sharedLinesSchema).result.1 = .ok c ∧
      sharedLinesSchema.ListsArguments Field.required c.required ∧
      sharedLinesSchema.ListsArguments Field.optional c.optional ∧
      sharedLinesSchema.ListsAttributes ⟨"cdn_zone".toList, true⟩ c.attributes ∧
      ∀ before name field after, sharedLinesSchema = before ++ (name, field) :: after →
        field.required = false → field.optional = false → field.computed = false →
        classify ⟨"cdn_zone".toList, true⟩ sharedLinesSchema =
          classify ⟨"cdn_zone".toList, true⟩ (before ++ after) := by
  obtain ⟨c, h⟩ := Report.exists_result_eq_ok
    (show (classify ⟨"cdn_zone".toList, true⟩ sharedLinesSchema).result.1.isOk = true by
      decide +kernel)
  exact ⟨c, h, classify_topLevel h⟩

/-- A line stands in its list once, and an item as often as there are fields that it documents. -/
example :
    (classify ⟨"cdn_zone".toList, true⟩ sharedLinesSchema).result.1.map (·.required) =
        .ok ["* `a` - (Required, String) x` - (Required, String) y".toList] ∧
      (classify ⟨"cdn_zone".toList, true⟩ sharedLinesSchema).result.1.map (·.attributes) =
        .ok ["* `c` - d` - e".toList, "* `c` - d` - e".toList] := by
  decide +kernel

end ProviderDocs
