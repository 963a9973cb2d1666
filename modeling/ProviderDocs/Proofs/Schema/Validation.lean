import Mathlib.Tactic.SplitIfs
import ProviderDocs.Proofs.Report
import ProviderDocs.Proofs.Schema.Reach
import ProviderDocs.Schema.Classification

/-!
# The fields whose flags are checked

The flags of a field may contradict each other (`Field.Contradicts`).  Three walks look for such a
field: one through the sections of arguments, one through the items of attributes, and the one over
the top of a schema that starts the other two.  Each stops at the fields that it does not document,
and what lies below those is not looked at.  `classify_fails_iff` gives the fields that a schema is
refused for (`Object.Checks`), and the schemas that are refused for every contradiction in them.
-/

namespace ProviderDocs

/-- The flags of a field contradict each other: it is both required and optional, or it is computed
and makes a new resource, where there are none to make. -/
def Field.Contradicts (subject : Subject) (field : Field) : Prop :=
  field.required = true ∧ field.optional = true ∨
    subject.readOnly = true ∧ field.computed = true ∧ field.forceNew = true

/-- Whether a field has a description. -/
def Field.isDescribed (field : Field) : Bool :=
  !Text.isBlank field.description

/-- A walk comes to a field whose flags contradict each other. -/
def Object.Contradicts (subject : Subject) (descends : Field → Bool) (object : Object) : Prop :=
  ∃ entry, object.Reaches descends entry ∧ entry.2.Contradicts subject

variable {subject : Subject}

theorem not_contradicts_nil (descends : Field → Bool) :
    ¬Object.Contradicts subject descends [] := by
  rintro ⟨entry, h, -⟩
  exact Object.not_reaches_nil h

/-- A walk comes to a contradiction in the first field, below it, or in the fields after it. -/
theorem contradicts_cons_iff {descends : Field → Bool} {name : Text} {field : Field}
    {rest : Object} :
    Object.Contradicts subject descends ((name, field) :: rest) ↔
      field.Contradicts subject ∨
        (descends field = true ∧
          ∃ inner, field.nested? = some inner ∧ inner.Contradicts subject descends) ∨
        rest.Contradicts subject descends := by
  unfold Object.Contradicts
  simp only [Object.reaches_cons_iff]
  constructor
  · rintro ⟨entry, (rfl | ⟨hd, inner, hn, hi⟩) | hr, hc⟩
    · exact .inl hc
    · exact .inr (.inl ⟨hd, inner, hn, entry, hi, hc⟩)
    · exact .inr (.inr ⟨entry, hr, hc⟩)
  · rintro (hc | ⟨hd, inner, hn, entry, hi, hc⟩ | ⟨entry, hr, hc⟩)
    · exact ⟨_, .inl (.inl rfl), hc⟩
    · exact ⟨entry, .inl (.inr ⟨hd, inner, hn, hi⟩), hc⟩
    · exact ⟨entry, .inr hr, hc⟩

/-! ### One field -/

theorem isSome_fault?_iff (name : Text) (field : Field) :
    (field.fault? subject name).isSome = true ↔ field.Contradicts subject := by
  unfold Field.fault? Field.Contradicts
  split_ifs with h1 h2
  · simp_all
  · simp_all
  · simp_all

theorem raisedIff_validate (name : Text) (field : Field) :
    Fault.RaisedIff (field.validate subject name) (field.Contradicts subject) := by
  rw [← isSome_fault?_iff name]
  unfold Field.validate Fault.RaisedIff
  cases field.fault? subject name <;> simp

theorem failsIff_validate (name : Text) (field : Field) :
    (Report.ofExcept (field.validate subject name)).FailsIff (field.Contradicts subject) :=
  .ofExcept (raisedIff_validate name field)

theorem failsIff_documentArgument (name : Text) (field : Field) :
    (documentArgument subject name field).FailsIff False :=
  ((Report.FailsIff.forM_warn _).bind fun _ => .pure _).congr or_self_iff

/-! ### The sections of arguments -/

/-- If the fault of an object is known, then so is that of the section of a field that holds it. -/
theorem failsIff_sections_of {field : Field} {P : Object → Prop}
    (h : ∀ inner, field.nested? = some inner →
      ∀ depth name, (argumentLists subject depth name inner).FailsIff (P inner))
    (depth : Nat) (parent : Option Text) (name : Text) :
    (sections subject depth parent name field).FailsIff
      (∃ inner, field.nested? = some inner ∧ P inner) := by
  cases hn : field.nested? with
  | none =>
    rw [sections_of_nested?_eq_none hn]
    exact (Report.FailsIff.pure _).congr (by simp)
  | some inner =>
    rw [sections_of_nested?_eq_some hn]
    exact ((h inner hn depth name).bind fun _ => .pure _).congr (by simp)

/-- The section of an object is refused for the contradictions that are reached through
arguments. -/
theorem failsIff_argumentLists (object : Object) :
    ∀ depth name, (argumentLists subject depth name object).FailsIff
      (object.Contradicts subject Field.isArgument) := by
  induction object using Object.induction with
  | h object inner =>
    intro depth name
    -- The outer induction is for what lies below the fields, this one goes through the fields.
    induction object with
    | nil =>
      rw [argumentLists]
      exact (Report.FailsIff.pure _).congr (iff_of_false not_false (not_contradicts_nil _))
    | cons entry rest ih =>
      obtain ⟨child, field⟩ := entry
      have ih := ih fun name field object hm => inner name field object (List.mem_cons_of_mem _ hm)
      have below := failsIff_sections_of (inner child field · List.mem_cons_self) (depth + 1)
        (some name) child
      rw [argumentLists]
      -- The flags of every field are checked, but only arguments are descended into.
      refine ((failsIff_validate child field).bind fun _ => ?_).congr contradicts_cons_iff.symm
      split_ifs with ha
      · refine Report.FailsIff.congr (.bind (failsIff_documentArgument child field) fun line =>
          below.bind fun sections => ih.bind fun lists => .pure (lists.add field line sections)) ?_
        simp [ha]
      · exact ih.congr (by simp [ha])

theorem failsIff_sections (depth : Nat) (parent : Option Text) (name : Text) (field : Field) :
    (sections subject depth parent name field).FailsIff
      (∃ inner, field.nested? = some inner ∧ inner.Contradicts subject Field.isArgument) :=
  failsIff_sections_of (fun inner _ => failsIff_argumentLists inner) depth parent name

/-! ### The items of attributes -/

theorem raisedIff_attributeText?_of {field : Field} {P : Object → Prop}
    (h : ∀ inner, field.nested? = some inner →
      ∀ level, Fault.RaisedIff (attributeTexts subject level inner) (P inner))
    (level : Nat) (name : Text) :
    Fault.RaisedIff (attributeText? subject level name field)
      (field.isDescribed = true ∧ ∃ inner, field.nested? = some inner ∧ P inner) := by
  cases hd : Text.isBlank field.description with
  | true =>
    rw [attributeText?_of_isBlank hd]
    exact (Fault.RaisedIff.ok _).congr (by simp [Field.isDescribed, hd])
  | false =>
    cases hn : field.nested? with
    | none =>
      rw [attributeText?_of_nested?_eq_none hd hn]
      exact (Fault.RaisedIff.ok _).congr (by simp)
    | some inner =>
      rw [attributeText?_of_nested?_eq_some hd hn]
      exact ((h inner hn (level + 1)).bind fun _ => .ok _).congr (by simp [Field.isDescribed, hd])

/-- The items of an object are refused for the contradictions that are reached through described
fields. -/
theorem raisedIff_attributeTexts (object : Object) :
    ∀ level, Fault.RaisedIff (attributeTexts subject level object)
      (object.Contradicts subject Field.isDescribed) := by
  induction object using Object.induction with
  | h object inner =>
    intro level
    induction object with
    | nil =>
      rw [attributeTexts]
      exact (Fault.RaisedIff.ok _).congr (iff_of_false not_false (not_contradicts_nil _))
    | cons entry rest ih =>
      obtain ⟨name, field⟩ := entry
      have ih := ih fun name field object hm => inner name field object (List.mem_cons_of_mem _ hm)
      have below := raisedIff_attributeText?_of (inner name field · List.mem_cons_self) level name
      rw [attributeTexts]
      refine Fault.RaisedIff.congr (.bind (raisedIff_validate name field) fun _ =>
        below.bind fun entry => ih.bind fun entries => .ok (entry.toList ++ entries)) ?_
      rw [contradicts_cons_iff, or_false]

theorem raisedIff_attributeText? (level : Nat) (name : Text) (field : Field) :
    Fault.RaisedIff (attributeText? subject level name field)
      (field.isDescribed = true ∧
        ∃ inner, field.nested? = some inner ∧ inner.Contradicts subject Field.isDescribed) :=
  raisedIff_attributeText?_of (fun inner _ => raisedIff_attributeTexts inner) level name

/-! ### The whole schema -/

/-- The fields of a schema whose flags are checked: those reached through arguments, the top of the
schema among them, and, below an attribute at the top, those reached through described fields. -/
inductive Object.Checks (schema : Object) (entry : Text × Field) : Prop where
  | ofArgument (h : schema.Reaches Field.isArgument entry)
  | ofAttribute {name : Text} {field : Field} {inner : Object} (h : (name, field) ∈ schema)
    (ha : field.isArgument = false) (hc : field.computed = true) (hd : field.isDescribed = true)
    (hn : field.nested? = some inner) (hi : inner.Reaches Field.isDescribed entry)

/-- What is checked stands in the tree. -/
theorem Object.Checks.holds {schema : Object} {entry : Text × Field} (h : schema.Checks entry) :
    schema.Holds entry := by
  cases h with
  | ofArgument h => exact h.holds
  | ofAttribute h _ _ _ hn hi => exact .further h rfl hn hi.holds

/-- A contradiction lies below a field that is documented as an attribute. -/
def Field.ContradictsBelow (subject : Subject) (field : Field) : Prop :=
  field.isArgument = false ∧ field.computed = true ∧ field.isDescribed = true ∧
    ∃ inner, field.nested? = some inner ∧ inner.Contradicts subject Field.isDescribed

theorem exists_checks_iff {schema : Object} :
    (∃ entry, schema.Checks entry ∧ entry.2.Contradicts subject) ↔
      schema.Contradicts subject Field.isArgument ∨
        ∃ entry ∈ schema, entry.2.ContradictsBelow subject := by
  constructor
  · rintro ⟨entry, h | ⟨h, ha, hc, hd, hn, hi⟩, hf⟩
    · exact .inl ⟨entry, h, hf⟩
    · exact .inr ⟨_, h, ha, hc, hd, _, hn, entry, hi, hf⟩
  · rintro (⟨entry, h, hf⟩ | ⟨⟨name, field⟩, h, ha, hc, hd, inner, hn, entry, hi, hf⟩)
    · exact ⟨entry, .ofArgument h, hf⟩
    · exact ⟨entry, .ofAttribute h ha hc hd hn hi, hf⟩

theorem failsIff_classifyFields (schema : Object) :
    (classifyFields subject schema).FailsIff
      (schema.Contradicts subject Field.isArgument ∨
        ∃ entry ∈ schema, entry.2.ContradictsBelow subject) := by
  induction schema with
  | nil =>
    rw [classifyFields]
    exact (Report.FailsIff.pure _).congr (iff_of_false not_false (by simp [not_contradicts_nil]))
  | cons entry rest ih =>
    obtain ⟨name, field⟩ := entry
    have cons : (Object.Contradicts subject Field.isArgument ((name, field) :: rest) ∨
        ∃ entry ∈ (name, field) :: rest, entry.2.ContradictsBelow subject) ↔
          field.Contradicts subject ∨ (field.isArgument = true ∧ ∃ inner,
            field.nested? = some inner ∧ inner.Contradicts subject Field.isArgument) ∨
          field.ContradictsBelow subject ∨ Object.Contradicts subject Field.isArgument rest ∨
          ∃ entry ∈ rest, entry.2.ContradictsBelow subject := by
      simp only [contradicts_cons_iff, List.mem_cons, exists_eq_or_imp]
      grind
    rw [classifyFields]
    refine ((failsIff_validate name field).bind fun _ => ?_).congr cons.symm
    -- Arguments have sections, computed fields have items, and nothing looks below other fields.
    split_ifs with ha hc
    · refine Report.FailsIff.congr (.bind (failsIff_sections 0 none name field) fun below =>
        .bind (failsIff_documentArgument name field) fun line =>
          ih.bind fun c => .pure (c.add field line below)) ?_
      simp [Field.ContradictsBelow, ha]
    · have item : (Report.ofExcept (attributeText? subject 0 name field)).FailsIff _ :=
        .ofExcept (raisedIff_attributeText? 0 name field)
      refine Report.FailsIff.congr (item.bind fun entry =>
        ih.bind fun c => .pure { c with attributes := entry.toList ++ c.attributes }) ?_
      simp [Field.ContradictsBelow, ha, hc]
    · exact ih.congr (by simp [Field.ContradictsBelow, ha, hc])

theorem failsIff_classify (schema : Object) :
    (classify subject schema).FailsIff
      (∃ entry, schema.Checks entry ∧ entry.2.Contradicts subject) := by
  rw [exists_checks_iff]
  refine Report.FailsIff.congr ((failsIff_classifyFields schema).bind fun c => .pure c.arrange) ?_
  rw [or_false]

/-- A schema is refused exactly when the flags of one of the fields that are checked contradict each
other, and so it is refused exactly for the contradictions anywhere in it when those that are not
checked come with one that is. -/
theorem classify_fails_iff (subject : Subject) (schema : Object) :
    ((∃ fault, (classify subject schema).result.1 = .error fault) ↔
        ∃ entry, schema.Checks entry ∧ entry.2.Contradicts subject) ∧
      (((∃ fault, (classify subject schema).result.1 = .error fault) ↔
          ∃ entry, schema.Holds entry ∧ entry.2.Contradicts subject) ↔
        ((∃ entry, schema.Holds entry ∧ entry.2.Contradicts subject) →
          ∃ entry, schema.Checks entry ∧ entry.2.Contradicts subject)) := by
  have fails : (∃ fault, (classify subject schema).result.1 = .error fault) ↔
      ∃ entry, schema.Checks entry ∧ entry.2.Contradicts subject :=
    Report.exists_result_eq_error_iff.trans (failsIff_classify schema [])
  refine ⟨fails, ?_⟩
  rw [fails]
  refine ⟨Iff.mpr, fun h => ⟨?_, h⟩⟩
  rintro ⟨entry, checks, contradicts⟩
  exact ⟨entry, checks.holds, contradicts⟩

/-- Rules that an author may set.  Their items are computed, and hold a field that is both required
and optional. -/
def rulesSchema : Object :=
  let bad : Field :=
    { kind := .string, required := true, optional := true, description := "D.".toList }
  let items : Field :=
    { kind := .list, computed := true, description := "D.".toList,
      element := some (.object [("bad".toList, bad)]) }
  let rules : Field :=
    { kind := .list, optional := true, description := "D.".toList,
      element := some (.object [("items".toList, items)]) }
  [("rules".toList, rules)]

/-- The items of the rules are documented neither as arguments nor as attributes, so that the
contradiction below them is not found. -/
theorem rulesSchema_not_refused :
    ¬((∃ fault, (classify ⟨"edgenext_x".toList, false⟩ rulesSchema).result.1 = .error fault) ↔
      ∃ entry, rulesSchema.Holds entry ∧ entry.2.Contradicts ⟨"edgenext_x".toList, false⟩) := by
  intro h
  obtain ⟨fault, hf⟩ := h.mpr ⟨_, .further (.head _) rfl rfl (.further (.head _) rfl rfl
    (.here (.head _))), .inl ⟨rfl, rfl⟩⟩
  have accepted : (classify ⟨"edgenext_x".toList, false⟩ rulesSchema).result.1.isOk = true := by
    decide +kernel
  rw [hf] at accepted
  exact Bool.false_ne_true accepted

end ProviderDocs
