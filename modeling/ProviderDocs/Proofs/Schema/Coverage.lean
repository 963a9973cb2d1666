import ProviderDocs.Proofs.Schema.References
import ProviderDocs.Proofs.Schema.Validation
import ProviderDocs.Proofs.Text.Lines

/-!
# The fields that are documented

A field that has a flag and a description, below fields that have both, should be documented.  The
arguments of a schema and its attributes share the fields between them, and one kind of field is
left to neither: below an argument at the top only arguments are documented, so that a computed
field there is skipped with all that lies below it (`Skips`).

* `exists_entry_of_trail`: below an attribute every described field has an item;
* `entails_argumentLists_onlyArguments`: what is skipped leaves no mark on an accepted schema;
* `classify_documents`: every field that is not skipped is documented, and the documentation is that
  of the schema without the skipped fields.
-/

namespace ProviderDocs

variable {subject : Subject}

/-- A field with a description and a flag that says where it belongs. -/
def Field.isDocumentable (field : Field) : Bool :=
  (field.isArgument || field.computed) && field.isDescribed

/-- A documentation holds an entry of a field, given the fields above it: an argument line at the
top or in the section of the object that it stands in, or an attribute item at its level. -/
inductive Classification.Documents (c : Classification) (above : List (Text × Field)) (name : Text)
    (field : Field) : Prop where
  | required (ha : above = []) (hl : argumentText name field ∈ c.required)
  | optional (ha : above = []) (hl : argumentText name field ∈ c.optional)
  | inSection {outer : List (Text × Field)} {holder : Text × Field} {s : Section}
    {lines : List Text} (ha : above = outer ++ [holder]) (hs : s ∈ c.sections)
    (ht : s.text = titledLines (objectTitle outer holder.1) lines)
    (hl : argumentText name field ∈ lines)
  | attribute {t : Text} (ht : t ∈ c.attributes)
    (hi : t.HoldsLines (itemText above.length name field))

/-- The last field of a trail is skipped: the first one is an argument, and not all are. -/
def Skips (trail : List (Text × Field)) : Prop :=
  (∃ top ∈ trail.head?, top.2.isArgument = true) ∧ ∃ entry ∈ trail, entry.2.isArgument = false

/-! ### Below an attribute -/

theorem attributeText?_eq_ok {level : Nat} {name : Text} {field : Field} {entry : Option Text}
    (hd : field.isDescribed = true) (h : attributeText? subject level name field = .ok entry) :
    ∃ below, entry = some (Text.joinLines
        (itemText level name field :: ascending below)) ∧
      ∀ inner, field.nested? = some inner →
        inner.EntriesAre subject (level + 1) (fun _ => true) below := by
  have described : Text.isBlank field.description = false := by simpa [Field.isDescribed] using hd
  cases hn : field.nested? with
  | none =>
    rw [attributeText?_of_nested?_eq_none described hn, attributeItem_eq] at h
    cases h
    refine ⟨[], ?_, fun inner hi => by cases hi⟩
    simp [Text.joinLines, ascending, orderBy]
  | some inner =>
    rw [attributeText?_of_nested?_eq_some described hn, attributeItem_eq] at h
    cases hb : attributeTexts subject (level + 1) inner with
    | error fault =>
      rw [hb] at h
      cases h
    | ok below =>
      rw [hb] at h
      cases h
      refine ⟨below, rfl, fun other ho => ?_⟩
      cases ho
      exact attributeTexts_eq_ok hb

/-- Every described field below described fields has an item in the entry of the first of them, one
level further in for each field above it. -/
theorem exists_entry_of_trail {selects : Field → Bool} {object : Object}
    {above : List (Text × Field)} {name : Text} {field : Field}
    (ht : object.Trail Field.isDescribed above (name, field)) (hd : field.isDescribed = true)
    (hs : ∀ top ∈ (above ++ [(name, field)]).head?, selects top.2 = true) {level : Nat}
    {texts : List Text} (he : object.EntriesAre subject level selects texts) :
    ∃ t ∈ texts,
      t.HoldsLines (itemText (level + above.length) name field) := by
  generalize htop : (name, field) = last at ht
  induction ht generalizing level texts selects with
  | here hm =>
    subst htop
    obtain ⟨_, ⟨entry, ha, rfl⟩, hsub⟩ := he.exists_subset hm (hs _ rfl)
    obtain ⟨below, rfl, -⟩ := attributeText?_eq_ok hd ha
    exact ⟨_, hsub (List.mem_singleton_self _), [], ascending below, rfl⟩
  | @further _ inner top holder above _ hm hh hn ht ih =>
    subst htop
    obtain ⟨_, ⟨entry, ha, rfl⟩, hsub⟩ := he.exists_subset hm (hs (top, holder) rfl)
    obtain ⟨below, rfl, entries⟩ := attributeText?_eq_ok hh ha
    obtain ⟨t, hb, item⟩ := ih (fun _ _ => rfl) (entries inner hn) rfl
    refine ⟨_, hsub (List.mem_singleton_self _), ?_⟩
    rw [List.length_cons, show level + (above.length + 1) = level + 1 + above.length by omega]
    exact item.joinLines (List.mem_cons_of_mem _ (mem_ascending_iff.mpr hb))

/-! ### Below arguments -/

theorem mem_sectionLines {object : Object} {name : Text} {field : Field}
    (hm : (name, field) ∈ object) (ha : field.isArgument = true) :
    argumentText name field ∈ object.sectionLines := by
  rw [Field.isArgument, Bool.or_eq_true] at ha
  rw [Object.sectionLines, List.mem_append, mem_ascending_iff, mem_ascending_iff]
  exact ha.imp (mem_lines hm) (mem_lines hm)

/-- An argument is documented, if all fields above it are arguments. -/
theorem documents_of_isArgument {schema : Object} {found : Classification}
    (covers : found.Covers subject schema) {above : List (Text × Field)} {name : Text}
    {field : Field} (ht : schema.Trail Field.isArgument above (name, field))
    (ha : field.isArgument = true) : found.arrange.Documents above name field := by
  rcases List.eq_nil_or_concat above with rfl | ⟨outer, holder, rfl⟩
  · have hm : (name, field) ∈ schema := by
      cases ht with
      | here hm => exact hm
    rw [Field.isArgument, Bool.or_eq_true] at ha
    rcases ha with hr | ho
    · refine .required rfl (mem_dropRepeats_id_iff.mpr (mem_ascending_iff.mpr ?_))
      rw [covers.lines.required]
      exact mem_lines hm hr
    · refine .optional rfl (mem_dropRepeats_id_iff.mpr (mem_ascending_iff.mpr ?_))
      rw [covers.lines.optional]
      exact mem_lines hm ho
  · rw [List.concat_eq_append] at ht ⊢
    obtain ⟨trail, hh, inner, hn, hm⟩ := ht.exists_of_concat
    obtain ⟨s, hs, text⟩ := exists_section covers ⟨holder.2, trail, hh, hn⟩
    rw [Section.text_eq (sectionAt 0 none outer holder.1 inner), title_sectionAt] at text
    exact .inSection rfl hs text (mem_sectionLines hm ha)

/-! ### Without the fields that are skipped -/

mutual

/-- A field with nothing but arguments left below it. -/
def Field.onlyArguments (field : Field) : Field :=
  match field with
  | { kind, required, optional, computed, forceNew, deprecated, description, element } =>
    match element with
    | some (.object fields) =>
      ⟨kind, required, optional, computed, forceNew, deprecated, description,
        some (.object (Object.onlyArguments fields))⟩
    | element => ⟨kind, required, optional, computed, forceNew, deprecated, description, element⟩

/-- The arguments of an object, with nothing but arguments left below them. -/
def Object.onlyArguments : Object → Object
  | [] => []
  | (name, field) :: rest =>
    if field.isArgument then (name, field.onlyArguments) :: Object.onlyArguments rest
    else Object.onlyArguments rest

end

section onlyArguments

variable {field : Field}

theorem onlyArguments_eq : field.onlyArguments = field.mapFields Object.onlyArguments := by
  obtain ⟨_, _, _, _, _, _, _, _ | ⟨_⟩ | ⟨_⟩⟩ := field <;> rfl

@[simp] theorem isArgument_onlyArguments : field.onlyArguments.isArgument = field.isArgument := by
  rw [onlyArguments_eq, isArgument_mapFields]

@[simp] theorem required_onlyArguments : field.onlyArguments.required = field.required := by
  rw [onlyArguments_eq, required_mapFields]

theorem nested?_onlyArguments :
    field.onlyArguments.nested? = field.nested?.map Object.onlyArguments := by
  rw [onlyArguments_eq, nested?_mapFields]

theorem validate_onlyArguments (name : Text) :
    field.onlyArguments.validate subject name = field.validate subject name := by
  rw [onlyArguments_eq, validate_mapFields]

theorem documentArgument_onlyArguments (name : Text) :
    documentArgument subject name field.onlyArguments = documentArgument subject name field := by
  rw [onlyArguments_eq, documentArgument_mapFields]

end onlyArguments

theorem mem_onlyArguments {object : Object} {name : Text} {field : Field}
    (h : (name, field) ∈ object.onlyArguments) :
    ∃ original : Field, (name, original) ∈ object ∧ original.isArgument = true ∧
      field = original.onlyArguments := by
  induction object with
  | nil => exact absurd h List.not_mem_nil
  | cons entry rest ih =>
    obtain ⟨first, original⟩ := entry
    rw [Object.onlyArguments] at h
    split_ifs at h with ha
    · rcases List.mem_cons.mp h with he | h
      · cases he
        exact ⟨original, List.mem_cons_self, ha, rfl⟩
      · obtain ⟨found, hm, later⟩ := ih h
        exact ⟨found, List.mem_cons_of_mem _ hm, later⟩
    · obtain ⟨found, hm, later⟩ := ih h
      exact ⟨found, List.mem_cons_of_mem _ hm, later⟩

theorem isArgument_of_trail_onlyArguments {object : Object} {above : List (Text × Field)}
    {entry : Text × Field} (h : object.onlyArguments.Trail (fun _ => true) above entry) :
    ∀ e ∈ above ++ [entry], e.2.isArgument = true := by
  generalize ho : object.onlyArguments = arguments at h
  induction h generalizing object with
  | here hm =>
    subst ho
    obtain ⟨original, -, ha, he⟩ := mem_onlyArguments hm
    rw [List.nil_append, List.forall_mem_singleton, he, isArgument_onlyArguments, ha]
  | further hm _ hn _ ih =>
    subst ho
    obtain ⟨original, -, ha, rfl⟩ := mem_onlyArguments hm
    rw [nested?_onlyArguments] at hn
    obtain ⟨inner, -, rfl⟩ := Option.map_eq_some_iff.mp hn
    rw [List.cons_append, List.forall_mem_cons, isArgument_onlyArguments]
    exact ⟨ha, ih rfl⟩

/-- If the lists of an object do without all but arguments, then so does the section of a field that
holds it. -/
theorem entails_sections_onlyArguments_of {field : Field}
    (h : ∀ inner, field.nested? = some inner → ∀ depth name,
      (argumentLists subject depth name inner).Entails
        (argumentLists subject depth name inner.onlyArguments))
    (depth : Nat) (parent : Option Text) (name : Text) :
    (sections subject depth parent name field).Entails
      (sections subject depth parent name field.onlyArguments) := by
  cases hn : field.nested? with
  | none =>
    have none : field.onlyArguments.nested? = none := by
      rw [nested?_onlyArguments, hn, Option.map_none]
    rw [sections_of_nested?_eq_none hn, sections_of_nested?_eq_none none]
    exact .refl _
  | some inner =>
    have some : field.onlyArguments.nested? = some inner.onlyArguments := by
      rw [nested?_onlyArguments, hn, Option.map_some]
    rw [sections_of_nested?_eq_some hn, sections_of_nested?_eq_some some]
    exact (h inner hn depth name).bind fun _ => .refl _

theorem entails_argumentLists_onlyArguments (object : Object) :
    ∀ depth name, (argumentLists subject depth name object).Entails
      (argumentLists subject depth name object.onlyArguments) := by
  induction object using Object.induction with
  | h object inner =>
    intro depth name
    induction object with
    | nil => exact .refl _
    | cons entry rest ih =>
      obtain ⟨child, field⟩ := entry
      have ih := ih fun name field object hm => inner name field object (List.mem_cons_of_mem _ hm)
      have below := entails_sections_onlyArguments_of (inner child field · List.mem_cons_self)
        (depth + 1) (some name) child
      rw [argumentLists, Object.onlyArguments]
      split_ifs with ha
      · have add : ArgumentLists.add field.onlyArguments = ArgumentLists.add field := by
          rw [onlyArguments_eq, add_mapFields]
        rw [argumentLists, validate_onlyArguments, isArgument_onlyArguments, if_pos ha,
          documentArgument_onlyArguments, add]
        exact .bind (.refl _) fun _ => .bind (.refl _) fun _ => below.bind fun _ =>
          ih.bind fun _ => .refl _
      · exact .ofExcept_bind fun _ => ih

/-- A schema with nothing but arguments left below its arguments. -/
def Object.withoutSkipped (schema : Object) : Object :=
  schema.map fun entry =>
    (entry.1, if entry.2.isArgument then entry.2.onlyArguments else entry.2)

theorem not_skips_of_trail_withoutSkipped {schema : Object} {above : List (Text × Field)}
    {entry : Text × Field} (h : schema.withoutSkipped.Trail (fun _ => true) above entry) :
    ¬Skips (above ++ [entry]) := by
  rintro ⟨⟨top, ht, ha⟩, last, hl, hno⟩
  suffices all : ∀ e ∈ above ++ [entry], e.2.isArgument = true from
    absurd (all last hl) (by simp [hno])
  cases h with
  | here hm =>
    cases ht
    exact List.forall_mem_singleton.mpr ha
  | @further _ inner name field above _ hm _ hn ht' =>
    cases ht
    obtain ⟨⟨name, original⟩, -, he⟩ := List.mem_map.mp hm
    cases he
    by_cases ho : original.isArgument = true
    · rw [if_pos ho, nested?_onlyArguments] at hn
      obtain ⟨inner, -, rfl⟩ := Option.map_eq_some_iff.mp hn
      rw [List.cons_append, List.forall_mem_cons]
      exact ⟨ha, isArgument_of_trail_onlyArguments ht'⟩
    · rw [if_neg ho] at ha
      exact absurd ha ho

theorem entails_classifyFields_withoutSkipped (schema : Object) :
    (classifyFields subject schema).Entails (classifyFields subject schema.withoutSkipped) := by
  induction schema with
  | nil => exact .refl _
  | cons entry rest ih =>
    obtain ⟨name, field⟩ := entry
    rw [Object.withoutSkipped, List.map_cons, classifyFields, classifyFields]
    by_cases ha : field.isArgument = true
    · have add : Classification.add field.onlyArguments = Classification.add field := by
        funext line below c
        rw [Classification.add, required_onlyArguments, Classification.add]
      have below : (sections subject 0 none name field).Entails
          (sections subject 0 none name field.onlyArguments) :=
        entails_sections_onlyArguments_of (fun inner _ => entails_argumentLists_onlyArguments inner)
          0 none name
      simp only [if_pos ha, validate_onlyArguments, isArgument_onlyArguments,
        documentArgument_onlyArguments, add]
      exact .bind (.refl _) fun _ => below.bind fun _ => .bind (.refl _) fun _ =>
        ih.bind fun _ => .refl _
    · simp only [if_neg ha]
      refine .bind (.refl _) fun _ => ?_
      split_ifs with hc
      · exact .bind (.refl _) fun _ => ih.bind fun _ => .refl _
      · exact ih

/-! ### The whole schema -/

/-- A described field is documented if it is not skipped. -/
theorem documents_of_not_skips {schema : Object} {found : Classification}
    (covers : found.Covers subject schema) {above : List (Text × Field)} {name : Text}
    {field : Field} (ht : schema.Trail Field.isDocumentable above (name, field))
    (hf : field.isDocumentable = true) (hs : ¬Skips (above ++ [(name, field)])) :
    found.arrange.Documents above name field := by
  have documentable : ∀ e ∈ above ++ [(name, field)], e.2.isDocumentable = true :=
    List.forall_mem_append.mpr ⟨ht.descends_of_mem, List.forall_mem_singleton.mpr hf⟩
  have described : ∀ e ∈ above ++ [(name, field)], e.2.isDescribed = true :=
    fun e he => (Bool.and_eq_true_iff.mp (documentable e he)).2
  by_cases all : ∀ e ∈ above ++ [(name, field)], e.2.isArgument = true
  · obtain ⟨arguments, last⟩ := List.forall_mem_append.mp all
    exact documents_of_isArgument covers (ht.imp arguments) (last _ (List.mem_singleton_self _))
  · -- What stands at the top is not an argument, and so it is an attribute.
    push Not at all
    obtain ⟨e, he, hno⟩ := all
    have top : ∀ top ∈ (above ++ [(name, field)]).head?, top.2.isAttribute = true := by
      intro top h
      have notArgument : top.2.isArgument = false := by
        by_contra ha
        exact hs ⟨⟨top, h, by simpa using ha⟩, e, he, by simpa using hno⟩
      have flagged := (Bool.and_eq_true_iff.mp (documentable top (List.mem_of_mem_head? h))).1
      rw [notArgument, Bool.false_or] at flagged
      rw [Field.isAttribute, notArgument, flagged]
      rfl
    obtain ⟨outer, last⟩ := List.forall_mem_append.mp described
    obtain ⟨t, hm, item⟩ := exists_entry_of_trail (ht.imp outer)
      (last _ (List.mem_singleton_self _)) top covers.attributes
    rw [Nat.zero_add] at item
    exact .attribute (mem_ascending_iff.mpr hm) item

/-- In an accepted schema every field that has a flag and a description, below fields that have
both, is documented unless it is skipped.  The documentation, and all that is found on the way, is
that of the schema without the skipped fields. -/
theorem classify_documents {schema : Object} {c : Classification}
    (h : (classify subject schema).result.1 = .ok c) :
    (∀ above name field, schema.Trail Field.isDocumentable above (name, field) →
        field.isDocumentable = true → ¬Skips (above ++ [(name, field)]) →
        c.Documents above name field) ∧
      (classify subject schema.withoutSkipped).result = (classify subject schema).result ∧
      ∀ above entry, schema.withoutSkipped.Trail (fun _ => true) above entry →
        ¬Skips (above ++ [entry]) := by
  refine ⟨?_, ?_, fun above entry => not_skips_of_trail_withoutSkipped⟩
  · obtain ⟨found, covers, rfl⟩ := classify_eq_ok h
    exact fun above name field => documents_of_not_skips covers
  · have entails : (classify subject schema).Entails (classify subject schema.withoutSkipped) :=
      (entails_classifyFields_withoutSkipped schema).bind fun _ => .refl _
    exact entails.result_eq h

/-- Rules that an author may set, each with a count that is computed. -/
def hitsSchema : Object :=
  let hits : Field := { kind := .int, computed := true, description := "Hit count.".toList }
  let rules : Field :=
    { kind := .list, optional := true, description := "D.".toList,
      element := some (.object [("hits".toList, hits)]) }
  [("rules".toList, rules)]

theorem hitsSchema_documents :
    ∃ c, (classify ⟨"edgenext_x".toList, false⟩ hitsSchema).result.1 = .ok c ∧
      (∀ above name field, hitsSchema.Trail Field.isDocumentable above (name, field) →
        field.isDocumentable = true → ¬Skips (above ++ [(name, field)]) →
        c.Documents above name field) ∧
      (classify ⟨"edgenext_x".toList, false⟩ hitsSchema.withoutSkipped).result =
        (classify ⟨"edgenext_x".toList, false⟩ hitsSchema).result ∧
      ∀ above entry, hitsSchema.withoutSkipped.Trail (fun _ => true) above entry →
        ¬Skips (above ++ [entry]) := by
  obtain ⟨c, h⟩ := Report.exists_result_eq_ok
    (show (classify ⟨"edgenext_x".toList, false⟩ hitsSchema).result.1.isOk = true by
      decide +kernel)
  exact ⟨c, h, classify_documents h⟩

/-- The hit count is documented neither in the section of the rules nor among the attributes. -/
theorem hitsSchema_not_documented :
    ¬∀ c, (classify ⟨"edgenext_x".toList, false⟩ hitsSchema).result.1 = .ok c →
      ∀ above name field, hitsSchema.Trail Field.isDocumentable above (name, field) →
        field.isDocumentable = true → c.Documents above name field := by
  intro h
  have accepted : (classify ⟨"edgenext_x".toList, false⟩ hitsSchema).result.1 = .ok
      { «optional» := ["* `rules` - (Optional, List: [`rules`]) D.".toList],
        sections := [⟨"rules".toList, none, 0, []⟩] } := by
    decide +kernel
  rcases h _ accepted _ _ _ (.further (.head _) rfl rfl (.here (.head _))) rfl with
    ha | ha | ⟨-, hs, ht, hl⟩ | ht
  · exact absurd ha (List.cons_ne_nil _ _)
  · exact absurd ha (List.cons_ne_nil _ _)
  · -- The section of the rules is a title alone, without a line break.
    rw [List.mem_singleton.mp hs, titledLines, if_neg (List.ne_nil_of_mem hl)] at ht
    have noBreak : '\n' ∉ Section.text ⟨"rules".toList, none, 0, []⟩ := by decide
    refine noBreak (ht ▸ ?_)
    simp
  · exact absurd ht List.not_mem_nil

end ProviderDocs
