import Mathlib.Data.List.Perm.Basic
import ProviderDocs.Proofs.Warnings

/-!
# The warnings of a schema

An accepted schema gives rise to a warning for every argument without a description and for every
deprecated argument, and to no other warning (`classify_warnings`).  The arguments are the fields
that are reached through arguments alone (`mem_arguments_iff`), so that there is no warning exactly
if all of these are described and none is deprecated (`warnings_classify_eq_nil_iff`).  Each of them
is documented once: below the top of a schema in the order in which the arguments stand there
(`adds_argumentLists`), and at the top after the arguments below it (`adds_classifyFields`).  What
lies below an attribute adds nothing, and a line or a section that is dropped as a repetition has
given its warnings before.
-/

namespace ProviderDocs

variable {subject : Subject}

/-! ### The arguments of a schema -/

mutual

/-- The arguments that are reached below a field. -/
def Field.argumentsBelow (field : Field) : List (Text × Field) :=
  match field with
  | { kind, element, .. } =>
    match element with
    | some (.object fields) => if kind.isCollection then Object.arguments fields else []
    | _ => []

/-- The arguments of an object, each followed by those that are reached below it. -/
def Object.arguments : Object → List (Text × Field)
  | [] => []
  | (name, field) :: rest =>
    if field.isArgument then (name, field) :: (field.argumentsBelow ++ Object.arguments rest)
    else Object.arguments rest

end

theorem argumentsBelow_of_nested?_eq_none {field : Field} (h : field.nested? = none) :
    field.argumentsBelow = [] := by
  obtain ⟨_, _, _, _, _, _, _, _ | ⟨_⟩ | ⟨_⟩⟩ := field <;>
    simp_all [Field.argumentsBelow, Field.nested?]

theorem argumentsBelow_of_nested?_eq_some {field : Field} {inner : Object}
    (h : field.nested? = some inner) : field.argumentsBelow = inner.arguments := by
  obtain ⟨kind, _, _, _, _, _, _, _ | ⟨_⟩ | ⟨_⟩⟩ := field
  · simp [Field.nested?] at h
  · cases hk : kind.isCollection <;> simp_all [Field.argumentsBelow, Field.nested?]
  · simp [Field.nested?] at h

theorem mem_argumentsBelow_iff {field : Field} {entry : Text × Field} :
    entry ∈ field.argumentsBelow ↔
      ∃ inner, field.nested? = some inner ∧ entry ∈ inner.arguments := by
  cases hn : field.nested? with
  | none => simp [argumentsBelow_of_nested?_eq_none hn]
  | some inner => simp [argumentsBelow_of_nested?_eq_some hn]

/-- The arguments of an object are those fields among what is reached through arguments that are
arguments themselves. -/
theorem mem_arguments_iff {object : Object} {entry : Text × Field} :
    entry ∈ object.arguments ↔
      object.Reaches Field.isArgument entry ∧ entry.2.isArgument = true := by
  induction object using Object.induction with
  | h object inner =>
    induction object with
    | nil => simp [Object.arguments, Object.not_reaches_nil]
    | cons first rest ih =>
      obtain ⟨name, field⟩ := first
      have ih := ih fun name field object hm => inner name field object (List.mem_cons_of_mem _ hm)
      have below : entry ∈ field.argumentsBelow ↔
          (∃ object, field.nested? = some object ∧ object.Reaches Field.isArgument entry) ∧
            entry.2.isArgument = true := by
        rw [mem_argumentsBelow_iff, exists_and_right.symm]
        refine exists_congr fun object => ?_
        rw [and_assoc]
        exact and_congr_right fun hn => inner name field object List.mem_cons_self hn
      rw [Object.arguments, Object.reaches_cons_iff]
      split_ifs with ha
      · rw [List.mem_cons, List.mem_append, below, ih]
        constructor
        · rintro (rfl | ⟨hb, he⟩ | ⟨hr, he⟩)
          · exact ⟨.inl (.inl rfl), ha⟩
          · exact ⟨.inl (.inr ⟨ha, hb⟩), he⟩
          · exact ⟨.inr hr, he⟩
        · rintro ⟨(he | ⟨-, hb⟩) | hr, he'⟩
          · exact .inl he
          · exact .inr (.inl ⟨hb, he'⟩)
          · exact .inr (.inr ⟨hr, he'⟩)
      · rw [ih]
        refine and_congr_left fun he => (or_iff_right ?_).symm
        rintro (rfl | ⟨hd, -⟩)
        · exact ha he
        · exact ha hd

/-! ### What the walks over arguments add -/

open Report (Adds)

/-- The warnings of some arguments, one after the other. -/
def warningsOf (subject : Subject) (arguments : List (Text × Field)) : List Warning :=
  arguments.flatMap fun entry => argumentWarnings subject entry.1 entry.2

theorem warningsOf_cons (subject : Subject) (name : Text) (field : Field)
    (arguments : List (Text × Field)) :
    warningsOf subject ((name, field) :: arguments) =
      argumentWarnings subject name field ++ warningsOf subject arguments :=
  List.flatMap_cons

theorem warningsOf_append (subject : Subject) (first second : List (Text × Field)) :
    warningsOf subject (first ++ second) = warningsOf subject first ++ warningsOf subject second :=
  List.flatMap_append

theorem adds_documentArgument (name : Text) (field : Field) :
    (documentArgument subject name field).Adds (argumentWarnings subject name field) :=
  (Adds.forM_warn _).bind_pure

/-- If this is known of the objects below a field, it is known of the sections of the field. -/
theorem adds_sections_of {field : Field}
    (h : ∀ inner, field.nested? = some inner → ∀ depth name,
      (argumentLists subject depth name inner).Adds (warningsOf subject inner.arguments))
    (depth : Nat) (parent : Option Text) (name : Text) :
    (sections subject depth parent name field).Adds (warningsOf subject field.argumentsBelow) := by
  cases hn : field.nested? with
  | none =>
    rw [sections_of_nested?_eq_none hn, argumentsBelow_of_nested?_eq_none hn]
    exact .pure _
  | some inner =>
    rw [sections_of_nested?_eq_some hn, argumentsBelow_of_nested?_eq_some hn]
    exact (h inner hn depth name).bind_pure

/-- Below the top of a schema each argument is documented before those below it. -/
theorem adds_argumentLists (object : Object) :
    ∀ depth name, (argumentLists subject depth name object).Adds
      (warningsOf subject object.arguments) := by
  induction object using Object.induction with
  | h object inner =>
    intro depth name
    -- The outer induction is for what lies below the fields, this one goes through the fields.
    induction object with
    | nil =>
      rw [argumentLists, Object.arguments]
      exact .pure _
    | cons entry rest ih =>
      obtain ⟨child, field⟩ := entry
      have ih := ih fun name field object hm => inner name field object (List.mem_cons_of_mem _ hm)
      have below := adds_sections_of (inner child field · List.mem_cons_self) (depth + 1)
        (some name) child
      rw [argumentLists, Object.arguments]
      refine Adds.ofExcept_bind fun _ => ?_
      split_ifs
      · rw [warningsOf_cons, warningsOf_append]
        exact (adds_documentArgument child field).bind fun _ => below.bind fun _ => ih.bind_pure
      · exact ih

theorem adds_sections (depth : Nat) (parent : Option Text) (name : Text) (field : Field) :
    (sections subject depth parent name field).Adds (warningsOf subject field.argumentsBelow) :=
  adds_sections_of (fun inner _ => adds_argumentLists inner) depth parent name

/-- The arguments of a schema in the order in which they are documented: those at the top after the
arguments below them. -/
def Object.documentedArguments (schema : Object) : List (Text × Field) :=
  schema.flatMap fun entry =>
    if entry.2.isArgument then entry.2.argumentsBelow ++ [entry] else []

theorem documentedArguments_cons (name : Text) (field : Field) (rest : Object) :
    Object.documentedArguments ((name, field) :: rest) =
      (if field.isArgument then field.argumentsBelow ++ [(name, field)] else []) ++
        rest.documentedArguments :=
  List.flatMap_cons

theorem documentedArguments_perm (schema : Object) :
    schema.documentedArguments.Perm schema.arguments := by
  induction schema with
  | nil => exact .refl _
  | cons entry rest ih =>
    obtain ⟨name, field⟩ := entry
    rw [documentedArguments_cons, Object.arguments]
    split_ifs
    · exact (List.perm_append_singleton _ _).append ih
    · exact ih

theorem adds_classifyFields (schema : Object) :
    (classifyFields subject schema).Adds (warningsOf subject schema.documentedArguments) := by
  induction schema with
  | nil =>
    rw [classifyFields]
    exact .pure _
  | cons entry rest ih =>
    obtain ⟨name, field⟩ := entry
    rw [classifyFields, documentedArguments_cons]
    refine Adds.ofExcept_bind fun _ => ?_
    split_ifs
    · rw [List.append_assoc, List.singleton_append, warningsOf_append, warningsOf_cons]
      exact (adds_sections 0 none name field).bind fun _ =>
        (adds_documentArgument name field).bind fun _ => ih.bind_pure
    · exact Adds.ofExcept_bind fun _ => ih.bind_pure
    · exact ih

/-! ### The warnings of an accepted schema -/

/-- Warnings say of some arguments that they have no description or that they are deprecated: each
that has none, and each that is, once, and nothing else. -/
def WarnOf (subject : Subject) (arguments : List (Text × Field)) (warnings : List Warning) : Prop :=
  warnings.Perm
    ((arguments.filter fun entry => Text.isBlank entry.2.description).map
        (fun entry => .missingDescription subject.entity entry.1) ++
      (arguments.filter fun entry => entry.2.isDeprecated).map
        (fun entry => .deprecated subject.entity entry.1))

theorem flatMap_if_eq_map_filter {α β : Type} (p : α → Bool) (f : α → β) (items : List α) :
    (items.flatMap fun item => if p item then [f item] else []) = (items.filter p).map f := by
  induction items with
  | nil => rfl
  | cons item rest ih =>
    rw [List.flatMap_cons, List.filter_cons, ih]
    split_ifs <;> rfl

theorem warnOf_warningsOf (arguments : List (Text × Field)) :
    WarnOf subject arguments (warningsOf subject arguments) := by
  unfold WarnOf warningsOf argumentWarnings
  rw [← flatMap_if_eq_map_filter, ← flatMap_if_eq_map_filter]
  exact (List.flatMap_append_perm arguments _ _).symm

/-- The warnings of an accepted schema are those of its arguments, as they are documented. -/
theorem warnings_classify {schema : Object} {c : Classification}
    (h : (classify subject schema).result.1 = .ok c) :
    (classify subject schema).result.2 = warningsOf subject schema.documentedArguments := by
  have comesTo := (@collects_classify subject schema).comesTo
  rw [h] at comesTo
  have adds : (classify subject schema).Adds (warningsOf subject schema.documentedArguments) :=
    (adds_classifyFields schema).bind_pure
  exact adds [] _ _ (comesTo [])

/-- An accepted schema gives no warning exactly if all its arguments have a description and none is
deprecated. -/
theorem warnings_classify_eq_nil_iff {schema : Object} {c : Classification}
    (h : (classify subject schema).result.1 = .ok c) :
    (classify subject schema).result.2 = [] ↔
      ∀ entry, schema.Reaches Field.isArgument entry → entry.2.isArgument = true →
        Text.isBlank entry.2.description = false ∧ entry.2.isDeprecated = false := by
  have silent (entry : Text × Field) : argumentWarnings subject entry.1 entry.2 = [] ↔
      Text.isBlank entry.2.description = false ∧ entry.2.isDeprecated = false := by
    simp [argumentWarnings]
  rw [warnings_classify h, warningsOf, List.flatMap_eq_nil_iff]
  simp only [silent, (documentedArguments_perm schema).mem_iff, mem_arguments_iff, and_imp]

/-- An accepted schema adds to the warnings collected before it those of all its arguments, at any
depth: one for each that has no description and one for each that is deprecated. -/
theorem classify_warnings {schema : Object} {c : Classification}
    (h : (classify subject schema).result.1 = .ok c) :
    ∃ added, WarnOf subject schema.arguments added ∧
      ∀ before, (classify subject schema).run before = .ok c (before ++ added) := by
  have comesTo := (@collects_classify subject schema).comesTo
  rw [h] at comesTo
  refine ⟨_, ?_, comesTo⟩
  rw [warnings_classify h]
  exact ((documentedArguments_perm schema).flatMap_right _).trans (warnOf_warningsOf _)

/-- A schema in which an object and an argument below it share their name.  Neither has a
description and both are deprecated, as is a child of an attribute, which adds nothing. -/
def agedSchema : Object :=
  let path : Field :=
    { kind := .string, required := true, description := "\t".toList, deprecated := " ".toList }
  let hits : Field := { kind := .int, computed := true }
  let rules : Field :=
    { kind := .list, «optional» := true, deprecated := "Use rule.".toList,
      element := some (.object [("hits".toList, hits), ("rules".toList, path)]) }
  let state : Field :=
    { kind := .set, computed := true, description := "State.".toList,
      element := some (.object
        [("code".toList, { kind := .int, «optional» := true, deprecated := "Old.".toList })]) }
  [("rules".toList, rules), ("state".toList, state),
    ("ttl".toList, { kind := .int, required := true, description := "TTL.".toList })]

theorem agedSchema_warnings :
    ∃ c, (classify ⟨"cdn_zone".toList, false⟩ agedSchema).result.1 = .ok c ∧
      ∃ added, WarnOf ⟨"cdn_zone".toList, false⟩ agedSchema.arguments added ∧
        ∀ before, (classify ⟨"cdn_zone".toList, false⟩ agedSchema).run before =
          .ok c (before ++ added) := by
  obtain ⟨c, h⟩ := Report.exists_result_eq_ok
    (show (classify ⟨"cdn_zone".toList, false⟩ agedSchema).result.1.isOk = true by
      decide +kernel)
  exact ⟨c, h, classify_warnings h⟩

/-- The lower of the two arguments with one name comes first. -/
example :
    agedSchema.documentedArguments.map (fun entry => (entry.1, entry.2.kind)) =
      [("rules".toList, .string), ("rules".toList, .list), ("ttl".toList, .int)] ∧
    (classify ⟨"cdn_zone".toList, false⟩ agedSchema).result.2 =
      [.missingDescription "cdn_zone".toList "rules".toList,
        .deprecated "cdn_zone".toList "rules".toList,
        .missingDescription "cdn_zone".toList "rules".toList,
        .deprecated "cdn_zone".toList "rules".toList] := by
  decide +kernel

end ProviderDocs
