import ProviderDocs.Proofs.Manifest.Written

/-!
# Manifests are read as they are written

A value that writes a provider is read as that provider, exactly if every element in it can be kept
(`Provider.ofJson?_eq_some_iff`).
-/

namespace ProviderDocs

open Json (AtEach AtMember DistinctNames MapLayout MapWrittenAs Member Members declaredMembers?
  mapEntries? mapOf? member? text? bool?)

variable {entries : List (Option Text × Json)} {members : Members} {j : Json}

/-! ### Elements -/

theorem Object.ofEntries?_eq (entries : List (Option Text × Json)) :
    Object.ofEntries? entries = mapEntries? Field.ofJson? entries := by
  induction entries with
  | nil => rw [Object.ofEntries?, mapEntries?]
  | cons entry rest ih =>
    obtain ⟨_ | name, value⟩ := entry
    · rw [Object.ofEntries?, mapEntries?]
    · rw [Object.ofEntries?, mapEntries?, ih]

/-- The element of a field is read from the member with its name. -/
theorem Element.ofEntries?_eq (entries : List (Option Text × Json)) :
    Element.ofEntries? entries =
      match member? entries "elem" with
      | some value => Element.ofJson? value
      | none => some none := by
  induction entries with
  | nil => rw [Element.ofEntries?]; rfl
  | cons entry rest ih =>
    obtain ⟨name, value⟩ := entry
    rw [Element.ofEntries?, member?, List.lookup_cons]
    split_ifs with hn
    · rw [hn, beq_self_eq_true]
    · rw [beq_eq_false_iff_ne.mpr (Ne.symm hn), ih]
      rfl

theorem Element.ofJson?_string (text : Option Text) :
    Element.ofJson? (.string text) = text.map fun name => some (.scalar (Kind.ofName name)) := by
  cases text with
  | none => rfl
  | some name => rfl

/-- An element that was read can be kept. -/
theorem Element.isSound_of_ofJson? {element : Option Element}
    (h : Element.ofJson? j = some element) : j.isSound = true := by
  cases j with
  | null => rfl
  | string text =>
    rw [Element.ofJson?_string] at h
    obtain ⟨name, rfl, -⟩ := Option.map_eq_some_iff.mp h
    rfl
  | object inner =>
    rw [Element.ofJson?] at h
    split_ifs at h with hs
    exact hs
  | _ => cases h

theorem Json.isSound_of_membersAreSound (h : Json.membersAreSound entries = true) :
    ∀ entry ∈ entries, entry.2.isSound = true := by
  induction entries with
  | nil => exact fun _ he => absurd he List.not_mem_nil
  | cons entry rest ih =>
    obtain ⟨name, value⟩ := entry
    rw [Json.membersAreSound, Bool.and_eq_true, Bool.and_eq_true] at h
    exact List.forall_mem_cons.mpr ⟨h.1.2, ih h.2⟩

/-- The element in a value that can be kept can be kept too. -/
theorem Field.elementIsSound_of_isSound (h : j.isSound = true) : Field.ElementIsSound j := by
  cases j with
  | object entries =>
    intro value hv
    obtain ⟨before, after, he, -⟩ := List.lookup_eq_some_iff.mp hv
    refine Json.isSound_of_membersAreSound h (some "elem".toList, value) ?_
    rw [he]
    exact List.mem_append_right _ List.mem_cons_self
  | _ => trivial

/-! ### Fields -/

theorem Kind.ofJson?_of_writtenAs {kind : Kind} (h : kind.WrittenAs j) :
    Kind.ofJson? j = some kind := by
  cases h with
  | string h => exact congrArg some (Kind.ofName_eq_iff.mpr h)

theorem bool?_of_eq {value : Bool} (h : j = .bool value) : bool? j = some value := by
  rw [h]
  rfl

theorem text?_of_eq {text : Text} (h : j = .string (some text)) : text? j = some text := by
  rw [h]
  rfl

theorem Field.ofMembers?_of_membersWrittenAs {field : Field} (h : field.MembersWrittenAs entries)
    (found : ∀ {name : String}, name.toList ∈ fieldMembers →
      members.lookup name.toList = member? entries name) :
    Field.ofMembers? members field.element = some field := by
  rw [Field.ofMembers?,
    Json.optional?_of_member (found (by decide)) h.kind fun _ _ => Kind.ofJson?_of_writtenAs,
    Json.optional?_of_member (found (by decide)) h.required fun _ _ => bool?_of_eq,
    Json.optional?_of_member (found (by decide)) h.optional fun _ _ => bool?_of_eq,
    Json.optional?_of_member (found (by decide)) h.computed fun _ _ => bool?_of_eq,
    Json.optional?_of_member (found (by decide)) h.forceNew fun _ _ => bool?_of_eq,
    Json.optional?_of_member (found (by decide)) h.deprecated fun _ _ => text?_of_eq,
    Json.optional?_of_member (found (by decide)) h.description fun _ _ => text?_of_eq]
  cases field
  rfl

/-- A field is read as soon as its element is. -/
theorem Field.ofJson?_of_element {field : Field} (h : field.MembersWrittenAs entries)
    (he : Element.ofEntries? entries = some field.element) :
    Field.ofJson? (.object entries) = some field := by
  obtain ⟨members, hm, found⟩ := Json.exists_members? h.names fieldMembers
  rw [Json.members?] at hm
  rw [Field.ofJson?, hm, he]
  exact Field.ofMembers?_of_membersWrittenAs h found

/-- A field is read as it is written, if its element can be kept. -/
theorem Field.ofJson?_of_writtenAs {field : Field} (h : field.WrittenAs j)
    (hs : Field.ElementIsSound j) : Field.ofJson? j = some field := by
  induction h with
  | @plain field entries hm element elem =>
    refine Field.ofJson?_of_element hm ?_
    rw [Element.ofEntries?_eq, element]
    generalize member? entries "elem" = found at elem ⊢
    cases elem with
    | written h =>
      rw [h]
      rfl
    | omitted => rfl
  | @scalar field entries kind hm element elem =>
    refine Field.ofJson?_of_element hm ?_
    rw [Element.ofEntries?_eq, element]
    generalize member? entries "elem" = found at elem ⊢
    cases elem with
    | written h =>
      cases h with
      | @string name h =>
        obtain rfl : Kind.ofName name = kind := Kind.ofName_eq_iff.mpr h
        exact Element.ofJson?_string (some name)
    | omitted none => exact none.elim
  | @object field entries fields value inner hm element elem layout each ih =>
    refine Field.ofJson?_of_element hm ?_
    -- What is inside an element that can be kept can be kept, so that its fields are read.
    have sound : Json.membersAreSound inner = true := hs _ elem
    have kept : AtEach Field.ElementIsSound (.object inner) := fun entry he =>
      Field.elementIsSound_of_isSound (Json.isSound_of_membersAreSound sound entry he)
    have written : MapWrittenAs
        (fun field j => Field.ElementIsSound j → Field.ofJson? j = some field) fields
        (.object inner) :=
      .object layout ih
    have read : mapOf? Field.ofJson? (.object inner) = some fields :=
      Json.mapOf?_of_mapWrittenAs written kept fun _ _ h => h
    obtain ⟨read, hr, ho⟩ := Option.map_eq_some_iff.mp read
    rw [Element.ofEntries?_eq, elem, element]
    show Element.ofJson? (.object inner) = some (some (.object fields))
    rw [Element.ofJson?, if_pos sound, Object.ofEntries?_eq, hr, ← ho]

/-- A field that was read has an element that can be kept. -/
theorem Field.elementIsSound_of_ofJson? {field : Field} (h : Field.ofJson? j = some field) :
    Field.ElementIsSound j := by
  cases j with
  | object entries =>
    intro value hv
    simp only [Field.ofJson?, Option.bind_eq_bind, Option.bind_eq_some_iff] at h
    obtain ⟨_, -, element, he, -⟩ := h
    rw [Element.ofEntries?_eq, Option.mem_def.mp hv] at he
    exact Element.isSound_of_ofJson? he
  | _ => trivial

/-! ### Sources -/

theorem Source.ofJson?_of_writtenAs {source : Source} (h : source.WrittenAs j)
    (hs : Source.ElementsAreSound j) : Source.ofJson? j = some source := by
  cases h with
  | @object entries names description schema =>
    obtain ⟨members, hm, found⟩ := Json.exists_members? names sourceMembers
    have object (j : Json) (hj : j ∈ member? entries "schema")
        (h : MapWrittenAs Field.WrittenAs source.schema j) :
        Object.ofJson? j = some source.schema :=
      Json.mapOf?_of_mapWrittenAs h (hs j hj) fun _ _ => Field.ofJson?_of_writtenAs
    rw [Source.ofJson?, hm, Option.bind_eq_bind, Option.bind_some,
      Json.optional?_of_member (found (by decide)) description fun _ _ => text?_of_eq,
      Json.optional?_of_member (found (by decide)) schema object]
    rfl

theorem Source.elementsAreSound_of_ofJson? {source : Source} (h : Source.ofJson? j = some source) :
    Source.ElementsAreSound j := by
  cases j with
  | object entries =>
    simp only [Source.ofJson?, Json.members?, Option.bind_eq_bind, Option.bind_eq_some_iff] at h
    obtain ⟨members, hm, -, -, schema, hs, -⟩ := h
    refine Json.atMember_of_optional? (Json.lookup_of_declaredMembers? hm (by decide)) hs ?_
    exact fun _ _ h => Json.atEach_of_mapOf? h fun _ _ => Field.elementIsSound_of_ofJson?
  | _ => trivial

/-! ### Providers -/

/-- The entities of one kind are the values of a map that may be left out. -/
theorem sources?_eq_some_iff {name : String}
    {sources : {entries : List (Text × Source) // isAscending (entries.map Prod.fst) = true}} :
    sources? members name = some sources ↔
      members.optional? name (mapOf? Source.ofJson?) [] = some sources.1 := by
  unfold sources?
  split
  · rename_i entries h
    rw [Option.some.injEq, Subtype.ext_iff]
    show entries = sources.1 ↔ _
    rw [h, Option.some.injEq]
  · rename_i h
    rw [h]
    exact iff_of_false nofun nofun

theorem Provider.ofJson?_of_writtenAs {provider : Provider} (h : provider.WrittenAs j)
    (hs : Provider.ElementsAreSound j) : Provider.ofJson? j = some provider := by
  cases h with
  | @object entries names nameSpace title configuration listing resources dataSources =>
    obtain ⟨members, hm, found⟩ := Json.exists_members? names providerMembers
    have map {sources : List (Text × Source)} {j : Json} (hj : AtEach Source.ElementsAreSound j)
        (h : MapWrittenAs Source.WrittenAs sources j) : mapOf? Source.ofJson? j = some sources :=
      Json.mapOf?_of_mapWrittenAs h hj fun _ _ => Source.ofJson?_of_writtenAs
    have resourcesRead : sources? members "resources" =
        some ⟨provider.resources, provider.ordered_resources⟩ :=
      sources?_eq_some_iff.mpr (Json.optional?_of_member (found (by decide)) resources
        fun j hj => map (hs.resources j hj))
    have dataSourcesRead : sources? members "data_sources" =
        some ⟨provider.dataSources, provider.ordered_dataSources⟩ :=
      sources?_eq_some_iff.mpr (Json.optional?_of_member (found (by decide)) dataSources
        fun j hj => map (hs.dataSources j hj))
    rw [Provider.ofJson?, hm, Option.bind_eq_bind, Option.bind_some,
      Json.required?_of_member (found (by decide)) nameSpace fun _ => text?_of_eq,
      Json.required?_of_member (found (by decide)) title fun _ => text?_of_eq,
      Json.optional?_of_member (found (by decide)) configuration fun j hj h =>
        Source.ofJson?_of_writtenAs h (hs.configuration j hj),
      Json.optional?_of_member (found (by decide)) listing fun _ _ => text?_of_eq, resourcesRead,
      dataSourcesRead]
    rfl

theorem Provider.elementsAreSound_of_ofJson? {provider : Provider}
    (h : Provider.ofJson? j = some provider) : Provider.ElementsAreSound j := by
  cases j with
  | object entries =>
    simp only [Provider.ofJson?, Json.members?, Option.bind_eq_bind, Option.bind_eq_some_iff] at h
    obtain ⟨members, hm, -, -, -, -, configuration, hc, -, -, resources, hr, dataSources, hd,
      -⟩ := h
    have found {name : String} (hn : name.toList ∈ providerMembers) :
        members.lookup name.toList = member? entries name :=
      Json.lookup_of_declaredMembers? hm hn
    have map (j : Json) (sources : List (Text × Source))
        (h : mapOf? Source.ofJson? j = some sources) : AtEach Source.ElementsAreSound j :=
      Json.atEach_of_mapOf? h fun _ _ => Source.elementsAreSound_of_ofJson?
    exact
      { configuration := Json.atMember_of_optional? (found (by decide)) hc fun _ _ =>
          Source.elementsAreSound_of_ofJson?
        resources :=
          Json.atMember_of_optional? (found (by decide)) (sources?_eq_some_iff.mp hr) map
        dataSources :=
          Json.atMember_of_optional? (found (by decide)) (sources?_eq_some_iff.mp hd) map }
  | _ => exact ⟨trivial, trivial, trivial⟩

/-- What a value writes is read, exactly if every element in it can be kept. -/
theorem Provider.ofJson?_eq_some_iff {provider : Provider} (h : provider.WrittenAs j) :
    Provider.ofJson? j = some provider ↔ Provider.ElementsAreSound j :=
  ⟨Provider.elementsAreSound_of_ofJson?, Provider.ofJson?_of_writtenAs h⟩

/-- The text of a manifest is read as the provider that its value writes, on the same condition. -/
theorem Provider.ofText?_eq_some_iff {t : Text} {provider : Provider} (hr : Json.read? t = some j)
    (h : provider.WrittenAs j) :
    Provider.ofText? t = some provider ↔ Provider.ElementsAreSound j := by
  rw [Provider.ofText?, hr]
  exact ⟨Provider.elementsAreSound_of_ofJson?, Provider.ofJson?_of_writtenAs h⟩

/-- A list of objects with one text each. -/
def listField : Field where
  kind := .list
  element := some (.object [("x".toList, ({ kind := .string } : Field))])

/-- A provider with one resource, which takes the list. -/
def listProvider : Provider where
  nameSpace := "n".toList
  title := "N".toList
  resources := [("n_a".toList, { schema := [("f".toList, listField)] })]

/-- The text in the objects of the list, with a note. -/
def notedText (note : Json) : Json :=
  .object [
    (some "note".toList, note),
    (some "type".toList, .string (some "string".toList)),
    (some "required".toList, .bool false)]

/-- The list, with a note inside its element and one beside it. -/
def notedList (inside beside : Json) : Json :=
  .object [
    (some "elem".toList, .object [(some "x".toList, notedText inside)]),
    (some "note".toList, beside),
    (some "type".toList, .string (some "list".toList))]

/-- A manifest of the provider, with the notes on its list. -/
def notedManifest (inside beside : Json) : Json :=
  .object [
    (some "title".toList, .string (some "N".toList)),
    (some "resources".toList, .object [(some "n_a".toList, .object [
      (some "schema".toList, .object [(some "f".toList, notedList inside beside)])])]),
    (some "namespace".toList, .string (some "n".toList))]

/-- A number that is not finite in double precision. -/
def hugeNumber : Json :=
  .number { whole := ['1'], exponent := 999 }

theorem writtenAs_notedText (note : Json) :
    Field.WrittenAs { kind := .string } (notedText note) := by
  refine .plain ?_ rfl (.omitted trivial)
  exact {
    names := ⟨by simp, by simp⟩
    kind := .written (.string (.inl rfl))
    required := .written rfl
    «optional» := .omitted rfl
    computed := .omitted rfl
    forceNew := .omitted rfl
    deprecated := .omitted rfl
    description := .omitted rfl }

theorem writtenAs_notedList (inside beside : Json) :
    listField.WrittenAs (notedList inside beside) := by
  refine .object ?_ rfl rfl (.singleton "x".toList _ (notedText inside)) ?_
  · exact {
      names := ⟨by simp, by simp⟩
      kind := .written (.string (.inl rfl))
      required := .omitted rfl
      «optional» := .omitted rfl
      computed := .omitted rfl
      forceNew := .omitted rfl
      deprecated := .omitted rfl
      description := .omitted rfl }
  · exact List.forall_mem_singleton.mpr (writtenAs_notedText inside)

/-- Notes do not change which provider a manifest writes. -/
theorem writtenAs_notedManifest (inside beside : Json) :
    listProvider.WrittenAs (notedManifest inside beside) := by
  refine .object ⟨by simp, by simp⟩ (.written rfl) (.written rfl) (.omitted rfl) (.omitted rfl)
    (.written (.singleton "n_a".toList ?_)) (.omitted rfl)
  refine .object ⟨by simp, by simp⟩ (.omitted rfl) (.written (.singleton "f".toList ?_))
  exact writtenAs_notedList inside beside

/-- Beside an element a note may be whatever it likes. -/
theorem notedManifest_read :
    listProvider.WrittenAs (notedManifest .null hugeNumber) ∧
      Provider.ofJson? (notedManifest .null hugeNumber) = some listProvider := by
  have written : listProvider.WrittenAs (notedManifest .null hugeNumber) :=
    writtenAs_notedManifest .null hugeNumber
  refine ⟨written, (Provider.ofJson?_eq_some_iff written).mpr ⟨?_, ?_, ?_⟩⟩
  · rintro _ ⟨⟩
  · rintro _ ⟨⟩
    refine List.forall_mem_singleton.mpr ?_
    rintro _ ⟨⟩
    refine List.forall_mem_singleton.mpr ?_
    rintro _ ⟨⟩
    decide
  · rintro _ ⟨⟩

/-- Inside an element a note that cannot be kept makes the manifest unreadable. -/
theorem notedManifest_unread :
    listProvider.WrittenAs (notedManifest hugeNumber .null) ∧
      Provider.ofJson? (notedManifest hugeNumber .null) = none :=
  ⟨writtenAs_notedManifest hugeNumber .null, rfl⟩

end ProviderDocs
