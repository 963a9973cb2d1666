import ProviderDocs.Proofs.Snippet.Lines

/-!
# Columns of attributes

In a formatted snippet the signs of attributes on neighbouring lines stand in one column, one space
behind the longest of their keys, and any other attribute has one space before its sign
(`format_columns`).  A line is told to be an attribute by what stands on it (`IsAttribute`), and the
formatter reads it as one at half its leading spaces (`IsAttribute.exists_level`), so that the
attributes that belong together are those that are laid out as a run of their own
(`layout_map_assign`): the lines above and below are in no column with them.
-/

namespace ProviderDocs.Snippet

/-! ### Lines that are attributes -/

/-- The number of spaces that a line begins with. -/
def leadingSpaces (line : Text) : Nat :=
  (line.takeWhile (· == ' ')).length

/-- Below lines that leave a state behind, a line is an attribute with some spaces before it:
neither a heredoc nor a comment is open there. -/
structure IsAttribute (state : State) (line : Text) (spaces : Nat) (attr : Attribute) : Prop where
  noHeredoc : state.heredoc = none
  noComment : state.inComment = false
  shown : Attribute.ofLine? (Text.trim line) = some attr
  spaces : leadingSpaces line = spaces

/-- A line opens as many brackets as it closes, and leaves no comment open. -/
def EndsOnLine (line : Text) : Prop :=
  (balance (Text.trim line)).delta = 0 ∧ (balance (Text.trim line)).opensComment = false

instance (line : Text) : Decidable (EndsOnLine line) :=
  inferInstanceAs (Decidable (_ ∧ _))

instance (state : State) (line : Text) (spaces : Nat) (attr : Attribute) :
    Decidable (IsAttribute state line spaces attr) :=
  decidable_of_iff
    ((state.heredoc = none ∧ state.inComment = false) ∧
      Attribute.ofLine? (Text.trim line) = some attr ∧ leadingSpaces line = spaces)
    ⟨fun h => ⟨h.1.1, h.1.2, h.2.1, h.2.2⟩, fun h => ⟨⟨h.1, h.2⟩, h.3, h.4⟩⟩

/-- Lines are attributes that end on their lines, all with as many spaces before them. -/
inductive AreAttributes (spaces : Nat) : State → List Text → List Attribute → Prop where
  | nil {state : State} : AreAttributes spaces state [] []
  | cons {state : State} {line : Text} {attr : Attribute} {rest : List Text}
    {attrs : List Attribute} (head : IsAttribute state line spaces attr) (ends : EndsOnLine line)
    (tail : AreAttributes spaces (state.readLine line).1 rest attrs) :
    AreAttributes spaces state (line :: rest) (attr :: attrs)

/-- Some of the lines of a snippet are the attributes of one column: they are attributes that end on
their lines, with as many spaces before them, and neither the line above nor the one below is one
more of them. -/
structure IsColumn (above run below : List Text) (spaces : Nat) (attrs : List Attribute) :
    Prop where
  attributes : AreAttributes spaces (stateAfter {} above) run attrs
  ne_nil : run ≠ []
  noneAbove : ∀ start last attr, above = start ++ [last] →
    IsAttribute (stateAfter {} start) last spaces attr → ¬EndsOnLine last
  noneBelow : ∀ next rest attr, below = next :: rest →
    IsAttribute (stateAfter {} (above ++ run)) next spaces attr → ¬EndsOnLine next

/-- The line of an attribute with some spaces before it and the key padded to a width: there is one
more space before the sign, and one behind it if there is a value. -/
def Attribute.inColumn (spaces width : Nat) (attr : Attribute) : Text :=
  List.replicate spaces ' ' ++ attr.key ++ List.replicate (width - attr.key.length) ' ' ++
    " =".toList ++ if attr.value = [] then [] else ' ' :: attr.value

/-- The place of the sign depends on the width alone. -/
theorem Attribute.getElem?_inColumn {attr : Attribute} {width : Nat}
    (h : attr.key.length ≤ width) (spaces : Nat) :
    (attr.inColumn spaces width)[spaces + width + 1]? = some '=' := by
  have start : (List.replicate spaces ' ' ++ attr.key ++
      List.replicate (width - attr.key.length) ' ' ++ [' ']).length = spaces + width + 1 := by
    simp
    omega
  have parts : attr.inColumn spaces width = (List.replicate spaces ' ' ++ attr.key ++
      List.replicate (width - attr.key.length) ' ' ++ [' ']) ++
        '=' :: if attr.value = [] then [] else ' ' :: attr.value := by
    simp [inColumn]
  rw [parts, ← start, List.getElem?_append_right le_rfl, Nat.sub_self]
  rfl

theorem Attribute.WellFormed.indentation_append_write {attr : Attribute} (hw : attr.WellFormed)
    (level width : Nat) :
    indentation level ++ attr.write width = attr.inColumn (2 * level) width := by
  rw [hw.write_eq, indentation, inColumn]
  split_ifs <;> simp_all

/-! ### Reading a line of a formatted snippet -/

theorem leadingSpaces_indentation_append {t : Text} (ht : Text.Trimmed t) (level : Nat) :
    leadingSpaces (indentation level ++ t) = 2 * level := by
  have stop : t.takeWhile (· == ' ') = [] := by
    cases t with
    | nil => rfl
    | cons c rest =>
      have ink : c ≠ ' ' := by
        rintro rfl
        exact absurd (ht.head ' ' rfl) (by decide)
      simp [ink]
  rw [leadingSpaces, List.takeWhile_append_of_pos, stop, List.append_nil, indentation,
    List.length_replicate]
  intro c hc
  rw [List.eq_of_mem_replicate hc]
  rfl

/-- Code is read as an attribute of a column only if it is one that ends on its line. -/
theorem ofCode_eq_assign {indent level : Nat} {t : Text} {attr : Attribute}
    (h : Line.ofCode indent t = .assign level attr) :
    Attribute.ofLine? t = some attr ∧ (balance t).delta = 0 ∧ (balance t).opensComment = false := by
  cases shown : Attribute.ofLine? t with
  | none => simp [Line.ofCode, shown] at h
  | some other =>
    simp only [Line.ofCode, shown] at h
    split_ifs at h with ends
    rw [(Line.assign.inj h).2]
    exact ⟨rfl, ends⟩

section Reading

variable {state : State} {line : Text} {spaces : Nat} {attr : Attribute}

/-- An attribute that is laid out is read at half its leading spaces: as one of a column if it ends
on its line, and else without a column. -/
theorem IsAttribute.exists_level (h : IsAttribute state line spaces attr)
    (written : WrittenFor line (state.readLine line).2) :
    ∃ level, spaces = 2 * level ∧ attr.WellFormed ∧
      (EndsOnLine line → (state.readLine line).2 = .assign level attr) ∧
      (¬EndsOnLine line → line = indentation level ++ attr.write 0) := by
  have trimmed : Text.Trimmed (Text.trim line) := Text.trimmed_trim line
  obtain ⟨hw, -⟩ := Attribute.shows_of_ofLine? h.shown trimmed.last
  have full : lineText line ≠ [] := by
    rw [lineText_eq_trim]
    intro empty
    have shown := h.shown
    rw [empty] at shown
    cases shown
  obtain ⟨width, hline⟩ := written
  rw [State.readLine_of_code h.noHeredoc full h.noComment, lineText_eq_trim] at hline ⊢
  generalize state.depth - leadingClosers (Text.trim line) = level at hline ⊢
  have spaces (w : Nat) (hline : line = indentation level ++ attr.write w) :
      spaces = 2 * level := by
    rw [← h.spaces, hline, leadingSpaces_indentation_append (hw.trimmed_write w)]
  by_cases ends : EndsOnLine line
  · have read : Line.ofCode level (Text.trim line) = .assign level attr := by
      simp only [Line.ofCode, h.shown]
      exact if_pos ends
    rw [read] at hline ⊢
    exact ⟨level, spaces width hline, hw, fun _ => rfl, fun no => absurd ends no⟩
  · have read : Line.ofCode level (Text.trim line) = .code level (attr.write 0) := by
      simp only [Line.ofCode, h.shown]
      exact if_neg ends
    rw [read] at hline
    exact ⟨level, spaces 0 hline, hw, fun yes => absurd yes ends, fun _ => hline⟩

/-- What is read as an attribute of a column is one that ends on its line. -/
theorem isAttribute_of_readLine_eq {level : Nat}
    (h : (state.readLine line).2 = .assign level attr)
    (written : WrittenFor line (state.readLine line).2) :
    IsAttribute state line (2 * level) attr ∧ EndsOnLine line := by
  obtain ⟨width, hline⟩ := written
  rw [h] at hline
  rcases state.readLine_cases line with ⟨marker, -, read⟩ | ⟨-, -, read⟩ | ⟨-, -, -, read⟩ |
    ⟨hh, -, hc, read⟩ <;> rw [read] at h
  · cases h
  · cases h
  · cases h
  · rw [lineText_eq_trim] at h
    obtain ⟨shown, ends⟩ := ofCode_eq_assign h
    obtain ⟨hw, -⟩ := Attribute.shows_of_ofLine? shown (Text.trimmed_trim line).last
    refine ⟨⟨hh, hc, shown, ?_⟩, ends⟩
    rw [hline, Line.write, leadingSpaces_indentation_append (hw.trimmed_write width)]

end Reading

/-! ### Columns that are laid out -/

/-- The attributes of a column are read as such, all at one level. -/
theorem AreAttributes.readLines_eq {state : State} {run : List Text} {level : Nat}
    {attrs : List Attribute} (h : AreAttributes (2 * level) state run attrs)
    (written : List.Forall₂ WrittenFor run (readLines state run)) :
    readLines state run = attrs.map (.assign level) ∧ ∀ attr ∈ attrs, attr.WellFormed := by
  induction h with
  | nil => exact ⟨rfl, by simp⟩
  | cons head ends _ ih =>
    rw [readLines] at written ⊢
    obtain ⟨first, later⟩ := List.forall₂_cons.mp written
    obtain ⟨own, double, hw, read, -⟩ := head.exists_level first
    obtain rfl : own = level := by omega
    obtain ⟨rest, wellFormed⟩ := ih later
    rw [read ends, rest]
    exact ⟨rfl, List.forall_mem_cons.mpr ⟨hw, wellFormed⟩⟩

theorem AreAttributes.exists_level {state : State} {run : List Text} {spaces : Nat}
    {attrs : List Attribute} (h : AreAttributes spaces state run attrs) (hn : run ≠ [])
    (written : List.Forall₂ WrittenFor run (readLines state run)) :
    ∃ level, spaces = 2 * level ∧ attrs ≠ [] ∧ readLines state run = attrs.map (.assign level) ∧
      ∀ attr ∈ attrs, attr.WellFormed := by
  cases h with
  | nil => exact absurd rfl hn
  | cons head ends tail =>
    -- The first attribute gives the level of them all.
    obtain ⟨level, rfl, -⟩ := head.exists_level (List.forall₂_cons.mp written).1
    exact ⟨level, rfl, List.cons_ne_nil _ _, (cons head ends tail).readLines_eq written⟩

/-- A column is as wide as its longest key. -/
theorem columnWidth_map_assign (level : Nat) {attrs : List Attribute} (hn : attrs ≠ []) :
    (∀ attr ∈ attrs, attr.key.length ≤ columnWidth (attrs.map (.assign level))) ∧
      ∃ attr ∈ attrs, attr.key.length = columnWidth (attrs.map (.assign level)) := by
  induction attrs with
  | nil => exact absurd rfl hn
  | cons first rest ih =>
    have width : columnWidth ((first :: rest).map (.assign level)) =
        max first.key.length (columnWidth (rest.map (.assign level))) := rfl
    rcases eq_or_ne rest [] with rfl | hr
    · simp [columnWidth, Line.keyWidth]
    · obtain ⟨bound, longest, hm, hl⟩ := ih hr
      rw [width]
      refine ⟨List.forall_mem_cons.mpr ⟨le_max_left _ _, fun attr ha =>
        (bound attr ha).trans (le_max_right _ _)⟩, ?_⟩
      rcases le_total first.key.length (columnWidth (rest.map (.assign level))) with h | h
      · exact ⟨longest, List.mem_cons_of_mem _ hm, by rw [max_eq_right h, hl]⟩
      · exact ⟨first, List.mem_cons_self, (max_eq_left h).symm⟩

/-- Attributes at one level are laid out as one run. -/
theorem layout_map_assign (level : Nat) {attrs : List Attribute} (hn : attrs ≠ [])
    (wellFormed : ∀ attr ∈ attrs, attr.WellFormed) :
    layout (attrs.map (.assign level)) =
      attrs.map (Attribute.inColumn (2 * level) (columnWidth (attrs.map (.assign level)))) := by
  have chain : (attrs.map (.assign level)).IsChain fun line next => Line.aligns line next := by
    refine List.Pairwise.isChain (List.pairwise_map.mpr (List.pairwise_of_forall fun _ _ => ?_))
    simp [Line.aligns, Line.attributeIndent?]
  rw [layout, List.splitBy_of_isChain (by simpa using hn) chain, List.flatMap_singleton,
    List.map_map]
  exact List.map_congr_left fun attr ha => (wellFormed attr ha).indentation_append_write level _

/-- A line is in a column with an attribute only if it is an attribute at the same level. -/
theorem exists_assign_of_aligns {line : Line} {level : Nat} {attr : Attribute}
    (h : line.aligns (.assign level attr) = true ∨ Line.aligns (.assign level attr) line = true) :
    ∃ other, line = .assign level other := by
  cases line with
  | assign own other =>
    simp only [Line.aligns, Line.attributeIndent?, Option.isSome_some, Bool.true_and, beq_iff_eq,
      Option.some.injEq] at h
    obtain rfl : own = level := h.elim id Eq.symm
    exact ⟨other, rfl⟩
  | blank | verbatim | code => simp [Line.aligns, Line.attributeIndent?] at h

theorem length_layout_readLines (state : State) (texts : List Text) :
    (layout (readLines state texts)).length = texts.length := by
  rw [(forall₂_layout _).length_eq, length_readLines]

/-! ### Columns of a formatted snippet -/

namespace IsColumn

variable {snippet : Text} {above run below : List Text} {level : Nat} {attrs : List Attribute}
  (column : IsColumn above run below (2 * level) attrs)
  (h : Text.splitLines (format snippet) = above ++ (run ++ below))
include column h

/-- The line above a column is laid out apart from it. -/
theorem aligns_above (attr : Attribute) :
    ∀ last ∈ (readLines {} above).getLast?, last.aligns (.assign level attr) = false := by
  intro last hl
  by_contra aligned
  obtain ⟨other, rfl⟩ := exists_assign_of_aligns (.inl (Bool.not_eq_false _ ▸ aligned))
  rcases List.eq_nil_or_concat above with rfl | ⟨start, line, rfl⟩
  · cases hl
  · rw [List.concat_eq_append] at h hl column
    have read : ((stateAfter {} start).readLine line).2 = .assign level other := by
      rw [readLines_append, readLines, readLines, List.getLast?_append_of_ne_nil _ (by simp)] at hl
      simpa using hl
    rw [List.append_assoc, List.singleton_append] at h
    obtain ⟨shown, ends⟩ := isAttribute_of_readLine_eq read (writtenFor_of_format h)
    exact column.noneAbove start line other rfl shown ends

/-- The line below a column is laid out apart from it. -/
theorem aligns_below (attr : Attribute) :
    ∀ next ∈ (readLines (stateAfter {} (above ++ run)) below).head?,
      Line.aligns (.assign level attr) next = false := by
  intro next hn
  by_contra aligned
  obtain ⟨other, rfl⟩ := exists_assign_of_aligns (.inr (Bool.not_eq_false _ ▸ aligned))
  cases below with
  | nil => cases hn
  | cons line rest =>
    have read : ((stateAfter {} (above ++ run)).readLine line).2 = .assign level other := by
      simpa [readLines] using hn
    rw [← List.append_assoc] at h
    obtain ⟨shown, ends⟩ := isAttribute_of_readLine_eq read (writtenFor_of_format h)
    exact column.noneBelow line rest other rfl shown ends

/-- A column is the layout of its attributes. -/
theorem eq_layout (hn : attrs ≠ [])
    (read : readLines (stateAfter {} above) run = attrs.map (.assign level)) :
    run = layout (attrs.map (.assign level)) := by
  have cut : above ++ (run ++ below) = layout (readLines {} above) ++
      (layout (readLines (stateAfter {} above) run) ++
        layout (readLines (stateAfter {} (above ++ run)) below)) := by
    rw [← h, ← layout_readLines_format, h, readLines_append, readLines_append, ← stateAfter_append,
      layout_append, layout_append]
    · intro last hl next first
      rw [read] at hl
      obtain ⟨attr, -, rfl⟩ := List.mem_map.mp (List.mem_of_mem_getLast? hl)
      exact column.aligns_below h attr next first
    · intro last hl next first
      rw [read, List.head?_append_of_ne_nil _ (by simpa using hn)] at first
      obtain ⟨attr, -, rfl⟩ := List.mem_map.mp (List.mem_of_mem_head? first)
      exact column.aligns_above h attr last hl
  obtain ⟨-, further⟩ := List.append_inj cut (length_layout_readLines _ _).symm
  rw [← read]
  exact (List.append_inj further (length_layout_readLines _ _).symm).1

end IsColumn

/-- In a formatted snippet the attributes of a column have their signs in one place, one space
behind the longest key, and any other attribute has its sign one space behind the key. -/
theorem format_columns (snippet : Text) :
    (∀ above run below spaces attrs,
        Text.splitLines (format snippet) = above ++ (run ++ below) →
        IsColumn above run below spaces attrs →
        ∃ width, (∀ attr ∈ attrs, attr.key.length ≤ width) ∧
          (∃ attr ∈ attrs, attr.key.length = width) ∧
          run = attrs.map (Attribute.inColumn spaces width) ∧
          ∀ out ∈ run, out[spaces + width + 1]? = some '=') ∧
      ∀ above line below spaces attr,
        Text.splitLines (format snippet) = above ++ line :: below →
        IsAttribute (stateAfter {} above) line spaces attr → ¬EndsOnLine line →
        line = attr.inColumn spaces 0 := by
  constructor
  · intro above run below spaces attrs h column
    obtain ⟨level, rfl, hn, read, wellFormed⟩ :=
      column.attributes.exists_level column.ne_nil (forall₂_writtenFor_of_format h)
    obtain ⟨bound, longest⟩ := columnWidth_map_assign level hn
    have laidOut := (column.eq_layout h hn read).trans (layout_map_assign level hn wellFormed)
    refine ⟨_, bound, longest, laidOut, fun out ho => ?_⟩
    rw [laidOut] at ho
    obtain ⟨attr, ha, rfl⟩ := List.mem_map.mp ho
    exact Attribute.getElem?_inColumn (bound attr ha) _
  · intro above line below spaces attr h shown goesOn
    obtain ⟨level, rfl, hw, -, written⟩ := shown.exists_level (writtenFor_of_format h)
    rw [written goesOn, hw.indentation_append_write]

/-- A zone whose attributes are not laid out yet, with a heredoc that holds what looks like one. -/
def zoneSnippet : Text :=
  Text.joinLines
    ["a = 1".toList, "bb=\x7b".toList, "\"ключ\"  = \"x\"".toList, "c =".toList, "d= <<EOF".toList,
      "  x = y".toList, "EOF".toList, "e=[".toList, "]".toList, "\x7d".toList]

/-- The attributes of the zone that stand in one column. -/
def zoneAttributes : List Attribute :=
  [⟨"\"ключ\"".toList, "\"x\"".toList⟩, ⟨"c".toList, []⟩, ⟨"d".toList, "<<EOF".toList⟩]

/-- These attributes as they are laid out. -/
def zoneColumn : List Text :=
  ["  \"ключ\" = \"x\"".toList, "  c      =".toList, "  d      = <<EOF".toList]

/-- What is laid out below them. -/
def zoneBelow : List Text :=
  ["  x = y".toList, "EOF".toList, "  e = [".toList, "  ]".toList, "\x7d".toList]

theorem isColumn_zoneColumn :
    IsColumn ["a = 1".toList, "bb = \x7b".toList] zoneColumn zoneBelow 2 zoneAttributes where
  attributes := .cons (by decide +kernel) (by decide +kernel) (.cons (by decide +kernel)
    (by decide +kernel) (.cons (by decide +kernel) (by decide +kernel) .nil))
  ne_nil := List.cons_ne_nil _ _
  noneAbove := by
    -- The line above opens a bracket.
    intro start last attr h _
    have opens : ¬EndsOnLine "bb = \x7b".toList := by decide +kernel
    obtain rfl : "bb = \x7b".toList = last := by simpa using congrArg List.getLast? h
    exact opens
  noneBelow := by
    -- The line below belongs to the heredoc.
    intro next rest attr h shown
    have inside : (stateAfter {} (["a = 1".toList, "bb = \x7b".toList] ++ zoneColumn)).heredoc =
        some "EOF".toList := by
      decide +kernel
    rw [shown.noHeredoc] at inside
    cases inside

theorem zoneSnippet_columns :
    (∃ above run below, Text.splitLines (format zoneSnippet) = above ++ (run ++ below) ∧
        IsColumn above run below 2 zoneAttributes ∧
        ∃ width, (∀ attr ∈ zoneAttributes, attr.key.length ≤ width) ∧
          (∃ attr ∈ zoneAttributes, attr.key.length = width) ∧
          run = zoneAttributes.map (Attribute.inColumn 2 width) ∧
          ∀ out ∈ run, out[2 + width + 1]? = some '=') ∧
      ∃ above line below, Text.splitLines (format zoneSnippet) = above ++ line :: below ∧
        IsAttribute (stateAfter {} above) line 2 ⟨"e".toList, ['[']⟩ ∧ ¬EndsOnLine line ∧
        line = Attribute.inColumn 2 0 ⟨"e".toList, ['[']⟩ := by
  obtain ⟨columns, others⟩ := format_columns zoneSnippet
  have lines : Text.splitLines (format zoneSnippet) =
      ["a = 1".toList, "bb = \x7b".toList] ++ (zoneColumn ++ zoneBelow) := by
    decide +kernel
  have parts : Text.splitLines (format zoneSnippet) =
      (["a = 1".toList, "bb = \x7b".toList] ++ zoneColumn ++ ["  x = y".toList, "EOF".toList]) ++
        "  e = [".toList :: ["  ]".toList, "\x7d".toList] := by
    decide +kernel
  have shown : IsAttribute (stateAfter {} (["a = 1".toList, "bb = \x7b".toList] ++ zoneColumn ++
      ["  x = y".toList, "EOF".toList])) "  e = [".toList 2 ⟨"e".toList, ['[']⟩ := by
    decide +kernel
  have goesOn : ¬EndsOnLine "  e = [".toList := by decide +kernel
  exact ⟨⟨_, _, _, lines, isColumn_zoneColumn, columns _ _ _ _ _ lines isColumn_zoneColumn⟩,
    _, _, _, parts, shown, goesOn, others _ _ _ _ _ parts shown goesOn⟩

end ProviderDocs.Snippet
