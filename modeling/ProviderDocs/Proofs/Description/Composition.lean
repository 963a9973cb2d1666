import ProviderDocs.Proofs.Description.Sections

/-!
# Descriptions put together from their parts

A description is put together from a text and some sections, the header of each a paragraph of its
own (`Description.compose`).  Where no line of the parts is a marker line (`Marker.NoneIn`), the
only marker lines are the headers that were put there, and the empty line above each comes from the
break between paragraphs (`cutSections_headers`).  Parts without white space around them then come
out as they went in, whatever the order of the sections (`ofText_compose`, `ofText_of_sections`).
-/

namespace ProviderDocs

/-! ### Lines without headers -/

namespace Marker

/-- None of the lines says the header of a section and nothing else. -/
def NoneIn (lines : List Text) : Prop :=
  ∀ line ∈ lines, ∀ m : Marker, ¬line.SaysOnly m.header

theorem noneIn_iff {lines : List Text} : NoneIn lines ↔ ∀ line ∈ lines, ofLine? line = none := by
  refine forall₂_congr fun line _ => ?_
  simp only [Option.eq_none_iff_forall_ne_some, ne_eq, ofLine?_eq_some_iff]

instance (lines : List Text) : Decidable (NoneIn lines) :=
  decidable_of_iff _ noneIn_iff.symm

/-- An empty line is no marker line. -/
theorem NoneIn.nil_cons {lines : List Text} (h : NoneIn lines) : NoneIn ([] :: lines) :=
  List.forall_mem_cons.mpr ⟨fun _ marks => not_saysOnly_nil marks (Text.saysOnly_self []), h⟩

theorem NoneIn.append {lines below : List Text} (h : NoneIn lines) (hb : NoneIn below) :
    NoneIn (lines ++ below) :=
  List.forall_mem_append.mpr ⟨h, hb⟩

theorem NoneIn.not_setOffIn {lines : List Text} (h : NoneIn lines) (m : Marker) :
    ¬m.SetOffIn lines := by
  rintro ⟨before, above, line, after, rfl, -, marks⟩
  exact h line (by simp) m marks

end Marker

/-- Lines are cut at the headers that stand between empty lines, and nowhere else. -/
theorem cutSections_headers {seen : List Marker} {lines : List Text} (hl : Marker.NoneIn lines)
    {parts : List (Marker × Text)} (hp : ∀ p ∈ parts, Marker.NoneIn (Text.splitLines p.2))
    (distinct : (parts.map Prod.fst).Nodup) (new : ∀ p ∈ parts, p.1 ∉ seen) :
    cutSections seen
        (lines ++ parts.flatMap fun p => [] :: p.1.header :: [] :: Text.splitLines p.2) =
      (lines, parts.map fun p => (p.1, [] :: Text.splitLines p.2)) := by
  induction parts generalizing seen lines with
  | nil =>
    rw [List.flatMap_nil, List.append_nil]
    exact cutSections_eq_self fun m _ => hl.not_setOffIn m
  | cons p parts ih =>
    obtain ⟨other, distinct⟩ := List.nodup_cons.mp distinct
    obtain ⟨body, hp⟩ := List.forall_mem_cons.mp hp
    obtain ⟨first, new⟩ := List.forall_mem_cons.mp new
    -- The break above the header is its empty line, the one below it the first line of its body.
    have clear : Marker.NoneIn (lines ++ [[]]) :=
      hl.append (Marker.NoneIn.nil_cons (by simp [Marker.NoneIn]))
    have later : ∀ q ∈ parts, q.1 ∉ p.1 :: seen := fun q hq =>
      List.not_mem_cons_of_ne_of_not_mem
        (fun same => other (same ▸ List.mem_map_of_mem hq)) (new q hq)
    have below := ih body.nil_cons hp distinct later
    have cut := cutSections_append_section (s := ⟨p.1, [], p.1.header, []⟩) first
      (Text.saysOnly_self []) (Text.saysOnly_self p.1.header) (fun m _ => clear.not_setOffIn m)
      ([] :: Text.splitLines p.2 ++
        parts.flatMap fun p => [] :: p.1.header :: [] :: Text.splitLines p.2)
    rw [below] at cut
    exact cut

namespace Description

open Text (Trimmed)

/-! ### Putting together and taking apart -/

/-- A text with sections below it, the header of each a paragraph of its own. -/
def compose (text : Text) (parts : List (Marker × Text)) : Text :=
  Text.joinParagraphs (text :: parts.flatMap fun p => [p.1.header, p.2])

theorem compose_nil (text : Text) : compose text [] = text :=
  List.append_nil text

theorem compose_cons (text : Text) (m : Marker) (s : Text) (parts : List (Marker × Text)) :
    compose text ((m, s) :: parts) =
      compose (text ++ ("\n\n".toList ++ (m.header ++ "\n\n".toList)) ++ s) parts := by
  rw [compose, List.flatMap_cons, List.cons_append, List.cons_append, List.nil_append, compose,
    Text.joinParagraphs_append_cons]
  simp [Text.joinParagraphs]

theorem splitLines_compose (text : Text) (parts : List (Marker × Text)) :
    Text.splitLines (compose text parts) =
      Text.splitLines text ++
        parts.flatMap fun p => [] :: p.1.header :: [] :: Text.splitLines p.2 := by
  have header (m : Marker) : Text.splitLines m.header = [m.header] := by cases m <;> decide
  rw [compose, Text.splitLines_joinParagraphs, List.flatMap_assoc]
  simp only [List.flatMap_cons, List.flatMap_nil, header, List.append_nil, List.cons_append,
    List.nil_append]

theorem trimmedLines_splitLines {t : Text} (h : Trimmed t) :
    trimmedLines (Text.splitLines t) = t := by
  rw [trimmedLines, Text.joinLines_splitLines, Text.trim_eq_self_iff.mpr h]

theorem trimmedLines_nil_cons {lines : List Text} (hn : lines ≠ []) :
    trimmedLines ([] :: lines) = trimmedLines lines := by
  rw [trimmedLines, Text.joinLines_cons _ hn]
  show Text.trim (['\n'] ++ Text.joinLines lines) = _
  exact Text.trim_append_left _ (List.forall_mem_singleton.mpr rfl)

theorem lookup_bodies {parts : List (Marker × Text)} (hp : ∀ p ∈ parts, Trimmed p.2) (m : Marker) :
    ((parts.map fun p => (p.1, [] :: Text.splitLines p.2)).lookup m).map trimmedLines =
      parts.lookup m := by
  induction parts with
  | nil => rfl
  | cons p parts ih =>
    obtain ⟨body, hp⟩ := List.forall_mem_cons.mp hp
    rw [List.map_cons, List.lookup_cons, List.lookup_cons]
    cases m == p.1 with
    | true =>
      exact congrArg some ((trimmedLines_nil_cons (Text.splitLines_ne_nil _)).trans
        (trimmedLines_splitLines body))
    | false => exact ih hp

/-- Each part of a description is found again. -/
theorem ofText_compose {text : Text} {parts : List (Marker × Text)} (ht : Trimmed text)
    (hm : Marker.NoneIn (Text.splitLines text)) (hp : ∀ p ∈ parts, Trimmed p.2)
    (hpm : ∀ p ∈ parts, Marker.NoneIn (Text.splitLines p.2))
    (distinct : (parts.map Prod.fst).Nodup) :
    ofText (compose text parts) =
      { text, importing := parts.lookup .importing, examples := parts.lookup .examples } := by
  rw [ofText, splitLines_compose, cutSections_headers hm hpm distinct (by simp),
    lookup_bodies hp, lookup_bodies hp, trimmedLines_splitLines ht]

/-- Taking a description apart undoes putting it together, in either order of the sections and
without either of them. -/
theorem ofText_of_sections {d i e : Text} (hd : Trimmed d) (hi : Trimmed i) (he : Trimmed e)
    (dm : Marker.NoneIn (Text.splitLines d)) (im : Marker.NoneIn (Text.splitLines i))
    (em : Marker.NoneIn (Text.splitLines e)) :
    ofText (d ++ "\n\nImport\n\n".toList ++ i ++ "\n\nExample Usage\n\n".toList ++ e) =
        { text := d, importing := some i, examples := some e } ∧
      ofText (d ++ "\n\nExample Usage\n\n".toList ++ e ++ "\n\nImport\n\n".toList ++ i) =
        { text := d, importing := some i, examples := some e } ∧
      ofText (d ++ "\n\nImport\n\n".toList ++ i) =
        { text := d, importing := some i, examples := none } ∧
      ofText (d ++ "\n\nExample Usage\n\n".toList ++ e) =
        { text := d, importing := none, examples := some e } ∧
      ofText d = { text := d, importing := none, examples := none } := by
  have whole (parts : List (Marker × Text)) (among : parts ⊆ [(.importing, i), (.examples, e)])
      (distinct : (parts.map Prod.fst).Nodup) :
      ofText (compose d parts) =
        { text := d
          importing := parts.lookup .importing
          examples := parts.lookup .examples } := by
    have trimmed : ∀ p ∈ [(Marker.importing, i), (.examples, e)], Trimmed p.2 := by simp [hi, he]
    have unmarked : ∀ p ∈ [(Marker.importing, i), (.examples, e)],
        Marker.NoneIn (Text.splitLines p.2) := by simp [im, em]
    exact ofText_compose hd dm (fun p hp => trimmed p (among hp))
      (fun p hp => unmarked p (among hp)) distinct
  have both := whole [(.importing, i), (.examples, e)] (by simp) (by simp)
  have swapped := whole [(.examples, e), (.importing, i)] (by simp) (by simp)
  have importing := whole [(.importing, i)] (by simp) (by simp)
  have examples := whole [(.examples, e)] (by simp) (by simp)
  have neither := whole [] (by simp) (by simp)
  rw [compose_cons, compose_cons, compose_nil] at both swapped
  rw [compose_cons, compose_nil] at importing examples
  rw [compose_nil] at neither
  exact ⟨both, swapped, importing, examples, neither⟩

/-- Parts with empty lines and with headers in longer lines, and one that is empty. -/
theorem ofText_of_sections_fenced :
    Marker.NoneIn (Text.splitLines "A domain.\r\n\r\nImport below".toList) ∧
      Marker.NoneIn (Text.splitLines "```\n\n# Import\n```".toList) ∧
      ofText ("A domain.\r\n\r\nImport below".toList ++ "\n\nImport\n\n".toList ++ [] ++
          "\n\nExample Usage\n\n".toList ++ "```\n\n# Import\n```".toList) =
        { text := "A domain.\r\n\r\nImport below".toList
          importing := some []
          examples := some "```\n\n# Import\n```".toList } := by
  refine ⟨by decide, by decide, ?_⟩
  have trimmed {t : Text} (h : Text.trim t = t) : Trimmed t := Text.trim_eq_self_iff.mp h
  exact (ofText_of_sections (trimmed (by decide)) (trimmed (by decide)) (trimmed (by decide))
    (by decide) (by decide) (by decide)).1

end Description

end ProviderDocs
