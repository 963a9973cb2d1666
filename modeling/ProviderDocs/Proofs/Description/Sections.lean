import ProviderDocs.Description
import ProviderDocs.Proofs.Text.Ink

/-!
# The sections of a description

A section is set off by an empty line and, below it, a line that says the header of the section and
nothing else (`Marker.SetOffIn`).  The first place where this happens is where the section begins,
and it ends where the next one begins (`AreSectionsOf`).

* `exists_areSectionsOf`: the sections of some lines are always there, since cutting the lines from
  the top finds them.
* `cutSections_of_areSectionsOf`: and cutting finds nothing else: up to the empty line above the
  first section no header of a section counts, because a later section with this header would not
  begin at the first place.
* `ofText_sections`: what a description holds, and that nothing of it is lost.
-/

namespace ProviderDocs

open Text (ink)

/-! ### Marker lines -/

namespace Marker

theorem trimmed_header (m : Marker) : Text.Trimmed m.header := by
  cases m <;> exact Text.trim_eq_self_iff.mp (by decide)

/-- A line says the header of one section only. -/
theorem eq_of_saysOnly {m n : Marker} {line : Text} (h : line.SaysOnly m.header)
    (h' : line.SaysOnly n.header) : m = n := by
  have same := h.unique h' m.trimmed_header n.trimmed_header
  revert same
  cases m <;> cases n <;> decide

theorem not_saysOnly_nil {m : Marker} {line : Text} (h : line.SaysOnly m.header) :
    ¬line.SaysOnly [] := by
  intro empty
  have same := empty.unique h (Text.trim_eq_self_iff.mp rfl) m.trimmed_header
  revert same
  cases m <;> decide

theorem ofLine?_eq_some_iff {m : Marker} {line : Text} :
    ofLine? line = some m ↔ line.SaysOnly m.header := by
  rw [← Text.lineContent_eq_iff m.trimmed_header, ofLine?]
  constructor
  · intro h
    split_ifs at h with first second
    · cases h
      exact first
    · cases h
      exact second
  · intro h
    cases m with
    | importing => rw [if_pos h]
    | examples => rw [if_neg (by rw [h]; decide), if_pos h]

theorem opened?_eq_some_iff {m : Marker} {seen : List Marker} {above line : Text} :
    opened? seen above line = some m ↔
      m ∉ seen ∧ above.SaysOnly [] ∧ line.SaysOnly m.header := by
  rw [opened?, ← ofLine?_eq_some_iff, ← Text.isEmptyLine_iff]
  split_ifs with h
  · rw [Option.filter_eq_some_iff]
    simp [h, and_comm]
  · simp [h]

/-! ### Where a section is set off -/

/-- Somewhere among the lines, one is empty and the next one says the header of the section and
nothing else. -/
def SetOffIn (m : Marker) (lines : List Text) : Prop :=
  ∃ before above line after, lines = before ++ above :: line :: after ∧ above.SaysOnly [] ∧
    line.SaysOnly m.header

theorem SetOffIn.mono {m : Marker} {lines lines' : List Text} (h : m.SetOffIn lines)
    (hi : lines <:+: lines') : m.SetOffIn lines' := by
  obtain ⟨before, above, line, after, rfl, empty, marks⟩ := h
  obtain ⟨start, rest, rfl⟩ := hi
  exact ⟨start ++ before, above, line, after ++ rest, by simp, empty, marks⟩

theorem not_setOffIn_of_length {m : Marker} {lines : List Text} (h : lines.length < 2) :
    ¬m.SetOffIn lines := by
  rintro ⟨before, above, line, after, rfl, -⟩
  simp only [List.length_append, List.length_cons] at h
  omega

theorem opened?_eq_none {seen : List Marker} {above line : Text} {rest : List Text}
    (h : ∀ m : Marker, m ∉ seen → ¬m.SetOffIn (above :: line :: rest)) :
    opened? seen above line = none := by
  rw [Option.eq_none_iff_forall_ne_some]
  intro m hm
  obtain ⟨new, empty, marks⟩ := opened?_eq_some_iff.mp hm
  exact h m new ⟨[], above, line, rest, rfl, empty, marks⟩

theorem setOffIn_cons_cons_iff {m : Marker} {above line : Text} {rest : List Text} :
    m.SetOffIn (above :: line :: rest) ↔
      above.SaysOnly [] ∧ line.SaysOnly m.header ∨ m.SetOffIn (line :: rest) := by
  constructor
  · rintro ⟨before, a, l, after, whole, empty, marks⟩
    cases before with
    | nil =>
      cases whole
      exact .inl ⟨empty, marks⟩
    | cons first before => exact .inr ⟨before, a, l, after, (List.cons.inj whole).2, empty, marks⟩
  · rintro (⟨empty, marks⟩ | h)
    · exact ⟨[], above, line, rest, rfl, empty, marks⟩
    · exact h.mono (List.suffix_cons _ _).isInfix

/-- Below a marker line no section is set off by its being empty. -/
theorem setOffIn_cons_iff {m n : Marker} {line : Text} (h : line.SaysOnly n.header)
    {rest : List Text} : m.SetOffIn (line :: rest) ↔ m.SetOffIn rest := by
  cases rest with
  | nil => exact iff_of_false (not_setOffIn_of_length (by simp)) (not_setOffIn_of_length (by simp))
  | cons next rest =>
    rw [setOffIn_cons_cons_iff, or_iff_right fun both => not_saysOnly_nil h both.1]

end Marker

/-! ### The sections of some lines -/

/-- A section as it stands among the lines of a description. -/
structure SectionLines where
  marker : Marker
  /-- The empty line above the marker line. -/
  above : Text
  /-- The marker line. -/
  line : Text
  body : List Text

def SectionLines.lines (s : SectionLines) : List Text :=
  s.above :: s.line :: s.body

/-- The sections of some lines in order, those seen before apart, and the lines above the first.
Each section begins at the first place where it is set off. -/
structure AreSectionsOf (seen : List Marker) (lines text : List Text)
    (sections : List SectionLines) : Prop where
  whole : lines = text ++ sections.flatMap SectionLines.lines
  setOff : ∀ s ∈ sections, s.above.SaysOnly [] ∧ s.line.SaysOnly s.marker.header
  new : ∀ s ∈ sections, s.marker ∉ seen
  first : ∀ before s after, sections = before ++ s :: after →
    ¬s.marker.SetOffIn (text ++ (before.flatMap SectionLines.lines ++ [s.above]))
  complete : ∀ m : Marker, m ∉ seen → m.SetOffIn lines → ∃ s ∈ sections, s.marker = m

namespace AreSectionsOf

variable {seen : List Marker} {lines text : List Text} {s : SectionLines}
  {sections : List SectionLines}

theorem nil (h : ∀ m : Marker, m ∉ seen → ¬m.SetOffIn lines) :
    AreSectionsOf seen lines lines [] where
  whole := by simp
  setOff := by simp
  new := by simp
  first := by simp
  complete m hm hs := absurd hs (h m hm)

/-- A section that is set off by the first two lines. -/
theorem cons_section {above line : Text} {m : Marker} (h : Marker.opened? seen above line = some m)
    (hr : AreSectionsOf (m :: seen) lines text sections) :
    AreSectionsOf seen (above :: line :: lines) [] (⟨m, above, line, text⟩ :: sections) := by
  obtain ⟨new, empty, marks⟩ := Marker.opened?_eq_some_iff.mp h
  have below {n : Marker} {rest : List Text} (hn : n ≠ m) :
      n.SetOffIn (above :: line :: rest) ↔ n.SetOffIn rest := by
    rw [Marker.setOffIn_cons_cons_iff, Marker.setOffIn_cons_iff marks,
      or_iff_right fun both => hn (Marker.eq_of_saysOnly both.2 marks)]
  constructor
  · rw [hr.whole]
    rfl
  · exact List.forall_mem_cons.mpr ⟨⟨empty, marks⟩, hr.setOff⟩
  · exact List.forall_mem_cons.mpr ⟨new, fun s hs => List.not_mem_of_not_mem_cons (hr.new s hs)⟩
  · intro before s after he
    cases before with
    | nil =>
      obtain ⟨rfl, -⟩ := List.cons.inj he
      exact Marker.not_setOffIn_of_length (by simp)
    | cons first before =>
      obtain ⟨rfl, rfl⟩ := List.cons.inj he
      have other : s.marker ≠ m := List.ne_of_not_mem_cons (hr.new s (by simp))
      have later := hr.first before s after rfl
      simpa [SectionLines.lines, below other] using later
  · intro n hn hs
    by_cases same : n = m
    · exact ⟨_, List.mem_cons_self, same.symm⟩
    · obtain ⟨s, hm, rfl⟩ := hr.complete n (by simp [same, hn]) ((below same).mp hs)
      exact ⟨s, List.mem_cons_of_mem _ hm, rfl⟩

/-- A line above others that sets no section off. -/
theorem cons_line {above line : Text} (h : Marker.opened? seen above line = none)
    (hr : AreSectionsOf seen (line :: lines) text sections) :
    AreSectionsOf seen (above :: line :: lines) (above :: text) sections := by
  have none {m : Marker} (hm : m ∉ seen) : ¬(above.SaysOnly [] ∧ line.SaysOnly m.header) := by
    intro both
    rw [Marker.opened?_eq_some_iff.mpr ⟨hm, both⟩] at h
    cases h
  constructor
  · rw [hr.whole]
    rfl
  · exact hr.setOff
  · exact hr.new
  · rintro before s after rfl
    -- What stands above the marker line of the section begins with the same two lines.
    obtain ⟨head, rest, above'⟩ : ∃ head rest,
        text ++ (before.flatMap SectionLines.lines ++ [s.above]) = head :: rest :=
      List.exists_cons_of_ne_nil (by simp)
    have whole : line :: lines =
        (text ++ (before.flatMap SectionLines.lines ++ [s.above])) ++
          (s.line :: s.body ++ after.flatMap SectionLines.lines) := by
      rw [hr.whole]
      simp [SectionLines.lines]
    obtain ⟨rfl, -⟩ : line = head ∧ _ := List.cons.inj (above' ▸ whole)
    have new : s.marker ∉ seen := hr.new s (by simp)
    have later := hr.first before s after rfl
    rw [List.cons_append, above', Marker.setOffIn_cons_cons_iff, or_iff_right (none new), ← above']
    exact later
  · intro m hm hs
    rw [Marker.setOffIn_cons_cons_iff, or_iff_right (none hm)] at hs
    exact hr.complete m hm hs

/-- No section has the marker of one above it. -/
theorem marker_ne_of_mem {before after : List SectionLines}
    (h : AreSectionsOf seen lines text (before ++ s :: after)) {other : SectionLines}
    (hm : other ∈ before) : other.marker ≠ s.marker := by
  intro same
  obtain ⟨start, rest, rfl⟩ := List.append_of_mem hm
  obtain ⟨empty, marks⟩ := h.setOff other (by simp)
  refine h.first _ s after rfl ⟨text ++ start.flatMap SectionLines.lines, other.above, other.line,
    other.body ++ (rest.flatMap SectionLines.lines ++ [s.above]), ?_, empty, same ▸ marks⟩
  simp [SectionLines.lines]

/-- What stands below the marker line of the first section has the others for its sections. -/
theorem tail (h : AreSectionsOf seen lines text (s :: sections)) :
    AreSectionsOf (s.marker :: seen) (s.body ++ sections.flatMap SectionLines.lines) s.body
      sections := by
  constructor
  · rfl
  · exact fun other hm => h.setOff other (List.mem_cons_of_mem _ hm)
  · intro other hm
    obtain ⟨before, after, rfl⟩ := List.append_of_mem hm
    have whole : AreSectionsOf seen lines text ((s :: before) ++ other :: after) := h
    exact List.not_mem_cons_of_ne_of_not_mem (whole.marker_ne_of_mem List.mem_cons_self).symm
      (h.new other (List.mem_cons_of_mem _ hm))
  · rintro before other after rfl hs
    refine h.first (s :: before) other after rfl (hs.mono ⟨text ++ [s.above, s.line], [], ?_⟩)
    simp [SectionLines.lines]
  · intro m hm hs
    have below : s.body ++ sections.flatMap SectionLines.lines <:+: lines :=
      ⟨text ++ [s.above, s.line], [], by simp [h.whole, SectionLines.lines]⟩
    obtain ⟨other, hm', rfl⟩ := h.complete m (List.not_mem_of_not_mem_cons hm) (hs.mono below)
    rcases List.mem_cons.mp hm' with rfl | hm'
    · exact absurd rfl (List.ne_of_not_mem_cons hm)
    · exact ⟨other, hm', rfl⟩

/-- Down to the empty line above the first section, no header sets a section off but those seen
before. -/
theorem not_setOffIn (h : AreSectionsOf seen lines text (s :: sections)) {m : Marker}
    (hm : m ∉ seen) : ¬m.SetOffIn (text ++ [s.above]) := by
  intro hs
  have above : text ++ [s.above] <:+: lines :=
    ⟨[], s.line :: s.body ++ sections.flatMap SectionLines.lines,
      by simp [h.whole, SectionLines.lines]⟩
  obtain ⟨other, hm', rfl⟩ := h.complete m hm (hs.mono above)
  obtain ⟨before, after, he⟩ := List.append_of_mem hm'
  refine h.first before other after he (hs.mono ?_)
  cases before with
  | nil =>
    obtain ⟨rfl, -⟩ := List.cons.inj he
    exact List.infix_rfl
  | cons first before =>
    obtain ⟨rfl, -⟩ := List.cons.inj he
    exact ⟨[], s.line :: s.body ++ (before.flatMap SectionLines.lines ++ [other.above]),
      by simp [SectionLines.lines]⟩

end AreSectionsOf

/-! ### What cutting finds -/

/-- The sections of lines are there to be found: cutting the lines from the top finds them. -/
theorem exists_areSectionsOf (seen : List Marker) (lines : List Text) :
    ∃ text sections, AreSectionsOf seen lines text sections := by
  fun_induction cutSections seen lines with
  | case1 seen => exact ⟨_, _, .nil fun m _ => Marker.not_setOffIn_of_length (by simp)⟩
  | case2 seen line => exact ⟨_, _, .nil fun m _ => Marker.not_setOffIn_of_length (by simp)⟩
  | case3 seen above line rest m h _ ih =>
    obtain ⟨text, sections, hr⟩ := ih
    exact ⟨_, _, hr.cons_section h⟩
  | case4 seen above line rest h _ ih =>
    obtain ⟨text, sections, hr⟩ := ih
    exact ⟨_, _, hr.cons_line h⟩

/-- Nothing is cut where no section is set off. -/
theorem cutSections_eq_self {seen : List Marker} {lines : List Text}
    (h : ∀ m : Marker, m ∉ seen → ¬m.SetOffIn lines) : cutSections seen lines = (lines, []) := by
  induction lines with
  | nil => rfl
  | cons above lines ih =>
    cases lines with
    | nil => rfl
    | cons line rest =>
      have below := ih fun m hm hs => h m hm (hs.mono (List.suffix_cons _ _).isInfix)
      rw [cutSections, Marker.opened?_eq_none h]
      simp only [below]

/-- Lines are cut at the first place where a section is set off. -/
theorem cutSections_append_section {seen : List Marker} {s : SectionLines} (new : s.marker ∉ seen)
    (empty : s.above.SaysOnly []) (marks : s.line.SaysOnly s.marker.header) {text : List Text}
    (clear : ∀ m : Marker, m ∉ seen → ¬m.SetOffIn (text ++ [s.above])) (rest : List Text) :
    cutSections seen (text ++ s.above :: s.line :: rest) =
      (text, (s.marker, (cutSections (s.marker :: seen) rest).1) ::
        (cutSections (s.marker :: seen) rest).2) := by
  induction text with
  | nil => rw [List.nil_append, cutSections, Marker.opened?_eq_some_iff.mpr ⟨new, empty, marks⟩]
  | cons line text ih =>
    have below := ih fun m hm hs => clear m hm (hs.mono (List.suffix_cons _ _).isInfix)
    -- The next line is one of the text or, at its end, the empty line, which is no marker line.
    obtain ⟨next, lines, he⟩ : ∃ next lines, text ++ [s.above] = next :: lines :=
      List.exists_cons_of_ne_nil (by simp)
    have whole : text ++ s.above :: s.line :: rest = next :: (lines ++ s.line :: rest) := by
      rw [← List.cons_append, ← he, List.append_assoc, List.singleton_append]
    rw [List.cons_append, he] at clear
    rw [whole] at below
    rw [List.cons_append, whole, cutSections, Marker.opened?_eq_none clear]
    simp only [below]

/-- Cutting lines finds their sections, whichever way they are given. -/
theorem cutSections_of_areSectionsOf {seen : List Marker} {lines text : List Text}
    {sections : List SectionLines} (h : AreSectionsOf seen lines text sections) :
    cutSections seen lines = (text, sections.map fun s => (s.marker, s.body)) := by
  induction sections generalizing seen lines text with
  | nil =>
    obtain rfl : lines = text := by simpa using h.whole
    refine cutSections_eq_self fun m hm hs => ?_
    obtain ⟨s, hm, -⟩ := h.complete m hm hs
    exact absurd hm List.not_mem_nil
  | cons s sections ih =>
    obtain ⟨empty, marks⟩ := h.setOff s List.mem_cons_self
    have cut := cutSections_append_section (h.new s List.mem_cons_self) empty marks
      (fun m hm => h.not_setOffIn hm) (s.body ++ sections.flatMap SectionLines.lines)
    rw [ih h.tail] at cut
    rw [h.whole]
    exact cut

/-! ### What a description holds -/

namespace Description

/-- The section that a marker opens, where the description has it. -/
def section? (description : Description) : Marker → Option Text
  | .importing => description.importing
  | .examples => description.examples

section

variable {t : Text} {text : List Text} {sections : List SectionLines}
  (h : AreSectionsOf [] (Text.splitLines t) text sections)
include h

theorem text_ofText : (ofText t).text = Text.trim (Text.joinLines text) := by
  rw [ofText, cutSections_of_areSectionsOf h]
  rfl

theorem section?_ofText (m : Marker) :
    (ofText t).section? m =
      ((sections.map fun s => (s.marker, s.body)).lookup m).map trimmedLines := by
  rw [ofText, cutSections_of_areSectionsOf h]
  cases m <;> rfl

theorem section?_ofText_of_mem {s : SectionLines} (hs : s ∈ sections) :
    (ofText t).section? s.marker = some (Text.trim (Text.joinLines s.body)) := by
  rw [section?_ofText h, Option.map_eq_some_iff]
  refine ⟨s.body, List.lookup_eq_some_iff.mpr ?_, rfl⟩
  obtain ⟨before, after, rfl⟩ := List.append_of_mem hs
  refine ⟨_, _, List.map_append, ?_⟩
  intro p hp
  obtain ⟨other, hm, rfl⟩ := List.mem_map.mp hp
  exact bne_iff_ne.mpr (h.marker_ne_of_mem hm).symm

theorem section?_ofText_of_notMem {m : Marker} (hm : m ∉ sections.map SectionLines.marker) :
    (ofText t).section? m = none := by
  rw [section?_ofText h, Option.map_eq_none_iff, List.lookup_eq_none_iff]
  intro p hp
  obtain ⟨s, hs, rfl⟩ := List.mem_map.mp hp
  exact bne_iff_ne.mpr fun same => hm (same ▸ List.mem_map_of_mem hs)

/-- The lines of a section show its header and what the description holds of it. -/
theorem ink_lines_of_mem {s : SectionLines} (hs : s ∈ sections) :
    s.lines.flatMap ink =
      ink s.marker.header ++ ink (((ofText t).section? s.marker).getD []) := by
  obtain ⟨empty, marks⟩ := h.setOff s hs
  rw [section?_ofText_of_mem h hs, Option.getD_some, Text.ink_trim, Text.ink_joinLines,
    SectionLines.lines, List.flatMap_cons, List.flatMap_cons, empty.ink_eq, marks.ink_eq]
  rfl

/-- Nothing of a text is lost but white space when it is taken apart. -/
theorem ink_ofText :
    ink t = ink (ofText t).text ++ sections.flatMap fun s =>
      ink s.marker.header ++ ink (((ofText t).section? s.marker).getD []) := by
  calc ink t = (Text.splitLines t).flatMap ink := by
        rw [← Text.ink_joinLines, Text.joinLines_splitLines]
    _ = text.flatMap ink ++ sections.flatMap fun s => s.lines.flatMap ink := by
        rw [h.whole, List.flatMap_append, List.flatMap_assoc]
    _ = _ := by
        rw [text_ofText h, Text.ink_trim, Text.ink_joinLines,
          List.flatMap_congr fun s hs => ink_lines_of_mem h hs]

end

/-- The sections of a text are there to be found, and however they are given, a description holds
the text above the first and the body of each, without the white space around.  It holds no other
section, and put together in the order of the text its parts show what the text shows. -/
theorem ofText_sections (t : Text) :
    (∃ text sections, AreSectionsOf [] (Text.splitLines t) text sections) ∧
      ∀ text sections, AreSectionsOf [] (Text.splitLines t) text sections →
        (ofText t).text = Text.trim (Text.joinLines text) ∧
        (∀ s ∈ sections,
          (ofText t).section? s.marker = some (Text.trim (Text.joinLines s.body))) ∧
        (∀ m : Marker, m ∉ sections.map SectionLines.marker → (ofText t).section? m = none) ∧
        ink t = ink (ofText t).text ++ sections.flatMap fun s =>
          ink s.marker.header ++ ink (((ofText t).section? s.marker).getD []) :=
  ⟨exists_areSectionsOf [] _, fun _ _ h => ⟨text_ofText h, fun _ hs => section?_ofText_of_mem h hs,
    fun _ hm => section?_ofText_of_notMem h hm, ink_ofText h⟩⟩

/-- A text that begins with a header, and sets the section on importing off twice. -/
def repeatedHeaders : Text :=
  "Example Usage\n \t\r\n\tImport \r\nImport\n\nImport\n\n\nExample Usage".toList

theorem repeatedHeaders_sections :
    ∃ text sections, AreSectionsOf [] (Text.splitLines repeatedHeaders) text sections ∧
      sections.map SectionLines.marker = [.importing, .examples] ∧
      (ofText repeatedHeaders).text = "Example Usage".toList ∧
      (ofText repeatedHeaders).section? .importing = some "Import\n\nImport".toList ∧
      (ofText repeatedHeaders).section? .examples = some [] ∧
      ink repeatedHeaders = "ExampleUsageImportImportImportExampleUsage".toList := by
  obtain ⟨⟨text, sections, h⟩, holds⟩ := ofText_sections repeatedHeaders
  have cut : cutSections [] (Text.splitLines repeatedHeaders) =
      (["Example Usage".toList], [(.importing, ["Import".toList, [], "Import".toList, []]),
        (.examples, [])]) := by
    decide +kernel
  rw [cutSections_of_areSectionsOf h] at cut
  obtain ⟨rfl, parts⟩ := Prod.mk.inj cut
  obtain ⟨s, rest, rfl, first, parts⟩ := List.map_eq_cons_iff.mp parts
  obtain ⟨s', rest, rfl, second, parts⟩ := List.map_eq_cons_iff.mp parts
  obtain rfl := List.map_eq_nil_iff.mp parts
  obtain ⟨importing, body⟩ := Prod.mk.inj first
  obtain ⟨examples, body'⟩ := Prod.mk.inj second
  obtain ⟨above, bodies, -, shows⟩ := holds _ _ h
  have import' := bodies s (by simp)
  have example' := bodies s' (by simp)
  rw [importing, body] at import'
  rw [examples, body'] at example'
  rw [List.flatMap_cons, List.flatMap_cons, importing, examples, above, import', example'] at shows
  exact ⟨_, _, h, by simp [importing, examples], above, import', example', shows⟩

end Description

end ProviderDocs
