import Mathlib.Data.List.Forall2
import ProviderDocs.Proofs.Template

/-!
# The parts of a template

A template is literal text with placeholders in between, and it is so in one way only if every
placeholder is the first one in what is left of the template (`IsMadeOf`, `IsMadeOf.unique`,
`exists_isMadeOf`).  Filling keeps the literal text and puts something in for each placeholder,
whatever the values are (`substitute_parts`): its first value, or the placeholder as it is written
if it has none (`StandsFor`).

Reading goes from left to right and finds these parts (`ofText_of_isMadeOf`): the literal text is
bare, so it is read character by character, and what follows begins with a placeholder.
-/

namespace ProviderDocs.Template

variable {c : Char} {name literal rest : Text}

/-! ### Parts -/

/-- Some literal text, and the name of the placeholder behind it. -/
structure TemplatePart where
  literal : Text
  name : Text
deriving DecidableEq, Repr

/-- A template is made of some parts and of the literal text behind the last of them.  Each
placeholder is the first one that there is behind the one before it. -/
inductive IsMadeOf : Text → List TemplatePart → Text → Prop where
  | last {literal : Text} (bare : IsBare literal []) : IsMadeOf literal [] literal
  | part {literal name rest last : Text} {parts : List TemplatePart}
    (bare : IsBare literal (placeholderText name ++ rest)) (hn : IsName name)
    (later : IsMadeOf rest parts last) :
    IsMadeOf (literal ++ (placeholderText name ++ rest)) (⟨literal, name⟩ :: parts) last

/-- The first placeholder of a text, and what stands before and behind it, are determined. -/
theorem placeholder_append_inj {literal' name' rest' : Text}
    (bare : IsBare literal (placeholderText name ++ rest)) (hn : IsName name)
    (bare' : IsBare literal' (placeholderText name' ++ rest')) (hn' : IsName name')
    (h : literal ++ (placeholderText name ++ rest) =
      literal' ++ (placeholderText name' ++ rest')) :
    literal = literal' ∧ name = name' ∧ rest = rest' := by
  have same : literal.length = literal'.length :=
    le_antisymm (bare _ _ _ hn' h) (bare' _ _ _ hn h.symm)
  obtain ⟨literals, behind⟩ := List.append_inj h same
  have found := placeholder?_append hn rest
  rw [behind, placeholder?_append hn'] at found
  obtain rfl := Option.some.inj found
  exact ⟨literals, rfl, List.append_cancel_left behind⟩

theorem length_placeholderText (name : Text) :
    (placeholderText name).length = name.length + 3 := by
  simp [placeholderText]

/-- In bare text with nothing behind it there is no placeholder. -/
theorem not_isBare_append_placeholder (hn : IsName name) :
    ¬IsBare (literal ++ (placeholderText name ++ rest)) [] := by
  intro bare
  have short := bare literal name rest hn (List.append_nil _)
  rw [List.length_append, List.length_append, length_placeholderText] at short
  omega

theorem IsMadeOf.unique {t last last' : Text} {parts parts' : List TemplatePart}
    (h : IsMadeOf t parts last) (h' : IsMadeOf t parts' last') : parts' = parts ∧ last' = last := by
  induction h generalizing parts' with
  | last bare =>
    cases h' with
    | last => exact ⟨rfl, rfl⟩
    | part _ hn => exact absurd bare (not_isBare_append_placeholder hn)
  | @part literal name rest last parts bare hn _ ih =>
    generalize ht : literal ++ (placeholderText name ++ rest) = t at h'
    cases h' with
    | last bare' =>
      subst ht
      exact absurd bare' (not_isBare_append_placeholder hn)
    | part bare' hn' later' =>
      obtain ⟨rfl, rfl, rfl⟩ := placeholder_append_inj bare hn bare' hn' ht
      obtain ⟨rfl, rfl⟩ := ih later'
      exact ⟨rfl, rfl⟩

/-- A character that no placeholder begins with belongs to the literal text behind it. -/
theorem exists_isMadeOf_cons {t last : Text} {parts : List TemplatePart}
    (none : placeholder? (c :: t) = none) (h : IsMadeOf t parts last) :
    ∃ parts' last', IsMadeOf (c :: t) parts' last' := by
  cases h with
  | last bare =>
    refine ⟨_, _, .last (isBare_cons_iff.mpr ⟨?_, bare⟩)⟩
    rwa [List.append_nil]
  | part bare hn later => exact ⟨_, _, .part (isBare_cons_iff.mpr ⟨none, bare⟩) hn later⟩

/-- Every text is a template. -/
theorem exists_isMadeOf (t : Text) : ∃ parts last, IsMadeOf t parts last := by
  -- Behind a placeholder, and behind a character that begins none, a shorter text is left.
  induction h : t.length using Nat.strong_induction_on generalizing t with
  | h n ih =>
    cases t with
    | nil => exact ⟨[], [], .last (isBare_nil [])⟩
    | cons c t =>
      cases found : placeholder? (c :: t) with
      | none =>
        have shorter : t.length < n := h ▸ Nat.lt_succ_self t.length
        obtain ⟨_, _, made⟩ := ih t.length shorter t rfl
        exact exists_isMadeOf_cons found made
      | some name =>
        obtain ⟨hn, rest, he⟩ := placeholder?_eq_some_iff.mp found
        have shorter : rest.length < n := by
          rw [← h, he, List.length_append, length_placeholderText]
          omega
        obtain ⟨_, _, made⟩ := ih rest.length shorter rest rfl
        rw [he]
        exact ⟨_, _, .part (isBare_nil _) hn made⟩

/-- The parts of a template are what is read. -/
theorem ofText_of_isMadeOf {t last : Text} {parts : List TemplatePart}
    (h : IsMadeOf t parts last) :
    ofText t = parts.flatMap (fun part => part.literal.map .char ++ [.placeholder part.name]) ++
      last.map .char := by
  induction h with
  | last bare =>
    have whole := ofText_append_of_isBare bare
    simpa [ofText, ofTextAfter] using whole
  | part bare hn _ ih =>
    rw [ofText_append_of_isBare bare, ofText_placeholder_append hn, ih]
    simp

/-! ### What stands for placeholders -/

/-- What is put in for a placeholder: the first value of its name, or the placeholder as it is
written if no value has its name. -/
inductive StandsFor (values : Values) (name : Text) : Text → Prop where
  | value {before after : Values} {value : Text} (h : values = before ++ (name, value) :: after)
    (first : ∀ entry ∈ before, entry.1 ≠ name) : StandsFor values name value
  | unknown (h : ∀ entry ∈ values, entry.1 ≠ name) :
    StandsFor values name (placeholderText name)

theorem standsFor_fillPiece (values : Values) (name : Text) :
    StandsFor values name (fillPiece values (.placeholder name)) := by
  rw [fillPiece]
  cases hv : values.lookup name with
  | none =>
    have missing := List.lookup_eq_none_iff.mp hv
    exact .unknown fun entry he => (bne_iff_ne.mp (missing entry he)).symm
  | some value =>
    obtain ⟨before, after, h, missing⟩ := List.lookup_eq_some_iff.mp hv
    exact .value h fun entry he => (bne_iff_ne.mp (missing entry he)).symm

/-- Literal text is kept, and something is put in behind it for each placeholder. -/
theorem fill_parts (values : Values) (parts : List TemplatePart) (last : Text) :
    fill values (parts.flatMap (fun part => part.literal.map .char ++ [.placeholder part.name]) ++
        last.map .char) =
      (List.zipWith (fun part text => part.literal ++ text) parts
        (parts.map fun part => fillPiece values (.placeholder part.name))).flatten ++ last := by
  have literal (t : Text) : (t.map .char).flatMap (fillPiece values) = t := by
    rw [List.flatMap_map]
    exact List.flatMap_singleton' t
  rw [fill, List.flatMap_append, literal]
  congr 1
  induction parts with
  | nil => rfl
  | cons part parts ih =>
    rw [List.flatMap_cons, List.flatMap_append, ih, List.flatMap_append, literal,
      List.flatMap_singleton, List.map_cons, List.zipWith_cons_cons, List.flatten_cons]

/-- A template has its parts in one way only, and filling it gives the literal text of the parts
with something put in for each of their placeholders.  What is put in is not read again. -/
theorem substitute_parts (t : Text) :
    ∃ parts last, IsMadeOf t parts last ∧
      (∀ parts' last', IsMadeOf t parts' last' → parts' = parts ∧ last' = last) ∧
      ∀ values : Values, ∃ put : List Text,
        List.Forall₂ (fun part text => StandsFor values part.name text) parts put ∧
        substitute values t =
          (List.zipWith (fun part text => part.literal ++ text) parts put).flatten ++ last := by
  obtain ⟨parts, last, made⟩ := exists_isMadeOf t
  refine ⟨parts, last, made, fun _ _ => made.unique, fun values =>
    ⟨parts.map fun part => fillPiece values (.placeholder part.name), ?_, ?_⟩⟩
  · exact List.forall₂_map_right_iff.mpr
      (List.forall₂_same.mpr fun part _ => standsFor_fillPiece values part.name)
  · rw [substitute, ofText_of_isMadeOf made, fill_parts]

/-- What only looks like a placeholder stays, and so does one that a value completes. -/
example :
    substitute [("name".toList, "zone".toList), ("zone".toList, "a".toList)]
        "$\x7b $\x7bA\x7d $\x7b\x7d $\x7b$\x7bname\x7d\x7d $\x7bno\x7d".toList =
      "$\x7b $\x7bA\x7d $\x7b\x7d $\x7bzone\x7d $\x7bno\x7d".toList := by
  decide +kernel

end ProviderDocs.Template
