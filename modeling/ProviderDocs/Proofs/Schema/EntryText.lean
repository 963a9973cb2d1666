import Mathlib.Tactic.SplitIfs
import ProviderDocs.Proofs.Text.Trim
import ProviderDocs.Schema.Attribute

/-!
# The texts of arguments and attributes

The line of an argument and the item of an attribute, written out from the field that they document.
An argument has a line of its name, its options between brackets, and its descriptions
(`argumentLine_eq`), and an attribute an item of its name and its description, two spaces further in
for each level (`attributeItem_eq`).
-/

namespace ProviderDocs

/-- The parts that are not empty, each after a separator. -/
def eachAfter (separator : Text) (parts : List Text) : Text :=
  parts.flatMap fun part => if part = [] then [] else separator ++ part

/-- The type of an argument: the kind of its field and, in a collection, what it holds, which is the
name of the argument itself for objects. -/
def typeText (name : Text) (field : Field) : Text :=
  match field.nested?, field.scalar? with
  | some _, _ => field.kind.token ++ ": [`".toList ++ name ++ "`]".toList
  | none, some element =>
    if element.token = [] then field.kind.token
    else field.kind.token ++ ": [`".toList ++ element.token ++ "`]".toList
  | none, none => field.kind.token

/-- What the line of an argument says of its field. -/
def argumentText (name : Text) (field : Field) : Text :=
  "* `".toList ++ name ++ "` - (".toList ++
    (if field.required then "Required".toList else "Optional".toList) ++
    eachAfter ", ".toList
      [typeText name field, if field.forceNew then "ForceNew".toList else [],
        if field.deprecated = [] then [] else "**Deprecated**".toList] ++ ")".toList ++
    eachAfter [' '] [Text.trim field.deprecated, Text.trim field.description]

/-- What the item of an attribute at a level says of its field. -/
def itemText (level : Nat) (name : Text) (field : Field) : Text :=
  List.replicate (2 * level) ' ' ++ "* `".toList ++ name ++ "` - ".toList ++
    Text.trim field.description

theorem attributeItem_eq (level : Nat) (name : Text) (field : Field) :
    attributeItem level name (Text.trim field.description) = itemText level name field := by
  simp [attributeItem, itemText, codeSpan]

/-! ### The line of an argument -/

theorem eachAfter_nil_cons (separator : Text) (parts : List Text) :
    eachAfter separator ([] :: parts) = eachAfter separator parts := by
  rw [eachAfter, List.flatMap_cons, if_pos rfl]
  rfl

theorem intercalate_cons_filter (separator first : Text) (parts : List Text) :
    separator.intercalate (first :: parts.filter fun part => !part.isEmpty) =
      first ++ eachAfter separator parts := by
  induction parts generalizing first with
  | nil => simp [eachAfter]
  | cons part rest ih =>
    cases part with
    | nil => exact ih first
    | cons c part =>
      rw [List.filter_cons_of_pos rfl, List.intercalate_cons_cons, ih]
      simp [eachAfter]

theorem typeColumn_eq (name : Text) (field : Field) :
    typeColumn name field = typeText name field := by
  unfold typeColumn typeText
  cases field.nested? with
  | some fields => simp [codeSpan]
  | none =>
    cases field.scalar? with
    | some element =>
      by_cases he : element.token = []
      · simp [he]
      · simp [he, codeSpan]
    | none => simp

theorem argumentOptions_eq (name : Text) (field : Field) :
    argumentOptions name field =
      (if field.required then "Required".toList else "Optional".toList) ::
        [typeText name field, if field.forceNew then "ForceNew".toList else [],
          if field.deprecated = [] then [] else "**Deprecated**".toList].filter
            fun part => !part.isEmpty := by
  unfold argumentOptions Field.isDeprecated
  rw [typeColumn_eq]
  cases typeText name field <;> cases field.forceNew <;> cases field.deprecated <;> rfl

/-- Two trimmed texts with a space between them are a trimmed text, if neither is missing. -/
theorem eachAfter_trim {t u : Text} (ht : Text.Trimmed t) (hu : Text.Trimmed u) :
    eachAfter [' '] [Text.trim (t ++ [' '] ++ u)] = eachAfter [' '] [t, u] := by
  have space : ∀ c ∈ [' '], isSpace c = true := List.forall_mem_singleton.mpr rfl
  by_cases htn : t = []
  · rw [htn, List.nil_append, Text.trim_append_of_trimmed space hu, eachAfter_nil_cons]
  by_cases hun : u = []
  · rw [hun, List.append_nil, Text.trim_append_right t space, Text.trim_eq_self_iff.mpr ht]
    simp [eachAfter]
  rw [Text.trim_eq_self_iff.mpr (ht.append hu htn hun [' '])]
  simp [eachAfter, htn, hun]

/-- The description follows the deprecation notice. -/
theorem eachAfter_argumentDescription (field : Field) :
    eachAfter [' '] [argumentDescription field] =
      eachAfter [' '] [Text.trim field.deprecated, Text.trim field.description] := by
  unfold argumentDescription Field.isDeprecated
  cases field.deprecated with
  | nil => exact (eachAfter_nil_cons _ _).symm
  | cons c rest => exact eachAfter_trim (Text.trimmed_trim _) (Text.trimmed_trim _)

theorem trimmed_argumentDescription (field : Field) :
    Text.Trimmed (argumentDescription field) := by
  unfold argumentDescription
  split_ifs
  · exact Text.trimmed_trim _
  · exact Text.trimmed_trim _

/-- Of the space in front of a description nothing is left if there is no description. -/
theorem trimEnd_append_space {t description : Text} {c : Char} (hc : isSpace c = false)
    (h : Text.Trimmed description) :
    Text.trimEnd (t ++ [c] ++ [' '] ++ description) =
      t ++ [c] ++ eachAfter [' '] [description] := by
  by_cases hd : description = []
  · have space : ∀ c ∈ [' '], isSpace c = true := List.forall_mem_singleton.mpr rfl
    rw [hd, List.append_nil, Text.trimEnd, Text.trimEndWhere_append_of_all _ space,
      Text.trimEndWhere_append_singleton t hc]
    simp [eachAfter]
  · have last := Text.trimEndWhere_eq_self_iff.mpr h.last
    rw [Text.trimEnd, Text.trimEndWhere_append_of_ne_nil _ hd last]
    simp [eachAfter, hd]

/-- The line of an argument is made of its options and its descriptions. -/
theorem argumentLine_eq (name : Text) (field : Field) :
    argumentLine name field = argumentText name field := by
  have opening : "* ".toList ++ codeSpan name ++ " - (".toList =
      "* `".toList ++ name ++ "` - (".toList := by
    simp [codeSpan]
  have closing : ") ".toList = [')'] ++ [' '] := rfl
  rw [argumentLine, opening, closing, ← List.append_assoc,
    trimEnd_append_space (by decide) (trimmed_argumentDescription field),
    eachAfter_argumentDescription, argumentOptions_eq, intercalate_cons_filter, argumentText,
    ← List.append_assoc]
  rfl

example :
    argumentLine "rules".toList
      { kind := .list, optional := true, forceNew := true, deprecated := "Use `rule`. ".toList,
        description := " All rules.".toList, element := some (.object []) } =
      ("* `rules` - (Optional, List: [`rules`], ForceNew, **Deprecated**) " ++
        "Use `rule`. All rules.").toList := by
  decide +kernel

end ProviderDocs
