import ProviderDocs.Text.Basic

/-!
# Order of texts

Texts are ordered by the code points of their characters, from the first on.  Lists that a document
shows in order are sorted by a key (`orderBy`, `ascending`), and repetitions, which then are
neighbours, are dropped (`dropRepeats`).  Sorting is by insertion, so that it computes by its
equations alone; it loses and adds nothing (`orderBy_perm`) and is stable.  Values with names are
kept in the order of these, each name once (`orderNamed`, `pairwise_orderNamed`), which can be
checked of a list that is written out (`isAscending`).
-/

namespace ProviderDocs

/-! ### Sorting -/

section

variable {α β : Type} [LT β] [DecidableLT β]

/-- Puts an item into a list, above the first item whose key is not smaller. -/
def insertOrdered (key : α → β) (item : α) : List α → List α
  | [] => [item]
  | next :: rest =>
    if key next < key item then next :: insertOrdered key item rest else item :: next :: rest

/-- Items in ascending order of their keys; those with one key stay in their order. -/
def orderBy (key : α → β) : List α → List α
  | [] => []
  | item :: rest => insertOrdered key item (orderBy key rest)

/-- Inserting an item adds it and nothing else. -/
theorem insertOrdered_perm (key : α → β) (item : α) (items : List α) :
    (insertOrdered key item items).Perm (item :: items) := by
  induction items with
  | nil => exact .refl _
  | cons next rest ih =>
    rw [insertOrdered]
    split
    · exact (ih.cons next).trans (.swap item next rest)
    · exact .refl _

/-- Sorting loses and adds nothing. -/
theorem orderBy_perm (key : α → β) (items : List α) : (orderBy key items).Perm items := by
  induction items with
  | nil => exact .refl _
  | cons item rest ih => exact (insertOrdered_perm key item _).trans (ih.cons item)

end

/-- Texts in ascending order, repetitions kept. -/
def ascending (texts : List Text) : List Text :=
  orderBy id texts

/-- Whether texts are in strictly ascending order. -/
def isAscending : List Text → Bool
  | first :: second :: rest => decide (first < second) && isAscending (second :: rest)
  | _ => true

theorem isAscending_iff {texts : List Text} :
    isAscending texts = true ↔ texts.Pairwise (· < ·) := by
  induction texts with
  | nil => exact iff_of_true rfl .nil
  | cons first rest ih =>
    cases rest with
    | nil => exact iff_of_true rfl (List.pairwise_singleton _ _)
    | cons second rest =>
      rw [isAscending, Bool.and_eq_true, decide_eq_true_iff, ih, List.pairwise_cons (a := first)]
      refine and_congr_left fun later => ⟨fun hlt other ho => ?_, fun h => h _ List.mem_cons_self⟩
      rcases List.mem_cons.mp ho with rfl | ho
      · exact hlt
      · exact List.lt_trans hlt ((List.pairwise_cons.mp later).1 other ho)

/-! ### Repetitions -/

/-- Drops the items whose key is that of the item above, given the key of the item above the
first. -/
def dropRepeatsAfter {α : Type} (key : α → Text) (above : Text) : List α → List α
  | [] => []
  | item :: rest =>
    if key item = above then dropRepeatsAfter key above rest
    else item :: dropRepeatsAfter key (key item) rest

/-- Of neighbours with one key keeps the first. -/
def dropRepeats {α : Type} (key : α → Text) : List α → List α
  | [] => []
  | item :: rest => item :: dropRepeatsAfter key (key item) rest

/-! ### Named values -/

section

variable {α : Type}

/-- Puts a value under its name among values in ascending order of their names; a value that has the
name gives way. -/
def insertNamed (name : Text) (value : α) : List (Text × α) → List (Text × α)
  | [] => [(name, value)]
  | entry :: rest =>
    if name < entry.1 then (name, value) :: entry :: rest
    else if name = entry.1 then (name, value) :: rest
    else entry :: insertNamed name value rest

/-- Named values in ascending order of their names; of two with one name the later counts. -/
def orderNamed (entries : List (Text × α)) : List (Text × α) :=
  entries.foldl (fun ordered entry => insertNamed entry.1 entry.2 ordered) []

theorem mem_insertNamed {name : Text} {value : α} {entries : List (Text × α)} {other : Text × α}
    (h : other ∈ insertNamed name value entries) : other = (name, value) ∨ other ∈ entries := by
  induction entries with
  | nil => exact .inl (List.mem_singleton.mp h)
  | cons entry rest ih =>
    rw [insertNamed] at h
    split at h
    · exact List.mem_cons.mp h
    · split at h
      · exact (List.mem_cons.mp h).imp id (List.mem_cons_of_mem _)
      · rcases List.mem_cons.mp h with rfl | h
        · exact .inr List.mem_cons_self
        · exact (ih h).imp id (List.mem_cons_of_mem _)

theorem mem_map_insertNamed {name other : Text} {value : α} {entries : List (Text × α)}
    (h : other ∈ (insertNamed name value entries).map Prod.fst) :
    other = name ∨ other ∈ entries.map Prod.fst := by
  obtain ⟨entry, he, rfl⟩ := List.mem_map.mp h
  exact (mem_insertNamed he).imp (congrArg Prod.fst) List.mem_map_of_mem

/-- Putting a value under its name keeps the names in strictly ascending order. -/
theorem pairwise_insertNamed {entries : List (Text × α)}
    (h : (entries.map Prod.fst).Pairwise (· < ·)) (name : Text) (value : α) :
    ((insertNamed name value entries).map Prod.fst).Pairwise (· < ·) := by
  induction entries with
  | nil => simp [insertNamed]
  | cons entry rest ih =>
    obtain ⟨first, later⟩ := List.pairwise_cons.mp h
    rw [insertNamed]
    split
    · rename_i hlt
      refine List.pairwise_cons.mpr ⟨fun other ho => ?_, h⟩
      rcases List.mem_cons.mp ho with rfl | ho
      · exact hlt
      · exact List.lt_trans hlt (first other ho)
    · rename_i hlt
      split
      · rename_i heq
        exact List.pairwise_cons.mpr ⟨fun other ho => heq ▸ first other ho, later⟩
      · -- The name stands further on, and is not less than the first.
        rename_i hne
        refine List.pairwise_cons.mpr ⟨fun other ho => ?_, ih later⟩
        rcases mem_map_insertNamed ho with rfl | ho
        · exact Decidable.byContradiction fun notLess => hne (List.le_antisymm notLess hlt)
        · exact first other ho

/-- Values that were put in order stand under different names, in ascending order. -/
theorem pairwise_orderNamed (entries : List (Text × α)) :
    ((orderNamed entries).map Prod.fst).Pairwise (· < ·) := by
  -- The values are put one by one into those that are in order already.
  suffices h : ∀ ordered : List (Text × α), (ordered.map Prod.fst).Pairwise (· < ·) →
      ((entries.foldl (fun ordered entry => insertNamed entry.1 entry.2 ordered) ordered).map
        Prod.fst).Pairwise (· < ·) from h [] .nil
  induction entries with
  | nil => exact fun _ ho => ho
  | cons entry rest ih => exact fun ordered ho => ih _ (pairwise_insertNamed ho entry.1 entry.2)

end

end ProviderDocs
