import Mathlib.Data.List.Lex
import Mathlib.Data.Char
import ProviderDocs.Text.Order

/-!
# Lists in order

* `ascending_spec`: sorting texts gives them in ascending order, each as often as before.
* `orderBy_eq_self`, `dropRepeats_eq_self`: what is in order, and what has no neighbours with one
  key, is left alone.
* `mem_map_dropRepeats_iff`: dropping repetitions loses no text, so that what is sorted and rid of
  its repetitions holds the same texts.
* `pairwise_lt_dropRepeats`, `dropRepeats_append`: of texts in ascending order each one is left
  once, in strictly ascending order; two lists put together lose at most one text more, where they
  meet.
* `orderNamed_perm`, `orderNamed_eq_of_perm`: values that were put under different names one by one
  are all there, in the one ascending order of their names.
-/

namespace ProviderDocs

variable {α : Type}

/-! ### Sorting -/

/-- The texts of one list in ascending order. -/
structure Text.AscendingOf (texts sorted : List Text) : Prop where
  perm : sorted.Perm texts
  pairwise : sorted.Pairwise fun t u => ¬u < t

theorem pairwise_insertOrdered {key : α → Text} {items : List α}
    (h : items.Pairwise fun a b => ¬key b < key a) (item : α) :
    (insertOrdered key item items).Pairwise fun a b => ¬key b < key a := by
  induction items with
  | nil => exact List.pairwise_singleton _ _
  | cons next rest ih =>
    obtain ⟨first, later⟩ := List.pairwise_cons.mp h
    rw [insertOrdered]
    split_ifs with hlt
    · refine List.pairwise_cons.mpr ⟨fun other ho => ?_, ih later⟩
      rcases List.mem_cons.mp ((insertOrdered_perm key item rest).mem_iff.mp ho) with rfl | ho
      · exact lt_asymm hlt
      · exact first other ho
    · refine List.pairwise_cons.mpr ⟨fun other ho => ?_, h⟩
      rcases List.mem_cons.mp ho with rfl | ho
      · exact hlt
      · exact fun hle => first other ho (lt_of_lt_of_le hle (not_lt.mp hlt))

theorem pairwise_orderBy (key : α → Text) (items : List α) :
    (orderBy key items).Pairwise fun a b => ¬key b < key a := by
  induction items with
  | nil => exact .nil
  | cons item rest ih => exact pairwise_insertOrdered ih item

/-- Items that are in order stay as they are. -/
theorem orderBy_eq_self {key : α → Text} {items : List α}
    (h : items.Pairwise fun a b => ¬key b < key a) : orderBy key items = items := by
  induction items with
  | nil => rfl
  | cons item rest ih =>
    obtain ⟨first, later⟩ := List.pairwise_cons.mp h
    rw [orderBy, ih later]
    cases rest with
    | nil => rfl
    | cons next rest =>
      have notLess : ¬key next < key item := first next List.mem_cons_self
      rw [insertOrdered, if_neg notLess]

theorem map_insertOrdered (key : α → Text) (item : α) (items : List α) :
    (insertOrdered key item items).map key = insertOrdered id (key item) (items.map key) := by
  induction items with
  | nil => rfl
  | cons next rest ih =>
    rw [List.map_cons, insertOrdered, insertOrdered, id_eq, id_eq]
    split_ifs
    · rw [List.map_cons, ih]
    · rfl

/-- The keys of items in order are the keys in order. -/
theorem map_orderBy (key : α → Text) (items : List α) :
    (orderBy key items).map key = ascending (items.map key) := by
  induction items with
  | nil => rfl
  | cons item rest ih =>
    rw [orderBy, map_insertOrdered, ih]
    rfl

theorem ascending_spec (texts : List Text) : Text.AscendingOf texts (ascending texts) :=
  ⟨orderBy_perm id texts, pairwise_orderBy id texts⟩

theorem mem_ascending_iff {t : Text} {texts : List Text} : t ∈ ascending texts ↔ t ∈ texts :=
  (orderBy_perm id texts).mem_iff

/-! ### Repetitions -/

theorem mem_map_dropRepeatsAfter_iff {key : α → Text} {above t : Text} {items : List α} :
    t ∈ above :: (dropRepeatsAfter key above items).map key ↔ t ∈ above :: items.map key := by
  induction items generalizing above with
  | nil => rfl
  | cons item rest ih =>
    rw [dropRepeatsAfter]
    split_ifs with h
    · -- What is dropped has the text of the item above.
      rw [ih, List.map_cons, h, List.mem_cons, List.mem_cons, List.mem_cons, or_self_left]
    · rw [List.map_cons, List.mem_cons, ih, List.map_cons, List.mem_cons (a := t) (b := above)]

/-- Dropping repetitions loses no key. -/
theorem mem_map_dropRepeats_iff {key : α → Text} {t : Text} {items : List α} :
    t ∈ (dropRepeats key items).map key ↔ t ∈ items.map key := by
  cases items with
  | nil => rfl
  | cons item rest => exact mem_map_dropRepeatsAfter_iff

theorem mem_dropRepeats_id_iff {t : Text} {texts : List Text} :
    t ∈ dropRepeats id texts ↔ t ∈ texts := by
  have kept : t ∈ (dropRepeats id texts).map id ↔ t ∈ texts.map id := mem_map_dropRepeats_iff
  simpa using kept

theorem dropRepeatsAfter_sublist (key : α → Text) (above : Text) (items : List α) :
    (dropRepeatsAfter key above items).Sublist items := by
  induction items generalizing above with
  | nil => exact .slnil
  | cons item rest ih =>
    rw [dropRepeatsAfter]
    split_ifs with h
    · exact .cons item (ih above)
    · exact .cons_cons item (ih (key item))

/-- Dropping repetitions keeps the order. -/
theorem dropRepeats_sublist (key : α → Text) (items : List α) :
    (dropRepeats key items).Sublist items := by
  cases items with
  | nil => exact .slnil
  | cons item rest => exact .cons_cons _ (dropRepeatsAfter_sublist key (key item) rest)

theorem isChain_dropRepeatsAfter (key : α → Text) (above : α) (items : List α) :
    (above :: dropRepeatsAfter key (key above) items).IsChain fun a b => key a ≠ key b := by
  induction items generalizing above with
  | nil => exact .singleton _
  | cons item rest ih =>
    rw [dropRepeatsAfter]
    split_ifs with h
    · exact ih above
    · exact .cons_cons (Ne.symm h) (ih item)

theorem dropRepeatsAfter_isPrefix_append (key : α → Text) (above : Text) (items more : List α) :
    dropRepeatsAfter key above items <+: dropRepeatsAfter key above (items ++ more) := by
  induction items generalizing above with
  | nil => exact List.nil_prefix
  | cons item rest ih =>
    rw [List.cons_append, dropRepeatsAfter, dropRepeatsAfter]
    split_ifs with h
    · exact ih above
    · exact (List.prefix_cons_inj item).mpr (ih (key item))

/-- Which items are dropped does not depend on what stands below them. -/
theorem dropRepeats_isPrefix_append (key : α → Text) (items more : List α) :
    dropRepeats key items <+: dropRepeats key (items ++ more) := by
  cases items with
  | nil => exact List.nil_prefix
  | cons item rest =>
    rw [List.cons_append, dropRepeats, dropRepeats, List.prefix_cons_inj]
    exact dropRepeatsAfter_isPrefix_append key (key item) rest more

/-- No two neighbours are left with one key. -/
theorem isChain_dropRepeats (key : α → Text) (items : List α) :
    (dropRepeats key items).IsChain fun a b => key a ≠ key b := by
  cases items with
  | nil => exact .nil
  | cons item rest => exact isChain_dropRepeatsAfter key item rest

/-- Where no two neighbours have one key, nothing is dropped. -/
theorem dropRepeats_eq_self {key : α → Text} {items : List α}
    (h : items.IsChain fun a b => key a ≠ key b) : dropRepeats key items = items := by
  cases items with
  | nil => rfl
  | cons item rest =>
    rw [dropRepeats]
    congr 1
    induction rest generalizing item with
    | nil => rfl
    | cons next rest ih =>
      obtain ⟨differ, later⟩ := List.isChain_cons_cons.mp h
      rw [dropRepeatsAfter, if_neg (Ne.symm differ), ih next later]

/-- Texts in ascending order are in strictly ascending order without their repetitions. -/
theorem pairwise_lt_dropRepeatsAfter {above : Text} {texts : List Text}
    (h : (above :: texts).Pairwise fun t u => ¬u < t) :
    (above :: dropRepeatsAfter id above texts).Pairwise (· < ·) := by
  induction texts generalizing above with
  | nil => exact List.pairwise_singleton _ _
  | cons t rest ih =>
    obtain ⟨first, later⟩ := List.pairwise_cons.mp h
    rw [dropRepeatsAfter, id_eq]
    split_ifs with he
    · exact ih (he ▸ later)
    · have less : above < t := lt_of_le_of_ne (not_lt.mp (first t List.mem_cons_self)) (Ne.symm he)
      have below := ih later
      refine List.pairwise_cons.mpr ⟨fun u hu => ?_, below⟩
      rcases List.mem_cons.mp hu with rfl | hu
      · exact less
      · exact lt_trans less ((List.pairwise_cons.mp below).1 u hu)

theorem pairwise_lt_dropRepeats {texts : List Text} (h : texts.Pairwise fun t u => ¬u < t) :
    (dropRepeats id texts).Pairwise (· < ·) := by
  cases texts with
  | nil => exact .nil
  | cons t rest => exact pairwise_lt_dropRepeatsAfter h

theorem map_dropRepeatsAfter {α : Type} (key : α → Text) (above : Text) (items : List α) :
    (dropRepeatsAfter key above items).map key = dropRepeatsAfter id above (items.map key) := by
  induction items generalizing above with
  | nil => rfl
  | cons item rest ih =>
    rw [List.map_cons, dropRepeatsAfter, dropRepeatsAfter, id_eq]
    split_ifs with h
    · exact ih above
    · rw [List.map_cons, ih]

theorem map_dropRepeats {α : Type} (key : α → Text) (items : List α) :
    (dropRepeats key items).map key = dropRepeats id (items.map key) := by
  cases items with
  | nil => rfl
  | cons item rest => exact congrArg (key item :: ·) (map_dropRepeatsAfter key (key item) rest)

/-- Texts put below others; the first of them is left out if it repeats the last one above. -/
def Text.putBelow (above texts : List Text) : List Text :=
  above ++ if texts.head? = above.getLast? then texts.tail else texts

/-- Below a text that they repeat, texts without repetitions lose the first one. -/
theorem dropRepeatsAfter_eq (above : Text) (texts : List Text) :
    dropRepeatsAfter id above texts =
      if (dropRepeats id texts).head? = some above then (dropRepeats id texts).tail
      else dropRepeats id texts := by
  cases texts with
  | nil => rfl
  | cons t rest =>
    have same : (dropRepeats id (t :: rest)).head? = some above ↔ t = above := by
      simp [dropRepeats]
    by_cases h : t = above
    · rw [if_pos (same.mpr h), dropRepeatsAfter, id_eq, if_pos h, ← h]
      rfl
    · rw [if_neg (mt same.mp h), dropRepeatsAfter, id_eq, if_neg h]
      rfl

theorem dropRepeatsAfter_append (above : Text) (first second : List Text) :
    dropRepeatsAfter id above (first ++ second) = dropRepeatsAfter id above first ++
      dropRepeatsAfter id ((above :: dropRepeatsAfter id above first).getLast
        (List.cons_ne_nil _ _)) second := by
  induction first generalizing above with
  | nil => rfl
  | cons t rest ih =>
    by_cases h : t = above
    · simp only [List.cons_append, dropRepeatsAfter, id_eq, h, if_true]
      exact ih above
    · simp only [List.cons_append, dropRepeatsAfter, id_eq, h, if_false, ih t,
        List.getLast_cons_cons]

/-- Two lists without their repetitions lose nothing more when they are put together than a text
with which the second one repeats the end of the first. -/
theorem dropRepeats_append (first second : List Text) :
    dropRepeats id (first ++ second) =
      Text.putBelow (dropRepeats id first) (dropRepeats id second) := by
  cases first with
  | nil => cases second <;> rfl
  | cons t rest =>
    rw [Text.putBelow, dropRepeats, List.getLast?_eq_some_getLast (List.cons_ne_nil _ _),
      ← dropRepeatsAfter_eq]
    exact congrArg (t :: ·) (dropRepeatsAfter_append t rest second)

/-! ### Named values -/

/-- Values that were put in order were there before. -/
theorem orderNamed_subset (entries : List (Text × α)) : orderNamed entries ⊆ entries := by
  suffices h : ∀ ordered : List (Text × α),
      entries.foldl (fun ordered entry => insertNamed entry.1 entry.2 ordered) ordered ⊆
        entries ++ ordered by
    have whole := h []
    rwa [List.append_nil] at whole
  induction entries with
  | nil => exact fun ordered => List.Subset.refl _
  | cons entry rest ih =>
    intro ordered other ho
    rcases List.mem_append.mp (ih _ ho) with hr | hi
    · exact List.mem_cons_of_mem _ (List.mem_append_left _ hr)
    · rcases mem_insertNamed hi with rfl | hm
      · exact List.mem_cons_self
      · exact List.mem_cons_of_mem _ (List.mem_append_right _ hm)

/-- Putting a value under a new name loses no value. -/
theorem insertNamed_perm {name : Text} {entries : List (Text × α)}
    (h : name ∉ entries.map Prod.fst) (value : α) :
    (insertNamed name value entries).Perm ((name, value) :: entries) := by
  induction entries with
  | nil => exact .refl _
  | cons entry rest ih =>
    have new : name ≠ entry.1 := List.ne_of_not_mem_cons h
    have later : name ∉ rest.map Prod.fst := List.not_mem_of_not_mem_cons h
    rw [insertNamed]
    split_ifs
    · exact .refl _
    · exact ((ih later).cons entry).trans (.swap _ _ _)

/-- Putting values in order loses none of them, if they stand under different names. -/
theorem orderNamed_perm {entries : List (Text × α)} (h : (entries.map Prod.fst).Nodup) :
    (orderNamed entries).Perm entries := by
  suffices hs : ∀ ordered : List (Text × α), ((entries ++ ordered).map Prod.fst).Nodup →
      (entries.foldl (fun ordered entry => insertNamed entry.1 entry.2 ordered) ordered).Perm
        (entries ++ ordered) by
    have whole := hs [] (by rwa [List.append_nil])
    rwa [List.append_nil] at whole
  -- The values are put one by one among others, and all of them together have different names.
  clear h
  induction entries with
  | nil => exact fun _ _ => .refl _
  | cons entry rest ih =>
    intro ordered hn
    have new : entry.1 ∉ ordered.map Prod.fst := fun hm => by
      rw [List.cons_append, List.map_cons, List.map_append] at hn
      exact (List.nodup_cons.mp hn).1 (List.mem_append_right _ hm)
    have step := insertNamed_perm new entry.2
    have moved : (rest ++ insertNamed entry.1 entry.2 ordered).Perm
        (entry :: (rest ++ ordered)) :=
      (step.append_left rest).trans List.perm_middle
    rw [List.foldl_cons]
    exact (ih _ ((moved.map Prod.fst).nodup_iff.mpr hn)).trans moved

/-- Values under different names come into the one ascending order of them. -/
theorem orderNamed_eq_of_perm {entries ordered : List (Text × α)} (hp : entries.Perm ordered)
    (ho : (ordered.map Prod.fst).Pairwise (· < ·)) : orderNamed entries = ordered := by
  have different : (entries.map Prod.fst).Nodup :=
    (hp.map Prod.fst).nodup_iff.mpr (ho.imp ne_of_lt)
  have same : (orderNamed entries).Perm ordered := (orderNamed_perm different).trans hp
  exact same.eq_of_pairwise (fun _ _ _ _ hlt hgt => absurd hlt (lt_asymm hgt))
    (List.pairwise_map.mp (pairwise_orderNamed entries)) (List.pairwise_map.mp ho)

end ProviderDocs
