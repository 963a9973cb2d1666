import ProviderDocs.Proofs.Text.Order
import ProviderDocs.Schema.Section

/-!
# Arranging sections twice

* `mem_inTier_iff`, `exists_mem_arrange_iff`: a tier holds the sections that belong to it, and
  arranging sections loses none of their texts.
* `arrange_eq_self_iff`: arranging leaves alone exactly the lists that are in order and have no
  neighbours with one text.
* `arrange_arrange_iff`: arranged sections are arranged for good, unless a repetition at the top was
  dropped that was the only one with its name.  A section that had its parent in that name belongs
  to another tier then (`LosesParent`).

What is arranged is in order by the names at the top of all sections that were given, and the second
time only by the names of those that are left.  So the two orders differ in the tiers of the
sections that lose their parents, and in nothing else (`standsAbove_iff`).
-/

namespace ProviderDocs.Section

/-! ### Tiers -/

/-- The place of a tier in a document. -/
def Tier.rank : Tier → Nat
  | .root => 0
  | .child => 1
  | .other => 2

theorem tier_eq_root_iff {roots : List Text} {s : Section} :
    s.tier roots = .root ↔ s.depth = 0 := by
  unfold tier
  split_ifs <;> simp_all

theorem tier_eq_child_iff {roots : List Text} {s : Section} :
    s.tier roots = .child ↔ 0 < s.depth ∧ ∃ parent ∈ s.parent, parent ∈ roots := by
  unfold tier
  by_cases top : s.depth = 0
  · simp [top]
  · have below : 0 < s.depth := Nat.pos_of_ne_zero top
    cases s.parent <;> simp [top, below]

theorem mem_inTier_iff {items : List Section} {tier : Tier} {s : Section} :
    s ∈ inTier items tier ↔ s ∈ items ∧ s.tier (rootNames items) = tier := by
  rw [inTier, (orderBy_perm _ _).mem_iff, List.mem_filter, beq_iff_eq]

theorem mem_flatMap_inTier_iff {items : List Section} {s : Section} :
    s ∈ [Tier.root, .child, .other].flatMap (inTier items) ↔ s ∈ items := by
  simp only [List.flatMap_cons, List.flatMap_nil, List.append_nil, List.mem_append, mem_inTier_iff]
  cases s.tier (rootNames items) <;> simp

/-- Arranging sections keeps their texts. -/
theorem exists_mem_arrange_iff {items : List Section} {t : Text} :
    (∃ s ∈ arrange items, s.text = t) ↔ ∃ s ∈ items, s.text = t := by
  have kept : t ∈ (arrange items).map text ↔
      t ∈ ([Tier.root, .child, .other].flatMap (inTier items)).map text :=
    mem_map_dropRepeats_iff
  simpa only [List.mem_map, mem_flatMap_inTier_iff] using kept

/-- Arranging sections adds none. -/
theorem mem_of_mem_arrange {items : List Section} {s : Section} (h : s ∈ arrange items) :
    s ∈ items :=
  mem_flatMap_inTier_iff.mp ((dropRepeats_sublist _ _).subset h)

/-! ### Sections in order -/

/-- A section may stand above another one: its tier comes first, or their tiers are the same and
their texts are in ascending order. -/
def StandsAbove (roots : List Text) (s t : Section) : Prop :=
  (s.tier roots).rank < (t.tier roots).rank ∨ s.tier roots = t.tier roots ∧ ¬t.text < s.text

theorem pairwise_tiers (items : List Section) :
    ([Tier.root, .child, .other].flatMap (inTier items)).Pairwise
      (StandsAbove (rootNames items)) := by
  rw [List.pairwise_flatMap]
  constructor
  · intro tier _
    have ordered : (inTier items tier).Pairwise fun s t => ¬t.text < s.text :=
      pairwise_orderBy text _
    refine ordered.imp_of_mem fun hs ht notLess => ?_
    have same := (mem_inTier_iff.mp hs).2.trans (mem_inTier_iff.mp ht).2.symm
    exact .inr ⟨same, notLess⟩
  · have ascending : [Tier.root, .child, .other].Pairwise fun a b => a.rank < b.rank := by decide
    refine ascending.imp fun less s hs t ht => ?_
    rw [← (mem_inTier_iff.mp hs).2, ← (mem_inTier_iff.mp ht).2] at less
    exact .inl less

/-- Sections whose tiers come in order are what their tiers hold, one after the other. -/
theorem flatMap_filter_tier {roots : List Text} {items : List Section}
    (h : items.Pairwise fun s t => (s.tier roots).rank ≤ (t.tier roots).rank) :
    [Tier.root, .child, .other].flatMap (fun tier => items.filter fun s => s.tier roots == tier) =
      items := by
  simp only [List.flatMap_cons, List.flatMap_nil, List.append_nil]
  induction items with
  | nil => rfl
  | cons s rest ih =>
    obtain ⟨first, later⟩ := List.pairwise_cons.mp h
    have ih := ih later
    -- No section of an earlier tier comes after the first one.
    have none (tier : Tier) (less : tier.rank < (s.tier roots).rank) :
        rest.filter (fun t => t.tier roots == tier) = [] := by
      rw [List.filter_eq_nil_iff]
      intro t ht same
      have bound := first t ht
      rw [beq_iff_eq.mp same] at bound
      omega
    cases hs : s.tier roots with
    | root => simp [hs, ih]
    | child =>
      rw [none .root (by rw [hs]; decide)] at ih
      simpa [hs, none .root (by rw [hs]; decide)] using ih
    | other =>
      rw [none .root (by rw [hs]; decide), none .child (by rw [hs]; decide)] at ih
      simpa [hs, none .root (by rw [hs]; decide), none .child (by rw [hs]; decide)] using ih

/-- Sections that are in order are what their tiers hold in order, one after the other. -/
theorem flatMap_inTier_eq_self {items : List Section}
    (h : items.Pairwise (StandsAbove (rootNames items))) :
    [Tier.root, .child, .other].flatMap (inTier items) = items := by
  have inOne (tier : Tier) : inTier items tier =
      items.filter fun s => s.tier (rootNames items) == tier := by
    apply orderBy_eq_self
    refine (h.sublist List.filter_sublist).imp_of_mem fun {s t} hs ht above => ?_
    have first := beq_iff_eq.mp (List.mem_filter.mp hs).2
    have second := beq_iff_eq.mp (List.mem_filter.mp ht).2
    rcases above with less | ⟨-, notLess⟩
    · rw [first, second] at less
      exact absurd less (lt_irrefl _)
    · exact notLess
  have ranks : items.Pairwise fun s t =>
      (s.tier (rootNames items)).rank ≤ (t.tier (rootNames items)).rank := by
    refine h.imp fun above => ?_
    rcases above with less | ⟨same, -⟩
    · exact less.le
    · rw [same]
  rw [show inTier items = fun tier => items.filter fun s => s.tier (rootNames items) == tier from
    funext inOne]
  exact flatMap_filter_tier ranks

theorem pairwise_arrange (items : List Section) :
    (arrange items).Pairwise (StandsAbove (rootNames items)) :=
  (pairwise_tiers items).sublist (dropRepeats_sublist _ _)

/-- Arranging leaves alone exactly the sections that are in order by the names at the top among
them, and of which no two neighbours have one text. -/
theorem arrange_eq_self_iff {items : List Section} :
    arrange items = items ↔ items.Pairwise (StandsAbove (rootNames items)) ∧
      items.IsChain fun s t => s.text ≠ t.text := by
  constructor
  · intro h
    have ordered := pairwise_arrange items
    have apart : (arrange items).IsChain fun s t => s.text ≠ t.text := isChain_dropRepeats text _
    rw [h] at ordered apart
    exact ⟨ordered, apart⟩
  · rintro ⟨ordered, apart⟩
    rw [arrange, flatMap_inTier_eq_self ordered]
    exact dropRepeats_eq_self apart

/-! ### Sections that lose their parents -/

/-- The field one level up is named as one at the top among some sections, but not among those that
are left when they are arranged. -/
def LosesParent (items : List Section) (s : Section) : Prop :=
  0 < s.depth ∧
    ∃ parent ∈ s.parent, parent ∈ rootNames items ∧ parent ∉ rootNames (arrange items)

theorem mem_rootNames_iff {items : List Section} {name : Text} :
    name ∈ rootNames items ↔ ∃ s ∈ items, s.depth = 0 ∧ s.name = name := by
  simp [rootNames, and_assoc]

theorem rootNames_arrange_subset (items : List Section) :
    rootNames (arrange items) ⊆ rootNames items := by
  intro name h
  obtain ⟨s, hs, top, named⟩ := mem_rootNames_iff.mp h
  exact mem_rootNames_iff.mpr ⟨s, mem_of_mem_arrange hs, top, named⟩

/-- A section that loses its parent is no child any more, and one that does not stays in its
tier. -/
theorem tier_arrange (items : List Section) (s : Section) :
    LosesParent items s ∧ s.tier (rootNames items) = .child ∧
        s.tier (rootNames (arrange items)) = .other ∨
      ¬LosesParent items s ∧ s.tier (rootNames (arrange items)) = s.tier (rootNames items) := by
  by_cases top : s.depth = 0
  · refine .inr ⟨fun loses => absurd loses.1 (by omega), ?_⟩
    rw [tier_eq_root_iff.mpr top, tier_eq_root_iff.mpr top]
  have below : 0 < s.depth := Nat.pos_of_ne_zero top
  by_cases loses : LosesParent items s
  · obtain ⟨-, parent, hp, among, lost⟩ := loses
    refine .inl ⟨⟨below, parent, hp, among, lost⟩, tier_eq_child_iff.mpr ⟨below, parent, hp, among⟩,
      ?_⟩
    simp [tier, top, Option.mem_def.mp hp, lost]
  · refine .inr ⟨loses, ?_⟩
    cases hp : s.parent with
    | none => simp [tier, top, hp]
    | some parent =>
      have same : parent ∈ rootNames (arrange items) ↔ parent ∈ rootNames items := by
        refine ⟨fun h => rootNames_arrange_subset items h, fun h => ?_⟩
        by_contra lost
        exact loses ⟨below, parent, hp, h, lost⟩
      simp [tier, top, hp, same]

/-- Of two sections that are in order, those that are left may not stay in order if the first one
loses its parent. -/
theorem standsAbove_iff {items : List Section} {s t : Section}
    (h : StandsAbove (rootNames items) s t) :
    StandsAbove (rootNames (arrange items)) s t ↔
      (LosesParent items s →
        t.tier (rootNames (arrange items)) = .other ∧ ¬t.text < s.text) := by
  unfold StandsAbove at h ⊢
  rcases tier_arrange items s with ⟨loses, hs, hs'⟩ | ⟨keeps, hs⟩
  · -- The first one is among the others now, and may stand above these alone.
    simp only [hs', loses, true_implies]
    cases t.tier (rootNames (arrange items)) <;> simp [Tier.rank]
  · rw [hs]
    refine iff_of_true ?_ fun loses => absurd loses keeps
    rcases tier_arrange items t with ⟨-, ht, ht'⟩ | ⟨-, ht⟩
    · -- The second one only moves further down.
      rw [ht] at h
      rw [ht']
      revert h
      cases s.tier (rootNames items) <;> simp [Tier.rank]
    · rwa [ht]

/-- A section at the top that is dropped leaves another one at the top with its text. -/
theorem exists_root_of_mem {items : List Section} {s : Section} (h : s ∈ items)
    (top : s.depth = 0) : ∃ kept ∈ arrange items, kept.depth = 0 ∧ kept.text = s.text := by
  have belongs : s ∈ inTier items .root := mem_inTier_iff.mpr ⟨h, tier_eq_root_iff.mpr top⟩
  have texts : s.text ∈ (dropRepeats text (inTier items .root)).map text :=
    mem_map_dropRepeats_iff.mpr (List.mem_map_of_mem belongs)
  obtain ⟨kept, hk, same⟩ := List.mem_map.mp texts
  have first : dropRepeats text (inTier items .root) <+: arrange items :=
    dropRepeats_isPrefix_append text (inTier items .root) _
  have root := (mem_inTier_iff.mp ((dropRepeats_sublist text _).subset hk)).2
  exact ⟨kept, first.subset hk, tier_eq_root_iff.mp root, same⟩

/-- The text of a section at the top tells its name, if there is no mark of code in the name. -/
theorem name_eq_of_text_eq {s t : Section} (hs : s.depth = 0) (ht : t.depth = 0)
    (plain : '\x60' ∉ s.name) (plain' : '\x60' ∉ t.name) (h : s.text = t.text) :
    s.name = t.name := by
  -- The name stands between the first two marks of the text.
  have begins (u : Section) (top : u.depth = 0) :
      ∃ rest, u.text = "The \x60".toList ++ (u.name ++ '\x60' :: rest) := by
    have title : u.title = "The \x60".toList ++
        (u.name ++ '\x60' :: " object supports the following:".toList) := by
      unfold title
      cases u.parent <;> simp [top, codeSpan]
    unfold text
    split_ifs
    · exact ⟨_, title⟩
    · exact ⟨_, by simp [Text.joinParagraphs, title]; rfl⟩
  have between (name rest : Text) (plain : '\x60' ∉ name) :
      (name ++ '\x60' :: rest).takeWhile (· != '\x60') = name := by
    have all : ∀ c ∈ name, (c != '\x60') = true := by
      intro c hc
      simpa using ne_of_mem_of_not_mem hc plain
    rw [List.takeWhile_append_of_pos all]
    simp
  obtain ⟨rest, hrest⟩ := begins s hs
  obtain ⟨rest', hrest'⟩ := begins t ht
  rw [hrest, hrest'] at h
  have same := List.append_cancel_left h
  rw [← between s.name rest plain, same, between t.name rest' plain']

/-! ### Arranging twice -/

/-- Arranged sections stay as they are when they are arranged again exactly if no section that loses
its parent stands above one that it may not stand above among the others; and they stay as they are
whenever the names at the top are free of the mark that sets off code. -/
theorem arrange_arrange_iff (items : List Section) :
    (arrange (arrange items) = arrange items ↔
      (arrange items).Pairwise fun s t => LosesParent items s →
        t.tier (rootNames (arrange items)) = .other ∧ ¬t.text < s.text) ∧
    ((∀ s ∈ items, s.depth = 0 → '\x60' ∉ s.name) → arrange (arrange items) = arrange items) := by
  have ordered := pairwise_arrange items
  have apart : (arrange items).IsChain fun s t => s.text ≠ t.text := isChain_dropRepeats text _
  have exactly : arrange (arrange items) = arrange items ↔
      (arrange items).Pairwise fun s t => LosesParent items s →
        t.tier (rootNames (arrange items)) = .other ∧ ¬t.text < s.text := by
    rw [arrange_eq_self_iff, and_iff_left apart]
    constructor
    · intro again
      exact (ordered.and again).imp fun both => (standsAbove_iff both.1).mp both.2
    · intro moves
      exact (ordered.and moves).imp fun both => (standsAbove_iff both.1).mpr both.2
  refine ⟨exactly, fun plain => exactly.mpr (List.pairwise_of_forall fun s t loses => ?_)⟩
  -- A name at the top is still there, with the section that is left of those with its text.
  obtain ⟨-, parent, -, among, lost⟩ := loses
  obtain ⟨root, hr, top, rfl⟩ := mem_rootNames_iff.mp among
  obtain ⟨kept, hk, top', same⟩ := exists_root_of_mem hr top
  have name : kept.name = root.name :=
    name_eq_of_text_eq top' top (plain kept (mem_of_mem_arrange hk) top') (plain root hr top) same
  exact absurd (mem_rootNames_iff.mpr ⟨kept, hk, top', name⟩) lost

/-- Sections with repetitions at the top and across the tiers. -/
def repeatedTitles : List Section :=
  [⟨"rules".toList, none, 0, ["* b".toList]⟩, ⟨"x".toList, some "rules".toList, 1, []⟩,
    ⟨"rules".toList, some "x".toList, 0, ["* b".toList]⟩, ⟨"x".toList, some "y".toList, 2, []⟩,
    ⟨"a".toList, none, 3, []⟩, ⟨"a".toList, none, 0, []⟩]

theorem repeatedTitles_arranged :
    (∀ s ∈ repeatedTitles, s.depth = 0 → '\x60' ∉ s.name) ∧
      arrange (arrange repeatedTitles) = arrange repeatedTitles := by
  have plain : ∀ s ∈ repeatedTitles, s.depth = 0 → '\x60' ∉ s.name := by decide
  exact ⟨plain, (arrange_arrange_iff repeatedTitles).2 plain⟩

/-- Two sections at the top with one text, since the name of the second one holds the title of the
first, and a child of each of them. -/
def forgedTitles : List Section :=
  let forged := "a\x60 object supports the following:\n\nThe \x60b".toList
  [⟨"a".toList, none, 0, ["The \x60b\x60 object supports the following:".toList]⟩,
    ⟨forged, none, 0, []⟩, ⟨"p".toList, some forged, 1, []⟩, ⟨"q".toList, some "a".toList, 1, []⟩]

/-- The second section is dropped, so that `p` stands above `q` the first time and below it the
second time. -/
theorem forgedTitles_rearranged :
    arrange (arrange forgedTitles) ≠ arrange forgedTitles := by
  decide +kernel

end ProviderDocs.Section
