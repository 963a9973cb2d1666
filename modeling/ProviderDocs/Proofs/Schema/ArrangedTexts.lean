import Mathlib.Data.List.Sort
import ProviderDocs.Proofs.Schema.Arrangement

/-!
# The texts of arranged sections

Sections are arranged tier by tier.  What is left of a tier are its texts, each of them once and in
ascending order (`distinctTextsOf_inTier`), and of the texts of the next tier only the first can be
missing, if it repeats the last one above (`map_text_arrange`).  A strictly ascending list is
determined by what it holds (`DistinctTextsOf.unique`), so that the texts of arranged sections do
not depend on the order in which the sections are given, although this order decides which section
is kept of those with one text.
-/

namespace ProviderDocs.Section

/-! ### Tiers without the names at the top -/

/-- A section belongs to a tier: it stands at the top, the field one level up is named as that of a
section at the top, or neither. -/
def BelongsTo (items : List Section) (s : Section) : Tier → Prop
  | .root => s.depth = 0
  | .child => s.depth ≠ 0 ∧ ∃ root ∈ items, root.depth = 0 ∧ s.parent = some root.name
  | .other => s.depth ≠ 0 ∧ ∀ root ∈ items, root.depth = 0 → s.parent ≠ some root.name

theorem tier_eq_iff {items : List Section} {s : Section} {tier : Tier} :
    s.tier (rootNames items) = tier ↔ s.BelongsTo items tier := by
  have child : s.tier (rootNames items) = .child ↔ s.BelongsTo items .child := by
    rw [tier_eq_child_iff, Nat.pos_iff_ne_zero, BelongsTo]
    refine and_congr_right' ⟨?_, ?_⟩
    · rintro ⟨parent, named, among⟩
      obtain ⟨root, hr, top, rfl⟩ := mem_rootNames_iff.mp among
      exact ⟨root, hr, top, named⟩
    · rintro ⟨root, hr, top, named⟩
      exact ⟨root.name, named, mem_rootNames_iff.mpr ⟨root, hr, top, rfl⟩⟩
  cases tier with
  | root => exact tier_eq_root_iff
  | child => exact child
  | other =>
    -- What belongs to neither of the other tiers is left.
    have neither : s.tier (rootNames items) = .other ↔
        s.tier (rootNames items) ≠ .root ∧ s.tier (rootNames items) ≠ .child := by
      cases s.tier (rootNames items) <;> decide
    rw [neither, Ne, Ne, tier_eq_root_iff, child, BelongsTo, BelongsTo]
    grind

theorem BelongsTo.of_perm {items other : List Section} (h : other.Perm items) {s : Section}
    {tier : Tier} (hb : s.BelongsTo items tier) : s.BelongsTo other tier := by
  cases tier <;> simpa only [BelongsTo, h.mem_iff] using hb

/-! ### The texts of a tier -/

/-- The texts of the sections that belong to a tier, each of them once and in ascending order. -/
structure DistinctTextsOf (items : List Section) (tier : Tier) (texts : List Text) : Prop where
  ascending : texts.Pairwise (· < ·)
  mem_iff (t : Text) : t ∈ texts ↔ ∃ s ∈ items, s.BelongsTo items tier ∧ s.text = t

theorem DistinctTextsOf.unique {items : List Section} {tier : Tier} {texts texts' : List Text}
    (h : DistinctTextsOf items tier texts) (h' : DistinctTextsOf items tier texts') :
    texts = texts' :=
  h.ascending.eq_of_mem_iff h'.ascending fun t => (h.mem_iff t).trans (h'.mem_iff t).symm

theorem DistinctTextsOf.of_perm {items other : List Section} (h : other.Perm items) {tier : Tier}
    {texts : List Text} (ht : DistinctTextsOf items tier texts) :
    DistinctTextsOf other tier texts where
  ascending := ht.ascending
  mem_iff t := by
    rw [ht.mem_iff]
    constructor
    · rintro ⟨s, hs, belongs, same⟩
      exact ⟨s, h.mem_iff.mpr hs, belongs.of_perm h, same⟩
    · rintro ⟨s, hs, belongs, same⟩
      exact ⟨s, h.mem_iff.mp hs, belongs.of_perm h.symm, same⟩

theorem distinctTextsOf_inTier (items : List Section) (tier : Tier) :
    DistinctTextsOf items tier (dropRepeats id ((inTier items tier).map text)) where
  ascending := by
    have ordered : (inTier items tier).Pairwise fun s t => ¬t.text < s.text :=
      pairwise_orderBy text _
    exact pairwise_lt_dropRepeats (List.pairwise_map.mpr ordered)
  mem_iff t := by
    rw [mem_dropRepeats_id_iff, List.mem_map]
    simp only [mem_inTier_iff, tier_eq_iff, and_assoc]

/-! ### Tier below tier -/

theorem map_text_arrange_eq (items : List Section) :
    (arrange items).map text =
      Text.putBelow
        (Text.putBelow (dropRepeats id ((inTier items .root).map text))
          (dropRepeats id ((inTier items .child).map text)))
        (dropRepeats id ((inTier items .other).map text)) := by
  rw [arrange, map_dropRepeats, ← dropRepeats_append, ← dropRepeats_append]
  simp

/-- The texts of arranged sections are those of the tiers, each of them once in its tier and in
ascending order, and tier below tier; only where two tiers meet, a text is left out that repeats the
last one above.  So no text is lost and none is added, and it does not matter in which order the
sections were given. -/
theorem map_text_arrange (items : List Section) :
    (∃ texts : Tier → List Text, (∀ tier, DistinctTextsOf items tier (texts tier)) ∧
        (arrange items).map text =
          Text.putBelow (Text.putBelow (texts .root) (texts .child)) (texts .other)) ∧
      (∀ t, t ∈ (arrange items).map text ↔ t ∈ items.map text) ∧
      ∀ other, other.Perm items → (arrange other).map text = (arrange items).map text := by
  refine ⟨⟨_, distinctTextsOf_inTier items, map_text_arrange_eq items⟩, fun t => ?_,
    fun other perm => ?_⟩
  · simpa only [List.mem_map] using exists_mem_arrange_iff
  · have same (tier : Tier) : dropRepeats id ((inTier other tier).map text) =
        dropRepeats id ((inTier items tier).map text) :=
      (distinctTextsOf_inTier other tier).unique ((distinctTextsOf_inTier items tier).of_perm perm)
    rw [map_text_arrange_eq, map_text_arrange_eq, same, same, same]

/-- Sections of which two have one text at the end of the first tier and at the start of the
last. -/
def meetingTiers : List Section :=
  [⟨"port".toList, none, 2, []⟩, ⟨"hosts".toList, none, 0, []⟩, ⟨"port".toList, none, 0, []⟩,
    ⟨"zone".toList, some "host".toList, 1, []⟩, ⟨"port".toList, none, 2, []⟩]

/-- Three texts are left, in whatever order the sections are given. -/
theorem meetingTiers_reversed :
    meetingTiers.reverse.Perm meetingTiers ∧
      (arrange meetingTiers.reverse).map text = (arrange meetingTiers).map text ∧
      (arrange meetingTiers).map text =
        ["The \x60hosts\x60 object supports the following:".toList,
          "The \x60port\x60 object supports the following:".toList,
          "The \x60zone\x60 object of \x60host\x60 supports the following:".toList] := by
  have perm : meetingTiers.reverse.Perm meetingTiers := List.reverse_perm meetingTiers
  exact ⟨perm, (map_text_arrange meetingTiers).2.2 _ perm, by decide +kernel⟩

end ProviderDocs.Section
