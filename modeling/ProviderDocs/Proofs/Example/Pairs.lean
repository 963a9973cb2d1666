import ProviderDocs.Proofs.Example.Rereading
import ProviderDocs.Proofs.Snippet.Lines

/-!
# Pairs of fence lines

The lines of an example section are read in order.  Outside code a line may open a block, and inside
code a line may close it (`Text.OpensBlock`, `Text.ClosesBlock`); an opening line, the first closing
line below it and the lines above and between them are a pair (`FencePair`).

* `arePairsOf_unique`, `exists_arePairsOf`: lines hold pairs in exactly one way, since the first
  opening line and the first closing line below it are determined (`append_cons_inj_of_first`).
* `fencedBlocks?_of_arePairsOf`, `leavesOpen_iff`: reading makes a block of each pair, and comes to
  nothing exactly if below the pairs there is an opening line without a closing line below it.
* `makes_toExample`: the example of a block has the first line of the prose that is not blank for
  its title, what stands below that line for its body, and the formatted text between the fence
  lines for its code.
* `readExamples_outcome`: what reading an example section comes to.
-/

namespace ProviderDocs

open Snippet
open Report (ComesTo)

/-! ### Fence lines -/

/-- A line that opens a block outside code: a fence behind spaces and tabs, and any text without
another fence character. -/
def Text.OpensBlock (line : Text) : Prop :=
  ∃ gap rest, (∀ c ∈ gap, isSpaceOrTab c = true) ∧ '`' ∉ rest ∧ line = gap ++ (fence ++ rest)

/-- A line that closes a block inside code: a fence and nothing else. -/
def Text.ClosesBlock (line : Text) : Prop :=
  line.SaysOnly fence

theorem opensFence_eq_false_iff {line : Text} : opensFence line = false ↔ ¬line.OpensBlock := by
  rw [← Bool.not_eq_true, opensFence_iff]
  rfl

theorem closesFence_eq_false_iff {line : Text} : closesFence line = false ↔ ¬line.ClosesBlock := by
  rw [← Bool.not_eq_true, closesFence_iff_saysOnly]
  rfl

/-- An opening line and the closing line below it, with the lines above and between them. -/
structure FencePair where
  /-- The lines between the pair above and the opening line. -/
  prose : List Text
  opening : Text
  /-- The lines between the opening and the closing line. -/
  code : List Text
  closing : Text

namespace FencePair

def lines (p : FencePair) : List Text :=
  p.prose ++ p.opening :: (p.code ++ [p.closing])

/-- No line opens the block before the opening line, and none closes it before the closing one. -/
structure WellFormed (p : FencePair) : Prop where
  prose : ∀ line ∈ p.prose, ¬line.OpensBlock
  opening : p.opening.OpensBlock
  code : ∀ line ∈ p.code, ¬line.ClosesBlock
  closing : p.closing.ClosesBlock

/-- The text between the fence lines, from the newline behind the one to the newline before the
other. -/
def between (p : FencePair) : Text :=
  '\n' :: p.code.flatMap (· ++ ['\n'])

/-- The example that a pair makes: its title is the first line above the opening line that is not
blank, its body what follows that line, and its code what stands between the fence lines. -/
inductive Makes : FencePair → Example → Prop where
  | untitled {p : FencePair} (blank : ∀ line ∈ p.prose, Text.isBlank line = true) :
    Makes p ⟨[], [], Snippet.format p.between⟩
  | titled {p : FencePair} {gap : List Text} {first : Text} {rest : List Text}
    (prose : p.prose = gap ++ first :: rest) (blank : ∀ line ∈ gap, Text.isBlank line = true)
    (something : Text.isBlank first = false) :
    Makes p ⟨Text.trim first, Text.trim (Text.joinLines rest), Snippet.format p.between⟩

def block (p : FencePair) : FencedBlock :=
  ⟨p.prose, p.code⟩

end FencePair

/-- The pairs of some lines in order, and the lines below the last of them, which begin with no
further pair. -/
structure ArePairsOf (lines : List Text) (pairs : List FencePair) (rest : List Text) : Prop where
  whole : lines = pairs.flatMap FencePair.lines ++ rest
  wellFormed : ∀ p ∈ pairs, p.WellFormed
  last : ∀ (p : FencePair) below, p.WellFormed → rest ≠ p.lines ++ below

/-- Above an opening line stand pairs and lines that open no block. -/
def OpensBelow (above : List Text) (line : Text) : Prop :=
  ∃ (pairs : List FencePair) (prose : List Text), (∀ p ∈ pairs, p.WellFormed) ∧
    (∀ line ∈ prose, ¬line.OpensBlock) ∧ above = pairs.flatMap FencePair.lines ++ prose ∧
    line.OpensBlock

/-- Some opening line has no closing line below it. -/
def LeavesOpen (lines : List Text) : Prop :=
  ∃ above line below, lines = above ++ line :: below ∧ OpensBelow above line ∧
    ∀ later ∈ below, ¬later.ClosesBlock

/-! ### The pairs of some lines -/

/-- Two ways to cut a list at the first item with a property are one. -/
theorem append_cons_inj_of_first {α : Type} {P : α → Prop} {before before' after after' : List α}
    {a a' : α} (h : before ++ a :: after = before' ++ a' :: after') (hb : ∀ b ∈ before, ¬P b)
    (hb' : ∀ b ∈ before', ¬P b) (ha : P a) (ha' : P a') :
    before = before' ∧ a = a' ∧ after = after' := by
  classical
  have none {items : List α} (hi : ∀ b ∈ items, ¬P b) : items.countP (fun b => decide (P b)) = 0 :=
    List.countP_eq_zero.mpr fun b hb => by simpa using hi b hb
  exact append_cons_inj_of_countP (p := fun b => decide (P b)) h (by simpa using ha)
    (by simpa using ha') ((none hb).trans (none hb').symm)

theorem FencePair.lines_append (p : FencePair) (below : List Text) :
    p.lines ++ below = p.prose ++ p.opening :: (p.code ++ p.closing :: below) := by
  simp [lines]

theorem FencePair.WellFormed.append_inj {p p' : FencePair} {below below' : List Text}
    (hp : p.WellFormed) (hp' : p'.WellFormed) (h : p.lines ++ below = p'.lines ++ below') :
    p = p' ∧ below = below' := by
  rw [lines_append, lines_append] at h
  obtain ⟨prose, opening, later⟩ :=
    append_cons_inj_of_first h hp.prose hp'.prose hp.opening hp'.opening
  obtain ⟨code, closing, later⟩ :=
    append_cons_inj_of_first later hp.code hp'.code hp.closing hp'.closing
  obtain ⟨p1, p2, p3, p4⟩ := p
  obtain ⟨q1, q2, q3, q4⟩ := p'
  simp_all

/-- Below an opening line that is not closed there is no pair. -/
theorem ne_append_of_not_closed {prose code : List Text} {opening : Text}
    (hp : ∀ line ∈ prose, ¬line.OpensBlock) (ho : opening.OpensBlock)
    (hc : ∀ line ∈ code, ¬line.ClosesBlock) (p : FencePair) (below : List Text)
    (hw : p.WellFormed) : prose ++ opening :: code ≠ p.lines ++ below := by
  intro he
  rw [p.lines_append] at he
  obtain ⟨-, -, later⟩ := append_cons_inj_of_first he hp hw.prose ho hw.opening
  exact hc p.closing (by rw [later]; simp) hw.closing

/-- Some lines open no block, or leave one open, or begin with a pair. -/
theorem pair_cases (lines : List Text) :
    (∀ line ∈ lines, ¬line.OpensBlock) ∨
    (∃ prose opening code, lines = prose ++ opening :: code ∧
      (∀ line ∈ prose, ¬line.OpensBlock) ∧ opening.OpensBlock ∧
      ∀ line ∈ code, ¬line.ClosesBlock) ∨
    ∃ (p : FencePair) (below : List Text), p.WellFormed ∧ lines = p.lines ++ below := by
  rcases first_cases opensFence lines with none | ⟨prose, opening, rest, rfl, hp, ho⟩
  · exact .inl fun line hl => opensFence_eq_false_iff.mp (none line hl)
  have prose' : ∀ line ∈ prose, ¬line.OpensBlock :=
    fun line hl => opensFence_eq_false_iff.mp (hp line hl)
  rcases first_cases closesFence rest with none | ⟨code, closing, below, rfl, hc, hcl⟩
  · exact .inr (.inl ⟨prose, opening, rest, rfl, prose', opensFence_iff.mp ho,
      fun line hl => closesFence_eq_false_iff.mp (none line hl)⟩)
  · refine .inr (.inr ⟨⟨prose, opening, code, closing⟩, below, ⟨prose', opensFence_iff.mp ho,
      fun line hl => closesFence_eq_false_iff.mp (hc line hl),
      closesFence_iff_saysOnly.mp hcl⟩, ?_⟩)
    rw [FencePair.lines_append]

theorem ArePairsOf.cons {p : FencePair} {lines rest : List Text} {pairs : List FencePair}
    (hp : p.WellFormed) (h : ArePairsOf lines pairs rest) :
    ArePairsOf (p.lines ++ lines) (p :: pairs) rest where
  whole := by rw [h.whole, List.flatMap_cons, List.append_assoc]
  wellFormed := List.forall_mem_cons.mpr ⟨hp, h.wellFormed⟩
  last := h.last

theorem exists_arePairsOf (lines : List Text) : ∃ pairs rest, ArePairsOf lines pairs rest := by
  induction hn : lines.length using Nat.strong_induction_on generalizing lines with
  | _ n ih =>
    subst hn
    rcases pair_cases lines with none | ⟨prose, opening, code, rfl, hp, ho, hc⟩ |
      ⟨p, below, hp, rfl⟩
    · refine ⟨[], lines, rfl, by simp, fun p below hp he => none p.opening ?_ hp.opening⟩
      rw [he, p.lines_append]
      simp
    · exact ⟨[], _, rfl, by simp, ne_append_of_not_closed hp ho hc⟩
    · obtain ⟨pairs, rest, h⟩ := ih below.length (by simp [FencePair.lines]; omega) below rfl
      exact ⟨p :: pairs, rest, h.cons hp⟩

theorem arePairsOf_unique {lines rest rest' : List Text} {pairs pairs' : List FencePair}
    (h : ArePairsOf lines pairs rest) (h' : ArePairsOf lines pairs' rest') :
    pairs' = pairs ∧ rest' = rest := by
  obtain ⟨rfl, wellFormed, last⟩ := h
  obtain ⟨whole, wellFormed', last'⟩ := h'
  induction pairs generalizing pairs' with
  | nil =>
    cases pairs' with
    | nil => exact ⟨rfl, whole.symm⟩
    | cons p pairs' =>
      rw [List.flatMap_cons, List.append_assoc] at whole
      exact absurd whole (last p _ (wellFormed' p List.mem_cons_self))
  | cons p pairs ih =>
    obtain ⟨hp, later⟩ := List.forall_mem_cons.mp wellFormed
    cases pairs' with
    | nil =>
      rw [List.flatMap_cons, List.append_assoc] at whole
      exact absurd whole.symm (last' p _ hp)
    | cons p' pairs' =>
      obtain ⟨hp', later'⟩ := List.forall_mem_cons.mp wellFormed'
      rw [List.flatMap_cons, List.flatMap_cons, List.append_assoc, List.append_assoc] at whole
      obtain ⟨rfl, below⟩ := hp.append_inj hp' whole
      obtain ⟨rfl, rfl⟩ := ih later below later'
      exact ⟨rfl, rfl⟩

/-- A block is left open exactly if it is opened below all pairs. -/
theorem leavesOpen_iff {lines rest : List Text} {pairs : List FencePair}
    (h : ArePairsOf lines pairs rest) :
    LeavesOpen lines ↔ ∃ prose opening code, rest = prose ++ opening :: code ∧
      (∀ line ∈ prose, ¬line.OpensBlock) ∧ opening.OpensBlock ∧
      ∀ line ∈ code, ¬line.ClosesBlock := by
  constructor
  · rintro ⟨above, line, below, rfl, ⟨pairs', prose, hw, hp, rfl, ho⟩, hc⟩
    have open' : ArePairsOf ((pairs'.flatMap FencePair.lines ++ prose) ++ line :: below) pairs'
        (prose ++ line :: below) :=
      ⟨List.append_assoc _ _ _, hw, ne_append_of_not_closed hp ho hc⟩
    exact ⟨prose, line, below, (arePairsOf_unique open' h).2, hp, ho, hc⟩
  · rintro ⟨prose, opening, code, rfl, hp, ho, hc⟩
    refine ⟨pairs.flatMap FencePair.lines ++ prose, opening, code, ?_, ?_, hc⟩
    · rw [h.whole, List.append_assoc]
    · exact ⟨pairs, prose, h.wellFormed, hp, rfl, ho⟩

/-! ### Reading pair after pair -/

theorem fencedBlocks?_append_pair {p : FencePair} (hp : p.WellFormed) (below : List Text) :
    fencedBlocks? (p.lines ++ below) =
      (fencedBlocks? below).map fun read => (p.block :: read.1, read.2) := by
  have prose : ∀ line ∈ p.prose, opensFence line = false :=
    fun line hl => opensFence_eq_false_iff.mpr (hp.prose line hl)
  have code : ∀ line ∈ p.code, closesFence line = false :=
    fun line hl => closesFence_eq_false_iff.mpr (hp.code line hl)
  have closing : closesFence p.closing = true := closesFence_iff_saysOnly.mpr hp.closing
  rw [fencedBlocks?, p.lines_append, fencedBlocksAfter_append_prose prose,
    fencedBlocksAfter_opens (opensFence_iff.mpr hp.opening), fencedBlocksAfter_append_code code]
  simp only [fencedBlocksAfter, closing, if_true]
  rfl

theorem fencedBlocks?_append_pairs {pairs : List FencePair} (h : ∀ p ∈ pairs, p.WellFormed)
    (rest : List Text) :
    fencedBlocks? (pairs.flatMap FencePair.lines ++ rest) =
      (fencedBlocks? rest).map fun read => (pairs.map FencePair.block ++ read.1, read.2) := by
  induction pairs with
  | nil => simp
  | cons p pairs ih =>
    obtain ⟨hp, later⟩ := List.forall_mem_cons.mp h
    rw [List.flatMap_cons, List.append_assoc, fencedBlocks?_append_pair hp, ih later,
      Option.map_map]
    rfl

/-- Below all pairs a block is left open, and nothing is read, or there is only prose. -/
theorem fencedBlocks?_of_arePairsOf {lines rest : List Text} {pairs : List FencePair}
    (h : ArePairsOf lines pairs rest) :
    (LeavesOpen lines ∧ fencedBlocks? lines = none) ∨
      (¬LeavesOpen lines ∧ fencedBlocks? lines = some (pairs.map FencePair.block, rest)) := by
  have read := fencedBlocks?_append_pairs h.wellFormed rest
  rw [← h.whole] at read
  rw [leavesOpen_iff h, read]
  rcases pair_cases rest with none | ⟨prose, opening, code, rfl, hp, ho, hc⟩ |
    ⟨p, below, hp, he⟩
  · have all : ∀ line ∈ rest, opensFence line = false :=
      fun line hl => opensFence_eq_false_iff.mpr (none line hl)
    have prose : fencedBlocks? rest = some ([], rest) := by
      have read := fencedBlocksAfter_append_prose all [] []
      rw [List.append_nil, List.nil_append] at read
      exact read
    refine .inr ⟨?_, by simp [prose]⟩
    rintro ⟨prose, opening, code, rfl, -, ho, -⟩
    exact none opening (by simp) ho
  · have prose' : ∀ line ∈ prose, opensFence line = false :=
      fun line hl => opensFence_eq_false_iff.mpr (hp line hl)
    have code' : ∀ line ∈ code, closesFence line = false :=
      fun line hl => closesFence_eq_false_iff.mpr (hc line hl)
    have read : fencedBlocks? (prose ++ opening :: code) = none := by
      rw [fencedBlocks?, fencedBlocksAfter_append_prose prose',
        fencedBlocksAfter_opens (opensFence_iff.mpr ho), ← List.append_nil code,
        fencedBlocksAfter_append_code code']
      rfl
    exact .inl ⟨⟨prose, opening, code, rfl, hp, ho, hc⟩, by rw [read]; rfl⟩
  · exact absurd he (h.last p below hp)

/-- What reading makes of a pair. -/
theorem FencePair.makes_toExample {p : FencePair} (h : ∀ line ∈ p.lines, '\n' ∉ line) :
    p.Makes p.block.toExample := by
  have code : Snippet.format (Text.joinLines p.code) = Snippet.format p.between :=
    (format_newlines p.code fun line hl => h line (by simp [lines, hl])).symm
  rcases prose_cases p.prose with blank | ⟨gap, first, rest, prose, blank, something⟩
  · rw [block, toExample_of_isBlank blank, code]
    exact .untitled blank
  · have oneLine : '\n' ∉ first := h first (by simp [lines, prose])
    rw [block, prose, toExample_of_prose blank something oneLine, code]
    exact .titled prose blank something

/-! ### Reading an example section -/

/-- The lines of an example section hold pairs of fence lines, in exactly one way.  Reading ends in
a fault if some opening line has no closing line below it; then no warning is added.  Otherwise it
gives an example for each pair, in order, unless code is required and there is no pair, and adds
one warning if the text below the last pair is not blank. -/
theorem readExamples_outcome (entity : Text) (requireCode : Bool) (t : Text) :
    ∃ pairs rest, ArePairsOf (Text.splitLines t) pairs rest ∧
      (∀ pairs' rest', ArePairsOf (Text.splitLines t) pairs' rest' →
        pairs' = pairs ∧ rest' = rest) ∧
      ∃ outcome added, (readExamples entity requireCode t).ComesTo outcome added ∧
        (LeavesOpen (Text.splitLines t) ∧ outcome = .error (.unterminatedFence entity) ∧
            added = [] ∨
          ¬LeavesOpen (Text.splitLines t) ∧
            (requireCode = true ∧ pairs = [] ∧ outcome = .error (.missingCodeBlock entity) ∨
              ¬(requireCode = true ∧ pairs = []) ∧
                ∃ examples, outcome = .ok examples ∧
                  List.Forall₂ FencePair.Makes pairs examples) ∧
            added = if Text.isBlank (Text.joinLines rest) = true then []
              else [.trailingProse entity]) := by
  obtain ⟨pairs, rest, h⟩ := exists_arePairsOf (Text.splitLines t)
  refine ⟨pairs, rest, h, fun _ _ h' => arePairsOf_unique h h', ?_⟩
  rcases fencedBlocks?_of_arePairsOf h with ⟨open', read⟩ | ⟨closed, read⟩
  · exact ⟨_, _, comesTo_readExamples_of_none entity read, .inl ⟨open', rfl, rfl⟩⟩
  refine ⟨_, _, comesTo_readExamples_of_some entity read, .inr ⟨closed, ?_, rfl⟩⟩
  have missing : (requireCode && (pairs.map FencePair.block).isEmpty) = true ↔
      requireCode = true ∧ pairs = [] := by
    simp
  by_cases hm : requireCode = true ∧ pairs = []
  · exact .inl ⟨hm.1, hm.2, if_pos (missing.mpr hm)⟩
  · refine .inr ⟨hm, _, if_neg (mt missing.mp hm), ?_⟩
    rw [List.map_map, List.forall₂_map_right_iff, List.forall₂_same]
    intro p hp
    refine FencePair.makes_toExample fun line hl => ?_
    apply Text.notMem_of_mem_splitOn (t := t)
    show line ∈ Text.splitLines t
    rw [h.whole]
    exact List.mem_append_left _ (List.mem_flatMap.mpr ⟨p, hp, hl⟩)

/-- An example section with two blocks among lines that are nearly fences. -/
def nearFences : Text :=
  ("Intro\n````\n  ```hcl title\r\na=1\n```x\n\t``` \r\n\nMore\n \t\nbody\n```\n```\nTail").toList

theorem nearFences_read :
    ∃ pairs rest, ArePairsOf (Text.splitLines nearFences) pairs rest ∧ pairs.length = 2 ∧
      (readExamples "edgenext_domain".toList true nearFences).result =
        (.ok
          [⟨"Intro".toList, "````".toList, "a = 1\n```x".toList⟩,
            ⟨"More".toList, "body".toList, []⟩],
          [.trailingProse "edgenext_domain".toList]) := by
  obtain ⟨pairs, rest, h, -, outcome, added, comes, read⟩ :=
    readExamples_outcome "edgenext_domain".toList true nearFences
  have evaluated : (readExamples "edgenext_domain".toList true nearFences).result =
      (.ok
        [⟨"Intro".toList, "````".toList, "a = 1\n```x".toList⟩,
          ⟨"More".toList, "body".toList, []⟩],
        [.trailingProse "edgenext_domain".toList]) := by decide +kernel
  refine ⟨pairs, rest, h, ?_, evaluated⟩
  rw [comes.result_eq] at evaluated
  rcases read with ⟨-, rfl, -⟩ | ⟨-, ⟨-, -, rfl⟩ | ⟨-, examples, rfl, makes⟩, -⟩
  · cases evaluated
  · cases evaluated
  · cases evaluated
    exact makes.length_eq

end ProviderDocs
