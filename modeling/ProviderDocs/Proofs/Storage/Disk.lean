import Mathlib.Tactic.SplitIfs
import ProviderDocs.Proofs.Storage.Path
import ProviderDocs.Storage.Disk

/-!
# What programs change on a disk

A program leaves a disk alone outside some places when all it does elsewhere is to make directories
where there was nothing (`Disk.AgreesOutside`).  Every program that only makes directories does so
for no places at all, and writing a file for the place that its path leads to
(`StaysWithin.writeText`).  That place does not depend on what is on the disk (`Disk.place`).

What was written is read back (`read_of_write`), and no later change to other places comes between,
as long as the directories stay that the path leads through (`read_of_agreesOutside`).  What is
removed is what a path leads to, with all that is below it (`StaysWithin.remove`).
-/

namespace ProviderDocs

namespace Disk

/-- The place that a path leads to if it leads anywhere. -/
def place (home : Location) (path : Text) : Location :=
  Path.walk (if Path.isAbsolute path then [] else home) (Path.pieces path)

theorem follow_eq_ok {disk : Disk} {start location : Location} {pieces : List Text}
    (h : disk.follow start pieces = .ok location) : location = Path.walk start pieces := by
  induction pieces generalizing start with
  | nil => exact (Except.ok.inj h).symm
  | cons piece rest ih =>
    -- If the piece starts from a directory, it leads where it leads on any disk.
    rw [follow] at h
    split at h
    · cases h
    · cases h
    · rw [Path.walk, List.foldl_cons, Path.advance]
      split_ifs at h ⊢
      · exact ih h
      · exact ih h
      · exact ih h

theorem locate_eq_ok {disk : Disk} {path : Text} {location : Location}
    (h : disk.locate path = .ok location) : location = place disk.home path := by
  rw [locate] at h
  split at h
  · cases h
  · exact follow_eq_ok h

/-- Writing a file follows its path to a place without a directory and puts the file there. -/
theorem exists_of_write_eq_ok {disk after : Disk} {path : Text} {content : FileContent}
    (h : disk.write path content = .ok after) :
    ∃ location, disk.locate path = .ok location ∧ disk.at? location ≠ some .directory ∧
      after = disk.set location (.file content) := by
  rw [write] at h
  cases hl : disk.locateTarget path with
  | error cause => rw [hl] at h; cases h
  | ok location =>
    rw [hl] at h
    simp only [bind, Except.bind] at h
    split at h
    · cases h
    -- A path that asks for a directory by a slash at its end is refused.
    all_goals
      rename_i found
      split_ifs at h with hp
      refine ⟨location, ?_, by simp [found], (Except.ok.inj h).symm⟩
      rw [locateTarget] at hl
      split at hl
      · cases hl
      · rwa [hp] at hl

/-- Writing a file puts it where its path leads to. -/
theorem write_eq_ok {disk after : Disk} {path : Text} {content : FileContent}
    (h : disk.write path content = .ok after) :
    after = disk.set (place disk.home path) (.file content) := by
  obtain ⟨location, hl, -, rfl⟩ := exists_of_write_eq_ok h
  rw [locate_eq_ok hl]

/-- A directory is made where there is nothing. -/
theorem makeDirectory_eq_ok {disk after : Disk} {path : Text}
    (h : disk.makeDirectory path = .ok after) :
    ∃ location, disk.at? location = none ∧ after = disk.set location .directory := by
  rw [makeDirectory] at h
  cases hl : disk.locateTarget path with
  | error cause => rw [hl] at h; cases h
  | ok location =>
    rw [hl] at h
    simp only [bind, Except.bind] at h
    split at h
    · cases h
    · exact ⟨location, ‹_›, (Except.ok.inj h).symm⟩

/-! ### Outside some places -/

/-- Outside some places a disk is as it was, but for directories where there was nothing. -/
structure AgreesOutside (p : Location → Prop) (disk after : Disk) : Prop where
  home : after.home = disk.home
  at? : ∀ location, ¬p location → after.at? location = disk.at? location ∨
    disk.at? location = none ∧ after.at? location = some .directory

namespace AgreesOutside

variable {p : Location → Prop} {disk next after : Disk}

theorem refl (p : Location → Prop) (disk : Disk) : AgreesOutside p disk disk :=
  ⟨rfl, fun _ _ => .inl rfl⟩

theorem trans (h : AgreesOutside p disk next) (h' : AgreesOutside p next after) :
    AgreesOutside p disk after where
  home := h'.home.trans h.home
  at? location hp := by
    -- What was made in the first step is no longer nothing, so that the second leaves it.
    rcases h.at? location hp with same | ⟨hn, made⟩
    · rcases h'.at? location hp with same' | ⟨hn', made'⟩
      · exact .inl (same'.trans same)
      · exact .inr ⟨same ▸ hn', made'⟩
    · rcases h'.at? location hp with same' | ⟨hn', -⟩
      · exact .inr ⟨hn, same'.trans made⟩
      · rw [made] at hn'
        cases hn'

theorem imp {q : Location → Prop} (h : AgreesOutside p disk after)
    (hpq : ∀ location, p location → q location) : AgreesOutside q disk after :=
  ⟨h.home, fun location hq => h.at? location fun hp => hq (hpq location hp)⟩

theorem set {location : Location} (h : p location) (disk : Disk) (entry : DiskEntry) :
    AgreesOutside p disk (disk.set location entry) where
  home := rfl
  at? other hp := by
    refine .inl (disk.at?_set_of_ne ?_ entry)
    rintro rfl
    exact hp h

theorem set_directory {location : Location} (h : disk.at? location = none) :
    AgreesOutside p disk (disk.set location .directory) where
  home := rfl
  at? other _ := by
    by_cases ho : other = location
    · subst ho
      have hn : other ≠ [] := by
        rintro rfl
        cases h
      exact .inr ⟨h, disk.at?_set_self hn _⟩
    · exact .inl (disk.at?_set_of_ne ho _)

theorem without {q : Location → Bool} (h : ∀ location, q location = true → p location)
    (disk : Disk) : AgreesOutside p disk (disk.without q) where
  home := rfl
  at? location hp := by
    by_cases hl : location = []
    · exact .inl (by rw [hl]; rfl)
    · refine .inl ?_
      rw [disk.at?_without q hl, if_neg fun hq => hp (h location hq)]

end AgreesOutside

/-! ### Directories that stay -/

/-- Every directory of a disk is one of another disk too, with the same working directory. -/
structure KeepsDirectories (disk after : Disk) : Prop where
  home : after.home = disk.home
  at? : ∀ location, disk.at? location = some .directory → after.at? location = some .directory

namespace KeepsDirectories

variable {disk next after : Disk}

theorem refl (disk : Disk) : KeepsDirectories disk disk :=
  ⟨rfl, fun _ h => h⟩

theorem trans (h : KeepsDirectories disk next) (h' : KeepsDirectories next after) :
    KeepsDirectories disk after :=
  ⟨h'.home.trans h.home, fun location hl => h'.at? location (h.at? location hl)⟩

/-- A file takes the place of no directory. -/
theorem set_file {location : Location} (h : disk.at? location ≠ some .directory)
    (content : FileContent) : KeepsDirectories disk (disk.set location (.file content)) where
  home := rfl
  at? other ho := by
    have ne : other ≠ location := by
      rintro rfl
      exact h ho
    rw [disk.at?_set_of_ne ne, ho]

/-- No directory goes with a file. -/
theorem without_file {location : Location} {content : FileContent}
    (h : disk.at? location = some (.file content)) :
    KeepsDirectories disk (disk.without (· == location)) where
  home := rfl
  at? other ho := by
    have ne : other ≠ location := by
      rintro rfl
      rw [ho] at h
      cases h
    by_cases hn : other = []
    · rw [hn]
      rfl
    · rw [disk.at?_without _ hn, if_neg (by simpa using ne), ho]

theorem follow_eq_ok (h : KeepsDirectories disk after) {start location : Location}
    {pieces : List Text} (hf : disk.follow start pieces = .ok location) :
    after.follow start pieces = .ok location := by
  induction pieces generalizing start with
  | nil => exact hf
  | cons piece rest ih =>
    rw [follow] at hf ⊢
    split at hf
    · cases hf
    · cases hf
    · -- The piece starts from a directory here, and so it does there.
      rename_i directory
      rw [h.at? start directory]
      dsimp only
      split_ifs at hf ⊢
      · exact ih hf
      · exact ih hf
      · exact ih hf

/-- A path that leads to a place leads there as long as the directories stay. -/
theorem locate_eq_ok (h : KeepsDirectories disk after) {path : Text} {location : Location}
    (hl : disk.locate path = .ok location) : after.locate path = .ok location := by
  rw [locate] at hl ⊢
  split at hl
  · cases hl
  · rw [h.home]
    exact h.follow_eq_ok hl

end KeepsDirectories

/-- Where nothing but directories is made, all directories stay. -/
theorem AgreesOutside.keepsDirectories {disk after : Disk}
    (h : AgreesOutside (fun _ => False) disk after) : KeepsDirectories disk after where
  home := h.home
  at? location hl := by
    rcases h.at? location not_false with same | ⟨hn, -⟩
    · exact same.trans hl
    · rw [hl] at hn
      cases hn

/-! ### Reading -/

theorem read_eq_ok_iff {disk : Disk} {path : Text} {content : FileContent} :
    disk.read path = .ok content ↔
      ∃ location, disk.locate path = .ok location ∧
        disk.at? location = some (.file content) := by
  rw [read]
  cases disk.locate path with
  | error cause => simp [bind, Except.bind]
  | ok location =>
    simp only [bind, Except.bind, Except.ok.injEq, exists_eq_left']
    cases disk.at? location with
    | none => simp
    | some entry => cases entry <;> simp

theorem readText_of_read {disk : Disk} {path t : Text} (h : disk.read path = .ok (.text t)) :
    disk.readText path = .ok t := by
  rw [readText, h]
  rfl

/-- A text is read from a file that holds it, and from no other. -/
theorem readText_eq_ok_iff {disk : Disk} {path t : Text} :
    disk.readText path = .ok t ↔ disk.read path = .ok (.text t) := by
  refine ⟨fun h => ?_, readText_of_read⟩
  rw [readText] at h
  cases hr : disk.read path with
  | error cause =>
    rw [hr] at h
    cases h
  | ok content =>
    rw [hr] at h
    cases content with
    | text u => rw [show u = t from Except.ok.inj h]
    | binary bytes => cases h

/-- What is written to a path is read from it. -/
theorem read_of_write {disk after : Disk} {path : Text} {content : FileContent}
    (h : disk.write path content = .ok after) : after.read path = .ok content := by
  obtain ⟨location, hl, hd, rfl⟩ := exists_of_write_eq_ok h
  have below : location ≠ [] := by
    rintro rfl
    exact hd rfl
  exact read_eq_ok_iff.mpr
    ⟨location, (KeepsDirectories.set_file hd content).locate_eq_ok hl, at?_set_self _ below _⟩

/-- A file is read as before if its path leads to none of the places that have changed. -/
theorem read_of_agreesOutside {disk after : Disk} {p : Location → Prop} {path : Text}
    {content : FileContent} (h : disk.read path = .ok content)
    (kept : KeepsDirectories disk after) (agrees : AgreesOutside p disk after)
    (hp : ¬p (place disk.home path)) : after.read path = .ok content := by
  obtain ⟨location, hl, hf⟩ := read_eq_ok_iff.mp h
  rw [← locate_eq_ok hl] at hp
  refine read_eq_ok_iff.mpr ⟨location, kept.locate_eq_ok hl, ?_⟩
  rcases agrees.at? location hp with same | ⟨hn, -⟩
  · exact same.trans hf
  · rw [hf] at hn
    cases hn

/-- Two paths lead to one place. -/
def SamePlace (disk : Disk) (path other : Text) : Prop :=
  ∃ location, disk.locate path = .ok location ∧ disk.locate other = .ok location

theorem SamePlace.symm {disk : Disk} {path other : Text} (h : SamePlace disk path other) :
    SamePlace disk other path := by
  obtain ⟨location, hl, ho⟩ := h
  exact ⟨location, ho, hl⟩

theorem SamePlace.place_eq {disk : Disk} {path other : Text} (h : SamePlace disk path other) :
    place disk.home path = place disk.home other := by
  obtain ⟨location, hl, ho⟩ := h
  rw [← locate_eq_ok hl, locate_eq_ok ho]

/-- Two files that were read, one of them before directories were made and files written, are at
different places if their paths do not lead to one in the end. -/
theorem place_ne_of_read {disk next after : Disk} {path other : Text}
    {content content' : FileContent} (apart : ¬SamePlace after path other)
    (kept : KeepsDirectories disk next) (kept' : KeepsDirectories next after)
    (h : disk.read path = .ok content) (h' : next.read other = .ok content') :
    place disk.home path ≠ place disk.home other := by
  intro same
  obtain ⟨location, hl, -⟩ := read_eq_ok_iff.mp h
  obtain ⟨location', hl', -⟩ := read_eq_ok_iff.mp h'
  have meet : location = location' := by
    rw [locate_eq_ok hl, locate_eq_ok hl', kept.home, same]
  exact apart ⟨location, (kept.trans kept').locate_eq_ok hl, meet ▸ kept'.locate_eq_ok hl'⟩

/-! ### Programs -/

/-- What a program comes to is what its second part comes to after the first. -/
theorem run_bind_eq {α β : Type} {program : StateM Disk α} {later : α → StateM Disk β}
    {disk after : Disk} {value : β} (h : (program >>= later).run disk = (value, after)) :
    ∃ first next, program.run disk = (first, next) ∧ (later first).run next = (value, after) :=
  ⟨_, _, rfl, h⟩

theorem run_bind_of_eq {α β : Type} {program : StateM Disk α} {disk after : Disk} {value : α}
    (h : program.run disk = (value, after)) (later : α → StateM Disk β) :
    (program >>= later).run disk = (later value).run after := by
  rw [StateT.run_bind, h]
  rfl

/-- Reading a text changes nothing. -/
theorem run_readText (path : Text) (disk : Disk) :
    (FileStore.readText path : StateM Disk _).run disk = (disk.readText path, disk) :=
  rfl

/-- A program that starts in a working directory leaves every disk alone outside some places. -/
def StaysWithin {α : Type} (home : Location) (p : Location → Prop) (program : StateM Disk α) :
    Prop :=
  ∀ disk : Disk, disk.home = home → AgreesOutside p disk (program.run disk).2

namespace StaysWithin

variable {α β : Type} {home : Location} {p : Location → Prop}

theorem pure (value : α) : StaysWithin home p (pure value) :=
  fun disk _ => .refl p disk

theorem bind {program : StateM Disk α} {next : α → StateM Disk β} (h : StaysWithin home p program)
    (hn : ∀ value, StaysWithin home p (next value)) : StaysWithin home p (program >>= next) :=
  fun disk hd => (h disk hd).trans (hn _ _ ((h disk hd).home.trans hd))

theorem ite {condition : Prop} [Decidable condition] {first second : StateM Disk α}
    (h : StaysWithin home p first) (h' : StaysWithin home p second) :
    StaysWithin home p (if condition then first else second) := by
  split_ifs
  · exact h
  · exact h'

/-- An operation that cannot be done changes nothing. -/
theorem perform {operation : Disk → Except FileCause Disk}
    (h : ∀ disk after, disk.home = home → operation disk = .ok after → AgreesOutside p disk after) :
    StaysWithin home p (Disk.perform operation) := by
  intro disk hd
  show AgreesOutside p disk (Disk.perform operation disk).2
  cases ho : operation disk with
  | error cause =>
    simp only [Disk.perform, ho]
    exact .refl p disk
  | ok after =>
    simp only [Disk.perform, ho]
    exact h disk after hd ho

theorem makeDirectory (path : Text) :
    StaysWithin home p (FileStore.makeDirectory path : StateM Disk _) := by
  refine perform fun disk after _ h => ?_
  obtain ⟨location, hn, rfl⟩ := makeDirectory_eq_ok h
  exact .set_directory hn

theorem isDirectory (path : Text) :
    StaysWithin home p (FileStore.isDirectory path : StateM Disk _) :=
  fun disk _ => .refl p disk

/-- Writing a file changes the place that its path leads to. -/
theorem writeText {path : Text} (h : p (place home path)) (t : Text) :
    StaysWithin home p (FileStore.writeText path t : StateM Disk _) := by
  refine perform fun disk after hd hw => ?_
  rw [write_eq_ok hw, hd]
  exact .set h disk _

theorem makeDirectoriesOf (paths : List Text) :
    StaysWithin home p (FileStore.makeDirectoriesOf paths : StateM Disk _) := by
  induction paths with
  | nil => exact .pure _
  | cons path around ih =>
    have excuse (cause : FileCause) :
        StaysWithin home p (FileStore.excuse path cause : StateM Disk _) :=
      (isDirectory path).bind fun _ => .ite (.pure _) (.pure _)
    rw [FileStore.makeDirectoriesOf]
    refine .ite (.pure _) ((makeDirectory path).bind fun made => ?_)
    match made with
    | .ok () => exact .pure _
    | .error .notFound =>
      refine ih.bind fun around => ?_
      match around with
      | .error cause => exact .pure _
      | .ok () =>
        refine (makeDirectory path).bind fun made => ?_
        match made with
        | .ok () => exact .pure _
        | .error cause => exact excuse cause
    | .error .exists | .error .notDirectory | .error .isDirectory | .error .invalid
    | .error .nameTooLong | .error .notEmpty | .error .zeroInPath | .error .notText
    | .error (.other _) => exact excuse _

end StaysWithin

/-! ### Removing -/

/-- Slashes at the end of a path lead nowhere else. -/
theorem place_append_slashes (home : Location) {path slashes : Text} (hp : path ≠ [])
    (h : ∀ c ∈ slashes, c = '/') : place home (path ++ slashes) = place home path := by
  induction slashes using List.reverseRecOn with
  | nil => rw [List.append_nil]
  | append_singleton slashes c ih =>
    have start : (path ++ slashes ++ ['/']).head? = (path ++ slashes).head? :=
      List.head?_append_of_ne_nil _ (by simp [hp])
    rw [h c (by simp), ← List.append_assoc,
      ← ih fun d hd => h d (List.mem_append_left _ hd), place, place, Path.isAbsolute, start,
      Path.walk_append_slash]
    rfl

theorem place_dropSlashes (home : Location) (path : Text) :
    place home (dropSlashes path) = place home path := by
  obtain ⟨slashes, hs, whole⟩ := Text.exists_trimEndWhere_append (· == '/') path
  simp only [beq_iff_eq] at hs
  unfold dropSlashes
  by_cases hp : Text.trimEndWhere (· == '/') path = []
  · -- There are only slashes, of which the first one is kept.
    rw [hp] at whole ⊢
    cases path with
    | nil => rfl
    | cons c rest =>
      obtain rfl : slashes = c :: rest := whole
      exact (place_append_slashes home (List.cons_ne_nil c []) fun d hd =>
        hs d (List.mem_cons_of_mem c hd)).symm
  · dsimp only
    rw [if_neg (by simpa using hp)]
    conv_rhs => rw [← whole]
    exact (place_append_slashes home hp hs).symm

/-- A directory is removed from the place that its path leads to. -/
theorem removeDirectory_eq_ok {disk after : Disk} {path : Text}
    (h : disk.removeDirectory path = .ok after) :
    after = disk.without (· == place disk.home path) := by
  rw [removeDirectory] at h
  cases hl : disk.locateTarget path with
  | error cause => rw [hl] at h; cases h
  | ok location =>
    have target : location = place disk.home path := by
      rw [locateTarget] at hl
      split at hl
      · cases hl
      · rw [locate_eq_ok hl, place_dropSlashes]
    rw [hl] at h
    simp only [bind, Except.bind] at h
    split_ifs at h
    rw [← target]
    exact (Except.ok.inj h).symm

/-- What a path leads to is removed with what is below it, and nothing else. -/
theorem StaysWithin.remove (home : Location) (path : Text) :
    StaysWithin home (fun location => place home path <+: location) (Disk.remove path) := by
  intro disk hd
  show AgreesOutside _ disk (Disk.remove path disk).2
  subst hd
  unfold Disk.remove
  split
  · exact .refl _ disk
  · rename_i location hl
    obtain rfl := locate_eq_ok hl
    have within : AgreesOutside (fun location => place disk.home path <+: location) disk
        (disk.without fun other =>
          (place disk.home path).isPrefixOf other && place disk.home path != other) := by
      refine .without (fun other ho => ?_) disk
      exact List.isPrefixOf_iff_prefix.mp (Bool.and_eq_true_iff.mp ho).1
    have itself (disk : Disk) (outer : Location) :
        AgreesOutside (fun location => outer <+: location) disk (disk.without (· == outer)) :=
      .without (fun other ho => beq_iff_eq.mp ho ▸ List.prefix_rfl) disk
    split
    · exact .refl _ disk
    · exact itself disk _
    · dsimp only
      split
      · rename_i after ha
        rw [removeDirectory_eq_ok ha]
        exact within.trans (itself _ _)
      · exact within
      · exact within

/-- A file that can be read is removed, and nothing else is. -/
theorem remove_of_read {disk : Disk} {path : Text} {content : FileContent}
    (h : disk.read path = .ok content) :
    ∃ location, disk.locate path = .ok location ∧
      disk.at? location = some (.file content) ∧
      (Disk.remove path).run disk = (.ok (), disk.without (· == location)) := by
  obtain ⟨location, hl, found⟩ := read_eq_ok_iff.mp h
  refine ⟨location, hl, found, ?_⟩
  show Disk.remove path disk = _
  simp only [Disk.remove, hl, found]

/-- A file that was removed is missing. -/
theorem readText_without_file {disk : Disk} {path : Text} {location : Location}
    {content : FileContent} (hl : disk.locate path = .ok location)
    (h : disk.at? location = some (.file content)) :
    (disk.without (· == location)).readText path = .error .notFound := by
  have below : location ≠ [] := by
    rintro rfl
    cases h
  have there := (KeepsDirectories.without_file h).locate_eq_ok hl
  have gone : (disk.without (· == location)).at? location = none := by
    rw [disk.at?_without _ below, if_pos (beq_self_eq_true location)]
  simp [readText, read, there, gone, bind, Except.bind]

end Disk

end ProviderDocs
