import ProviderDocs.Proofs.Publication
import ProviderDocs.Proofs.Publication.Comparison

/-!
# Documents that were written are up to date

Documents are written in order, up to the first that cannot be written
(`exists_writesInOrder`).  Each of those before it holds its content from then on, whatever is
written later, if no two documents lead to one file in the end; every other file stays as it was,
and when all documents were written none of them is stale (`writeDocuments_then_staleDocuments`).
A file that is removed afterwards makes its document stale, and no other
(`staleDocuments_of_removed`).
-/

namespace ProviderDocs

open Disk (place SamePlace AgreesOutside KeepsDirectories run_bind_eq)

variable {root : Text} {document : Document} {disk next after : Disk}

/-! ### One document -/

/-- A fault in writing a document is about its path or about the directory around it. -/
def IsAbout (root : Text) (document : Document) (fault : Fault) : Prop :=
  ∃ path cause, fault = .unwritable path cause ∧
    (path = Path.join root document.path ∨ Path.parent? (Path.join root document.path) = some path)

theorem exists_of_makeParent_error {path : Text} {fault : Fault}
    (h : (makeParent path : StateM Disk _).run disk = (.error fault, after)) :
    ∃ parent cause, Path.parent? path = some parent ∧ fault = .unwritable parent cause := by
  rw [makeParent] at h
  split at h
  · cases h
  · rename_i parent hp
    obtain ⟨made, next, -, h⟩ := run_bind_eq h
    cases made with
    | error cause =>
      cases h
      exact ⟨parent, cause, hp, rfl⟩
    | ok => cases h

/-- A text is written, or nothing is. -/
theorem writeText_cases {path t : Text} {result : Except FileCause Unit}
    (h : (FileStore.writeText path t : StateM Disk _).run disk = (result, after)) :
    (result = .ok () ∧ after.read path = .ok (.text t) ∧ KeepsDirectories disk after) ∨
      ∃ cause, result = .error cause ∧ after = disk := by
  change Disk.perform (fun disk => disk.write path (.text t)) disk = _ at h
  rw [Disk.perform] at h
  split at h
  · rename_i written hw
    cases h
    obtain ⟨location, -, hd, rfl⟩ := Disk.exists_of_write_eq_ok hw
    exact .inl ⟨rfl, Disk.read_of_write hw, .set_file hd _⟩
  · cases h
    exact .inr ⟨_, rfl, rfl⟩

/-- A document is written, or nothing is. -/
theorem writeDocument_cases {result : Except Fault Unit}
    (h : (writeDocument root document : StateM Disk _).run disk = (result, after)) :
    (result = .ok () ∧ after.read (Path.join root document.path) = .ok (.text document.content) ∧
        KeepsDirectories disk after) ∨
      ∃ fault, result = .error fault ∧ IsAbout root document fault ∧
        AgreesOutside (fun _ => False) disk after := by
  rw [writeDocument, Document.pathBelow_eq] at h
  obtain ⟨made, next, hm, hafter⟩ := run_bind_eq h
  have around : AgreesOutside (fun _ => False) disk next := by
    have stays :=
      staysWithin_makeParent (p := fun _ => False) (Path.join root document.path) disk rfl
    rwa [hm] at stays
  cases made with
  | error fault =>
    cases hafter
    obtain ⟨parent, cause, hp, rfl⟩ := exists_of_makeParent_error hm
    exact .inr ⟨_, rfl, ⟨parent, cause, rfl, .inr hp⟩, around⟩
  | ok =>
    obtain ⟨written, last, hw, hlast⟩ := run_bind_eq hafter
    rcases writeText_cases hw with ⟨rfl, hr, kept⟩ | ⟨cause, rfl, rfl⟩
    · cases hlast
      exact .inl ⟨rfl, hr, around.keepsDirectories.trans kept⟩
    · cases hlast
      exact .inr ⟨_, rfl, ⟨_, cause, rfl, .inl rfl⟩, around⟩

/-! ### Documents in order -/

/-- The documents of `done` were written and those of `rest` were not, the first of which is the one
that could not be. -/
structure WritesInOrder (root : Text) (disk : Disk) (written : Written) (after : Disk)
    (done rest : List Document) : Prop where
  paths : written.paths = done.map (fun document => Path.join root document.path)
  /-- Nothing is left unless there was a fault, which is about the first document that is left. -/
  fault : (written.fault = none ∧ rest = []) ∨
    ∃ fault document later, written.fault = some fault ∧ rest = document :: later ∧
      IsAbout root document fault
  /-- Every document that was written can be read. -/
  holds : ∀ document ∈ done,
    after.read (Path.join root document.path) = .ok (.text document.content)
  /-- Nothing else has changed, but for directories where there was nothing. -/
  agrees : AgreesOutside (fun location => ∃ document ∈ done,
    location = place disk.home (Path.join root document.path)) disk after
  /-- No file of a document that is left was touched. -/
  spared : ∀ document ∈ rest, ∀ content, disk.read (Path.join root document.path) = .ok content →
    after.read (Path.join root document.path) = .ok content

/-- No two documents lead to one file. -/
def Apart (disk : Disk) (root : Text) (documents : List Document) : Prop :=
  documents.Pairwise fun first second =>
    ¬SamePlace disk (Path.join root first.path) (Path.join root second.path)

/-- Documents whose paths lead to different places do not lead to one file, whatever is on the
disk. -/
theorem Apart.of_nodup {documents : List Document}
    (h : (documents.map fun document => place disk.home (Path.join root document.path)).Nodup) :
    Apart disk root documents :=
  (List.pairwise_map.mp h).imp fun ne same => ne same.place_eq

/-- After a document that was written come the documents below it. -/
theorem WritesInOrder.cons {written : Written} {done rest : List Document}
    (h : WritesInOrder root next written after done rest) (kept : KeepsDirectories next after)
    (hr : next.read (Path.join root document.path) = .ok (.text document.content))
    (agrees : AgreesOutside (· = place disk.home (Path.join root document.path)) disk next)
    (keeps : KeepsDirectories disk next)
    (apart : ∀ other ∈ done ++ rest,
      ¬SamePlace after (Path.join root document.path) (Path.join root other.path)) :
    WritesInOrder root disk
      { written with paths := Path.join root document.path :: written.paths } after
      (document :: done) rest := by
  -- No later document leads to the file of this one, which therefore keeps its content.
  have holds : after.read (Path.join root document.path) = .ok (.text document.content) := by
    refine Disk.read_of_agreesOutside hr kept h.agrees ?_
    rintro ⟨other, ho, same⟩
    have apart := apart other (List.mem_append_left _ ho)
    exact Disk.place_ne_of_read apart kept (.refl after) hr (h.holds other ho) same
  refine ⟨congrArg _ h.paths, h.fault, ?_, ?_, ?_⟩
  · exact List.forall_mem_cons.mpr ⟨holds, h.holds⟩
  · refine (agrees.imp fun location hl => ?_).trans (h.agrees.imp fun location hl => ?_)
    · exact ⟨document, List.mem_cons_self, hl⟩
    · obtain ⟨other, ho, hl⟩ := hl
      exact ⟨other, List.mem_cons_of_mem _ ho, keeps.home ▸ hl⟩
  · intro other ho content hc
    have apart := fun same => apart other (List.mem_append_right _ ho) (SamePlace.symm same)
    exact h.spared other ho content (Disk.read_of_agreesOutside hc keeps agrees
      (Disk.place_ne_of_read apart keeps kept hc hr))

/-- Documents are written up to the first that cannot be. -/
theorem exists_writesInOrder {documents : List Document} {written : Written}
    (h : (writeDocuments root documents : StateM Disk Written).run disk = (written, after))
    (apart : Apart after root documents) :
    ∃ done rest, documents = done ++ rest ∧ KeepsDirectories disk after ∧
      WritesInOrder root disk written after done rest := by
  induction documents generalizing disk written with
  | nil =>
    cases h
    refine ⟨[], [], rfl, .refl after, rfl, .inl ⟨rfl, rfl⟩, ?_, .refl _ after, ?_⟩ <;>
      exact fun _ hm => absurd hm List.not_mem_nil
  | cons document documents ih =>
    rw [writeDocuments] at h
    obtain ⟨result, next, hd, hnext⟩ := run_bind_eq h
    have stays : AgreesOutside (· = place disk.home (Path.join root document.path)) disk next := by
      have stays := staysWithin_writeDocument
        (p := (· = place disk.home (Path.join root document.path))) rfl disk rfl
      rwa [hd] at stays
    rcases writeDocument_cases hd with ⟨rfl, hr, keeps⟩ | ⟨fault, rfl, about, agrees⟩
    · obtain ⟨later, last, hl, hlast⟩ := run_bind_eq hnext
      cases hlast
      obtain ⟨first, others⟩ := List.pairwise_cons.mp apart
      obtain ⟨done, rest, rfl, kept, written⟩ := ih hl others
      exact ⟨document :: done, rest, rfl, keeps.trans kept,
        written.cons kept hr stays keeps first⟩
    · cases hnext
      refine ⟨[], document :: documents, rfl, agrees.keepsDirectories, rfl,
        .inr ⟨fault, document, documents, rfl, rfl, about⟩, ?_, ?_, ?_⟩
      · exact fun _ hm => absurd hm List.not_mem_nil
      · exact agrees.imp fun _ hf => hf.elim
      · exact fun other _ content hc =>
          Disk.read_of_agreesOutside hc agrees.keepsDirectories agrees not_false

/-! ### Documents that are compared -/

/-- Documents that can be read are not stale. -/
theorem staleDocuments_of_read {documents : List Document}
    (h : ∀ document ∈ documents,
      disk.read (Path.join root document.path) = .ok (.text document.content)) :
    (staleDocuments root documents : StateM Disk _).run disk = (.ok [], disk) := by
  have comparable : Comparable disk root documents := fun document hm =>
    Document.IsUpToDate.not_hasObstacle (h document hm)
  rw [run_staleDocuments comparable, outdated_eq_nil_iff.mpr h]
  rfl

/-- Documents are written up to the first that cannot be; every file but theirs stays as it is, and
when all were written none is stale.  No two of them may lead to one file in the end, when all
directories on their paths were made. -/
theorem writeDocuments_then_staleDocuments {documents : List Document} {written : Written}
    (h : (writeDocuments root documents : StateM Disk Written).run disk = (written, after))
    (apart : Apart after root documents) :
    ∃ done rest, documents = done ++ rest ∧ WritesInOrder root disk written after done rest ∧
      (written.fault = none →
        (staleDocuments root documents : StateM Disk _).run after = (.ok [], after)) := by
  obtain ⟨done, rest, split, -, order⟩ := exists_writesInOrder h apart
  refine ⟨done, rest, split, order, fun complete => ?_⟩
  rcases order.fault with ⟨-, rfl⟩ | ⟨fault, -, -, failed, -⟩
  · rw [List.append_nil] at split
    exact staleDocuments_of_read fun document hm => order.holds document (split ▸ hm)
  · rw [complete] at failed
    cases failed

/-- A disk with a directory of documents, an old one in it, and a file that is no document. -/
def draftDisk : Disk where
  home := ["work".toList]
  entries := [(["work".toList], .directory), (["work".toList, "docs".toList], .directory),
    (["work".toList, "docs".toList, "index.md".toList], .file (.text "Old.".toList)),
    (["work".toList, "notes".toList], .file (.binary [255]))]

/-- A document in a new directory, and one that takes the place of an old one. -/
def draftDocuments : List Document :=
  [⟨"cdn/r/domain.md".toList, "Domain.".toList⟩, ⟨"index.md".toList, "Index.".toList⟩]

theorem draftDocuments_upToDate :
    ∃ written after,
      (writeDocuments "docs".toList draftDocuments : StateM Disk Written).run draftDisk =
        (written, after) ∧
      Apart after "docs".toList draftDocuments ∧
      (∃ done rest, draftDocuments = done ++ rest ∧
        WritesInOrder "docs".toList draftDisk written after done rest) ∧
      written.fault = none ∧
      (staleDocuments "docs".toList draftDocuments : StateM Disk _).run after =
        (.ok [], after) := by
  have complete : ((writeDocuments "docs".toList draftDocuments : StateM Disk Written).run
      draftDisk).1.fault = none := by
    decide +kernel
  have places : (draftDocuments.map fun document =>
      place ((writeDocuments "docs".toList draftDocuments : StateM Disk Written).run
        draftDisk).2.home (Path.join "docs".toList document.path)).Nodup := by
    decide +kernel
  generalize h : (writeDocuments "docs".toList draftDocuments : StateM Disk Written).run
    draftDisk = result at complete places ⊢
  obtain ⟨written, after⟩ := result
  have apart : Apart after "docs".toList draftDocuments := .of_nodup places
  obtain ⟨done, rest, split, order, upToDate⟩ := writeDocuments_then_staleDocuments h apart
  exact ⟨written, after, rfl, apart, ⟨done, rest, split, order⟩, complete, upToDate complete⟩

/-- A document below a file is not written, and those before it are. -/
example : ((writeDocuments "docs".toList (draftDocuments ++
      [⟨"index.md/r/rule.md".toList, "Rule.".toList⟩]) : StateM Disk Written).run draftDisk).1 =
    { paths := ["docs/cdn/r/domain.md".toList, "docs/index.md".toList]
      fault := some (.unwritable "docs/index.md/r".toList .notDirectory) } := by
  decide +kernel

/-! ### Files that are removed -/

/-- If the file of one document alone is missing, that document is stale. -/
theorem staleDocuments_of_missing {before later : List Document}
    (missing : disk.readText (Path.join root document.path) = .error .notFound)
    (upToDate : ∀ other ∈ before ++ later, other.IsUpToDate disk root) :
    (staleDocuments root (before ++ document :: later) : StateM Disk _).run disk =
      (.ok [Path.join root document.path], disk) := by
  have stale : ¬document.IsUpToDate disk root := by
    rw [Document.isUpToDate_iff, missing]
    exact nofun
  have comparable : Comparable disk root (before ++ document :: later) := by
    intro other ho cause
    rcases List.mem_cons.mp (List.perm_middle.mem_iff.mp ho) with rfl | ho
    · rintro ⟨hr, hc⟩
      rw [missing] at hr
      exact hc (Except.error.inj hr).symm
    · exact (upToDate other ho).not_hasObstacle cause
  have left : outdated disk root (before ++ document :: later) = [document] := by
    have rest := outdated_eq_nil_iff.mpr upToDate
    rw [outdated, List.filter_append, List.append_eq_nil_iff] at rest
    rw [outdated, List.filter_append, List.filter_cons_of_pos (by simpa using stale), rest.1,
      rest.2]
    rfl
  rw [run_staleDocuments comparable, left]
  rfl

/-- When the file of a document is removed, that document is stale and the others are not. -/
theorem staleDocuments_of_removed {before later : List Document} {result : Except FileCause Unit}
    (upToDate : ∀ other ∈ document :: (before ++ later), other.IsUpToDate disk root)
    (apart : Apart disk root (before ++ document :: later))
    (h : (Disk.remove (Path.join root document.path)).run disk = (result, next)) :
    result = .ok () ∧
      (staleDocuments root (before ++ document :: later) : StateM Disk _).run next =
        (.ok [Path.join root document.path], next) := by
  obtain ⟨own, others⟩ := List.forall_mem_cons.mp upToDate
  obtain ⟨location, hl, found, removed⟩ := Disk.remove_of_read own
  rw [removed] at h
  cases h
  have kept := KeepsDirectories.without_file found
  have agrees : AgreesOutside (· = place disk.home (Path.join root document.path)) disk
      (disk.without (· == location)) := by
    refine .without (fun other ho => ?_) disk
    rw [beq_iff_eq.mp ho, Disk.locate_eq_ok hl]
  -- No other document leads to the file that is gone.
  have distinct := (List.pairwise_middle fun ne same => ne same.symm).mp apart
  have ne := (List.pairwise_cons.mp distinct).1
  refine ⟨rfl, staleDocuments_of_missing (Disk.readText_without_file hl found) ?_⟩
  intro other ho
  refine Disk.read_of_agreesOutside (others other ho) kept agrees ?_
  exact (Disk.place_ne_of_read (ne other ho) (.refl disk) (.refl disk) own (others other ho)).symm

end ProviderDocs
