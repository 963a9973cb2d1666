import ProviderDocs.Proofs.Storage.Disk
import ProviderDocs.Publication

/-!
# Documents that are compared with the files that are there

Comparing documents reads their files in order and changes nothing.  Where each file can be read or
is missing, the stale documents are those whose file does not hold their content
(`run_staleDocuments`).  A file that is there and cannot be read is an obstacle: the first one in
order ends the comparison, whatever was found before it (`run_staleDocuments_of_obstacle`).
-/

namespace ProviderDocs

open Disk (run_bind_of_eq run_readText)

variable {disk : Disk} {root : Text} {document : Document}

/-- The file of a document is there and holds its content. -/
def Document.IsUpToDate (disk : Disk) (root : Text) (document : Document) : Prop :=
  disk.read (Path.join root document.path) = .ok (.text document.content)

instance : DecidablePred (Document.IsUpToDate disk root) := fun document =>
  inferInstanceAs
    (Decidable (disk.read (Path.join root document.path) = .ok (.text document.content)))

/-- The file of a document cannot be read for another reason than that it is missing. -/
def Document.HasObstacle (disk : Disk) (root : Text) (document : Document) (cause : FileCause) :
    Prop :=
  disk.readText (Path.join root document.path) = .error cause ∧ cause ≠ .notFound

/-- The files of documents can be read or are missing. -/
def Comparable (disk : Disk) (root : Text) (documents : List Document) : Prop :=
  ∀ document ∈ documents, ∀ cause, ¬document.HasObstacle disk root cause

/-- The documents whose file is missing or holds something else, in their order. -/
def outdated (disk : Disk) (root : Text) (documents : List Document) : List Document :=
  documents.filter fun document => ¬document.IsUpToDate disk root

theorem outdated_cons (document : Document) (rest : List Document) :
    outdated disk root (document :: rest) =
      if document.IsUpToDate disk root then outdated disk root rest
      else document :: outdated disk root rest := by
  simp [outdated, List.filter_cons]

theorem outdated_eq_nil_iff {documents : List Document} :
    outdated disk root documents = [] ↔
      ∀ document ∈ documents, document.IsUpToDate disk root := by
  simp [outdated, List.filter_eq_nil_iff]

/-! ### One document -/

theorem Document.isUpToDate_iff :
    document.IsUpToDate disk root ↔
      disk.readText (Path.join root document.path) = .ok document.content :=
  Disk.readText_eq_ok_iff.symm

/-- A document that is up to date has no obstacle. -/
theorem Document.IsUpToDate.not_hasObstacle (h : document.IsUpToDate disk root)
    (cause : FileCause) : ¬document.HasObstacle disk root cause := by
  rintro ⟨hr, -⟩
  rw [Document.isUpToDate_iff.mp h] at hr
  cases hr

theorem run_isStale (h : ∀ cause, ¬document.HasObstacle disk root cause) :
    (isStale (Path.join root document.path) document.content : StateM Disk _).run disk =
      (.ok (decide ¬document.IsUpToDate disk root), disk) := by
  rw [isStale, run_bind_of_eq (run_readText _ disk)]
  cases hr : disk.readText (Path.join root document.path) with
  | ok existing =>
    have same : document.IsUpToDate disk root ↔ existing = document.content := by
      rw [Document.isUpToDate_iff, hr, Except.ok.injEq]
    show (Except.ok (existing != document.content), disk) = _
    rw [decide_not, decide_eq_decide.mpr same, bne, beq_eq_decide]
  | error cause =>
    have missing : cause = .notFound := by
      by_contra hc
      exact h cause ⟨hr, hc⟩
    have stale : ¬document.IsUpToDate disk root := by
      rw [Document.isUpToDate_iff, hr]
      exact nofun
    rw [missing, decide_eq_true stale]
    rfl

theorem run_isStale_of_obstacle {cause : FileCause} (h : document.HasObstacle disk root cause) :
    (isStale (Path.join root document.path) document.content : StateM Disk _).run disk =
      (.error (.unreadable (Path.join root document.path) cause), disk) := by
  obtain ⟨hr, hc⟩ := h
  rw [isStale, run_bind_of_eq (run_readText _ disk), hr]
  cases cause with
  | notFound => exact absurd rfl hc
  | _ => rfl

/-! ### All documents -/

/-- Documents that can be compared are compared one by one. -/
theorem run_staleDocuments {documents : List Document} (h : Comparable disk root documents) :
    (staleDocuments root documents : StateM Disk _).run disk =
      (.ok ((outdated disk root documents).map fun document => Path.join root document.path),
        disk) := by
  induction documents with
  | nil => rfl
  | cons document rest ih =>
    obtain ⟨first, later⟩ := List.forall_mem_cons.mp h
    rw [staleDocuments, Document.pathBelow_eq, run_bind_of_eq (run_isStale first)]
    dsimp only
    rw [run_bind_of_eq (ih later), outdated_cons]
    by_cases hd : document.IsUpToDate disk root
    · rw [if_pos hd, decide_eq_false (not_not.mpr hd)]
      rfl
    · rw [if_neg hd, decide_eq_true hd]
      rfl

/-- The first obstacle ends the comparison. -/
theorem run_staleDocuments_of_obstacle {before after : List Document} {cause : FileCause}
    (hb : Comparable disk root before) (h : document.HasObstacle disk root cause) :
    (staleDocuments root (before ++ document :: after) : StateM Disk _).run disk =
      (.error (.unreadable (Path.join root document.path) cause), disk) := by
  induction before with
  | nil =>
    rw [List.nil_append, staleDocuments, Document.pathBelow_eq,
      run_bind_of_eq (run_isStale_of_obstacle h)]
    rfl
  | cons first rest ih =>
    obtain ⟨now, later⟩ := List.forall_mem_cons.mp hb
    rw [List.cons_append, staleDocuments, Document.pathBelow_eq, run_bind_of_eq (run_isStale now)]
    dsimp only
    rw [run_bind_of_eq (ih later)]
    rfl

/-- Documents can be compared, or there is a first obstacle among them. -/
theorem comparable_or_exists_obstacle (disk : Disk) (root : Text) (documents : List Document) :
    Comparable disk root documents ∨
      ∃ before document after cause, documents = before ++ document :: after ∧
        Comparable disk root before ∧ document.HasObstacle disk root cause := by
  induction documents with
  | nil => exact .inl fun _ hm => absurd hm List.not_mem_nil
  | cons document rest ih =>
    by_cases ho : ∃ cause, document.HasObstacle disk root cause
    · obtain ⟨cause, ho⟩ := ho
      exact .inr ⟨[], document, rest, cause, rfl, fun _ hm => absurd hm List.not_mem_nil, ho⟩
    · have first := not_exists.mp ho
      rcases ih with later | ⟨before, other, after, cause, rfl, hb, ho⟩
      · exact .inl (List.forall_mem_cons.mpr ⟨first, later⟩)
      · exact .inr ⟨document :: before, other, after, cause, rfl,
          List.forall_mem_cons.mpr ⟨first, hb⟩, ho⟩

end ProviderDocs
