import ProviderDocs.Proofs.CommandLine.Preparation
import ProviderDocs.Proofs.Publication.Comparison

/-!
# Runs that compare documents

A run that is asked to compare its documents leaves the disk as it was (`run_compares`).  It exits
with zero exactly if the file of every document holds its content.  Otherwise it names the stale
documents, in order, and how many there are; or, when some file is there and cannot be read, the
first such file and nothing else (`Reports`).
-/

namespace ProviderDocs

open Disk (run_bind_of_eq)

variable {disk : Disk} {root : Text} {documents : List Document} {filter : LogFilter}
  {said : List Text}

/-- What a line on a stale document begins with. -/
def staleLabel : Text :=
  "stale: ".toList

/-- What a run comes to that compares documents, after it has said some lines. -/
structure Reports (disk : Disk) (root : Text) (documents : List Document) (filter : LogFilter)
    (said : List Text) (result : RunResult) : Prop where
  exitCode : result.exitCode = 0 ↔ ∀ document ∈ documents, document.IsUpToDate disk root
  /-- Nothing is stale. -/
  upToDate : outdated disk root documents = [] →
    result = { messages := said ++ filter.line (upToDateRecord documents.length) }
  /-- There is one line for each stale document, in order, and then their number. -/
  stale : Comparable disk root documents → outdated disk root documents ≠ [] →
    result = failed
      (said ++ (outdated disk root documents).map (staleLabel ++ Path.join root ·.path))
      [errorLine (Text.ofNat (outdated disk root documents).length ++
        " document(s) out of date; rerun without --check".toList)]
  /-- The first file that cannot be read is the only one that is named. -/
  obstructed : ¬Comparable disk root documents →
    ∃ before document after cause, documents = before ++ document :: after ∧
      Comparable disk root before ∧ document.HasObstacle disk root cause ∧
      result = failed said (Fault.unreadable (Path.join root document.path) cause).lines

theorem comparable_of_outdated_eq_nil (h : outdated disk root documents = []) :
    Comparable disk root documents := by
  intro document hm
  exact (outdated_eq_nil_iff.mp h document hm).not_hasObstacle

theorem checkRun_of_upToDate (h : outdated disk root documents = []) :
    (checkRun filter root documents said : StateM Disk RunResult).run disk =
      ({ messages := said ++ filter.line (upToDateRecord documents.length) }, disk) := by
  have run := run_staleDocuments (comparable_of_outdated_eq_nil h)
  rw [h] at run
  rw [checkRun, run_bind_of_eq run]
  rfl

theorem checkRun_of_stale (hc : Comparable disk root documents)
    (h : outdated disk root documents ≠ []) :
    (checkRun filter root documents said : StateM Disk RunResult).run disk =
      (failed (said ++ (outdated disk root documents).map (staleLabel ++ Path.join root ·.path))
        [errorLine (Text.ofNat (outdated disk root documents).length ++
          " document(s) out of date; rerun without --check".toList)], disk) := by
  have lines : (outdated disk root documents).map (staleLabel ++ Path.join root ·.path) =
      ((outdated disk root documents).map fun document => Path.join root document.path).map
        (staleLabel ++ ·) := by
    rw [List.map_map]
    rfl
  have count : (outdated disk root documents).length =
      ((outdated disk root documents).map (fun document => Path.join root document.path)).length :=
    (List.length_map _).symm
  rw [checkRun, run_bind_of_eq (run_staleDocuments hc), lines, count]
  cases hs : (outdated disk root documents).map (fun document => Path.join root document.path) with
  | nil => exact absurd (List.map_eq_nil_iff.mp hs) h
  | cons first rest => rfl

theorem checkRun_of_obstacle {before after : List Document} {document : Document}
    {cause : FileCause} (hb : Comparable disk root before)
    (h : document.HasObstacle disk root cause) :
    (checkRun filter root (before ++ document :: after) said : StateM Disk RunResult).run disk =
      (failed said (Fault.unreadable (Path.join root document.path) cause).lines, disk) := by
  rw [checkRun, run_bind_of_eq (run_staleDocuments_of_obstacle hb h)]
  rfl

/-- Documents are compared without a change to the disk. -/
theorem exists_checkRun_reports (disk : Disk) (root : Text) (documents : List Document)
    (filter : LogFilter) (said : List Text) :
    ∃ result, (checkRun filter root documents said : StateM Disk RunResult).run disk =
        (result, disk) ∧ Reports disk root documents filter said result := by
  by_cases ho : outdated disk root documents = []
  · have comparable := comparable_of_outdated_eq_nil ho
    refine ⟨_, checkRun_of_upToDate ho, ?_, fun _ => rfl, fun _ ne => absurd ho ne,
      fun ne => absurd comparable ne⟩
    exact iff_of_true rfl (outdated_eq_nil_iff.mp ho)
  · have notAll : ¬∀ document ∈ documents, document.IsUpToDate disk root :=
      fun all => ho (outdated_eq_nil_iff.mpr all)
    rcases comparable_or_exists_obstacle disk root documents with
      comparable | ⟨before, document, after, cause, rfl, hb, obstacle⟩
    · refine ⟨_, checkRun_of_stale comparable ho, ?_, fun nil => absurd nil ho, fun _ _ => rfl,
        fun ne => absurd comparable ne⟩
      exact iff_of_false Nat.one_ne_zero notAll
    · refine ⟨_, checkRun_of_obstacle hb obstacle, ?_, fun nil => absurd nil ho,
        fun comparable => ?_, fun _ => ⟨before, document, after, cause, rfl, hb, obstacle, rfl⟩⟩
      · exact iff_of_false Nat.one_ne_zero notAll
      · exact absurd obstacle (comparable document (by simp) cause)

/-- A manifest without entities. -/
def emptyManifest : Text :=
  "\x7b\"namespace\": \"edgenext\", \"title\": \"EdgeNext\"\x7d".toList

/-- A working directory with the manifest and two documents, of which the second is an old one. -/
def checkedDisk : Disk where
  home := ["work".toList]
  entries := [(["work".toList], .directory),
    (["work".toList, "provider.json".toList], .file (.text emptyManifest)),
    (["work".toList, "docs".toList], .directory),
    (["work".toList, "docs".toList, "_sidebar.md".toList],
      .file (.text "* [EdgeNext Provider](index.md)\n".toList)),
    (["work".toList, "docs".toList, "index.md".toList], .file (.text "Old.".toList))]

/-- Of three documents one is up to date, one is old, and one is missing. -/
example : ((checkRun LogFilter.standard "docs".toList
      [⟨"cdn/r/domain.md".toList, "Domain.".toList⟩,
        ⟨"_sidebar.md".toList, "* [EdgeNext Provider](index.md)\n".toList⟩,
        ⟨"index.md".toList, "Index.".toList⟩] [] : StateM Disk RunResult).run checkedDisk).1 =
    { exitCode := 1
      messages := ["stale: docs/cdn/r/domain.md", "stale: docs/index.md",
        "Error: 2 document(s) out of date; rerun without --check"].map String.toList } := by
  decide +kernel

/-! ### Lines of the log -/

theorem LogFilter.eq_text_of_mem_line {record : LogRecord} {line : Text}
    (h : line ∈ filter.line record) : line = record.text := by
  unfold LogFilter.line at h
  split at h
  · exact List.mem_singleton.mp h
  · exact absurd h List.not_mem_nil

theorem LogLevel.head?_label_append (level : LogLevel) (rest : Text) :
    (level.label ++ rest).head? ≠ some 's' := by
  cases level <;> exact fun h => absurd (Option.some.inj h) (by decide)

/-- A line of the log begins with its level, and so not as a line on a stale document does. -/
theorem LogRecord.not_isPrefix_text (record : LogRecord) : ¬staleLabel <+: record.text := by
  rintro ⟨rest, whole⟩
  have first : record.text.head? = some 's' := congrArg List.head? whole.symm
  rw [LogRecord.text, List.append_assoc, List.append_assoc] at first
  exact LogLevel.head?_label_append _ _ first

theorem not_isPrefix_of_mem_progressLines {provider : Provider} {warnings : List Warning}
    {line : Text} (h : line ∈ progressLines filter provider warnings) : ¬staleLabel <+: line := by
  obtain ⟨record, hm⟩ : ∃ record, line ∈ filter.line record := by
    rcases List.mem_append.mp h with h | h
    · obtain ⟨entity, -, hm⟩ := List.mem_flatMap.mp h
      exact ⟨_, hm⟩
    · obtain ⟨warning, -, hm⟩ := List.mem_flatMap.mp h
      exact ⟨_, hm⟩
  rw [LogFilter.eq_text_of_mem_line hm]
  exact record.not_isPrefix_text

/-- A run that compares documents leaves the disk as it was and reports on every document.  The
lines that it has said before are none on stale documents. -/
theorem run_compares {arguments : List Text} {settings : Settings} {provider : Provider}
    {warnings : List Warning}
    (h : Prepares disk arguments settings provider documents warnings)
    (hc : settings.check = true) (filter : LogFilter) :
    ∃ result, (run filter arguments : StateM Disk RunResult).run disk = (result, disk) ∧
      Reports disk settings.output documents filter (progressLines filter provider warnings)
        result ∧
      ∀ line ∈ progressLines filter provider warnings, ¬staleLabel <+: line := by
  obtain ⟨result, run, reports⟩ := exists_checkRun_reports disk settings.output documents filter
    (progressLines filter provider warnings)
  refine ⟨result, ?_, reports, fun _ => not_isPrefix_of_mem_progressLines⟩
  rw [run_of_prepares h, if_pos hc, run]

/-- What the manifest on the disk describes. -/
def emptyProvider : Provider where
  nameSpace := "edgenext".toList
  title := "EdgeNext".toList

theorem checkedDisk_compared :
    ∃ settings provider documents warnings,
      Prepares checkedDisk ["--check".toList, "provider.json".toList] settings provider documents
        warnings ∧
      settings.check = true ∧
      ∃ result, (run LogFilter.standard ["--check".toList, "provider.json".toList] :
          StateM Disk RunResult).run checkedDisk = (result, checkedDisk) ∧
        Reports checkedDisk settings.output documents LogFilter.standard
          (progressLines LogFilter.standard provider warnings) result ∧
        ∀ line ∈ progressLines LogFilter.standard provider warnings, ¬staleLabel <+: line := by
  have parsed : Arguments.parse ["--check".toList, "provider.json".toList] =
      .ok { manifest := "provider.json".toList, check := true } := by
    decide +kernel
  have read : checkedDisk.readText "provider.json".toList = .ok emptyManifest := by
    decide +kernel
  have described : Provider.ofText? emptyManifest = some emptyProvider := by
    rfl
  obtain ⟨documents, made⟩ := Report.exists_result_eq_ok
    (show (generate emptyProvider).result.1.isOk = true by decide +kernel)
  have prepares : Prepares checkedDisk ["--check".toList, "provider.json".toList]
      { manifest := "provider.json".toList, check := true } emptyProvider documents
      (generate emptyProvider).result.2 :=
    ⟨⟨parsed, emptyManifest, read, described⟩, Prod.ext made rfl, nofun⟩
  exact ⟨_, _, documents, _, prepares, rfl, run_compares prepares rfl LogFilter.standard⟩

end ProviderDocs
