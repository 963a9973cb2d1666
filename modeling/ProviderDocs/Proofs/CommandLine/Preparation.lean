import ProviderDocs.CommandLine.Run
import ProviderDocs.Proofs.Report
import ProviderDocs.Proofs.Storage.Disk

/-!
# What a run does before it comes to its documents

A run reads its arguments and its manifest, makes all documents and looks at the warnings before it
writes or compares the first document.  Until then nothing on the disk has changed: a run that fails
on the way leaves every file and directory as it was (`run_of_failsEarly`), and one that does not is
writing or comparing its documents on the disk as it was (`run_of_prepares`).  There is no third
way, but for a run that is asked for help (`prepares_or_failsEarly`).
-/

namespace ProviderDocs

open Disk (run_bind_of_eq run_readText)

variable {disk : Disk} {arguments : List Text} {settings : Settings} {provider : Provider}

/-- The arguments of a run can be read, and so can its manifest. -/
structure Loads (disk : Disk) (arguments : List Text) (settings : Settings) (provider : Provider) :
    Prop where
  parsed : Arguments.parse arguments = .ok settings
  read : ∃ t, disk.readText settings.manifest = .ok t ∧ Provider.ofText? t = some provider

/-- A run has made its documents, and the warnings that came with them are no failure. -/
structure Prepares (disk : Disk) (arguments : List Text) (settings : Settings) (provider : Provider)
    (documents : List Document) (warnings : List Warning) : Prop where
  loads : Loads disk arguments settings provider
  made : (generate provider).result = (.ok documents, warnings)
  accepted : settings.denyWarnings = true → warnings = []

/-- A run fails before it comes to its documents, with an exit code and in words that say why. -/
inductive FailsEarly (disk : Disk) (arguments : List Text) : Nat → List Text → Prop where
  /-- The arguments are refused. -/
  | refused {fault : ArgumentFault} (h : Arguments.parse arguments = .error (.refused fault)) :
    FailsEarly disk arguments 2 ["error: ".toList ++ fault.message]
  /-- The manifest cannot be read. -/
  | unreadable {settings : Settings} {cause : FileCause}
    (hs : Arguments.parse arguments = .ok settings)
    (hr : disk.readText settings.manifest = .error cause) :
    FailsEarly disk arguments 1 (Fault.unreadable settings.manifest cause).lines
  /-- The manifest describes no provider. -/
  | invalid {settings : Settings} {t : Text} (hs : Arguments.parse arguments = .ok settings)
    (hr : disk.readText settings.manifest = .ok t) (hp : Provider.ofText? t = none) :
    FailsEarly disk arguments 1 (Fault.invalidManifest settings.manifest).lines
  /-- A document cannot be made. -/
  | faulty {settings : Settings} {provider : Provider} {fault : Fault}
    (loads : Loads disk arguments settings provider)
    (hg : (generate provider).result.1 = .error fault) :
    FailsEarly disk arguments 1 (causedLines
      ("failed to generate documentation from ".toList ++ settings.manifest) fault.message)
  /-- There are warnings, and a warning is a failure. -/
  | denied {settings : Settings} {provider : Provider} {documents : List Document}
    {warnings : List Warning} (loads : Loads disk arguments settings provider)
    (hg : (generate provider).result = (.ok documents, warnings))
    (hd : settings.denyWarnings = true) (hw : warnings ≠ []) :
    FailsEarly disk arguments 1 [errorLine (Text.ofNat warnings.length ++
      " warning(s) emitted with --deny-warnings".toList)]

/-- A run is asked for help, comes to its documents, or fails before. -/
theorem prepares_or_failsEarly (disk : Disk) (arguments : List Text) :
    Arguments.parse arguments = .error .help ∨
      (∃ settings provider documents warnings,
        Prepares disk arguments settings provider documents warnings) ∨
      ∃ exitCode why, FailsEarly disk arguments exitCode why := by
  cases hs : Arguments.parse arguments with
  | error stop =>
    cases stop with
    | help => exact .inl rfl
    | refused fault => exact .inr (.inr ⟨_, _, .refused hs⟩)
  | ok settings =>
    refine .inr ?_
    cases hr : disk.readText settings.manifest with
    | error cause => exact .inr ⟨_, _, .unreadable hs hr⟩
    | ok t =>
      cases hp : Provider.ofText? t with
      | none => exact .inr ⟨_, _, .invalid hs hr hp⟩
      | some provider =>
        have loads : Loads disk arguments settings provider := ⟨hs, t, hr, hp⟩
        rcases hg : (generate provider).result with ⟨fault | documents, warnings⟩
        · exact .inr ⟨_, _, .faulty loads (congrArg Prod.fst hg)⟩
        · by_cases hw : settings.denyWarnings = true ∧ warnings ≠ []
          · exact .inr ⟨_, _, .denied loads hg hw.1 hw.2⟩
          · have accepted : settings.denyWarnings = true → warnings = [] := fun hd =>
              not_not.mp fun ne => hw ⟨hd, ne⟩
            exact .inl ⟨settings, provider, documents, warnings, loads, hg, accepted⟩

/-! ### Runs on a disk -/

/-- What a run says about the making of its documents. -/
def progressLines (filter : LogFilter) (provider : Provider) (warnings : List Warning) :
    List Text :=
  provider.begunLines filter ++ warnings.flatMap fun warning => filter.line warning.logRecord

theorem run_readManifest_of_unreadable {path : Text} {cause : FileCause}
    (hr : disk.readText path = .error cause) :
    (readManifest path : StateM Disk _).run disk = (.error (.unreadable path cause), disk) := by
  rw [readManifest, run_bind_of_eq (run_readText path disk), hr]
  rfl

theorem run_readManifest_of_invalid {path t : Text} (hr : disk.readText path = .ok t)
    (hp : Provider.ofText? t = none) :
    (readManifest path : StateM Disk _).run disk = (.error (.invalidManifest path), disk) := by
  rw [readManifest, run_bind_of_eq (run_readText path disk), hr]
  dsimp only
  rw [hp]
  rfl

/-- What can be read is the manifest of a run that goes on to its documents. -/
theorem Loads.run_eq (h : Loads disk arguments settings provider) (filter : LogFilter) :
    (run filter arguments : StateM Disk RunResult).run disk =
      (documentRun filter settings provider : StateM Disk RunResult).run disk := by
  obtain ⟨t, hr, hp⟩ := h.read
  have read : (readManifest settings.manifest : StateM Disk _).run disk = (.ok provider, disk) := by
    rw [readManifest, run_bind_of_eq (run_readText settings.manifest disk), hr]
    dsimp only
    rw [hp]
    rfl
  rw [run, h.parsed]
  dsimp only
  rw [run_bind_of_eq read]

/-- Up to its documents a run changes nothing on the disk. -/
theorem run_of_prepares {documents : List Document} {warnings : List Warning}
    (h : Prepares disk arguments settings provider documents warnings) (filter : LogFilter) :
    (run filter arguments : StateM Disk RunResult).run disk =
      (if settings.check then
          checkRun filter settings.output documents (progressLines filter provider warnings)
        else writeRun filter settings.output documents
          (progressLines filter provider warnings) : StateM Disk RunResult).run disk := by
  have denied : (settings.denyWarnings && !warnings.isEmpty) = false := by
    cases hd : settings.denyWarnings with
    | false => rfl
    | true => rw [h.accepted hd]; rfl
  rw [h.loads.run_eq, documentRun, h.made]
  dsimp only
  rw [denied]
  rfl

/-- A run that fails before it comes to its documents does not exit with zero, says why, and leaves
every file and directory as it was. -/
theorem run_of_failsEarly {exitCode : Nat} {why : List Text}
    (h : FailsEarly disk arguments exitCode why) (filter : LogFilter) :
    exitCode ≠ 0 ∧ ∃ said,
      (run filter arguments : StateM Disk RunResult).run disk =
        ({ exitCode, messages := said ++ why }, disk) := by
  cases h with
  | refused h =>
    refine ⟨by decide, [], ?_⟩
    rw [run, h]
    rfl
  | unreadable hs hr =>
    refine ⟨by decide, [], ?_⟩
    rw [run, hs]
    dsimp only
    rw [run_bind_of_eq (run_readManifest_of_unreadable hr)]
    rfl
  | invalid hs hr hp =>
    refine ⟨by decide, [], ?_⟩
    rw [run, hs]
    dsimp only
    rw [run_bind_of_eq (run_readManifest_of_invalid hr hp)]
    rfl
  | faulty loads hg =>
    rename_i settings provider fault
    refine ⟨by decide, provider.begunLines filter, ?_⟩
    rcases hr : (generate provider).result with ⟨result, warnings⟩
    obtain rfl : result = .error fault := by rw [← hg, hr]
    rw [loads.run_eq, documentRun, hr]
    rfl
  | denied loads hg hd hw =>
    rename_i settings provider documents warnings
    refine ⟨by decide, progressLines filter provider warnings, ?_⟩
    have denied : (settings.denyWarnings && !warnings.isEmpty) = true := by
      simp [hd, hw]
    rw [loads.run_eq, documentRun, hg]
    dsimp only
    rw [denied]
    rfl

/-- A manifest whose listing names an entity that it does not have. -/
def staleManifest : Text :=
  "\x7b\"namespace\": \"e\", \"title\": \"E\", \"index\": \"C\\nResource\\ne_x\"\x7d".toList

/-- What the manifest describes. -/
def staleManifestProvider : Provider where
  nameSpace := "e".toList
  title := "E".toList
  listing := "C\nResource\ne_x".toList

/-- A working directory with the manifest and an old document. -/
def staleManifestDisk : Disk where
  home := ["work".toList]
  entries := [(["work".toList], .directory),
    (["work".toList, "provider.json".toList], .file (.text staleManifest)),
    (["work".toList, "docs".toList], .directory),
    (["work".toList, "docs".toList, "index.md".toList], .file (.text "Old.".toList))]

/-- All documents have been made when a warning turns out to be a failure. -/
theorem staleManifestDisk_untouched :
    ∃ why, FailsEarly staleManifestDisk ["--deny-warnings".toList, "provider.json".toList] 1 why ∧
      1 ≠ 0 ∧ ∃ said, (run LogFilter.standard ["--deny-warnings".toList, "provider.json".toList] :
          StateM Disk RunResult).run staleManifestDisk =
        ({ exitCode := 1, messages := said ++ why }, staleManifestDisk) := by
  have parsed : Arguments.parse ["--deny-warnings".toList, "provider.json".toList] =
      .ok { manifest := "provider.json".toList, denyWarnings := true } := by
    decide +kernel
  have read : staleManifestDisk.readText "provider.json".toList = .ok staleManifest := by
    decide +kernel
  have described : Provider.ofText? staleManifest = some staleManifestProvider := by
    rfl
  obtain ⟨documents, made⟩ := Report.exists_result_eq_ok
    (show (generate staleManifestProvider).result.1.isOk = true by decide +kernel)
  have warned : (generate staleManifestProvider).result.2 = [.unknownListing "e_x".toList] := by
    decide +kernel
  have early :
      FailsEarly staleManifestDisk ["--deny-warnings".toList, "provider.json".toList] 1 _ :=
    .denied ⟨parsed, staleManifest, read, described⟩ (Prod.ext made warned) rfl
      (List.cons_ne_nil _ _)
  exact ⟨_, early, run_of_failsEarly early LogFilter.standard⟩

end ProviderDocs
