import ProviderDocs.Fault
import ProviderDocs.Warning

/-!
# Reports

Work that makes documents collects warnings on the way and may end in a fault; the warnings
collected before it are kept.  `Report.result` gives what such work comes to from the start.
-/

namespace ProviderDocs

/-- A piece of work that collects warnings and may end in a fault.  The warnings collected before a
fault are kept. -/
abbrev Report := EStateM Fault (List Warning)

/-- Collects a warning. -/
def warn (warning : Warning) : Report Unit :=
  modify (· ++ [warning])

/-- Work that collects no warnings, as part of a report. -/
def Report.ofExcept {α : Type} (result : Except Fault α) : Report α :=
  match result with
  | .ok value => pure value
  | .error fault => throw fault

/-- The outcome of a report that nothing was collected before, and its warnings. -/
def Report.result {α : Type} (report : Report α) : Except Fault α × List Warning :=
  match report.run [] with
  | .ok value warnings => (.ok value, warnings)
  | .error fault warnings => (.error fault, warnings)

end ProviderDocs
