import ProviderDocs.CommandLine.Run

/-!
# The command

The command runs on the file system of the machine.  The variable `RUST_LOG` of its environment
chooses which log lines it shows.
-/

namespace ProviderDocs

/-- Why the system could not do something.  It gives the number of a cause as it is or negated. -/
def causeOfError (e : IO.Error) : FileCause :=
  match e with
  | .noFileOrDirectory .. => .notFound
  | .alreadyExists .. => .exists
  | .inappropriateType _ code _ =>
    if code = 20 ∨ 0 - code = 20 then .notDirectory
    else if code = 21 ∨ 0 - code = 21 then .isDirectory
    else .other (toString e).toList
  | _ => .other (toString e).toList

/-- Does something, or says why the system could not do it. -/
def attempt {α : Type} (action : IO α) : IO (Except FileCause α) := do
  try return .ok (← action) catch e => return .error (causeOfError e)

/-- The text that bytes encode. -/
def decodeText (bytes : ByteArray) : Except FileCause Text :=
  match String.fromUTF8? bytes with
  | some s => .ok s.toList
  | none => .error .notText

instance : FileStore IO where
  readText path := return (← attempt (IO.FS.readBinFile (String.ofList path))).bind decodeText
  writeText path t := attempt (IO.FS.writeFile (String.ofList path) (String.ofList t))
  makeDirectory path := attempt (IO.FS.createDir (String.ofList path))
  isDirectory path := do return ← ((← IO.currentDir) / String.ofList path).isDir

end ProviderDocs

open ProviderDocs in
/-- Runs the command with its arguments. -/
def main (arguments : List String) : IO UInt32 := do
  let filter := LogFilter.ofSetting ((← IO.getEnv "RUST_LOG").map String.toList)
  let command : IO RunResult := run filter (arguments.map String.toList)
  let result ← command
  for line in result.output do
    IO.println (String.ofList line)
  for line in result.messages do
    IO.eprintln (String.ofList line)
  return result.exitCode.toUInt32
