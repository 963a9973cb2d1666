import ProviderDocs.CommandLine.Terminal

/-!
# Command line arguments

Arguments are read from left to right (`Arguments.parse`).  An option may have its value attached or
in the next argument, unless that looks like an option itself; its value is taken in with the next
argument that is understood, so that an argument that is not understood is reported before a missing
value.
-/

namespace ProviderDocs

/-- What the command is asked to do. -/
structure Settings where
  /-- The path of the manifest. -/
  manifest : Text
  /-- The root of the documentation. -/
  output : Text := "docs".toList
  /-- Whether to compare with the documents that are there instead of writing. -/
  check : Bool := false
  /-- Whether a warning is a failure. -/
  denyWarnings : Bool := false
deriving DecidableEq, Repr

/-- What is wrong with the arguments. -/
inductive ArgumentFault where
  /-- An argument that is not understood. -/
  | unexpected (argument : Text)
  /-- An option or an argument, as the help names it, without a value. -/
  | missingValue (name : Text)
  /-- A value attached to an option that takes none. -/
  | unexpectedValue (value name : Text)
  /-- An option that is given twice. -/
  | repeated (name : Text)
  /-- There is no manifest. -/
  | missingManifest
deriving DecidableEq, Repr

/-- What is shown of a text, between single quotes. -/
def singleQuoted (t : Text) : Text :=
  '\'' :: printed t ++ ['\'']

/-- The text of what is wrong with the arguments. -/
def ArgumentFault.message : ArgumentFault → Text
  | .unexpected argument =>
    "unexpected argument ".toList ++ singleQuoted argument ++ " found".toList
  | .missingValue name =>
    "a value is required for ".toList ++ singleQuoted name ++ " but none was supplied".toList
  | .unexpectedValue value name =>
    "unexpected value ".toList ++ singleQuoted value ++ " for ".toList ++ singleQuoted name ++
      " found; no more were expected".toList
  | .repeated name =>
    "the argument ".toList ++ singleQuoted name ++ " cannot be used multiple times".toList
  | .missingManifest => "the following required arguments were not provided:".toList

/-- Why reading arguments stops early. -/
inductive ArgumentStop where
  /-- Help is asked for. -/
  | help
  | refused (fault : ArgumentFault)
deriving DecidableEq, Repr

namespace Arguments

/-- How the help names the manifest. -/
def manifestName : Text := "<MANIFEST>".toList

/-- How the help names the option for the root of the documentation. -/
def outputName : Text := "--output <OUTPUT>".toList

/-- How the help names the option to compare. -/
def checkName : Text := "--check".toList

/-- How the help names the option to fail on a warning. -/
def denyWarningsName : Text := "--deny-warnings".toList

/-- A value that is not taken in yet. -/
inductive Pending where
  /-- The root of the documentation, if its value has been given. -/
  | output (value : Option Text)
  | manifest (value : Text)
deriving DecidableEq, Repr

/-- What has been read. -/
structure State where
  manifest : Option Text := none
  output : Option Text := none
  check : Bool := false
  denyWarnings : Bool := false
  pending : Option Pending := none
  /-- Whether all further arguments are values. -/
  valuesOnly : Bool := false
deriving DecidableEq, Repr

/-- Stops with a fault. -/
def refuse {α : Type} (fault : ArgumentFault) : Except ArgumentStop α :=
  .error (.refused fault)

namespace State

/-- Takes in the root of the documentation. -/
def setOutput (state : State) (value : Text) : Except ArgumentStop State :=
  if state.output.isSome then refuse (.repeated outputName)
  else if value.isEmpty then refuse (.missingValue outputName)
  else .ok { state with output := some value }

/-- Takes in the manifest. -/
def setManifest (state : State) (value : Text) : Except ArgumentStop State :=
  if value.isEmpty then refuse (.missingValue manifestName)
  else .ok { state with manifest := some value }

/-- Takes in the value that is pending. -/
def settle (state : State) : Except ArgumentStop State :=
  let settled := { state with pending := none }
  match state.pending with
  | none => .ok settled
  | some (.output none) => refuse (.missingValue outputName)
  | some (.output (some value)) => settled.setOutput value
  | some (.manifest value) => settled.setManifest value

/-- Reads the option for the root of the documentation, with the value attached to it. -/
def readOutput (state : State) (attached : Option Text) : Except ArgumentStop State := do
  let state ← state.settle
  match attached with
  | some value => state.setOutput value
  | none => .ok { state with pending := some (.output none) }

/-- Reads a value that belongs to no option. -/
def readValue (state : State) (value : Text) : Except ArgumentStop State :=
  match state.manifest, state.pending with
  | none, some (.manifest _) => refuse (.unexpected value)
  | some _, _ => refuse (.unexpected value)
  | none, _ => do
    let state ← state.settle
    .ok { state with pending := some (.manifest value) }

/-- Reads an option by its long name, with the value attached to it. -/
def readLong (state : State) (name : Text) (attached : Option Text) :
    Except ArgumentStop State :=
  if name = "output".toList then state.readOutput attached
  else if name = "check".toList then
    match attached with
    | some value => refuse (.unexpectedValue value checkName)
    | none => do
      let state ← state.settle
      if state.check then refuse (.repeated checkName)
      else .ok { state with check := true }
  else if name = "deny-warnings".toList then
    match attached with
    | some value => refuse (.unexpectedValue value denyWarningsName)
    | none => do
      let state ← state.settle
      if state.denyWarnings then refuse (.repeated denyWarningsName)
      else .ok { state with denyWarnings := true }
  else if name = "help".toList then
    match attached with
    | some value => refuse (.unexpectedValue value "--help".toList)
    | none => do
      let _ ← state.settle
      .error .help
  else refuse (.unexpected ("--".toList ++ name))

/-- Reads an option by its letter, with what follows the letter. -/
def readShort (state : State) (letter : Char) (rest : Text) : Except ArgumentStop State :=
  if letter = 'o' then
    state.readOutput <|
      match rest with
      | [] => none
      | '=' :: value => some value
      | value => some value
  else if letter = 'h' then do
    let _ ← state.settle
    .error .help
  else refuse (.unexpected ['-', letter])

/-- Reads one argument. -/
def read (state : State) (argument : Text) : Except ArgumentStop State :=
  if state.valuesOnly then state.readValue argument
  else
    match argument with
    | ['-', '-'] => .ok { state with valuesOnly := true }
    | '-' :: '-' :: option =>
      state.readLong (option.takeWhile (· != '=')) <|
        match option.dropWhile (· != '=') with
        | [] => none
        | _ :: value => some value
    | '-' :: letter :: rest => state.readShort letter rest
    | _ =>
      if state.pending = some (.output none) then
        .ok { state with pending := some (.output (some argument)) }
      else state.readValue argument

/-- What the command is asked to do once all arguments have been read. -/
def settings (state : State) : Except ArgumentStop Settings := do
  let state ← state.settle
  match state.manifest with
  | none => refuse .missingManifest
  | some manifest =>
    .ok {
      manifest
      output := state.output.getD "docs".toList
      check := state.check
      denyWarnings := state.denyWarnings }

end State

/-- Reads arguments. -/
def parse (arguments : List Text) : Except ArgumentStop Settings := do
  let state ← arguments.foldlM State.read {}
  state.settings

end Arguments

end ProviderDocs
