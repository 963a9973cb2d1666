import ProviderDocs.Report
import ProviderDocs.Schema.Basic

/-!
# Arguments

An argument is documented on one line: its name, its options between brackets, and its description
(`argumentLine`).  A field whose flags contradict each other cannot be documented
(`Field.fault?`).
-/

namespace ProviderDocs

/-- The entity whose schema is documented. -/
structure Subject where
  /-- Its name, as findings give it. -/
  entity : Text
  /-- Whether it can only be read, as a data source. -/
  readOnly : Bool
deriving DecidableEq, Repr

/-- What is wrong with the flags of a field. -/
def Field.fault? (subject : Subject) (name : Text) (field : Field) : Option Fault :=
  if field.required && field.optional then some (.requiredAndOptional subject.entity name)
  else if subject.readOnly && field.computed && field.forceNew then
    some (.forceNewOnComputed subject.entity name)
  else none

/-- Refuses a field whose flags contradict each other. -/
def Field.validate (subject : Subject) (name : Text) (field : Field) : Except Fault Unit :=
  match field.fault? subject name with
  | some fault => .error fault
  | none => .ok ()

/-- The type of a field as an argument line gives it: for objects with the name that their section
has. -/
def typeColumn (name : Text) (field : Field) : Text :=
  let element :=
    if field.nested?.isSome then name
    else (field.scalar?.map Kind.token).getD []
  if field.nested?.isSome || !element.isEmpty then
    field.kind.token ++ ": [".toList ++ codeSpan element ++ [']']
  else field.kind.token

/-- The options of an argument, which stand between brackets after its name. -/
def argumentOptions (name : Text) (field : Field) : List Text :=
  let column := typeColumn name field
  [if field.required then "Required".toList else "Optional".toList] ++
    (if column.isEmpty then [] else [column]) ++
    (if field.forceNew then ["ForceNew".toList] else []) ++
    (if field.isDeprecated then ["**Deprecated**".toList] else [])

/-- The description of an argument, with its deprecation notice in front. -/
def argumentDescription (field : Field) : Text :=
  if field.isDeprecated then
    Text.trim (Text.trim field.deprecated ++ [' '] ++ Text.trim field.description)
  else Text.trim field.description

/-- The line that documents an argument. -/
def argumentLine (name : Text) (field : Field) : Text :=
  Text.trimEnd
    ("* ".toList ++ codeSpan name ++ " - (".toList ++
      ", ".toList.intercalate (argumentOptions name field) ++ ") ".toList ++
      argumentDescription field)

/-- The warnings that an argument gives rise to. -/
def argumentWarnings (subject : Subject) (name : Text) (field : Field) : List Warning :=
  (if Text.isBlank field.description then [.missingDescription subject.entity name] else []) ++
    (if field.isDeprecated then [.deprecated subject.entity name] else [])

/-- Documents an argument. -/
def documentArgument (subject : Subject) (name : Text) (field : Field) : Report Text := do
  (argumentWarnings subject name field).forM warn
  return argumentLine name field

end ProviderDocs
