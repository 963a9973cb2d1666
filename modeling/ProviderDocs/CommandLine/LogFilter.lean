import ProviderDocs.CommandLine.Log
import ProviderDocs.Text.Line

/-!
# Log filters

Which records of the log are shown is written as directives with commas between them
(`LogFilter.parse?`).  A directive is a level, for all records; or the beginning of a target, a span
with a field in square brackets, or both, for the records that have them, with a level after an
equals sign.  Of the directives that apply to a record the most specific one decides, and of two for
the same records the later (`LogFilter.shows`).  A filter that cannot be read is as good as none.
-/

namespace ProviderDocs

/-- The level that a number from zero to five or a name stands for. -/
def LogLevel.parse? (t : Text) : Option LogLevel :=
  let digits := if t.head? = some '+' then t.drop 1 else t
  if !digits.isEmpty && digits.all Char.isDigit then
    let number := digits.foldl (fun n c => 10 * n + (c.toNat - '0'.toNat)) 0
    LogLevel.all.find? fun level => level.rank = number
  else
    let name := t.map Char.toLower
    LogLevel.all.find? fun level => level.name = name

/-- Which records are shown up to which level. -/
structure LogDirective where
  /-- What the target of a record begins with. -/
  target : Option Text := none
  /-- The span that a record lies in. -/
  span : Option Text := none
  /-- A field that a record has, and the value of it that is looked for. -/
  field : Option (Text × Option Text) := none
  level : LogLevel := .trace
deriving DecidableEq, Repr

namespace LogDirective

/-! ### Reading -/

/-- The level at the end of a directive.  Without one, everything is shown. -/
def readLevel? : Text → Option LogLevel
  | ['='] => some .trace
  | '=' :: name => LogLevel.parse? name
  | t => if Text.isBlank t then some .trace else none

/-- A field, with the value after an equals sign. -/
def readField (t : Text) : Text × Option Text :=
  match Text.splitOn '=' t with
  | name :: value :: _ => (name, some value)
  | _ => (t, none)

/-- A directive for a target from where the span stands, after the bracket that opens it. -/
def readSpan? (target : Option Text) (t : Text) : Option LogDirective :=
  let name := t.takeWhile fun c => c != ']' && c != '{'
  match t.drop name.length with
  | ']' :: rest => (readLevel? rest).map fun level => { target, span := some name, level }
  | '{' :: rest =>
    let field := rest.takeWhile (· != '}')
    let span := if name.isEmpty then none else some name
    match rest.drop field.length with
    | '}' :: ']' :: rest =>
      if field.isEmpty then none
      else
        (readLevel? rest).map fun level =>
          { target, span, field := some (readField field), level }
    | _ => none
  | _ => none

/-- Whether a directive can begin with a character. -/
def canBegin (c : Char) : Bool :=
  isAlphanumeric c || c == '-' || c == ':' || c == '_' || c == '['

/-- A directive without white space in front of it. -/
def readPlain? (t : Text) : Option LogDirective :=
  let target := t.takeWhile fun c => c != '=' && c != '['
  match t.drop target.length with
  | [] =>
    match LogLevel.parse? t with
    | some level => some { level }
    | none => some { target := some t }
  | '[' :: rest => readSpan? (if target.isEmpty then none else some target) rest
  | rest => (readLevel? rest).map fun level => { target := some target, level }

/-- A directive.  White space in front of it belongs to its target, which no record has then, and
leaves no room for a level. -/
def parse? (t : Text) : Option LogDirective :=
  let plain := Text.trim t
  if !plain.head?.any canBegin then none
  else if !t.head?.any isSpace then readPlain? t
  else if (plain.reverse.takeWhile (· != ']')).contains '=' then none
  else (readPlain? plain).map fun _ => { target := some t }

/-! ### Choosing records -/

/-- Whether a directive says something about a record.  No record lies in a span, and a value is
looked for in spans only. -/
def applies (directive : LogDirective) (record : LogRecord) : Bool :=
  directive.span.isNone &&
    directive.target.all (·.isPrefixOf record.target) &&
    directive.field.all fun (name, value) => value.isNone && record.fieldNames.contains name

/-- Whether of two directives that apply to a record the first is more specific than the second: a
longer target wins, then one with a field, then the field whose name comes later. -/
def isMoreSpecific (first second : LogDirective) : Bool :=
  let size := fun directive : LogDirective =>
    (directive.target.map fun target => target.length + 1).getD 0
  if size first = size second then
    match first.field, second.field with
    | some _, none => true
    | some (name, _), some (other, _) => decide (other < name)
    | none, _ => false
  else decide (size second < size first)

end LogDirective

/-- Directives, in the order in which they are written. -/
abbrev LogFilter := List LogDirective

namespace LogFilter

/-- The directives that a text writes. -/
def parse? (t : Text) : Option LogFilter :=
  ((Text.splitOn ',' t).filter (!·.isEmpty)).mapM LogDirective.parse?

/-- The filter that holds where no other is chosen. -/
def standard : LogFilter := [{ level := .info }]

/-- The filter that a setting chooses, if there is a setting. -/
def ofSetting (setting : Option Text) : LogFilter :=
  (setting.bind parse?).getD standard

/-- The directive that decides on a record. -/
def decisive? (filter : LogFilter) (record : LogRecord) : Option LogDirective :=
  (filter.filter (·.applies record)).foldl
    (fun best? directive =>
      match best? with
      | some best => if best.isMoreSpecific directive then some best else some directive
      | none => some directive) none

/-- Whether a record is shown. -/
def shows (filter : LogFilter) (record : LogRecord) : Bool :=
  (filter.decisive? record).any fun directive => record.level.rank ≤ directive.level.rank

/-- The line of a record, if it is shown. -/
def line (filter : LogFilter) (record : LogRecord) : List Text :=
  if filter.shows record then [record.text] else []

end LogFilter

end ProviderDocs
