import ProviderDocs.Snippet.Bracket
import ProviderDocs.Snippet.Heredoc
import ProviderDocs.Text.Line

/-!
# Formatting of a snippet

A snippet is formatted in three steps: its lines are read with the bracket depth, the open heredoc
and the open block comment carried from line to line (`readLines`); runs of blank lines become
single ones (`collapseBlanks`); and the lines are laid out, two spaces to a level, with the signs of
neighbouring attributes in one column (`layout`).  Nothing is refused: whatever is unbalanced or
left open is formatted as far as it goes.
-/

namespace ProviderDocs.Snippet

/-! ### Lines and how they are read -/

/-- A line of a snippet as it was understood. -/
inductive Line where
  /-- A line with nothing on it. -/
  | blank
  /-- A line of a heredoc, kept as it is. -/
  | verbatim (text : Text)
  /-- A line of code at a level of indentation. -/
  | code (indent : Nat) (text : Text)
  /-- An attribute that begins and ends on its line, at a level of indentation. -/
  | assign (indent : Nat) (attr : Attribute)
deriving DecidableEq, Repr

/-- What the lines above decide about the lines below. -/
structure State where
  /-- The brackets open, never less than none. -/
  depth : Nat := 0
  /-- The marker of the heredoc that is open. -/
  heredoc : Option Text := none
  /-- Whether a block comment is open. -/
  inComment : Bool := false
deriving DecidableEq, Repr

/-- A line of code, without white space around it, at a level of indentation. -/
def Line.ofCode (indent : Nat) (text : Text) : Line :=
  match Attribute.ofLine? text with
  | none => .code indent (spaceHeader text)
  | some attr =>
    let b := balance text
    if b.delta = 0 ∧ b.opensComment = false then .assign indent attr
    else .code indent (attr.write 0)

/-- Reads one line. -/
def State.readLine (state : State) (line : Text) : State × Line :=
  let raw := Text.trimEndWhere (· == '\r') line
  let text := Text.trim raw
  match state.heredoc with
  | some marker =>
    ({ state with heredoc := if text = marker then none else some marker }, .verbatim raw)
  | none =>
    if text = [] then (state, .blank)
    else if state.inComment then
      ({ state with inComment := !closesComment text }, .code state.depth text)
    else
      let b := balance text
      ({ depth := (state.depth + b.delta).toNat
         heredoc := heredocMarker? text
         inComment := b.opensComment },
        Line.ofCode (state.depth - leadingClosers text) text)

/-- Reads the lines of a snippet, each with what the lines above it decided. -/
def readLines (state : State) : List Text → List Line
  | [] => []
  | line :: rest =>
    let read := state.readLine line
    read.2 :: readLines read.1 rest

/-! ### Blank lines -/

/-- Drops every blank line that follows another one, given whether the line above was blank. -/
def collapseBlanksAfter (blankAbove : Bool) : List Line → List Line
  | [] => []
  | .blank :: rest =>
    if blankAbove then collapseBlanksAfter true rest else .blank :: collapseBlanksAfter true rest
  | line :: rest => line :: collapseBlanksAfter false rest

/-- Makes every run of blank lines a single one, and drops the run at the start. -/
def collapseBlanks (lines : List Line) : List Line :=
  collapseBlanksAfter true lines

/-! ### Layout -/

/-- The level of indentation of an attribute. -/
def Line.attributeIndent? : Line → Option Nat
  | .assign indent _ => some indent
  | _ => none

/-- Whether the signs of two neighbouring lines share a column: both are attributes, at one level of
indentation. -/
def Line.aligns (line next : Line) : Bool :=
  line.attributeIndent?.isSome && line.attributeIndent? == next.attributeIndent?

/-- The length of the key of an attribute. -/
def Line.keyWidth : Line → Nat
  | .assign _ attr => attr.key.length
  | _ => 0

/-- The length of the longest key among some lines. -/
def columnWidth (lines : List Line) : Nat :=
  lines.foldr (fun line width => max line.keyWidth width) 0

/-- The white space before a line at a level of indentation. -/
def indentation (level : Nat) : Text :=
  List.replicate (2 * level) ' '

/-- A line written out, with the key of an attribute padded to a width. -/
def Line.write (width : Nat) : Line → Text
  | .blank => []
  | .verbatim text => text
  | .code indent text => indentation indent ++ text
  | .assign indent attr => indentation indent ++ attr.write width

/-- Lines written out, each run of attributes at one level of indentation in columns of its own. -/
def layout (lines : List Line) : List Text :=
  (lines.splitBy Line.aligns).flatMap fun run => run.map (Line.write (columnWidth run))

/-- A snippet in its settled layout. -/
def format (snippet : Text) : Text :=
  let lines := collapseBlanks (readLines {} (Text.splitLines snippet))
  Text.trimWhere (· == '\n') (Text.joinLines (layout lines))

end ProviderDocs.Snippet
