import ProviderDocs.Text.Basic

/-!
# Texts on a terminal

What the author of a command wrote is shown to them again without the escape sequences that it may
hold, and without the controls that are not white space (`printed`).  A sequence is followed through
its parts (`TerminalState`) to its end.  White space inside a sequence is shown; what comes after it
is shown too, up to the next control that is not, from where on the sequence is followed again.
-/

namespace ProviderDocs

/-- Where in an escape sequence a place of a text is. -/
inductive TerminalState where
  /-- In none. -/
  | ground
  /-- After an escape character. -/
  | escape
  /-- After an escape character and characters that select what its last one means. -/
  | selection
  /-- In a control sequence. -/
  | control
  /-- At the head of a string for a device. -/
  | deviceHead
  /-- In the parameters of a string for a device. -/
  | deviceParameters
  /-- In the characters that select what a string for a device means. -/
  | deviceSelection
  /-- In a string that lasts up to a string terminator. -/
  | string
  /-- In a command for the system, which a bell ends. -/
  | command
deriving DecidableEq, Repr

namespace TerminalState

/-- Whether a character lies between two others, both included. -/
def isWithin (first last c : Char) : Bool :=
  first ≤ c && c ≤ last

/-- Whether the encoding of a character holds the byte that terminates a string. -/
def endsString (c : Char) : Bool :=
  (String.utf8EncodeChar c).contains 0x9C

/-- The state after a character of which nothing is shown. -/
def next (state : TerminalState) (c : Char) : TerminalState :=
  if c = '\x18' ∨ c = '\x1a' then .ground
  else if c = '\x1b' then .escape
  else
    match state with
    | .ground => .ground
    | .escape =>
      if isWithin ' ' '/' c then .selection
      else if c = '[' then .control
      else if c = ']' then .command
      else if c = 'P' then .deviceHead
      else if c = 'X' ∨ c = '^' ∨ c = '_' then .string
      else if isWithin '0' '~' c then .ground
      else .escape
    | .selection => if isWithin '0' '~' c then .ground else .selection
    | .control => if isWithin '@' '~' c then .ground else .control
    | .deviceHead =>
      if isWithin ' ' '/' c then .deviceSelection
      else if isWithin '0' '?' c then .deviceParameters
      else if isWithin '@' '~' c then .string
      else .deviceHead
    | .deviceParameters =>
      if isWithin ' ' '/' c then .deviceSelection
      else if isWithin '<' '~' c then .string
      else .deviceParameters
    | .deviceSelection => if isWithin '0' '~' c then .string else .deviceSelection
    | .string => if endsString c then .ground else .string
    | .command => if c = '\x07' then .ground else .command

/-- The controls that are shown. -/
def isShownControl (c : Char) : Bool :=
  c == '\t' || c == '\n' || c == '\x0c' || c == '\r'

/-- Whether a character is shown in a state. -/
def shows (state : TerminalState) (c : Char) : Bool :=
  match state with
  | .ground => isShownControl c || isWithin ' ' '~' c || 0x80 ≤ c.toNat
  | .escape | .selection | .control => isShownControl c
  | _ => false

end TerminalState

/-- What is shown of the rest of a text, given the state and whether the character above is
shown.  A character beyond ASCII ends a sequence that white space has interrupted. -/
def printedAfter (showing : Bool) (state : TerminalState) : Text → Text
  | [] => []
  | c :: rest =>
    if showing then
      if TerminalState.ground.shows c then
        c :: printedAfter true (if 0x80 ≤ c.toNat then .ground else state) rest
      else printedAfter false (state.next c) rest
    else if state.shows c then c :: printedAfter true state rest
    else printedAfter false (state.next c) rest

/-- What is shown of a text. -/
def printed (t : Text) : Text :=
  printedAfter false .ground t

end ProviderDocs
