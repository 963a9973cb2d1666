import ProviderDocs.Json.Basic

/-!
# Reading JSON

A strict reader: one value, white space around it and nothing else.  No more than `maxDepth` arrays
and objects are kept inside one another; what is in more is read but not kept.  Each reader takes a
value off the front of a text and returns it with what is left of the text.
-/

namespace ProviderDocs.Json

/-- How many arrays and objects are kept inside one another. -/
def maxDepth : Nat := 127

/-- The white space of JSON. -/
def isJsonSpace (c : Char) : Bool :=
  c == ' ' || c == '\t' || c == '\n' || c == '\r'

/-- Drops the white space at the front of a text. -/
def skipSpace (t : Text) : Text :=
  t.dropWhile isJsonSpace

/-! ### Strings -/

/-- A piece of a string: a character that stands for itself or is escaped by a letter, or the
sixteen bits of a numeric escape. -/
inductive StringPiece where
  | char (c : Char)
  | unit (bits : Nat)

/-- The character that a letter stands for after a backslash. -/
def escaped? : Char → Option Char
  | '"' => some '"'
  | '\\' => some '\\'
  | '/' => some '/'
  | 'b' => some '\x08'
  | 'f' => some '\x0c'
  | 'n' => some '\n'
  | 'r' => some '\r'
  | 't' => some '\t'
  | _ => none

/-- The value of a hexadecimal digit. -/
def hexDigit? (c : Char) : Option Nat :=
  if '0' ≤ c ∧ c ≤ '9' then some (c.toNat - '0'.toNat)
  else if 'a' ≤ c ∧ c ≤ 'f' then some (c.toNat - 'a'.toNat + 10)
  else if 'A' ≤ c ∧ c ≤ 'F' then some (c.toNat - 'A'.toNat + 10)
  else none

/-- The value of four hexadecimal digits. -/
def hexUnit? (a b c d : Char) : Option Nat := do
  let a ← hexDigit? a
  let b ← hexDigit? b
  let c ← hexDigit? c
  let d ← hexDigit? d
  some (((a * 16 + b) * 16 + c) * 16 + d)

/-- Takes the pieces of a string, up to and with its closing quote. -/
def readPieces : Text → Option (List StringPiece × Text)
  | [] => none
  | '"' :: rest => some ([], rest)
  | '\\' :: 'u' :: a :: b :: c :: d :: rest => do
    let bits ← hexUnit? a b c d
    let (pieces, rest) ← readPieces rest
    some (.unit bits :: pieces, rest)
  | '\\' :: letter :: rest => do
    let c ← escaped? letter
    let (pieces, rest) ← readPieces rest
    some (.char c :: pieces, rest)
  | c :: rest =>
    if c = '\\' ∨ c.toNat < 0x20 then none
    else do
      let (pieces, rest) ← readPieces rest
      some (.char c :: pieces, rest)

/-- The first sixteen bits of a surrogate pair. -/
def isLeading (bits : Nat) : Bool :=
  0xD800 ≤ bits && bits ≤ 0xDBFF

/-- The last sixteen bits of a surrogate pair. -/
def isTrailing (bits : Nat) : Bool :=
  0xDC00 ≤ bits && bits ≤ 0xDFFF

/-- The text of some pieces, unless half of a surrogate pair is among them. -/
def textOfPieces : List StringPiece → Option Text
  | [] => some []
  | .char c :: rest => (textOfPieces rest).map (c :: ·)
  | .unit high :: .unit low :: rest =>
    if isLeading high then
      if isTrailing low then
        (textOfPieces rest).map
          (Char.ofNat (0x10000 + (high - 0xD800) * 0x400 + (low - 0xDC00)) :: ·)
      else none
    else if isTrailing high then none
    else (textOfPieces (.unit low :: rest)).map (Char.ofNat high :: ·)
  | .unit bits :: rest =>
    if isLeading bits || isTrailing bits then none
    else (textOfPieces rest).map (Char.ofNat bits :: ·)

/-- Takes a string, whose opening quote has been taken. -/
def readString (t : Text) : Option (Option Text × Text) :=
  (readPieces t).map fun (pieces, rest) => (textOfPieces pieces, rest)

/-! ### Numbers -/

/-- The value of decimal digits. -/
def digitsValue (digits : Text) : Nat :=
  digits.foldl (fun n c => n * 10 + digitValue c) 0

/-- Takes one digit or more. -/
def readDigits (t : Text) : Option (Text × Text) :=
  let digits := t.takeWhile Char.isDigit
  if digits.isEmpty then none else some (digits, t.dropWhile Char.isDigit)

/-- Takes the digits before a point, of which the first is no zero unless it is the only one. -/
def readWhole (t : Text) : Option (Text × Text) :=
  match t with
  | '0' :: rest => some (['0'], rest)
  | _ => readDigits t

/-- Takes a point and the digits after it, if there is a point. -/
def readFraction (t : Text) : Option (Text × Text) :=
  match t with
  | '.' :: rest => readDigits rest
  | _ => some ([], t)

/-- Takes an exponent, if there is one. -/
def readExponent (t : Text) : Option (Int × Text) :=
  match t with
  | c :: rest =>
    if c = 'e' ∨ c = 'E' then
      let negative := rest.head? == some '-'
      let signed := negative || rest.head? == some '+'
      (readDigits (if signed then rest.tail else rest)).map fun (digits, rest) =>
        ((if negative then -1 else 1) * (digitsValue digits : Int), rest)
    else some (0, t)
  | [] => some (0, [])

/-- Takes a number. -/
def readNumeral (t : Text) : Option (Numeral × Text) := do
  let negative := t.head? == some '-'
  let (whole, t) ← readWhole (if negative then t.tail else t)
  let (fraction, t) ← readFraction t
  let (exponent, t) ← readExponent t
  some (⟨negative, whole, fraction, exponent⟩, t)

/-! ### Values -/

/-- Takes items with a comma between any two, up to and with a closing bracket.  No text holds more
items than characters, so that its length is fuel enough. -/
def readItems {α : Type} (readItem : Text → Option (α × Text)) (close : Char) :
    Nat → Text → Option (List α × Text)
  | 0, _ => none
  | fuel + 1, t => do
    let (item, t) ← readItem t
    match skipSpace t with
    | [] => none
    | c :: rest =>
      if c = close then some ([item], rest)
      else if c = ',' then
        let (items, rest) ← readItems readItem close fuel rest
        some (item :: items, rest)
      else none

/-- Takes the items of an array or the members of an object, whose opening bracket has been
taken. -/
def readList {α : Type} (readItem : Text → Option (α × Text)) (close : Char) (fuel : Nat)
    (t : Text) : Option (List α × Text) :=
  match skipSpace t with
  | [] => none
  | c :: rest => if c = close then some ([], rest) else readItems readItem close fuel t

/-- Takes a name, a colon and a value. -/
def readMember (readValue : Text → Option (Json × Text)) (t : Text) :
    Option ((Option Text × Json) × Text) :=
  match skipSpace t with
  | '"' :: rest => do
    let (name, rest) ← readString rest
    match skipSpace rest with
    | ':' :: rest =>
      let (value, rest) ← readValue rest
      some ((name, value), rest)
    | _ => none
  | _ => none

/-- Takes a value, and keeps at most `room` arrays and objects inside one another.  Every array and
every object takes a character, so that one more than the length of the text is fuel enough. -/
def readValue : Nat → Nat → Text → Option (Json × Text)
  | 0, _, _ => none
  | fuel + 1, room, t =>
    match skipSpace t with
    | 'n' :: 'u' :: 'l' :: 'l' :: rest => some (.null, rest)
    | 't' :: 'r' :: 'u' :: 'e' :: rest => some (.bool true, rest)
    | 'f' :: 'a' :: 'l' :: 's' :: 'e' :: rest => some (.bool false, rest)
    | '"' :: rest => (readString rest).map fun (text, rest) => (.string text, rest)
    | '[' :: rest =>
      (readList (readValue fuel (room - 1)) ']' fuel rest).map fun (items, rest) =>
        (if room = 0 then .tooDeep else .array items, rest)
    | '{' :: rest =>
      (readList (readMember (readValue fuel (room - 1))) '}' fuel rest).map fun (members, rest) =>
        (if room = 0 then .tooDeep else .object members, rest)
    | t => (readNumeral t).map fun (n, rest) => (.number n, rest)

/-- The value that a text holds. -/
def read? (t : Text) : Option Json :=
  match readValue (t.length + 1) maxDepth t with
  | some (value, rest) => if (skipSpace rest).isEmpty then some value else none
  | none => none

end ProviderDocs.Json
