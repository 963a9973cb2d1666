import ProviderDocs.Text.Basic

/-!
# Texts as bytes

Bytes are read as a text whatever they are (`Text.decode`).  A character is one to four bytes: the
first says how many, and which may come second, so that no code point has two encodings and none
lies in the range of surrogates or above the last one.  Bytes that begin a character, up to the
first that cannot go on with it, are shown as one replacement character, and so is a byte that
begins none.  The bytes of a text are read as that text (`Text.decode_encode`).
-/

namespace ProviderDocs.Text

/-- A character of which the first bytes have been read. -/
structure BegunCharacter where
  /-- The bits of its code point that have been read. -/
  bits : Nat
  /-- The least byte that can come next. -/
  low : Nat := 0x80
  /-- The greatest byte that can come next. -/
  high : Nat := 0xBF
  /-- How many bytes come after the next one. -/
  later : Nat
deriving DecidableEq, Repr

/-- What is shown for bytes that encode no character. -/
def replacementChar : Char := '\uFFFD'

/-- The character of several bytes that a byte begins, if it begins one. -/
def begun? (b : Nat) : Option BegunCharacter :=
  if b < 0xC2 then none
  else if b < 0xE0 then some { bits := b - 0xC0, later := 0 }
  else if b < 0xF0 then
    some {
      bits := b - 0xE0
      low := if b = 0xE0 then 0xA0 else 0x80
      high := if b = 0xED then 0x9F else 0xBF
      later := 1 }
  else if b < 0xF5 then
    some {
      bits := b - 0xF0
      low := if b = 0xF0 then 0x90 else 0x80
      high := if b = 0xF4 then 0x8F else 0xBF
      later := 2 }
  else none

/-- What is shown when a byte is read where a character begins, and the character that it
begins. -/
def readFirst (b : Nat) : Text × Option BegunCharacter :=
  if b < 0x80 then ([Char.ofNat b], none)
  else
    match begun? b with
    | some begun => ([], some begun)
    | none => ([replacementChar], none)

/-- What is shown when a byte is read, and the character that has begun then. -/
def readByte (begun : Option BegunCharacter) (b : Nat) : Text × Option BegunCharacter :=
  match begun with
  | none => readFirst b
  | some c =>
    if c.low ≤ b ∧ b ≤ c.high then
      let bits := 0x40 * c.bits + (b - 0x80)
      match c.later with
      | 0 => ([Char.ofNat bits], none)
      | later + 1 => ([], some { bits, later })
    else (replacementChar :: (readFirst b).1, (readFirst b).2)

/-- The text of bytes that come after the bytes of a character that has begun. -/
def decodeFrom (begun : Option BegunCharacter) : List UInt8 → Text
  | [] => if begun.isSome then [replacementChar] else []
  | b :: bytes =>
    (readByte begun b.toNat).1 ++ decodeFrom (readByte begun b.toNat).2 bytes

/-- The text of bytes, with a replacement character for each stretch that encodes nothing. -/
def decode (bytes : List UInt8) : Text :=
  decodeFrom none bytes

/-- The bytes of a text. -/
def encode (t : Text) : List UInt8 :=
  t.flatMap String.utf8EncodeChar

/-! ### Reading what has been written -/

/-- A byte in the range of a begun character goes on with it. -/
theorem readByte_of_mem {c : BegunCharacter} {b : Nat} (low : c.low ≤ b) (high : b ≤ c.high) :
    readByte (some c) b =
      match c.later with
      | 0 => ([Char.ofNat (0x40 * c.bits + (b - 0x80))], none)
      | later + 1 => ([], some { bits := 0x40 * c.bits + (b - 0x80), later }) := by
  simp [readByte, low, high]

/-- A byte that begins a character shows nothing yet. -/
theorem readByte_begun {b : Nat} {c : BegunCharacter} (h : begun? b = some c) :
    readByte none b = ([], some c) := by
  have large : ¬ b < 0x80 := fun small => by
    rw [begun?, if_pos (by omega)] at h
    cases h
  simp [readByte, readFirst, large, h]

/-- Bytes are read one after another. -/
theorem decodeFrom_cons (begun : Option BegunCharacter) {b : Nat} (h : b < 0x100)
    (bytes : List UInt8) :
    decodeFrom begun (UInt8.ofNat b :: bytes) =
      (readByte begun b).1 ++ decodeFrom (readByte begun b).2 bytes := by
  have : (UInt8.ofNat b).toNat = b := by simp; omega
  rw [decodeFrom, this]

/-- The bytes of a character are read as that character. -/
theorem decode_utf8EncodeChar_append (c : Char) (bytes : List UInt8) :
    decode (String.utf8EncodeChar c ++ bytes) = c :: decode bytes := by
  have valid : c.toNat < 0xD800 ∨ 0xDFFF < c.toNat ∧ c.toNat < 0x110000 := c.valid
  have read {n : Nat} (h : n = c.toNat) : Char.ofNat n = c := h ▸ Char.ofNat_toNat c
  have value : c.val.toNat = c.toNat := rfl
  simp only [String.utf8EncodeChar, value, decode]
  generalize c.toNat = v at valid read
  split
  · rw [List.cons_append, decodeFrom_cons _ (by omega), readByte, readFirst, if_pos (by omega)]
    simp [read]
  split
  · rw [List.cons_append, decodeFrom_cons _ (by omega),
      readByte_begun (c := { bits := v / 64 % 32, later := 0 }) (by grind [begun?]),
      List.cons_append, decodeFrom_cons _ (by omega), readByte_of_mem (by grind) (by grind)]
    simp [read (n := 64 * (v / 64 % 32) + v % 64) (by omega)]
  split
  · rw [List.cons_append, decodeFrom_cons _ (by omega), readByte_begun (c := {
        bits := v / 4096 % 16
        low := if v / 4096 % 16 = 0 then 0xA0 else 0x80
        high := if v / 4096 % 16 = 0xD then 0x9F else 0xBF
        later := 1 }) (by grind [begun?]),
      List.cons_append, decodeFrom_cons _ (by omega), readByte_of_mem (by grind) (by grind),
      List.cons_append, decodeFrom_cons _ (by omega), readByte_of_mem (by grind) (by grind)]
    simp [read (n := 64 * (64 * (v / 4096 % 16) + v / 64 % 64) + v % 64) (by omega)]
  · rw [List.cons_append, decodeFrom_cons _ (by omega), readByte_begun (c := {
        bits := v / 262144 % 8
        low := if v / 262144 % 8 = 0 then 0x90 else 0x80
        high := if v / 262144 % 8 = 4 then 0x8F else 0xBF
        later := 2 }) (by grind [begun?]),
      List.cons_append, decodeFrom_cons _ (by omega), readByte_of_mem (by grind) (by grind),
      List.cons_append, decodeFrom_cons _ (by omega), readByte_of_mem (by grind) (by grind),
      List.cons_append, decodeFrom_cons _ (by omega), readByte_of_mem (by grind) (by grind)]
    simp [read (n := 64 * (64 * (64 * (v / 262144 % 8) + v / 4096 % 64) + v / 64 % 64) + v % 64)
      (by omega)]

/-- The bytes of a text are read as that text. -/
theorem decode_encode (t : Text) : decode (encode t) = t := by
  induction t with
  | nil => rfl
  | cons c t ih =>
    rw [encode, List.flatMap_cons, decode_utf8EncodeChar_append]
    exact congrArg _ ih

end ProviderDocs.Text
