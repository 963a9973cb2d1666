import ProviderDocs.Text.Basic

/-!
# Numerals

A number is kept as it is written.  Read in double precision it is not always the nearest double of
its exact value.  As many digits as make up less than `significandLimit` are taken
(`Numeral.scaled`), and their value is multiplied by a power of ten, with a rounding of each factor
and of the product (`roundDouble`).  `Numeral.isFinite` says whether there is a result.
-/

namespace ProviderDocs

/-- A number as it is written. -/
structure Numeral where
  /-- Whether a minus sign stands before it. -/
  negative : Bool := false
  /-- The digits before the point. -/
  whole : Text
  /-- The digits after the point. -/
  fraction : Text := []
  /-- The power of ten by which it is multiplied. -/
  exponent : Int := 0
deriving DecidableEq, Repr

/-- The value of a decimal digit. -/
def digitValue (c : Char) : Nat :=
  c.toNat - '0'.toNat

/-! ### Double precision -/

/-- A number rounded to the 53 binary digits of double precision; a half goes to the even
neighbour. -/
def roundDouble (n : Nat) : Nat :=
  let unit := Nat.pow 2 (Nat.log2 n + 1 - 53)
  let count := n / unit
  let rest := n % unit
  if unit < 2 * rest ∨ (2 * rest = unit ∧ count % 2 = 1) then (count + 1) * unit
  else count * unit

/-- Every number of double precision is smaller, rounded. -/
def doubleLimit : Nat :=
  Nat.pow 2 1024

/-- The largest power of ten among the numbers of double precision. -/
def maxPowerOfTen : Nat := 308

/-! ### Reading a numeral -/

/-- The value of the digits that are taken of a number is smaller. -/
def significandLimit : Nat :=
  Nat.pow 2 64

/-- Takes digits on to a value as long as it stays below the limit, and returns it with the digits
that are left. -/
def takeDigits (value : Nat) : Text → Nat × Text
  | [] => (value, [])
  | c :: rest =>
    let next := value * 10 + digitValue c
    if next < significandLimit then takeDigits next rest else (value, c :: rest)

/-- The value of the digits that are taken of a number, and the power of ten that goes with them.
Digits before the point that are left count as zeros, and those after it not at all. -/
def Numeral.scaled (n : Numeral) : Nat × Int :=
  let whole := takeDigits 0 n.whole
  let all := takeDigits whole.1 n.fraction
  (all.1, n.exponent + whole.2.length - (n.fraction.length - all.2.length))

/-- Whether a number is finite when it is read in double precision. -/
def Numeral.isFinite (n : Numeral) : Bool :=
  let (value, power) := n.scaled
  if value = 0 ∨ power ≤ 0 then true
  else if maxPowerOfTen < power then false
  else roundDouble (roundDouble value * roundDouble (Nat.pow 10 power.toNat)) < doubleLimit

end ProviderDocs
