set_option autoImplicit false

/-! # Decimal numerals

Integers written with an optional sign and one or more ASCII digits, in any number. The value is
exact; a reader of a fixed width refuses a value that the width cannot hold, as soon as the digits
so far exceed it. -/

namespace Codemod.Numeral

/-- An ASCII digit. -/
def isDigit (c : Char) : Bool :=
  '0' ≤ c && c ≤ '9'

/-- The value of a digit. -/
def digitValue (c : Char) : Nat :=
  c.toNat - '0'.toNat

/-- The number that a row of digits denotes, leading zeros allowed. -/
def value (ds : List Char) : Nat :=
  ds.foldl (fun n d => 10 * n + digitValue d) 0

/-- One or more digits. -/
def natural? (s : List Char) : Option Nat :=
  if s.isEmpty || !s.all isDigit then none else some (value s)

/-- An optional sign and one or more digits. -/
def integer? : List Char → Option Int
  | '+' :: ds => (natural? ds).map Int.ofNat
  | '-' :: ds => (natural? ds).map fun n => -(n : Int)
  | ds => (natural? ds).map Int.ofNat

/-- A row of digits without the zeros at its end. -/
def dropTrailingZeros (ds : List Char) : List Char :=
  (ds.reverse.dropWhile (· == '0')).reverse

/-! ## Hexadecimal digits -/

/-- A hexadecimal digit. -/
def hexDigit (n : Nat) : Char :=
  if n < 10 then Char.ofNat ('0'.toNat + n) else Char.ofNat ('a'.toNat + n - 10)

/-- The value of a hexadecimal digit. -/
def hexDigit? (c : Char) : Option Nat :=
  if '0' ≤ c && c ≤ '9' then some (c.toNat - '0'.toNat)
  else if 'a' ≤ c && c ≤ 'f' then some (c.toNat - 'a'.toNat + 10)
  else if 'A' ≤ c && c ≤ 'F' then some (c.toNat - 'A'.toNat + 10)
  else none

/-- The number that hexadecimal digits denote. -/
def hex? (ds : List Char) : Option Nat :=
  ds.foldlM (fun n d => do some (16 * n + (← hexDigit? d))) 0

/-! ## Fixed widths -/

/-- Whether a signed word of `bits` bits can hold a number. -/
def IsWord (bits : Nat) (v : Int) : Prop :=
  -(Nat.pow 2 (bits - 1) : Int) ≤ v ∧ v < (Nat.pow 2 (bits - 1) : Int)

instance (bits : Nat) (v : Int) : Decidable (IsWord bits v) :=
  inferInstanceAs (Decidable (_ ∧ _))

/-- A number, if a signed word of `bits` bits can hold it. -/
def word? (bits : Nat) (v : Int) : Option Int :=
  if IsWord bits v then some v else none

/-- Go on by one digit, away from zero; nothing if the digit is none, or if the word overflows. -/
def shift? (bits : Nat) (negative : Bool) (v : Int) (c : Char) : Option Int := do
  let tens ← word? bits (10 * v)
  if isDigit c then
    word? bits (if negative then tens - digitValue c else tens + digitValue c)
  else none

/-- The number that digits denote, if there are any, taken digit by digit into a signed word. -/
def accumulate? (bits : Nat) (negative : Bool) (ds : List Char) : Option Int :=
  if ds.isEmpty then none else ds.foldlM (shift? bits negative) 0

/-- A numeral whose value a signed word of `bits` bits can hold. -/
def signed? (bits : Nat) : List Char → Option Int
  | '+' :: ds => accumulate? bits false ds
  | '-' :: ds => accumulate? bits true ds
  | ds => accumulate? bits false ds

/-- A numeral without a minus sign whose value an unsigned word of `bits` bits can hold. -/
def unsigned? (bits : Nat) (s : List Char) : Option Nat := do
  let v ← natural? (match s with | '+' :: ds => ds | ds => ds)
  if v < Nat.pow 2 bits then some v else none

end Codemod.Numeral
