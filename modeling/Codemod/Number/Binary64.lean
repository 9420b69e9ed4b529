import Codemod.Number.Numeral

set_option autoImplicit false

/-! # Binary floating-point numbers

Numbers of 53 significant bits as exact values, the rounding of a fraction to the nearest of them,
and their shortest decimal text. All arithmetic is on natural numbers, so nothing here depends on
the machine's own floating point. -/

namespace Codemod

/-- A number with a sign, a mantissa below `2 ^ 53` and a power of two, or one of the special
values. -/
inductive Binary64 where
  | finite (negative : Bool) (mantissa : Nat) (exponent : Int)
  | infinite (negative : Bool)
  | nan
deriving DecidableEq, Repr

namespace Binary64

/-! ## Rounding -/

/-- The quotient rounded to the nearest whole number, a half to the even one. -/
def roundDiv (num den : Nat) : Nat :=
  let q := num / den
  let r := num % den
  if 2 * r < den then q else if den < 2 * r then q + 1 else q + q % 2

/-- The smallest power of two that a number can have. -/
def minExponent : Int := -1074

/-- The largest power of two that a number can have. -/
def maxExponent : Int := 971

/-- The number of binary digits of a natural number. -/
def bitLength (n : Nat) : Nat :=
  if n = 0 then 0 else Nat.log2 n + 1

/-- `num / den` times the power of two that leaves a mantissa of `2 ^ exponent`, rounded. -/
def mantissaAt (num den : Nat) (exponent : Int) : Nat :=
  if 0 ≤ exponent then roundDiv num (den * Nat.pow 2 exponent.toNat)
  else roundDiv (num * Nat.pow 2 (-exponent).toNat) den

/-- Bring a mantissa that rounding made one bit too long back into its range. -/
def normalise (negative : Bool) (mantissa : Nat) (exponent : Int) : Binary64 :=
  if mantissa < 0x20000000000000 then
    if maxExponent < exponent then .infinite negative else .finite negative mantissa exponent
  else if maxExponent < exponent + 1 then .infinite negative
  else .finite negative (mantissa / 2) (exponent + 1)

/-- The number nearest to a fraction. Its mantissa has 53 or 54 digits with the power of two that
the lengths of numerator and denominator suggest, and in the latter case the power is one higher. -/
def ofFraction (negative : Bool) (num den : Nat) : Binary64 :=
  if num = 0 then .finite negative 0 0
  else
    let low : Int := (bitLength num : Int) - bitLength den - 53
    let long := 0 ≤ low + 53 ∧ den * Nat.pow 2 (low + 53).toNat ≤ num ∨
      low + 53 < 0 ∧ den ≤ num * Nat.pow 2 (-(low + 53)).toNat
    let exponent := max (if long then low + 1 else low) minExponent
    normalise negative (mantissaAt num den exponent) exponent

/-- The number nearest to a natural number. -/
def ofNat (n : Nat) : Binary64 :=
  ofFraction false n 1

/-- The power of ten beyond which every text of at most `digits` digits is zero or infinite. -/
def exponentLimit (digits : Nat) : Int := digits + 400

/-- The number nearest to a decimal: `digits` times ten to the power of `exponent`. -/
def ofDecimal (negative : Bool) (digits : Nat) (exponent : Int) : Binary64 :=
  if digits = 0 then .finite negative 0 0
  else
    let limit := exponentLimit (bitLength digits)
    if limit < exponent then .infinite negative
    else if exponent < -limit then .finite negative 0 0
    else if 0 ≤ exponent then ofFraction negative (digits * Nat.pow 10 exponent.toNat) 1
    else ofFraction negative digits (Nat.pow 10 (-exponent).toNat)

/-! ## Exact values -/

/-- Numerator and denominator of the magnitude of a finite number. -/
def fraction (mantissa : Nat) (exponent : Int) : Nat × Nat :=
  if 0 ≤ exponent then (mantissa * Nat.pow 2 exponent.toNat, 1) else (mantissa, Nat.pow 2 (-exponent).toNat)

/-- The rounded product of two numbers that are not negative. -/
def mul : Binary64 → Binary64 → Binary64
  | .finite _ m e, .finite _ m' e' =>
    let (n, d) := fraction m e
    let (n', d') := fraction m' e'
    ofFraction false (n * n') (d * d')
  | .nan, _ => .nan
  | _, .nan => .nan
  | _, _ => .infinite false

/-- The rounded quotient of two finite numbers that are not negative, the second not zero. -/
def div : Binary64 → Binary64 → Binary64
  | .finite _ m e, .finite _ m' e' =>
    let (n, d) := fraction m e
    let (n', d') := fraction m' e'
    if m' = 0 then .infinite false else ofFraction false (n * d') (d * n')
  | _, _ => .nan

/-! ## Shortest text -/

/-- The largest power of ten that is not above `num / den`, searched downwards from `limit`. -/
def decimalExponent (num den : Nat) : Nat → Int
  | 0 => -400
  | fuel + 1 =>
    let e : Int := (fuel : Int) - 400
    let fits := if 0 ≤ e then den * Nat.pow 10 e.toNat ≤ num else den ≤ num * Nat.pow 10 (-e).toNat
    if fits then e else decimalExponent num den fuel

/-- Whether a fraction rounds to the given number. -/
def roundsTo (num den : Nat) (mantissa : Nat) (exponent : Int) : Bool :=
  ofFraction false num den == .finite false mantissa exponent

/-- A fraction written with the unit `10 ^ e`. -/
def onGrid (k : Nat) (e : Int) : Nat × Nat :=
  if 0 ≤ e then (k * Nat.pow 10 e.toNat, 1) else (k, Nat.pow 10 (-e).toNat)

/-- The decimal of `count` digits nearest to the number that reads back as it, if there is one. -/
def ofDigitCount? (mantissa : Nat) (exponent : Int) (count : Nat) : Option (Nat × Int) :=
  let (num, den) := fraction mantissa exponent
  let unit := decimalExponent num den 800 - (count - 1)
  let scaled := if 0 ≤ unit then (num, den * Nat.pow 10 unit.toNat) else (num * Nat.pow 10 (-unit).toNat, den)
  let below := scaled.1 / scaled.2
  let reads (k : Nat) : Bool :=
    let (n, d) := onGrid k unit
    roundsTo n d mantissa exponent
  let nearest := roundDiv scaled.1 scaled.2
  if reads nearest then some (nearest, unit)
  else if reads below then some (below, unit)
  else if reads (below + 1) then some (below + 1, unit)
  else none

/-- The digits and the power of ten of the shortest decimal that reads back as the number. -/
def shortest (mantissa : Nat) (exponent : Int) : Nat × Int :=
  ((List.range 17).findSome? fun i => ofDigitCount? mantissa exponent (i + 1)).getD (mantissa, 0)

/-- Digits with a decimal point and no power of ten; no point if the number is whole. -/
def positional (digits : Nat) (exponent : Int) : String :=
  if 0 ≤ exponent then toString (digits * Nat.pow 10 exponent.toNat)
  else
    let places := (-exponent).toNat
    let text := (toString digits).toList
    let padded := List.replicate (places + 1 - text.length) '0' ++ text
    let whole := padded.take (padded.length - places)
    let rest := Codemod.Numeral.dropTrailingZeros (padded.drop (padded.length - places))
    String.ofList (if rest.isEmpty then whole else whole ++ '.' :: rest)

/-- The shortest text that reads back as the number. -/
def text : Binary64 → String
  | .nan => "NaN"
  | .infinite negative => if negative then "-inf" else "inf"
  | .finite negative mantissa exponent =>
    let body :=
      if mantissa = 0 then "0"
      else
        let (digits, e) := shortest mantissa exponent
        positional digits e
    if negative then "-" ++ body else body

/-- A power of ten with its sign and at least two digits. -/
def powerText (power : Int) : String :=
  (if power < 0 then "e-" else "e+") ++ (if power.natAbs < 10 then "0" else "")
    ++ toString power.natAbs

/-- Digits with one of them before the point, and a power of ten. -/
def scientific (digits : Nat) (exponent : Int) : String :=
  let text := Codemod.Numeral.dropTrailingZeros (toString digits).toList
  let power := exponent + (toString digits).length - 1
  let rest := text.drop 1
  String.ofList (text.take 1 ++ (if rest.isEmpty then [] else '.' :: rest)) ++ powerText power

/-- The shortest text in which a data format writes the number: a point in every whole number, and a
power of ten below `10 ^ -5` and from `10 ^ 16` on. -/
def dataText (x : Binary64) : String :=
  match x with
  | .finite negative mantissa exponent =>
    if mantissa = 0 then (if negative then "-0.0" else "0.0")
    else
      let (digits, e) := shortest mantissa exponent
      let places := e + (toString digits).length
      let body :=
        if -5 < places ∧ places ≤ 16 then
          let whole := positional digits e
          if whole.toList.contains '.' then whole else whole ++ ".0"
        else scientific digits e
      if negative then "-" ++ body else body
  | _ => x.text

/-- The digits at the start of a text, and the text after them. -/
def digitsOf (s : List Char) : List Char × List Char :=
  (s.takeWhile Codemod.Numeral.isDigit, s.dropWhile Codemod.Numeral.isDigit)

/-- The number that a text with a point denotes. Digits may be missing on one side of the point. -/
def ofPointText? (s : List Char) : Option Binary64 := do
  let (negative, s) := match s with
    | '-' :: rest => (true, rest)
    | '+' :: rest => (false, rest)
    | s => (false, s)
  let (whole, s) := digitsOf s
  let (places, s) ← match s with
    | '.' :: rest => some (digitsOf rest)
    | _ => none
  if whole.isEmpty && places.isEmpty then none
  else
    let e ← match s with
      | [] => some 0
      | c :: rest =>
        if c = 'e' ∨ c = 'E' then Codemod.Numeral.integer? rest else none
    some (ofDecimal negative (Codemod.Numeral.value (whole ++ places)) (e - places.length))

end Binary64

end Codemod
