import Codemod.Number.Binary64
import Codemod.Toml.Token

set_option autoImplicit false

/-! # Numbers and times of a configuration document

Whole numbers in four bases, numbers with a point or a power of ten, and dates and times. A whole
number must fit into a signed word of 64 bits. Of a time only its form is checked. -/

namespace Codemod.Toml

/-- A sign, if there is one: whether the number is negative. -/
def sign : List Char → Bool × List Char
  | '+' :: rest => (false, rest)
  | '-' :: rest => (true, rest)
  | s => (false, s)

/-- Digits with single underscores between them, at least one of them. -/
def digits? (isDigit : Char → Bool) : List Char → Option (List Char × List Char)
  | [] => none
  | c :: rest => if isDigit c then some (c :: (more rest).1, (more rest).2) else none
where
  /-- The digits that follow a digit. -/
  more : List Char → List Char × List Char
    | [] => ([], [])
    | '_' :: d :: rest =>
      if isDigit d then (d :: (more rest).1, (more rest).2) else ([], '_' :: d :: rest)
    | c :: rest => if isDigit c then (c :: (more rest).1, (more rest).2) else ([], c :: rest)

/-! ## Whole numbers -/

/-- The digits of a decimal number without zeros in front. -/
def decimal? (s : List Char) : Option (List Char × List Char) := do
  match s with
  | '0' :: rest => some (['0'], rest)
  | s => digits? Numeral.isDigit s

/-- A number that a signed word of 64 bits can hold. -/
def word? (negative : Bool) (n : Nat) : Option Int :=
  if negative then (if n ≤ 0x8000000000000000 then some (-(n : Int)) else none)
  else if n < 0x8000000000000000 then some n else none

/-- The number that digits of a base denote. -/
def inBase (base : Nat) (digits : List Char) : Nat :=
  digits.foldl (fun n d => base * n + (Numeral.hexDigit? d).getD 0) 0

/-- A whole number of another base, after its mark. -/
def based? (base : Nat) (s : List Char) : Option (Int × List Char) := do
  let isDigit := fun c => match Numeral.hexDigit? c with | some d => d < base | none => false
  let (ds, rest) ← digits? isDigit s
  let n ← word? false (inBase base ds)
  some (n, rest)

/-- A whole number. -/
def integer? : List Char → Option (Int × List Char)
  | '0' :: 'x' :: rest => based? 16 rest
  | '0' :: 'o' :: rest => based? 8 rest
  | '0' :: 'b' :: rest => based? 2 rest
  | s => do
    let (negative, s) := sign s
    let (ds, rest) ← decimal? s
    let n ← word? negative (Numeral.value ds)
    some (n, rest)

/-! ## Numbers with a point -/

/-- A power of ten. -/
def exponent? : List Char → Option (Int × List Char)
  | c :: s => do
    if c ≠ 'e' ∧ c ≠ 'E' then none
    else
      let (negative, s) := sign s
      let (ds, rest) ← digits? Numeral.isDigit s
      let n : Int := Numeral.value ds
      some (if negative then -n else n, rest)
  | [] => none

/-- A number with a point, a power of ten or both. One that is too large is refused, one that is
too small is not. -/
def point? (s : List Char) : Option (Binary64 × List Char) := do
  let (negative, s) := sign s
  let (whole, s) ← decimal? s
  let (places, e, rest) ←
    match s with
    | '.' :: s => do
      let (places, rest) ← digits? Numeral.isDigit s
      match rest with
      | c :: _ =>
        if c = 'e' ∨ c = 'E' then do
          let (e, rest) ← exponent? rest
          some (places, e, rest)
        else some (places, (0 : Int), rest)
      | [] => some (places, 0, [])
    | s => do
      let (e, rest) ← exponent? s
      some ([], e, rest)
  match Binary64.ofDecimal negative (Numeral.value (whole ++ places)) (e - places.length) with
  | .infinite false => none
  | x => some (x, rest)

/-- Infinity, or what is no number. -/
def special? (s : List Char) : Option (Binary64 × List Char) :=
  let (negative, s) := sign s
  match s with
  | 'i' :: 'n' :: 'f' :: rest => some (.infinite negative, rest)
  | 'n' :: 'a' :: 'n' :: rest => some (.nan, rest)
  | _ => none

/-- A floating-point number. -/
def float? (s : List Char) : Option (Binary64 × List Char) :=
  (point? s).orElse fun _ => special? s

/-! ## Dates and times -/

/-- The text after a character. -/
def after? (c : Char) : List Char → Option (List Char)
  | d :: rest => if c = d then some rest else none
  | [] => none

/-- A number of exactly `count` digits, in a range. -/
def field? (count low high : Nat) (s : List Char) : Option (Nat × List Char) :=
  let ds := s.take count
  if ds.length = count ∧ ds.all Numeral.isDigit ∧ low ≤ Numeral.value ds ∧
      Numeral.value ds ≤ high then
    some (Numeral.value ds, s.drop count)
  else none

/-- The number of days of a month. -/
def daysIn (year month : Nat) : Nat :=
  let leap := year % 4 == 0 && (year % 100 != 0 || year % 400 == 0)
  match month with
  | 2 => if leap then 29 else 28
  | 4 | 6 | 9 | 11 => 30
  | _ => 31

/-- The text after a date. -/
def date? (s : List Char) : Option (List Char) := do
  let (year, s) ← field? 4 0 9999 s
  let (month, s) ← field? 2 1 12 (← after? '-' s)
  let (_, s) ← field? 2 1 (daysIn year month) (← after? '-' s)
  some s

/-- The text after a time of the day. -/
def time? (s : List Char) : Option (List Char) := do
  let (_, s) ← field? 2 0 23 s
  let (_, s) ← field? 2 0 59 (← after? ':' s)
  let (_, s) ← field? 2 0 60 (← after? ':' s)
  match s with
  | '.' :: c :: rest => some (if Numeral.isDigit c then rest.dropWhile Numeral.isDigit else s)
  | s => some s

/-- The text after an offset from universal time, if there is one. -/
def skipOffset (s : List Char) : Option (List Char) :=
  match s with
  | 'Z' :: rest | 'z' :: rest => some rest
  | '+' :: rest | '-' :: rest => do
    let (_, s) ← field? 2 0 23 rest
    let (_, s) ← field? 2 0 59 (← after? ':' s)
    some s
  | s => some s

/-- The text after a date, a time or both. -/
def moment? (s : List Char) : Option (List Char) :=
  match date? s with
  | none => time? s
  | some rest =>
    match rest with
    | c :: clock =>
      if c = 'T' ∨ c = 't' ∨ c = ' ' then
        match time? clock with
        | some rest => skipOffset rest
        | none => some rest
      else some rest
    | [] => some []

end Codemod.Toml
