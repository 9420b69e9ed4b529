import Codemod.Json

set_option autoImplicit false

/-! # Reading JSON

A reader of JSON text by recursive descent. Each function takes the characters that are left and
gives a value with the characters after it. The fuel of `value` bounds the number of calls; as each
call takes a character away, the length of the text is always enough. -/

namespace Codemod.Json.Parser

/-- The blanks between the tokens. -/
def isBlank (c : Char) : Bool :=
  c == ' ' || c == '\n' || c == '\t' || c == '\r'

/-- The text after any blanks. -/
def skip (s : List Char) : List Char :=
  s.dropWhile isBlank

/-! ## Strings -/

/-- The character that a letter after a backslash stands for. -/
def escape? : Char → Option Char
  | '"' => some '"'
  | '\\' => some '\\'
  | '/' => some '/'
  | 'b' => some '\x08'
  | 'f' => some '\x0c'
  | 'n' => some '\n'
  | 'r' => some '\r'
  | 't' => some '\t'
  | _ => none

/-- The character that one or two escaped units stand for, with the text after them. Units of a
pair must come together and in order. -/
def unitEscape? (unit : Nat) (rest : List Char) : Option (Char × List Char) :=
  if unit < 0xD800 ∨ 0xE000 ≤ unit then some (Char.ofNat unit, rest)
  else if 0xDC00 ≤ unit then none
  else
    match rest with
    | '\\' :: 'u' :: a :: b :: c :: d :: rest' => do
      let low ← Numeral.hex? [a, b, c, d]
      if 0xDC00 ≤ low ∧ low < 0xE000 then
        some (Char.ofNat (0x10000 + (unit - 0xD800) * 0x400 + (low - 0xDC00)), rest')
      else none
    | _ => none

/-- The characters up to the closing quote, and the text after it. -/
def stringBody : Nat → List Char → Option (List Char × List Char)
  | 0, _ => none
  | _ + 1, [] => none
  | _ + 1, '"' :: rest => some ([], rest)
  | fuel + 1, '\\' :: 'u' :: a :: b :: c :: d :: rest => do
    let (ch, rest') ← unitEscape? (← Numeral.hex? [a, b, c, d]) rest
    let (s, rest'') ← stringBody fuel rest'
    some (ch :: s, rest'')
  | fuel + 1, '\\' :: c :: rest => do
    let ch ← escape? c
    let (s, rest') ← stringBody fuel rest
    some (ch :: s, rest')
  | fuel + 1, c :: rest => do
    if c.toNat < 0x20 ∨ c = '\\' then none
    else
      let (s, rest') ← stringBody fuel rest
      some (c :: s, rest')

/-! ## Numbers -/

/-- The digits at the start of a text, and the text after them. -/
def digits (s : List Char) : List Char × List Char :=
  (s.takeWhile Numeral.isDigit, s.dropWhile Numeral.isDigit)

/-- A power of ten, if there is one. -/
def exponent? : List Char → Option (Int × List Char)
  | c :: rest =>
    if c = 'e' ∨ c = 'E' then
      let (negative, rest) :=
        match rest with
        | '+' :: r => (false, r)
        | '-' :: r => (true, r)
        | r => (false, r)
      let (ds, rest') := digits rest
      if ds.isEmpty then none
      else
        let n : Int := Numeral.value ds
        some (if negative then -n else n, rest')
    else some (0, c :: rest)
  | [] => some (0, [])

/-- The digits of a significand that a word can hold, and how many were left out. -/
def significand (ds : List Char) : Nat × Nat :=
  ds.foldl (fun (n, dropped) d =>
    let n' := 10 * n + Numeral.digitValue d
    if 0 < dropped ∨ 0x10000000000000000 ≤ n' then (n, dropped + 1) else (n', 0)) (0, 0)

/-- `significand` times a power of ten: both are rounded first and then multiplied or divided, so a
number with many digits can come out next to the nearest one. -/
def scale (significand : Nat) (exponent : Int) : Option Binary64 :=
  if significand = 0 then some (Binary64.ofNat 0)
  else if 308 < exponent then none
  else
    let s := Binary64.ofNat significand
    let r :=
      if 0 ≤ exponent then s.mul (Binary64.ofNat (Nat.pow 10 exponent.toNat))
      else if -308 ≤ exponent then s.div (Binary64.ofNat (Nat.pow 10 (-exponent).toNat))
      else if exponent < -1000 then Binary64.ofNat 0
      else
        let deep := (-exponent).toNat
        let steps := (deep - 1) / 308
        let s := (List.range steps).foldl
          (fun x _ => Binary64.div x (Binary64.ofNat (Nat.pow 10 308))) s
        s.div (Binary64.ofNat (Nat.pow 10 (deep - steps * 308)))
    match r with
    | .finite n m e => some (.finite n m e)
    | _ => none

/-- Change the sign. -/
def negate : Binary64 → Binary64
  | .finite n m e => .finite (!n) m e
  | .infinite n => .infinite (!n)
  | .nan => .nan

/-- A number. A whole number that no word can hold, and the negative zero, are floating-point. -/
def number? (s : List Char) : Option (JsonNumber × List Char) := do
  let (negative, s) := match s with | '-' :: r => (true, r) | r => (false, r)
  let (whole, s) := digits s
  if whole.isEmpty ∨ (1 < whole.length ∧ whole.head? = some '0') then none
  else
    let (fractional, places, s) ←
      match s with
      | '.' :: r =>
        let (ds, r') := digits r
        if ds.isEmpty then none else some (true, ds, r')
      | r => some (false, [], r)
    let scientific := match s with | c :: _ => c == 'e' || c == 'E' | [] => false
    let (e, s) ← exponent? s
    let n := Numeral.value whole
    if !fractional && !scientific && !negative && n < 0x10000000000000000 then some (.natural n, s)
    else if !fractional && !scientific && negative && 0 < n && n ≤ 0x8000000000000000 then
      some (.negative n, s)
    else
      let (m, dropped) := significand (whole ++ places)
      let x ← scale m (e + dropped - places.length)
      some (.double (if negative then negate x else x), s)

/-! ## Values -/

/-- The text after a given word. -/
def word? (w : String) (s : List Char) : Option (List Char) :=
  if w.toList.isPrefixOf s then some (s.drop w.length) else none

mutual

/-- A value after any blanks. -/
def value? : Nat → List Char → Option (Json × List Char)
  | 0, _ => none
  | fuel + 1, s =>
    match skip s with
    | 'n' :: r => (word? "ull" r).map fun r => (.null, r)
    | 't' :: r => (word? "rue" r).map fun r => (.bool true, r)
    | 'f' :: r => (word? "alse" r).map fun r => (.bool false, r)
    | '"' :: r => (stringBody (r.length + 1) r).map fun (s, r) => (.string (String.ofList s), r)
    | '[' :: r =>
      match skip r with
      | ']' :: r' => some (.array [], r')
      | r' => (items? fuel r').map fun (js, r) => (.array js, r)
    | '\x7b' :: r =>
      match skip r with
      | '\x7d' :: r' => some (.object [], r')
      | r' => (members? fuel r').map fun (ms, r) => (.object ms, r)
    | r => (number? r).map fun (n, r) => (.number n, r)

/-- The items of an array that is not empty, up to its closing bracket. -/
def items? : Nat → List Char → Option (List Json × List Char)
  | 0, _ => none
  | fuel + 1, s => do
    let (j, r) ← value? fuel s
    match skip r with
    | ',' :: r' => (items? fuel r').map fun (js, r) => (j :: js, r)
    | ']' :: r' => some ([j], r')
    | _ => none

/-- The members of an object that is not empty, up to its closing brace. -/
def members? : Nat → List Char → Option (List (String × Json) × List Char)
  | 0, _ => none
  | fuel + 1, s =>
    match skip s with
    | '"' :: r => do
      let (name, r) ← stringBody (r.length + 1) r
      match skip r with
      | ':' :: r' => do
        let (j, r) ← value? fuel r'
        let m := (String.ofList name, j)
        match skip r with
        | ',' :: r' => (members? fuel r').map fun (ms, r) => (m :: ms, r)
        | '\x7d' :: r' => some ([m], r')
        | _ => none
      | _ => none
    | _ => none

end

end Parser

/-- The value that a text denotes: one value, with nothing but blanks around it. -/
def parse? (s : List Char) : Option Json := do
  let (j, rest) ← Parser.value? (2 * s.length + 2) s
  if (Parser.skip rest).isEmpty then some j else none

end Codemod.Json
