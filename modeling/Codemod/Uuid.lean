import Codemod.Number.Numeral

set_option autoImplicit false

/-! # Unique names

Random identifiers as names that never come twice. A generator remembers what it has handed out and
passes over a drawn identifier whose text it has handed out before. The source of the identifiers is
a list, so that it can hold anything that chance may deliver. -/

namespace Codemod

/-- An identifier of 128 bits. -/
structure Uuid where
  value : BitVec 128
deriving DecidableEq, Repr

namespace Uuid

/-- The identifier with some random bits: four bits tell that it is a random one, and two of what
kind. -/
def ofRandom (bits : BitVec 128) : Uuid :=
  let version : BitVec 128 := 0xF <<< 76
  let variant : BitVec 128 := 0x3 <<< 62
  ⟨((bits &&& ~~~version ||| 0x4 <<< 76) &&& ~~~variant) ||| 0x2 <<< 62⟩

/-- The hexadecimal digits, the highest first. -/
def digits (u : Uuid) : List Char :=
  (List.range 32).map fun i => Numeral.hexDigit (u.value.toNat / Nat.pow 16 (31 - i) % 16)

/-- The lengths of the groups of digits between dashes. -/
def groups : List Nat := [8, 4, 4, 4, 12]

/-- Digits with dashes between the groups. -/
def dashed : List Nat → List Char → List Char
  | [], _ => []
  | [n], ds => ds.take n
  | n :: rest, ds => ds.take n ++ '-' :: dashed rest (ds.drop n)

/-- The text of an identifier, with dashes or without. -/
def text (u : Uuid) (dash : Bool) : String :=
  String.ofList (if dash then dashed groups u.digits else u.digits)

/-- Whether a text is that of a random identifier. -/
def isText (dash : Bool) (s : String) : Bool :=
  let ds := s.toList.filter (· != '-')
  ds.length == 32 && ds.all (fun c => Numeral.isDigit c || 'a' ≤ c && c ≤ 'f')
    && ds[12]? == some '4' && ['8', '9', 'a', 'b'].contains (ds[16]?.getD ' ')
    && s.toList == if dash then dashed groups ds else ds

/-! ## Generators -/

/-- A generator of unique names. -/
structure Generator where
  dash : Bool
  /-- What has been handed out, the last one first. -/
  used : List String := []
deriving DecidableEq, Repr

namespace Generator

/-- How many names have been handed out. -/
def issued (g : Generator) : Nat := g.used.length

/-- The next name, and what is left of the source; nothing if the source runs out before it delivers
a new one. -/
def next? (g : Generator) : List Uuid → Option (String × Generator × List Uuid)
  | [] => none
  | u :: source =>
    let name := u.text g.dash
    if g.used.contains name then g.next? source
    else some (name, { g with used := name :: g.used }, source)

/-- The next names, as many as are asked for. -/
def take? (g : Generator) : Nat → List Uuid → Option (List String × Generator × List Uuid)
  | 0, source => some ([], g, source)
  | n + 1, source => do
    let (name, g, source) ← g.next? source
    let (names, g, source) ← g.take? n source
    some (name :: names, g, source)

end Generator

end Uuid

end Codemod
