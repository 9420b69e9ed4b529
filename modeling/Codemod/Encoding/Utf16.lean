import Codemod.Encoding.Machine

set_option autoImplicit false

/-! # UTF-16

Two bytes for a unit, in either order, and one or two units for a character. -/

namespace Codemod.Encoding.Utf16

/-- The first byte of a unit, and the first unit of a pair. -/
structure State where
  byte : Option UInt8 := none
  high : Option Nat := none

/-- What a whole unit does. -/
def feedUnit (high : Option Nat) (unit : Nat) : Option (State × List Char) :=
  let isHigh := 0xD800 ≤ unit && unit < 0xDC00
  let isLow := 0xDC00 ≤ unit && unit < 0xE000
  match high with
  | some h =>
    if isLow then
      some ({}, [Char.ofNat (0x10000 + (h - 0xD800) * 0x400 + (unit - 0xDC00))])
    else none
  | none =>
    if isHigh then some ({ high := some unit }, [])
    else if isLow then none
    else some ({}, [Char.ofNat unit])

/-- The decoder; `bigEndian` says that the higher byte comes first. -/
def machine (bigEndian : Bool) : Machine where
  State := State
  start := {}
  feed := fun s b =>
    match s.byte with
    | none => some ({ s with byte := some b }, [])
    | some a =>
      feedUnit s.high (if bigEndian then a.toNat * 256 + b.toNat else b.toNat * 256 + a.toNat)
  mayEnd := fun s => s.byte.isNone && s.high.isNone

end Codemod.Encoding.Utf16
