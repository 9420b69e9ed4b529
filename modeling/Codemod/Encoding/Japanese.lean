import Codemod.Encoding.Machine
import Codemod.Encoding.Table.Jis0208
import Codemod.Encoding.Table.Jis0212

set_option autoImplicit false

/-! # Japanese character sets

Three ways to write the characters of JIS X 0208: shifted into the gaps of a single-byte set, with
the high bit set, and with escape sequences in seven bits. -/

namespace Codemod.Encoding.Japanese

/-- The half-width katakana in a given place. -/
def halfWidth (place : Nat) : Char :=
  Char.ofNat (0xFF61 + place)

/-- The first place that is kept for private characters. -/
def privateStart : Nat := 8836

/-- The first place after those. -/
def privateEnd : Nat := 10716

/-- The character in a place of the table. -/
def kanji? (place : Nat) : Option Char :=
  if place < privateStart then Table.assigned? Table.jis0208 place
  else if place < privateEnd then none
  else Table.assigned? Table.jis0208Extension (place - privateEnd)

/-! ## Shift_JIS -/

/-- The character of a pair of bytes; the private places have a character each. -/
def shiftPair (lead trail : UInt8) : Option (List Char) :=
  let place := (lead.toNat - if lead < 0xA0 then 0x81 else 0xC1) * 188 + trailPlace trail
  if trail < 0x40 || trail == 0x7F || 0xFC < trail then none
  else if privateStart ≤ place ∧ place < privateEnd then
    some [Char.ofNat (0xE000 + (place - privateStart))]
  else (kanji? place).map ([·])

/-- The decoder of Shift_JIS. -/
def shiftJis : Machine :=
  .paired
    (fun b =>
      if b ≤ 0x80 then .character (asciiChar b)
      else if 0xA1 ≤ b && b ≤ 0xDF then .character (halfWidth (b.toNat - 0xA1))
      else if b ≤ 0x9F || (0xE0 ≤ b && b ≤ 0xFC) then .lead
      else .invalid)
    shiftPair

/-! ## EUC-JP -/

/-- The bytes of an unfinished character. -/
inductive EucState where
  | start
  | lead (b : UInt8)
  | supplementLead (b : UInt8)

/-- A byte of a row or of a column. -/
def isHigh (b : UInt8) : Bool :=
  0xA1 ≤ b && b ≤ 0xFE

/-- The place of a row and a column. -/
def eucPlace (lead trail : UInt8) : Nat :=
  (lead.toNat - 0xA1) * 94 + (trail.toNat - 0xA1)

/-- What one byte does. -/
def eucFeed : EucState → UInt8 → Option (EucState × List Char)
  | .start, b =>
    if b < 0x80 then some (.start, [asciiChar b])
    else if b == 0x8E || b == 0x8F || isHigh b then some (.lead b, [])
    else none
  | .lead lead, b =>
    if !isHigh b then none
    else if lead == 0x8E then
      if b ≤ 0xDF then some (.start, [halfWidth (b.toNat - 0xA1)]) else none
    else if lead == 0x8F then some (.supplementLead b, [])
    else (kanji? (eucPlace lead b)).map fun c => (.start, [c])
  | .supplementLead lead, b =>
    if isHigh b then
      (Table.assigned? Table.jis0212 (eucPlace lead b)).map fun c => (.start, [c])
    else none

/-- The decoder of EUC-JP. -/
def eucJp : Machine where
  State := EucState
  start := .start
  feed := eucFeed
  mayEnd := fun s => match s with | .start => true | _ => false

/-! ## ISO-2022-JP -/

/-- The sets between which escape sequences switch. -/
inductive Shift where
  | ascii
  | roman
  | katakana
  | kanji
deriving DecidableEq, Repr

/-- How far an escape sequence or a pair has come. -/
inductive Partial where
  | none
  | escape
  | escapeWith (b : UInt8)
  | lead (b : UInt8)

/-- The state between two bytes. `bare` holds after an escape sequence until a character follows: a
second sequence at once is a fault. -/
structure SevenBitState where
  shift : Shift
  pending : Partial
  bare : Bool

/-- The set that an escape sequence switches to. -/
def shiftOf? (first second : UInt8) : Option Shift :=
  match first.toNat, second.toNat with
  | 0x28, 0x42 => some .ascii
  | 0x28, 0x4A => some .roman
  | 0x28, 0x49 => some .katakana
  | 0x24, 0x40 => some .kanji
  | 0x24, 0x42 => some .kanji
  | _, _ => none

/-- The character of a byte in one of the sets of single bytes. -/
def sevenBitChar? (shift : Shift) (b : UInt8) : Option Char :=
  if shift == .katakana then
    if 0x21 ≤ b && b ≤ 0x5F then some (halfWidth (b.toNat - 0x21)) else none
  else if 0x7F < b || b == 0x0E || b == 0x0F then none
  else if shift == .roman && b == 0x5C then some '¥'
  else if shift == .roman && b == 0x7E then some '‾'
  else some (asciiChar b)

/-- What one byte does. -/
def sevenBitFeed (s : SevenBitState) (b : UInt8) : Option (SevenBitState × List Char) :=
  match s.pending with
  | .none =>
    if b == 0x1B then some ({ s with pending := .escape }, [])
    else if s.shift == .kanji then
      if 0x21 ≤ b && b ≤ 0x7E then some ({ s with pending := .lead b, bare := false }, []) else none
    else (sevenBitChar? s.shift b).map fun c => ({ s with bare := false }, [c])
  | .escape =>
    if b == 0x24 || b == 0x28 then some ({ s with pending := .escapeWith b }, []) else none
  | .escapeWith first => do
    let shift ← shiftOf? first b
    if s.bare then none else some (⟨shift, .none, true⟩, [])
  | .lead lead =>
    if 0x21 ≤ b && b ≤ 0x7E then
      (kanji? ((lead.toNat - 0x21) * 94 + (b.toNat - 0x21))).map fun c =>
        ({ s with pending := .none }, [c])
    else none

/-- The decoder of ISO-2022-JP. -/
def iso2022Jp : Machine where
  State := SevenBitState
  start := ⟨.ascii, .none, false⟩
  feed := sevenBitFeed
  mayEnd := fun s => match s.pending with | .none => true | _ => false

end Codemod.Encoding.Japanese
