import Codemod.Encoding.Machine
import Codemod.Encoding.Table.Big5
import Codemod.Encoding.Table.EucKr
import Codemod.Encoding.Table.Gb18030
import Codemod.Encoding.Table.Gb18030Ranges

set_option autoImplicit false

/-! # Chinese and Korean character sets

GB 18030, which covers all of Unicode with two or four bytes, Big5, and the Korean set. -/

namespace Codemod.Encoding.Chinese

/-! ## GB 18030 -/

/-- The bytes of an unfinished character. -/
inductive GbState where
  | start
  | one (b₁ : UInt8)
  | two (b₁ b₂ : UInt8)
  | three (b₁ b₂ b₃ : UInt8)

/-- A first or third byte. -/
def isGbLead (b : UInt8) : Bool :=
  0x81 ≤ b && b ≤ 0xFE

/-- A second or fourth byte of a character of four. -/
def isGbDigit (b : UInt8) : Bool :=
  0x30 ≤ b && b ≤ 0x39

/-- The code point in a place of the four-byte part. Beyond the first plane the places are
consecutive; before, they are the code points that no pair of bytes stands for. -/
def fourByteChar? (place : Nat) : Option Char :=
  if (39419 < place ∧ place < 189000) ∨ 1237575 < place then none
  else if place = 7457 then some '\uE7C7'
  else
    match Table.gb18030Ranges.reverse.find? (·.1 ≤ place) with
    | some (first, code) => some (Char.ofNat (code + (place - first)))
    | none => none

/-- The place of four bytes. -/
def fourBytePlace (b₁ b₂ b₃ b₄ : UInt8) : Nat :=
  (((b₁.toNat - 0x81) * 10 + (b₂.toNat - 0x30)) * 126 + (b₃.toNat - 0x81)) * 10 + (b₄.toNat - 0x30)

/-- The character of two bytes. -/
def twoByteChar? (lead trail : UInt8) : Option Char :=
  if trail < 0x40 || trail == 0x7F || trail == 0xFF then none
  else Table.assigned? Table.gb18030 ((lead.toNat - 0x81) * 190 + trailPlace trail)

/-- What one byte does. -/
def gbFeed : GbState → UInt8 → Option (GbState × List Char)
  | .start, b =>
    if b < 0x80 then some (.start, [asciiChar b])
    else if b == 0x80 then some (.start, ['€'])
    else if isGbLead b then some (.one b, [])
    else none
  | .one b₁, b =>
    if isGbDigit b then some (.two b₁ b, []) else (twoByteChar? b₁ b).map fun c => (.start, [c])
  | .two b₁ b₂, b => if isGbLead b then some (.three b₁ b₂ b, []) else none
  | .three b₁ b₂ b₃, b =>
    if isGbDigit b then
      (fourByteChar? (fourBytePlace b₁ b₂ b₃ b)).map fun c => (.start, [c])
    else none

/-- The decoder of GB 18030, and of its subset GBK. -/
def gb18030 : Machine where
  State := GbState
  start := .start
  feed := gbFeed
  mayEnd := fun s => match s with | .start => true | _ => false

/-! ## Big5 -/

/-- The places that stand for a letter with a mark of its own. -/
def composed? : Nat → Option (List Char)
  | 1133 => some ['\u00CA', '\u0304']
  | 1135 => some ['\u00CA', '\u030C']
  | 1164 => some ['\u00EA', '\u0304']
  | 1166 => some ['\u00EA', '\u030C']
  | _ => none

/-- The characters of a pair of bytes. -/
def big5Pair (lead trail : UInt8) : Option (List Char) :=
  if trail < 0x40 || (0x7F ≤ trail && trail < 0xA1) || trail == 0xFF then none
  else
    let place := (lead.toNat - 0x81) * 157 + (trail.toNat - if trail < 0x7F then 0x40 else 0x62)
    match composed? place with
    | some cs => some cs
    | none => (Table.assigned? Table.big5 place).map ([·])

/-- The decoder of Big5. -/
def big5 : Machine :=
  .paired
    (fun b => if b < 0x80 then .character (asciiChar b) else if isGbLead b then .lead else .invalid)
    big5Pair

/-! ## Korean -/

/-- The character of a pair of bytes. -/
def koreanPair (lead trail : UInt8) : Option (List Char) :=
  if trail < 0x41 || trail == 0xFF then none
  else
    (Table.assigned? Table.eucKr ((lead.toNat - 0x81) * 190 + (trail.toNat - 0x41))).map ([·])

/-- The decoder of EUC-KR. -/
def eucKr : Machine :=
  .paired
    (fun b => if b < 0x80 then .character (asciiChar b) else if isGbLead b then .lead else .invalid)
    koreanPair

end Codemod.Encoding.Chinese
