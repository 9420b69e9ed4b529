set_option autoImplicit false

/-! # UTF-8

Decoding with an exact account of the first fault: where it begins, and how many bytes can be
skipped to go on, unless the text ends in the middle of a character. `encode` is the other
direction. -/

namespace Codemod.Encoding.Utf8

/-- The first place where bytes are not UTF-8. -/
structure Fault where
  /-- The number of bytes before the fault. -/
  index : Nat
  /-- The length of the faulty part; nothing if more bytes could still complete a character. -/
  length : Option Nat
deriving DecidableEq, Repr

/-- The text that describes a fault. -/
def Fault.message (fault : Fault) : String :=
  match fault.length with
  | some n =>
    "invalid utf-8 sequence of " ++ toString n ++ " bytes from index " ++ toString fault.index
  | none => "incomplete utf-8 byte sequence from index " ++ toString fault.index

/-! ## The parts of a character -/

/-- A byte that continues a character. -/
def isContinuation (b : UInt8) : Bool :=
  0x80 ≤ b && b ≤ 0xBF

/-- The bits that a continuation byte carries. -/
def payload (b : UInt8) : Nat :=
  b.toNat - 0x80

/-- Whether `b` can be the second byte after a first byte of three. -/
def isSecondOfThree (first b : UInt8) : Bool :=
  if first == 0xE0 then 0xA0 ≤ b && b ≤ 0xBF
  else if first == 0xED then 0x80 ≤ b && b ≤ 0x9F
  else isContinuation b

/-- Whether `b` can be the second byte after a first byte of four. -/
def isSecondOfFour (first b : UInt8) : Bool :=
  if first == 0xF0 then 0x90 ≤ b && b ≤ 0xBF
  else if first == 0xF4 then 0x80 ≤ b && b ≤ 0x8F
  else isContinuation b

/-- The number of bytes of a character with a given first byte, if there is one. -/
def lengthOfFirst (first : UInt8) : Option Nat :=
  if first < 0x80 then some 1
  else if 0xC2 ≤ first && first ≤ 0xDF then some 2
  else if 0xE0 ≤ first && first ≤ 0xEF then some 3
  else if 0xF0 ≤ first && first ≤ 0xF4 then some 4
  else none

/-! ## Decoding -/

set_option maxRecDepth 2000 in
/-- The characters of the bytes from place `index` on. -/
def decodeFrom (index : Nat) : List UInt8 → Except Fault (List Char)
  | [] => .ok []
  | b :: rest =>
    let fail (length : Option Nat) : Except Fault (List Char) := .error ⟨index, length⟩
    match lengthOfFirst b, rest with
    | some 1, rest => (decodeFrom (index + 1) rest).map (Char.ofNat b.toNat :: ·)
    | some 2, [] => fail none
    | some 2, b₂ :: rest =>
      if isContinuation b₂ then
        (decodeFrom (index + 2) rest).map (Char.ofNat ((b.toNat - 0xC0) * 64 + payload b₂) :: ·)
      else fail (some 1)
    | some 3, [] => fail none
    | some 3, [b₂] => if isSecondOfThree b b₂ then fail none else fail (some 1)
    | some 3, b₂ :: b₃ :: rest =>
      if !isSecondOfThree b b₂ then fail (some 1)
      else if !isContinuation b₃ then fail (some 2)
      else
        (decodeFrom (index + 3) rest).map
          (Char.ofNat (((b.toNat - 0xE0) * 64 + payload b₂) * 64 + payload b₃) :: ·)
    | some 4, [] => fail none
    | some 4, [b₂] => if isSecondOfFour b b₂ then fail none else fail (some 1)
    | some 4, [b₂, b₃] =>
      if !isSecondOfFour b b₂ then fail (some 1)
      else if isContinuation b₃ then fail none else fail (some 2)
    | some 4, b₂ :: b₃ :: b₄ :: rest =>
      if !isSecondOfFour b b₂ then fail (some 1)
      else if !isContinuation b₃ then fail (some 2)
      else if !isContinuation b₄ then fail (some 3)
      else
        (decodeFrom (index + 4) rest).map
          (Char.ofNat ((((b.toNat - 0xF0) * 64 + payload b₂) * 64 + payload b₃) * 64 + payload b₄)
            :: ·)
    | _, _ => fail (some 1)

/-- The characters of some bytes. -/
def decode (bytes : List UInt8) : Except Fault (List Char) :=
  decodeFrom 0 bytes

/-- Whether bytes are UTF-8. -/
def isValid (bytes : List UInt8) : Bool :=
  match decode bytes with
  | .ok _ => true
  | .error _ => false

/-- The characters of some bytes, with a replacement character for every faulty part. -/
def decodeLossy (bytes : List UInt8) : List Char :=
  go (bytes.length + 1) bytes
where
  /-- Decode up to the next fault, skip it and go on. -/
  go : Nat → List UInt8 → List Char
    | 0, _ => []
    | fuel + 1, bytes =>
      match decode bytes with
      | .ok cs => cs
      | .error fault =>
        let before := match decode (bytes.take fault.index) with | .ok cs => cs | .error _ => []
        let after :=
          match fault.length with
          | some n => go fuel (bytes.drop (fault.index + n))
          | none => []
        before ++ '\uFFFD' :: after

/-! ## Encoding -/

/-- The bytes of a character. -/
def encodeChar (c : Char) : List UInt8 :=
  let n := c.toNat
  let continuation (k : Nat) : UInt8 := UInt8.ofNat (0x80 + k % 64)
  if n < 0x80 then [UInt8.ofNat n]
  else if n < 0x800 then [UInt8.ofNat (0xC0 + n / 64), continuation n]
  else if n < 0x10000 then
    [UInt8.ofNat (0xE0 + n / 4096), continuation (n / 64), continuation n]
  else
    [UInt8.ofNat (0xF0 + n / 262144), continuation (n / 4096), continuation (n / 64),
      continuation n]

/-- The bytes of a text. -/
def encode (s : List Char) : List UInt8 :=
  s.flatMap encodeChar

end Codemod.Encoding.Utf8
