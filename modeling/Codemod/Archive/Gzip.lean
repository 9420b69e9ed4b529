import Codemod.Archive.Inflate
import Codemod.Archive.Source

set_option autoImplicit false

/-! # Compressed files

The gzip format: a header with optional fields, compressed data, and at the end a check sum and the
length of the data. What follows after that is of no interest. -/

namespace Codemod.Archive.Gzip

/-! ## Check sums -/

/-- The check polynomial, its bits reversed. -/
def polynomial : UInt32 := 0xEDB88320

/-- Shift a remainder by one bit. -/
def shift (r : UInt32) : UInt32 :=
  if r &&& 1 == 1 then (r >>> 1) ^^^ polynomial else r >>> 1

/-- Take a byte into a remainder. -/
def addByte (r : UInt32) (b : UInt8) : UInt32 :=
  Nat.repeat shift 8 (r ^^^ b.toUInt32)

/-- The cyclic check sum of some bytes. -/
def checkSum (bytes : List UInt8) : UInt32 :=
  bytes.foldl addByte 0xFFFFFFFF ^^^ 0xFFFFFFFF

/-! ## Headers -/

/-- How long a text in a header may be. -/
def textLimit : Nat := 65535

/-- What stands after a text that ends in a zero byte. -/
def dropText (bytes : List UInt8) : Option (List UInt8) :=
  match bytes.dropWhile (· != 0) with
  | [] => none
  | _ :: rest => if textLimit < (bytes.takeWhile (· != 0)).length then none else some rest

/-- What stands after a field with a length of two bytes. -/
def dropField : List UInt8 → Option (List UInt8)
  | a :: b :: rest =>
    let length := littleEndian [a, b]
    if rest.length < length then none else some (rest.drop length)
  | _ => none

/-- What stands after an optional part, which is there if a flag is set. -/
def dropIf (flags : UInt8) (flag : Nat) (drop : List UInt8 → Option (List UInt8))
    (bytes : List UInt8) : Option (List UInt8) :=
  if flags.toNat.testBit flag then drop bytes else some bytes

/-- What stands after the check sum of a header, whose lower half is kept. -/
def dropSum (whole bytes : List UInt8) : Option (List UInt8) :=
  match bytes with
  | a :: b :: rest =>
    let sum := checkSum (whole.take (whole.length - bytes.length))
    if littleEndian [a, b] = sum.toNat % 0x10000 then some rest else none
  | _ => none

/-- The bytes with which a compressed file starts. -/
def magic : List UInt8 := [0x1F, 0x8B]

/-- The number of the only method of compression. -/
def deflate : UInt8 := 8

/-- What stands after the header, if it is in order. -/
def dropHeader (bytes : List UInt8) : Option (List UInt8) :=
  match bytes with
  | m :: m' :: method :: flags :: _ :: _ :: _ :: _ :: _ :: _ :: rest =>
    if [m, m'] ≠ magic ∨ method ≠ deflate ∨ 0x20 ≤ flags then none
    else do
      let rest ← dropIf flags 2 dropField rest
      let rest ← dropIf flags 3 dropText rest
      let rest ← dropIf flags 4 dropText rest
      dropIf flags 1 (dropSum bytes) rest
  | _ => none

/-! ## Files -/

/-- How many bytes are put out together. Of faulty data only the portions before the one that the
fault was found in come out, and a full portion waits for what comes after it. -/
def portion : Nat := 32768

/-- Whether the check sum and the length after some data are right. -/
def endsWell (data rest : List UInt8) : Bool :=
  8 ≤ rest.length && littleEndian (rest.take 4) == (checkSum data).toNat
    && littleEndian ((rest.drop 4).take 4) == data.length % 0x100000000

/-- The data of a compressed file. -/
def expand (bytes : List UInt8) : Source :=
  match dropHeader bytes with
  | none => { bytes := [], sound := false }
  | some rest =>
    match Inflate.inflate rest with
    | (data, .ok rest) => { bytes := data, sound := endsWell data rest }
    | (data, .error .truncated) => { bytes := data, sound := false }
    | (data, .error .corrupt) =>
      { bytes := data.take ((data.length - 1) / portion * portion), sound := false }

/-- Whether a file is to be read as a compressed one. -/
def isCompressed (bytes : List UInt8) : Bool := magic.isPrefixOf bytes

end Codemod.Archive.Gzip
