set_option autoImplicit false

/-! # Bytes to be read

Bytes that are read from the front. Whoever reads past the last of them either comes to the end or
learns that something is wrong: so a fault at the end of a compressed file is no matter for a reader
who has stopped before. -/

namespace Codemod.Archive

/-- Bytes to be read, and whether they end well. -/
structure Source where
  bytes : List UInt8
  sound : Bool := true
deriving DecidableEq, Repr

/-- The number that bytes denote, the lowest first. -/
def littleEndian : List UInt8 → Nat
  | [] => 0
  | b :: rest => b.toNat + 256 * littleEndian rest

/-- The number that bytes denote, the highest first. -/
def bigEndian (bytes : List UInt8) : Nat := littleEndian bytes.reverse

end Codemod.Archive
