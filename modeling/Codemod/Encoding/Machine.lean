set_option autoImplicit false

/-! # Decoding machines

A character set is decoded by a machine that takes one byte at a time and gives the characters that
the byte completes. A byte that cannot be there stops the machine; at the end of the text it must
not be in the middle of a character. -/

namespace Codemod.Encoding

/-- A decoder: its state between two bytes, what a byte does, and where a text may end. -/
structure Machine where
  State : Type
  start : State
  feed : State → UInt8 → Option (State × List Char)
  mayEnd : State → Bool

namespace Machine

/-- The characters of the bytes that are left. -/
def run (m : Machine) (s : m.State) : List UInt8 → Option (List Char)
  | [] => if m.mayEnd s then some [] else none
  | b :: rest => do
    let (s', cs) ← m.feed s b
    let later ← run m s' rest
    some (cs ++ later)

/-- The characters of a text, if all its bytes can be decoded. -/
def decode (m : Machine) (bytes : List UInt8) : Option (List Char) :=
  m.run m.start bytes

/-- A machine that decodes every byte by itself. -/
def bytewise (char? : UInt8 → Option Char) : Machine where
  State := Unit
  start := ()
  feed := fun _ b => (char? b).map fun c => ((), [c])
  mayEnd := fun _ => true

/-- A machine that refuses every byte. -/
def refusing : Machine :=
  bytewise fun _ => none

/-! ## One or two bytes for a character -/

/-- What a byte at the start of a character is. -/
inductive First where
  | character (c : Char)
  | lead
  | invalid

/-- A machine for sets in which some bytes are characters and others lead a pair. -/
def paired (first : UInt8 → First) (pair : UInt8 → UInt8 → Option (List Char)) : Machine where
  State := Option UInt8
  start := none
  feed := fun s b =>
    match s with
    | none =>
      match first b with
      | .character c => some (none, [c])
      | .lead => some (some b, [])
      | .invalid => none
    | some lead => (pair lead b).map fun cs => (none, cs)
  mayEnd := Option.isNone

end Machine

/-- The character of an ASCII byte. -/
def asciiChar (b : UInt8) : Char :=
  Char.ofNat b.toNat

/-- The number of places before a second byte, for tables that leave out the byte 0x7F. -/
def trailPlace (trail : UInt8) : Nat :=
  trail.toNat - if trail < 0x7F then 0x40 else 0x41

end Codemod.Encoding
