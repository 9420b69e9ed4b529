import Codemod.Encoding.Charset
import Codemod.Encoding.Machine
import Codemod.Encoding.Table.SingleByte

set_option autoImplicit false

/-! # Character sets of single bytes

ASCII in the lower half and a table for the upper one. -/

namespace Codemod.Encoding.SingleByte

/-- The upper half of a set, if the set is of this kind. -/
def upperHalf? : Charset → Option String
  | .ibm866 => some Table.ibm866
  | .iso8859_2 => some Table.iso8859_2
  | .iso8859_3 => some Table.iso8859_3
  | .iso8859_4 => some Table.iso8859_4
  | .iso8859_5 => some Table.iso8859_5
  | .iso8859_6 => some Table.iso8859_6
  | .iso8859_7 => some Table.iso8859_7
  | .iso8859_8 => some Table.iso8859_8
  | .iso8859_10 => some Table.iso8859_10
  | .iso8859_13 => some Table.iso8859_13
  | .iso8859_14 => some Table.iso8859_14
  | .iso8859_15 => some Table.iso8859_15
  | .iso8859_16 => some Table.iso8859_16
  | .koi8R => some Table.koi8R
  | .koi8U => some Table.koi8U
  | .macintosh => some Table.macintosh
  | .windows874 => some Table.windows874
  | .windows1250 => some Table.windows1250
  | .windows1251 => some Table.windows1251
  | .windows1252 => some Table.windows1252
  | .windows1253 => some Table.windows1253
  | .windows1254 => some Table.windows1254
  | .windows1255 => some Table.windows1255
  | .windows1256 => some Table.windows1256
  | .windows1257 => some Table.windows1257
  | .windows1258 => some Table.windows1258
  | .macCyrillic => some Table.macCyrillic
  | _ => none

/-- The character of a byte in a set with the given upper half. -/
def char? (upper : Array Char) (b : UInt8) : Option Char :=
  if b < 0x80 then some (asciiChar b) else Table.assigned? upper (b.toNat - 0x80)

/-- The decoder of a set with the given upper half. -/
def machine (upper : String) : Machine :=
  .bytewise (char? (Table.cells upper))

/-- The set whose upper bytes stand for private characters. -/
def userDefined : Machine :=
  .bytewise fun b =>
    some (if b < 0x80 then asciiChar b else Char.ofNat (0xF780 + (b.toNat - 0x80)))

end Codemod.Encoding.SingleByte
