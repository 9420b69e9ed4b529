import Codemod.Encoding.Chinese
import Codemod.Encoding.Japanese
import Codemod.Encoding.SingleByte
import Codemod.Encoding.Utf16
import Codemod.Encoding.Utf8

set_option autoImplicit false

/-! # Codecs

What a source file can be decoded with, and the names under which it asks for that. The two codecs
that almost every file uses have a few spellings of their own; any other name is looked up among the
labels of the character sets. -/

namespace Codemod.Encoding

namespace Charset

/-- The text that bytes stand for in a character set. A byte order mark is a character like any
other here. -/
def decode (set : Charset) (bytes : List UInt8) : Option (List Char) :=
  match set with
  | .utf8 => (Utf8.decode bytes).toOption
  | .gbk => Chinese.gb18030.decode bytes
  | .gb18030 => Chinese.gb18030.decode bytes
  | .big5 => Chinese.big5.decode bytes
  | .eucKr => Chinese.eucKr.decode bytes
  | .eucJp => Japanese.eucJp.decode bytes
  | .iso2022Jp => Japanese.iso2022Jp.decode bytes
  | .shiftJis => Japanese.shiftJis.decode bytes
  | .utf16be => (Utf16.machine true).decode bytes
  | .utf16le => (Utf16.machine false).decode bytes
  | .userDefined => SingleByte.userDefined.decode bytes
  | .replacement => Machine.refusing.decode bytes
  | set =>
    match SingleByte.upperHalf? set with
    | some upper => (SingleByte.machine upper).decode bytes
    | none => none

end Charset

/-! ## Names -/

/-- The number of characters of a name that matter for its common spellings. -/
def significantLength : Nat := 12

/-- The part of a name that its common spellings are recognised by: in lower case, with hyphens.
Every spelling is ASCII and no other character has an ASCII lower case that occurs in one, so only
ASCII letters have to be lowered. -/
def fold (name : List Char) : List Char :=
  (name.take significantLength).map fun c => if c == '_' then '-' else c.toLower

/-- Whether a name is `stem`, or `stem` with a suffix after a hyphen. -/
def isNamed (stem : String) (folded : List Char) : Bool :=
  folded == stem.toList || (stem.toList ++ ['-']).isPrefixOf folded

/-- The common spellings of ISO-8859-1. -/
def latin1Stems : List String := ["latin-1", "iso-8859-1", "iso-latin-1"]

/-- The canonical form of the common spellings; any other name is kept as it is. -/
def normalise (name : List Char) : List Char :=
  let folded := fold name
  if isNamed "utf-8" folded then "utf-8".toList
  else if latin1Stems.any (isNamed · folded) then "iso-8859-1".toList
  else name

/-- What bytes are decoded with. -/
inductive Codec where
  | utf8
  | latin1
  | charset (set : Charset)
deriving DecidableEq, Repr

namespace Codec

/-- The codec with a given name: labels with an underscore are also tried with a hyphen. -/
def ofName? (name : List Char) : Option Codec :=
  let canonical := normalise name
  if canonical == "utf-8".toList then some .utf8
  else if canonical == "iso-8859-1".toList then some .latin1
  else
    let hyphened := canonical.map fun c => if c == '_' then '-' else c
    ((Charset.ofLabel? (String.ofList canonical)).orElse fun _ =>
      Charset.ofLabel? (String.ofList hyphened)).map .charset

end Codec

end Codemod.Encoding
