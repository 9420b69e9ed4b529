import Codemod.Text.Table.Alphabetic
import Codemod.Text.Table.Unprintable
import Codemod.Text.Table.Upper
import Codemod.Text.Table.Word

set_option autoImplicit false

/-! # Properties of characters

Which characters belong to a word, which can be shown, and the upper case of a text, for all of
Unicode. -/

namespace Codemod.Text

/-- Whether a number lies in one of the ranges. -/
def inRanges (ranges : Array (Nat × Nat)) (n : Nat) : Bool :=
  ranges.any fun r => r.1 ≤ n && n ≤ r.2

/-- A decimal digit of any script. -/
def isDecimalDigit (c : Char) : Bool :=
  inRanges Table.decimalDigits c.toNat

/-- An alphabetic character. -/
def isAlphabetic (c : Char) : Bool :=
  inRanges Table.alphabetic c.toNat

/-- A character of a word: a letter, a mark, a digit, a connector or a joiner. -/
def isWordChar (c : Char) : Bool :=
  if c.toNat < 0x80 then c.isAlphanum || c == '_'
  else
    !inRanges Table.laterWords c.toNat
      && (isAlphabetic c || isDecimalDigit c || inRanges Table.wordMarks c.toNat)

/-- A letter or a number sign. -/
def isAlphanumeric (c : Char) : Bool :=
  if c.toNat < 0x80 then c.isAlphanum
  else isAlphabetic c || isDecimalDigit c || inRanges Table.otherNumbers c.toNat

/-- A character that can be shown as it is. -/
def isPrintable (c : Char) : Bool :=
  if c.toNat < 0x7F then ' ' ≤ c
  else !inRanges Table.unprintable c.toNat && !inRanges Table.fillers c.toNat

/-- A character that joins the one before it. -/
def extendsGrapheme (c : Char) : Bool :=
  0x300 ≤ c.toNat && inRanges Table.graphemeExtending c.toNat

/-! ## Upper case -/

/-- The upper case of a character, which can be more than one. -/
def upperChar (c : Char) : List Char :=
  let n := c.toNat
  if n < 0x80 then [c.toUpper]
  else
    match Table.upperMany.find? (·.1 == n) with
    | some (_, ns) => ns.map Char.ofNat
    | none =>
      match Table.upperRuns.find? fun r => r.1 ≤ n && n ≤ r.2.1 && (n - r.1) % r.2.2.1 == 0 with
      | some (_, _, _, delta) => [Char.ofNat (n + delta).toNat]
      | none => [c]

/-- The upper case of a text, character by character. -/
def upper (s : String) : String :=
  String.ofList (s.toList.flatMap upperChar)

end Codemod.Text
