set_option autoImplicit false

/-! # Cells of a table

A table of characters is written as a text in which blanks and line ends only separate the lines,
and `�` marks a place without a character. -/

namespace Codemod.Encoding.Table

/-- The cells of a table in their order. -/
def cells (text : String) : Array Char :=
  (text.toList.filter fun c => c != ' ' && c != '\n').toArray

/-- A place in a table, unless no character is assigned to it. -/
def assigned? (table : Array Char) (place : Nat) : Option Char :=
  match table[place]? with
  | some c => if c == '\uFFFD' then none else some c
  | none => none

end Codemod.Encoding.Table
