set_option autoImplicit false

/-! # Physical lines

A text is cut after every line feed, carriage return, or pair of the two, and each line keeps its
terminator, so the lines put together are the text again. -/

namespace Codemod.Text

/-- A character that ends a line, alone or as part of a pair. -/
def isLineEnd (c : Char) : Bool :=
  c == '\n' || c == '\r'

/-- Put a character in front of the first line, which is a new one if there is none. -/
def consFirst (c : Char) : List (List Char) → List (List Char)
  | [] => [[c]]
  | line :: rest => (c :: line) :: rest

/-- The lines of a text, each with its terminator. -/
def lines : List Char → List (List Char)
  | [] => []
  | '\r' :: '\n' :: rest => ['\r', '\n'] :: lines rest
  | c :: rest => if isLineEnd c then [c] :: lines rest else consFirst c (lines rest)

end Codemod.Text
