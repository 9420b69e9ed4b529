import Codemod.Text.Property

set_option autoImplicit false

/-! # Texts as literals

A text between double quotes in which everything that could not be seen or told apart is escaped:
controls, characters without a form of their own, and marks that would join the quote. -/

namespace Codemod.Text

/-- The code point of a character in braces. -/
def codePointEscape (c : Char) : List Char :=
  "\\u\x7b".toList ++ Nat.toDigits 16 c.toNat ++ "\x7d".toList

/-- What stands for a character. -/
def literalChar (c : Char) : List Char :=
  match c with
  | '\x00' => "\\0".toList
  | '\t' => "\\t".toList
  | '\r' => "\\r".toList
  | '\n' => "\\n".toList
  | '"' => "\\\"".toList
  | '\\' => "\\\\".toList
  | c => if extendsGrapheme c || !isPrintable c then codePointEscape c else [c]

/-- The literal of a text. -/
def literal (s : String) : String :=
  "\"" ++ String.ofList (s.toList.flatMap literalChar) ++ "\""

end Codemod.Text
