set_option autoImplicit false

/-! # Quoted values

How a value given by a user is shown in a message: between single quotes, on one line, with a
backslash before every quote and backslash, so that the value can be read back from the message.
`decode` is that reading. -/

namespace Codemod.Text.Quoted

/-- What stands for one character between the quotes. -/
def encodeChar (c : Char) : List Char :=
  match c with
  | '\\' => ['\\', '\\']
  | '\'' => ['\\', '\'']
  | '\n' => ['\\', 'n']
  | '\r' => ['\\', 'r']
  | '\t' => ['\\', 't']
  | c => [c]

/-- The text between the quotes. -/
def encodeBody (s : List Char) : List Char :=
  s.flatMap encodeChar

/-- The quoted form of a value. -/
def encode (s : List Char) : List Char :=
  '\'' :: encodeBody s ++ ['\'']

/-- Reads a body up to the first unescaped quote, and gives the value with the text after it. -/
def decodeBody : List Char → Option (List Char × List Char)
  | [] => none
  | '\'' :: rest => some ([], rest)
  | '\\' :: 'n' :: rest => (decodeBody rest).map fun (s, r) => ('\n' :: s, r)
  | '\\' :: 'r' :: rest => (decodeBody rest).map fun (s, r) => ('\r' :: s, r)
  | '\\' :: 't' :: rest => (decodeBody rest).map fun (s, r) => ('\t' :: s, r)
  | '\\' :: c :: rest => (decodeBody rest).map fun (s, r) => (c :: s, r)
  | c :: rest => (decodeBody rest).map fun (s, r) => (c :: s, r)

/-- Reads a quoted value at the start of a text, and gives it with the text that follows. -/
def decode : List Char → Option (List Char × List Char)
  | '\'' :: rest => decodeBody rest
  | _ => none

end Codemod.Text.Quoted

namespace Codemod.Text

/-- The quoted form of a string. -/
def quoted (s : String) : String :=
  String.ofList (Quoted.encode s.toList)

end Codemod.Text
