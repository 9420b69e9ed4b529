import Codemod.Json

set_option autoImplicit false

/-! # Writing JSON

The text of a JSON value on one line, and the indented form of an object whose members are all
strings. Only the characters that JSON forbids inside a string are escaped. -/

namespace Codemod.Json

/-- What stands for a character inside a string. -/
def escapeChar (c : Char) : List Char :=
  match c with
  | '"' => ['\\', '"']
  | '\\' => ['\\', '\\']
  | '\n' => ['\\', 'n']
  | '\r' => ['\\', 'r']
  | '\t' => ['\\', 't']
  | '\x08' => ['\\', 'b']
  | '\x0c' => ['\\', 'f']
  | c =>
    let n := c.toNat
    if n < 0x20 then
      ['\\', 'u', '0', '0', Numeral.hexDigit (n / 16), Numeral.hexDigit (n % 16)]
    else [c]

/-- A string between quotes. -/
def stringText (s : String) : List Char :=
  '"' :: s.toList.flatMap escapeChar ++ ['"']

/-- The text of a number. -/
def numberText : JsonNumber → List Char
  | .natural n => (toString n).toList
  | .negative n => '-' :: (toString n).toList
  | .double x => x.dataText.toList

mutual

/-- The text of a value, without blanks. -/
def render : Json → List Char
  | .null => "null".toList
  | .bool b => (if b then "true" else "false").toList
  | .number n => numberText n
  | .string s => stringText s
  | .array items => '[' :: renderItems items ++ [']']
  | .object members => '\x7b' :: renderMembers members ++ ['\x7d']

/-- The items of an array with commas between them. -/
def renderItems : List Json → List Char
  | [] => []
  | [j] => render j
  | j :: rest => render j ++ ',' :: renderItems rest

/-- The members of an object with commas between them. -/
def renderMembers : List (String × Json) → List Char
  | [] => []
  | [(name, j)] => stringText name ++ ':' :: render j
  | (name, j) :: rest => stringText name ++ ':' :: render j ++ ',' :: renderMembers rest

end

/-- The text of a value as a string. -/
def compact (j : Json) : String :=
  String.ofList j.render

/-- An object of strings, each member on a line of its own. -/
def prettyTable (members : List (String × String)) : List Char :=
  if members.isEmpty then "\x7b\x7d".toList
  else
    let line := fun (m : String × String) =>
      "\n  ".toList ++ stringText m.1 ++ ": ".toList ++ stringText m.2
    '\x7b' :: ((members.map line).intersperse [',']).flatten ++ "\n\x7d".toList

end Codemod.Json
