import Codemod.Config.Value
import Codemod.Text.Blank
import Codemod.Toml.Token

set_option autoImplicit false

/-! # Values in a variable

The notation for values of environment variables. `true`, `false`, numbers, strings between double
quotes, single characters between single quotes, lists in brackets and tables in braces stand for
themselves; anything else, and any of these that does not fill the whole variable, is a string. -/

namespace Codemod.Config.Notation

/-- The text after any blanks. -/
def skip (s : List Char) : List Char := s.dropWhile Text.isAsciiBlank

/-- A character that ends a plain word. -/
def isSeparator (c : Char) : Bool :=
  c == ',' || c == '\x7b' || c == '\x7d' || c == '[' || c == ']'

/-- A character of a key without quotes. -/
def isKey (c : Char) : Bool := c.isAlphanum || c == '_' || c == '-'

/-! ## Plain words and strings -/

/-- The value of a plain word: a number if it reads as one, else the word itself. -/
def word (s : List Char) : Value :=
  let s := Text.trim s
  let float := if s.contains '.' then Binary64.ofPointText? s else none
  match float with
  | some x => .float x
  | none =>
    match Numeral.unsigned? 64 s with
    | some n => .integer n
    | none =>
      match Numeral.signed? 64 s with
      | some n => .integer n
      | none => .text (String.ofList s)

/-- The characters of a string that is written with escapes. -/
def unescape? : Nat → List Char → Option (List Char)
  | 0, _ => none
  | _ + 1, [] => some []
  | fuel + 1, '\\' :: rest => do
    let (c, rest) ← Toml.escape? rest
    return c :: (← unescape? fuel rest)
  | fuel + 1, c :: rest =>
    if Toml.isText c then (unescape? fuel rest).map (c :: ·) else none

/-- The characters up to the first quote that no backslash stands before, and the text after it. -/
def quotedEnd? : List Char → Option (List Char × List Char)
  | [] => none
  | '"' :: rest => some ([], rest)
  | '\\' :: c :: rest => (quotedEnd? rest).map fun (s, r) => ('\\' :: c :: s, r)
  | c :: rest => (quotedEnd? rest).map fun (s, r) => (c :: s, r)

/-- A string, after its first quote. -/
def string? (s : List Char) : Option (List Char × List Char) := do
  let (inner, rest) ← quotedEnd? s
  some (← unescape? (inner.length + 1) inner, rest)

/-- A key of a table, with blanks around it. -/
def key? (s : List Char) : Option (String × List Char) := do
  let (name, rest) ← match skip s with
    | '"' :: rest => string? rest
    | s =>
      let name := s.takeWhile isKey
      if name.isEmpty then none else some (name, s.dropWhile isKey)
  some (String.ofList name, skip rest)

/-! ## Values -/

mutual

/-- A value with blanks around it, and the text after it. -/
def value? : Nat → List Char → Option (Value × List Char)
  | 0, _ => none
  | fuel + 1, s => do
    let (v, rest) ← match skip s with
      | 't' :: 'r' :: 'u' :: 'e' :: rest => some (.bool true, rest)
      | 'f' :: 'a' :: 'l' :: 's' :: 'e' :: rest => some (.bool false, rest)
      | '\x7b' :: rest => (members? fuel [] rest).map fun (ms, rest) => (.table ms, rest)
      | '[' :: rest => (items? fuel rest).map fun rest => (.sequence, rest)
      | '"' :: rest => (string? rest).map fun (s, rest) => (.text (String.ofList s), rest)
      | '\'' :: rest =>
        match rest with
        | c :: '\'' :: rest => some (.text (String.singleton c), rest)
        | _ => none
      | s => some (word (s.takeWhile (!isSeparator ·)), s.dropWhile (!isSeparator ·))
    some (v, skip rest)

/-- The text after the items of a list and its closing bracket. A comma may stand before it. -/
def items? : Nat → List Char → Option (List Char)
  | 0, _ => none
  | _ + 1, ']' :: rest => some rest
  | fuel + 1, s => do
    let (_, rest) ← value? fuel s
    match rest with
    | ',' :: rest => items? fuel rest
    | ']' :: rest => some rest
    | _ => none

/-- The members of a table, up to its closing brace. A comma may stand before it. -/
def members? : Nat → Members → List Char → Option (Members × List Char)
  | 0, _, _ => none
  | _ + 1, ms, '\x7d' :: rest => some (ms, rest)
  | fuel + 1, ms, s => do
    let (key, rest) ← key? s
    let rest ← match rest with
      | '=' :: rest => some rest
      | _ => none
    let (v, rest) ← value? fuel rest
    let ms := ms.put key v
    match rest with
    | ',' :: rest => members? fuel ms rest
    | '\x7d' :: rest => some (ms, rest)
    | _ => none

end

/-- The value of a variable. -/
def value (s : String) : Value :=
  match value? (2 * s.length + 2) s.toList with
  | some (v, []) => v
  | _ => .text s

end Codemod.Config.Notation
