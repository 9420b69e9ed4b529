import Codemod.Json.Parser

set_option autoImplicit false

/-! # The tokens of a configuration document

Blanks, comments, strings and keys of the TOML format. Each reader takes the characters that are
left and gives what it read with the characters after it, or nothing if the text has another form.
Only tab, the printable characters of ASCII and everything beyond ASCII may stand in a document. -/

namespace Codemod.Toml

/-! ## Blanks and lines -/

/-- A blank inside a line. -/
def isBlank (c : Char) : Bool := c == ' ' || c == '\t'

/-- The text after the blanks of a line. -/
def skip (s : List Char) : List Char := s.dropWhile isBlank

/-- A character that may stand in a comment. -/
def isText (c : Char) : Bool :=
  c == '\t' || (' ' ≤ c && c ≤ '~') || 0x80 ≤ c.toNat

/-- The text after the end of a line. -/
def newline? : List Char → Option (List Char)
  | '\n' :: rest => some rest
  | '\r' :: '\n' :: rest => some rest
  | _ => none

/-- The text after a comment, if there is one. -/
def skipComment : List Char → List Char
  | '#' :: rest => rest.dropWhile isText
  | s => s

/-- The text after what may follow on a line: blanks, a comment, and the end of the line or of the
document. -/
def lineEnd? (s : List Char) : Option (List Char) :=
  match skipComment (skip s) with
  | [] => some []
  | rest => newline? rest

/-- The text after blanks, comments and line ends. -/
def skipLines : Nat → List Char → List Char
  | 0, s => s
  | fuel + 1, s =>
    let s := skip s
    match newline? (skipComment s) with
    | some rest => skipLines fuel rest
    | none => s

/-! ## Strings -/

/-- A character that may stand in a string between double quotes as it is. -/
def isPlain (c : Char) : Bool := isText c && c != '"' && c != '\\'

/-- A character that may stand in a string between single quotes. -/
def isLiteral (c : Char) : Bool := isText c && c != '\''

/-- The character with a code point given by hexadecimal digits. -/
def codePoint? (digits : List Char) : Option Char := do
  let n ← Numeral.hex? digits
  if n.isValidChar then some (Char.ofNat n) else none

/-- The character that an escape stands for, after its backslash. -/
def escape? : List Char → Option (Char × List Char)
  | 'b' :: rest => some ('\x08', rest)
  | 't' :: rest => some ('\t', rest)
  | 'n' :: rest => some ('\n', rest)
  | 'f' :: rest => some ('\x0c', rest)
  | 'r' :: rest => some ('\r', rest)
  | '"' :: rest => some ('"', rest)
  | '\\' :: rest => some ('\\', rest)
  | 'u' :: rest =>
    if rest.length < 4 then none else (codePoint? (rest.take 4)).map (·, rest.drop 4)
  | 'U' :: rest =>
    if rest.length < 8 then none else (codePoint? (rest.take 8)).map (·, rest.drop 8)
  | _ => none

/-- The rest of a string between double quotes, after the first one. -/
def basic? : Nat → List Char → Option (List Char × List Char)
  | 0, _ => none
  | _ + 1, [] => none
  | fuel + 1, c :: rest =>
    if c = '"' then some ([], rest)
    else if c = '\\' then do
      let (c, rest) ← escape? rest
      let (s, rest) ← basic? fuel rest
      some (c :: s, rest)
    else if isPlain c then do
      let (s, rest) ← basic? fuel rest
      some (c :: s, rest)
    else none

/-- The rest of a string between single quotes, after the first one. -/
def literal? (s : List Char) : Option (List Char × List Char) :=
  match s.dropWhile isLiteral with
  | '\'' :: rest => some (s.takeWhile isLiteral, rest)
  | _ => none

/-- The text after a backslash at the end of a line: all blanks and line ends are dropped. -/
def continued? (s : List Char) : Option (List Char) := do
  let rest ← newline? (skip s)
  some (unblank rest.length rest)
where
  /-- Drop blanks and line ends. -/
  unblank : Nat → List Char → List Char
    | 0, s => s
    | fuel + 1, s =>
      match newline? (skip s) with
      | some rest => unblank fuel rest
      | none => skip s

/-- The quotes at the end of a string of several lines: the last three close it, and up to two
before them belong to it. Nothing if fewer than three stand here. -/
def closing? (quote : Char) (s : List Char) : Option (List Char × List Char) :=
  let count := min 5 (s.takeWhile (· == quote)).length
  if count < 3 then none else some (List.replicate (count - 3) quote, s.drop count)

/-- The rest of a string of several lines between double quotes. -/
def basicLines? : Nat → List Char → Option (List Char × List Char)
  | 0, _ => none
  | fuel + 1, s =>
    match closing? '"' s with
    | some found => some found
    | none =>
      match newline? s with
      | some rest => (basicLines? fuel rest).map fun (s, r) => ('\n' :: s, r)
      | none =>
        match s with
        | '\\' :: rest =>
          match continued? rest with
          | some rest => basicLines? fuel rest
          | none => do
            let (c, rest) ← escape? rest
            let (s, rest) ← basicLines? fuel rest
            some (c :: s, rest)
        | c :: rest =>
          if isPlain c || c == '"' then (basicLines? fuel rest).map fun (s, r) => (c :: s, r)
          else none
        | [] => none

/-- The rest of a string of several lines between single quotes. -/
def literalLines? : Nat → List Char → Option (List Char × List Char)
  | 0, _ => none
  | fuel + 1, s =>
    match closing? '\'' s with
    | some found => some found
    | none =>
      match newline? s with
      | some rest => (literalLines? fuel rest).map fun (s, r) => ('\n' :: s, r)
      | none =>
        match s with
        | c :: rest =>
          if isText c then (literalLines? fuel rest).map fun (s, r) => (c :: s, r) else none
        | [] => none

/-- A string of several lines may start with a line end that does not count. -/
def afterOpening (s : List Char) : List Char := (newline? s).getD s

/-- A string in any of its four forms. -/
def string? (s : List Char) : Option (String × List Char) :=
  let found := match s with
    | '"' :: '"' :: '"' :: rest => basicLines? (rest.length + 1) (afterOpening rest)
    | '\'' :: '\'' :: '\'' :: rest => literalLines? (rest.length + 1) (afterOpening rest)
    | '"' :: rest => basic? (rest.length + 1) rest
    | '\'' :: rest => literal? rest
    | _ => none
  found.map fun (s, rest) => (String.ofList s, rest)

/-! ## Keys -/

/-- A character of a key without quotes. -/
def isBare (c : Char) : Bool := c.isAlphanum || c == '-' || c == '_'

/-- One part of a key. -/
def keyPart? : List Char → Option (String × List Char)
  | '"' :: rest =>
    (basic? (rest.length + 1) rest).map fun (s, rest) => (String.ofList s, rest)
  | '\'' :: rest => (literal? rest).map fun (s, rest) => (String.ofList s, rest)
  | s =>
    let name := s.takeWhile isBare
    if name.isEmpty then none else some (String.ofList name, s.dropWhile isBare)

/-- The parts of a key with dots between them, and blanks around all. -/
def keyParts? : Nat → List Char → Option (List String × List Char)
  | 0, _ => none
  | fuel + 1, s => do
    let (name, rest) ← keyPart? (skip s)
    match skip rest with
    | '.' :: rest =>
      let (names, rest) ← keyParts? fuel rest
      some (name :: names, rest)
    | rest => some ([name], rest)

/-- How deep a document may be nested, and how many parts a key may have. -/
def depthLimit : Nat := 79

/-- A key, which has at least one part. -/
def key? (s : List Char) : Option (List String × List Char) := do
  let (names, rest) ← keyParts? (s.length + 1) s
  if names.length ≤ depthLimit then some (names, rest) else none

end Codemod.Toml
