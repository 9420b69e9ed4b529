import Codemod.Toml.Scalar
import Codemod.Toml.Table

set_option autoImplicit false

/-! # Reading a configuration document

Values, lines and whole documents of the TOML format. The fuel of the readers bounds the number of
calls; as each call takes a character away, the length of the text is always enough. -/

namespace Codemod.Toml

/-! ## Values -/

/-- A number or a time. -/
def numeric? (s : List Char) : Option (Value × List Char) :=
  match moment? s with
  | some rest => some (.moment, rest)
  | none =>
    match float? s with
    | some (x, rest) => some (.float x, rest)
    | none => (integer? s).map fun (n, rest) => (.integer n, rest)

mutual

/-- A value, at a depth. -/
def value? : Nat → Nat → List Char → Option (Value × List Char)
  | 0, _, _ => none
  | fuel + 1, depth, s =>
    match s with
    | '"' :: _ | '\'' :: _ => (string? s).map fun (s, rest) => (.string s, rest)
    | 't' :: 'r' :: 'u' :: 'e' :: rest => some (.bool true, rest)
    | 'f' :: 'a' :: 'l' :: 's' :: 'e' :: rest => some (.bool false, rest)
    | '[' :: rest =>
      if depth < depthLimit then
        (items? fuel (depth + 1) rest).map fun (vs, rest) => (.array vs, rest)
      else none
    | '\x7b' :: rest =>
      if depth < depthLimit then
        match skip rest with
        | '\x7d' :: rest => some (.inline .defined [], rest)
        | rest =>
          (members? fuel (depth + 1) [] rest).map fun (ms, rest) => (.inline .defined ms, rest)
      else none
    | s => numeric? s

/-- The items of an array, up to its closing bracket. -/
def items? : Nat → Nat → List Char → Option (List Value × List Char)
  | 0, _, _ => none
  | fuel + 1, depth, s =>
    match skipLines s.length s with
    | ']' :: rest => some ([], rest)
    | s => do
      let (v, rest) ← value? fuel depth s
      match skipLines rest.length rest with
      | ',' :: rest => (items? fuel depth rest).map fun (vs, rest) => (v :: vs, rest)
      | ']' :: rest => some ([v], rest)
      | _ => none

/-- The members of a table in braces that is not empty, up to its closing brace. -/
def members? : Nat → Nat → Members → List Char → Option (Members × List Char)
  | 0, _, _, _ => none
  | fuel + 1, depth, ms, s => do
    let (path, rest) ← key? s
    let (v, rest) ← value? fuel depth (skip (← after? '=' rest))
    let ms ← Members.insert true .defined ms path v
    match skip rest with
    | ',' :: rest => members? fuel depth ms rest
    | '\x7d' :: rest => some (ms, rest)
    | _ => none

end

/-! ## Documents -/

/-- A line that gives a key a value. -/
def assignment? (d : Document) (s : List Char) : Option (Document × List Char) := do
  let (path, rest) ← key? s
  let (v, rest) ← value? (2 * rest.length + 2) 0 (skip (← after? '=' rest))
  some (← d.assign path v, ← lineEnd? rest)

/-- A line that starts a table. -/
def header? (d : Document) (isRow : Bool) (s : List Char) : Option (Document × List Char) := do
  let (path, rest) ← key? s
  let rest ← after? ']' rest
  let rest ← if isRow then after? ']' rest else some rest
  some (← d.header path isRow, ← lineEnd? rest)

/-- All lines of a document. -/
def lines? : Nat → Document → List Char → Option Document
  | 0, _, _ => none
  | fuel + 1, d, s =>
    match skip s with
    | [] => some d
    | '#' :: rest => do lines? fuel d (← lineEnd? ('#' :: rest))
    | '[' :: '[' :: rest => do
      let (d, rest) ← header? d true rest
      lines? fuel d rest
    | '[' :: rest => do
      let (d, rest) ← header? d false rest
      lines? fuel d rest
    | s =>
      match newline? s with
      | some rest => lines? fuel d rest
      | none => do
        let (d, rest) ← assignment? d s
        lines? fuel d rest

/-- The table that a text denotes. A mark of the byte order at its start does not count. -/
def parse? (s : List Char) : Option Members := do
  let s := match s with | '\uFEFF' :: rest => rest | s => s
  let d ← lines? (s.length + 1) {} s
  d.close

end Codemod.Toml
