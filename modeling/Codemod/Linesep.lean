import Codemod.Text.Line

set_option autoImplicit false

/-! # Line separators

The three separators of source files, their texts, and which of them a text uses: each line votes
with its terminator, the most votes win, and equal counts go to the one named first. -/

namespace Codemod

/-- A line separator. -/
inductive Linesep where
  | lf
  | crlf
  | cr
deriving DecidableEq, Repr, Inhabited

namespace Linesep

/-- The separator of generated code unless something else is asked for. -/
def standard : Linesep := .lf

/-- The characters of a separator. -/
def chars : Linesep → List Char
  | .lf => ['\n']
  | .crlf => ['\r', '\n']
  | .cr => ['\r']

/-- The text of a separator. -/
def text (sep : Linesep) : String :=
  String.ofList sep.chars

/-- The word for a separator in options and in stored values. -/
def name : Linesep → String
  | .lf => "lf"
  | .crlf => "crlf"
  | .cr => "cr"

/-- All separators, in order of preference. -/
def all : List Linesep := [.lf, .crlf, .cr]

/-- The separator with a given word. -/
def ofName? (s : String) : Option Linesep :=
  all.find? fun sep => sep.name == s

/-! ## Detection -/

/-- The separator at the end of a line, if the line has one. -/
def ofLine? (line : List Char) : Option Linesep :=
  match line.reverse with
  | '\n' :: '\r' :: _ => some .crlf
  | '\r' :: _ => some .cr
  | '\n' :: _ => some .lf
  | _ => none

/-- The number of lines that end with a separator. -/
def votes (sep : Linesep) (lines : List (List Char)) : Nat :=
  lines.countP fun line => ofLine? line == some sep

/-- The separator that most lines of a text end with. -/
def detect (text : List Char) : Linesep :=
  let lines := Text.lines text
  let lf := votes .lf lines
  let crlf := votes .crlf lines
  let cr := votes .cr lines
  if crlf ≤ lf ∧ cr ≤ lf then .lf else if cr ≤ crlf then .crlf else .cr

end Linesep

end Codemod
