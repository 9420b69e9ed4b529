import Codemod.Text.Line

set_option autoImplicit false

/-! # Logical lines

Which physical lines continue the one before: those that begin inside an open bracket, inside a
string literal, or after a backslash at the end of a line. The scanner carries this from one line to
the next and reads each line once. -/

namespace Codemod.Indentation

/-- An open string literal: its quote, and whether it is delimited by three of them. -/
structure Literal where
  quote : Char
  triple : Bool
deriving DecidableEq, Repr

/-- What is open between two physical lines. -/
structure Scanner where
  depth : Nat := 0
  literal : Option Literal := none
  continued : Bool := false
deriving DecidableEq, Repr

namespace Scanner

/-- Whether the next line continues the current logical line. -/
def inLogicalLine (s : Scanner) : Bool :=
  0 < s.depth || s.literal.isSome || s.continued

/-- An opening bracket. -/
def isOpening (c : Char) : Bool :=
  c == '(' || c == '[' || c == '\x7b'

/-- A closing bracket. -/
def isClosing (c : Char) : Bool :=
  c == ')' || c == ']' || c == '\x7d'

/-- Scan characters; in a one-quote literal a line end closes it unless a backslash comes before,
and outside of literals a comment goes on to the end of the line. -/
def scanChars (s : Scanner) : List Char → Scanner
  | [] => s
  | c :: rest =>
    match s.literal with
    | some lit =>
      if c = '\\' then
        match rest with
        | '\r' :: '\n' :: rest' => scanChars s rest'
        | _ :: rest' => scanChars s rest'
        | [] => s
      else if lit.triple then
        match rest with
        | c₂ :: c₃ :: rest' =>
          if c = lit.quote ∧ c₂ = lit.quote ∧ c₃ = lit.quote then
            scanChars { s with literal := none } rest'
          else scanChars s (c₂ :: c₃ :: rest')
        | rest => scanChars s rest
      else if c = lit.quote ∨ Text.isLineEnd c then scanChars { s with literal := none } rest
      else scanChars s rest
    | none =>
      if c = '#' then s
      else if c = '\'' ∨ c = '"' then
        match rest with
        | c₂ :: c₃ :: rest' =>
          if c₂ = c ∧ c₃ = c then scanChars { s with literal := some ⟨c, true⟩ } rest'
          else scanChars { s with literal := some ⟨c, false⟩ } (c₂ :: c₃ :: rest')
        | rest => scanChars { s with literal := some ⟨c, false⟩ } rest
      else if isOpening c then scanChars { s with depth := s.depth + 1 } rest
      else if isClosing c then scanChars { s with depth := s.depth - 1 } rest
      else if c = '\\' then
        scanChars { s with continued := rest.all Text.isLineEnd } rest
      else scanChars s rest
termination_by chars => chars.length

/-- Scan one physical line. -/
def scan (s : Scanner) (line : List Char) : Scanner :=
  scanChars { s with continued := false } line

end Scanner

end Codemod.Indentation
