import Codemod.Path

set_option autoImplicit false

/-! # Patterns for paths

Patterns with wildcards: `?` for one byte and `*` for any number of them within a name, `**` as a
whole name for any number of names, classes in brackets, and alternatives in braces. `parse` reads
a pattern or says why it is none; `Pattern.matches` tells which paths it stands for. -/

namespace Codemod.Glob

/-! ## Patterns -/

/-- A part of a pattern. -/
inductive Token where
  | literal (c : Char)
  /-- One byte that is no slash. -/
  | one
  /-- Bytes that are no slashes. -/
  | many
  /-- Any names at the start of a path. -/
  | anyStart
  /-- Any names at the end of a path, at least one. -/
  | anyEnd
  /-- Any names in the middle of a path. -/
  | anyMiddle
  /-- One byte of a class, or one that is not of it. -/
  | oneOf (negated : Bool) (ranges : List (Char × Char))
  | alternatives (branches : List (List Token))
deriving Repr

/-- Why a text is no pattern. -/
inductive Fault where
  | unclosedClass
  | invalidRange (low high : Char)
  | unopenedBraces
  | unclosedBraces
  | danglingEscape
deriving DecidableEq, Repr

/-- The text that describes a fault. -/
def Fault.message : Fault → String
  | .unclosedClass => "unclosed character class; missing ']'"
  | .invalidRange low high =>
    "invalid range; '" ++ String.singleton low ++ "' > '" ++ String.singleton high ++ "'"
  | .unopenedBraces =>
    "unopened alternate group; missing '\x7b' (maybe escape '\x7d' with '[\x7d]'?)"
  | .unclosedBraces =>
    "unclosed alternate group; missing '\x7d' (maybe escape '\x7b' with '[\x7b]'?)"
  | .danglingEscape => "dangling '\\'"

/-- A text that is no pattern. -/
structure Error where
  pattern : String
  fault : Fault
deriving DecidableEq, Repr

/-- The text of an error. -/
def Error.message (e : Error) : String :=
  "error parsing glob '" ++ e.pattern ++ "': " ++ e.fault.message

/-- Whether a text has wildcards. -/
def hasWildcard (s : List UInt8) : Bool :=
  s.any fun b => b == 0x2A || b == 0x3F || b == 0x5B

/-! ## Classes -/

/-- Extend the last range of a class up to a character. -/
def extendRange (ranges : List (Char × Char)) (c : Char) :
    Except Fault (List (Char × Char)) :=
  match ranges with
  | [] => .ok []
  | (low, _) :: rest =>
    if c < low then .error (.invalidRange low c) else .ok ((low, c) :: rest)

/-- The ranges of a class, the last one first, and the text after its closing bracket. A bracket
or a dash at the start stands for itself, and so does a dash at the end. -/
def classBody (first inRange : Bool) (ranges : List (Char × Char)) :
    List Char → Except Fault (List (Char × Char) × List Char)
  | [] => .error .unclosedClass
  | c :: rest =>
    if c = ']' ∧ !first then .ok (if inRange then ('-', '-') :: ranges else ranges, rest)
    else if c = ']' then classBody false inRange ((c, c) :: ranges) rest
    else if c = '-' ∧ !first ∧ !inRange then classBody false true ranges rest
    else if inRange then do classBody false false (← extendRange ranges c) rest
    else classBody false false ((c, c) :: ranges) rest

/-- A class, after its opening bracket. -/
def class? (s : List Char) : Except Fault (Token × List Char) := do
  let (negated, s) := match s with
    | '!' :: rest | '^' :: rest => (true, rest)
    | s => (false, s)
  let (ranges, rest) ← classBody true false [] s
  return (.oneOf negated ranges.reverse, rest)

/-! ## Reading -/

/-- A group in braces that is still open: the branches before the current one, and the tokens of the
branch around the group; both in reverse. -/
structure Group where
  branches : List (List Token)
  around : List Token

/-- The tokens that two stars add to those before them, which are in reverse, and the text after
them. They stand for whole names only where they are a whole name themselves. -/
def doubleStar (before : Option Char) (inGroup : Bool) (tokens : List Token) (s : List Char) :
    List Token × Option Char × List Char :=
  let plain := (.many :: .many :: tokens, some '*', s)
  match tokens with
  | [] =>
    match s with
    | [] => ([.anyStart], some '*', [])
    | '/' :: rest => ([.anyStart], some '/', rest)
    | _ => plain
  | last :: others =>
    if before ≠ some '/' ∧ ¬ (inGroup ∧ (before = some ',' ∨ before = some '\x7b')) then plain
    else
      let close (whole : Token) : List Token :=
        match last with
        | .anyStart => .anyStart :: others
        | .anyEnd => .anyEnd :: others
        | _ => whole :: others
      match s with
      | [] => (close .anyEnd, some '*', [])
      | '/' :: rest => (close .anyMiddle, some '/', rest)
      | c :: _ =>
        if inGroup ∧ (c = ',' ∨ c = '\x7d') then (close .anyEnd, some '*', s) else plain

/-- Read the rest of a pattern. `before` is the character before the rest, `tokens` are those of the
current branch in reverse, and `groups` are the open groups, the innermost first. -/
def parseFrom : Nat → Option Char → List Group → List Token → List Char →
    Except Fault (List Token)
  | 0, _, _, tokens, _ => .ok tokens.reverse
  | _ + 1, _, [], tokens, [] => .ok tokens.reverse
  | _ + 1, _, _ :: _, _, [] => .error .unclosedBraces
  | fuel + 1, before, groups, tokens, c :: rest =>
    match c with
    | '?' => parseFrom fuel (some c) groups (.one :: tokens) rest
    | '*' =>
      match rest with
      | '*' :: rest =>
        let (tokens, before, rest) := doubleStar before (!groups.isEmpty) tokens rest
        parseFrom fuel before groups tokens rest
      | rest => parseFrom fuel (some c) groups (.many :: tokens) rest
    | '[' => do
      let (token, rest) ← class? rest
      parseFrom fuel (some ']') groups (token :: tokens) rest
    | '\x7b' => parseFrom fuel (some c) ({ branches := [], around := tokens } :: groups) [] rest
    | '\x7d' =>
      match groups with
      | [] => .error .unopenedBraces
      | g :: groups =>
        let token := Token.alternatives (tokens.reverse :: g.branches).reverse
        parseFrom fuel (some c) groups (token :: g.around) rest
    | ',' =>
      match groups with
      | [] => parseFrom fuel (some c) groups (.literal c :: tokens) rest
      | g :: groups =>
        let g := { g with branches := tokens.reverse :: g.branches }
        parseFrom fuel (some c) (g :: groups) [] rest
    | '\\' =>
      match rest with
      | [] => .error .danglingEscape
      | c :: rest => parseFrom fuel (some c) groups (.literal c :: tokens) rest
    | c => parseFrom fuel (some c) groups (.literal c :: tokens) rest

/-- Read a pattern. -/
def parse (s : String) : Except Error (List Token) :=
  (parseFrom (s.length + 1) none [] [] s.toList).mapError ({ pattern := s, fault := · })

end Codemod.Glob
