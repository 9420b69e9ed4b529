import Codemod.Number.Numeral
import Codemod.Text.Blank
import Codemod.Text.Property

set_option autoImplicit false

/-! # Patterns for values

A filter can ask for a field whose value fits a pattern: a regular expression with groups, classes,
repetitions and edges. Here it is decided which texts are patterns that an automaton can be built
for. A closing brace always ends a field, so whatever needs one, such as a counted repetition, is
no pattern. -/

namespace Codemod.Log.Pattern

/-! ## Modes -/

/-- How a part of a pattern is read. -/
structure Mode where
  /-- Blanks and comments are passed over. -/
  spaced : Bool := false
  /-- Classes are those of Unicode. Otherwise they are those of ASCII, and none may go beyond. -/
  unicode : Bool := true
deriving DecidableEq, Repr

/-- Drop blanks, and comments from a number sign to the end of the line. -/
def dropSpace (inComment : Bool) : List Char → List Char
  | [] => []
  | c :: rest =>
    if inComment then dropSpace (c != '\n') rest
    else if Text.isBlank c then dropSpace false rest
    else if c = '#' then dropSpace true rest
    else c :: rest

/-- What comes next in a mode. -/
def Mode.skip (m : Mode) (s : List Char) : List Char :=
  if m.spaced then dropSpace false s else s

/-- The next character after a hyphen. Of a comment that comes first it is the first character. -/
def Mode.peek (m : Mode) (s : List Char) : Option Char :=
  if m.spaced then
    match s.dropWhile Text.isBlank with
    | '#' :: rest => (rest.dropWhile Text.isBlank).head?
    | s => s.head?
  else s.head?

/-! ## Atoms -/

/-- The smallest parts of a pattern. -/
inductive Atom where
  /-- A character, perhaps written as the number of a byte. -/
  | literal (c : Char) (asByte : Bool)
  /-- A class of characters that has no name outside ASCII, or that has. -/
  | set (beyondAscii : Bool)
  /-- The start or the end of a text or a line, or of a word. -/
  | edge (ofWord : Bool)
deriving DecidableEq, Repr

/-- Whether an atom can stand for itself. An automaton knows the edges of words only within
ASCII. -/
def Atom.isAllowed (m : Mode) : Atom → Bool
  | .literal c asByte => m.unicode || !asByte || c.toNat < 0x80
  | .set beyondAscii => m.unicode || !beyondAscii
  | .edge ofWord => !ofWord || !m.unicode

/-- Whether an atom can stand in a class in brackets. -/
def Atom.isAllowedInClass (m : Mode) : Atom → Bool
  | .literal c _ => m.unicode || c.toNat < 0x80
  | .set beyondAscii => m.unicode || !beyondAscii
  | .edge _ => false

/-- The value of a number of hexadecimal digits, which blanks may stand between. -/
def hex? (m : Mode) : Nat → Nat → List Char → Option (Nat × List Char)
  | 0, value, s => some (value, s)
  | n + 1, value, s =>
    match m.skip s with
    | c :: rest => (Numeral.hexDigit? c).bind fun d => hex? m n (16 * value + d) rest
    | [] => none

/-- The character with a number of so many digits. -/
def character? (m : Mode) (digits : Nat) (s : List Char) : Option (Atom × List Char) := do
  let (n, rest) ← hex? m digits 0 s
  if n.isValidChar then some (.literal (Char.ofNat n) (digits == 2), rest) else none

/-- The letters that stand for the general categories of characters. -/
def categories : List Char := "clmnpszCLMNPSZ".toList

/-- What stands after a backslash. Every character of ASCII can stand for itself there except for
letters, digits and angle brackets. -/
def escape? (m : Mode) : List Char → Option (Atom × List Char)
  | [] => none
  | c :: rest =>
    if c = 'x' then character? m 2 rest
    else if c = 'u' then character? m 4 rest
    else if c = 'U' then character? m 8 rest
    else if c = 'p' ∨ c = 'P' then
      match m.skip rest with
      | c :: rest => if categories.contains c then some (.set true, rest) else none
      | [] => none
    else if "dsw".toList.contains c then some (.set false, rest)
    else if "DSW".toList.contains c then some (.set true, rest)
    else if "aftnrv".toList.contains c then some (.literal '\n' false, rest)
    else if "Az".toList.contains c then some (.edge false, rest)
    else if "bB<>".toList.contains c then some (.edge true, rest)
    else if c.isAlphanum || 0x80 ≤ c.toNat then none
    else some (.literal c false, rest)

/-! ## Classes -/

/-- The names of the classes of ASCII. -/
def classNames : List String :=
  ["alnum", "alpha", "ascii", "blank", "cntrl", "digit", "graph", "lower", "print", "punct",
    "space", "upper", "word", "xdigit"]

/-- A class with a name between colons, after its opening bracket. -/
def named? (s : List Char) : Option (Atom × List Char) :=
  match s with
  | ':' :: s =>
    let (negated, s) := match s with | '^' :: s => (true, s) | s => (false, s)
    match s.dropWhile (· != ':') with
    | ':' :: ']' :: rest =>
      if classNames.contains (String.ofList (s.takeWhile (· != ':'))) then
        some (.set negated, rest)
      else none
    | _ => none
  | _ => none

/-- An atom in a class. -/
def item? (m : Mode) : List Char → Option (Atom × List Char)
  | [] => none
  | '\\' :: rest => escape? m rest
  | c :: rest => some (.literal c false, rest)

/-- Whether two atoms are the ends of a range. -/
def isRange (m : Mode) : Atom → Atom → Bool
  | .literal low asByte, .literal high asByte' =>
    low ≤ high && (Atom.literal low asByte).isAllowedInClass m
      && (Atom.literal high asByte').isAllowedInClass m
  | _, _ => false

/-- An atom or a range in a class, and what stands after it. A hyphen makes no range before a
closing bracket or another hyphen. -/
def member? (m : Mode) (s : List Char) : Option (List Char) := do
  let (a, s) ← item? m s
  match m.skip s with
  | '-' :: rest =>
    if m.peek rest = some ']' ∨ m.peek rest = some '-' then
      if a.isAllowedInClass m then some ('-' :: rest) else none
    else
      let (b, s) ← item? m (m.skip rest)
      if isRange m a b then some s else none
  | s => if a.isAllowedInClass m then some s else none

/-- Pass over hyphens, and over blanks after each of them. -/
def dropHyphens (m : Mode) : Nat → List Char → List Char
  | 0, s => s
  | fuel + 1, s =>
    match s with
    | '-' :: rest => dropHyphens m fuel (m.skip rest)
    | s => s

/-- What stands after an opening bracket, a caret, and hyphens or else a closing bracket, which
stand for themselves there. The complement of a class goes beyond ASCII. -/
def openClass? (m : Mode) (s : List Char) : Option (List Char) :=
  let s := m.skip s
  let (negated, s) := match s with | '^' :: s => (true, m.skip s) | s => (false, s)
  if negated && !m.unicode then none
  else
    match dropHyphens m s.length s with
    | ']' :: rest => if s.head? = some ']' then some rest else some (']' :: rest)
    | s => some s

/-- What stands after a class, of which so many brackets are open. -/
def class? (m : Mode) : Nat → Nat → List Char → Option (List Char)
  | 0, _, _ => none
  | fuel + 1, depth, s =>
    match m.skip s with
    | [] => none
    | '[' :: rest =>
      match named? rest with
      | some (a, rest) => if a.isAllowedInClass m then class? m fuel depth rest else none
      | none => (openClass? m rest).bind (class? m fuel (depth + 1))
    | ']' :: rest => if depth = 1 then some rest else class? m fuel (depth - 1) rest
    | '&' :: '&' :: rest => class? m fuel depth rest
    | '-' :: '-' :: rest => class? m fuel depth rest
    | '~' :: '~' :: rest => class? m fuel depth rest
    | s => (member? m s).bind (class? m fuel depth)

/-! ## Groups -/

/-- The letters that change how a pattern is read, after a hyphen to turn them off. -/
def flagLetters : List Char := "imsUuRx-".toList

/-- What a row of letters says about one of them. -/
def flag? (letters : List Char) (letter : Char) : Option Bool :=
  if letters.contains letter then some ((letters.takeWhile (· != '-')).contains letter) else none

/-- The mode that a row of letters changes another one to. -/
def Mode.changedBy (m : Mode) (letters : List Char) : Mode :=
  { spaced := (flag? letters 'x').getD m.spaced
    unicode := (flag? letters 'u').getD m.unicode }

/-- Where the reading of a pattern stands. -/
structure State where
  mode : Mode := {}
  /-- The modes around the open groups. -/
  outer : List Mode := []
  /-- There is something right before that can be repeated. -/
  repeatable : Bool := false
  /-- The names of groups. -/
  names : List (List Char) := []

/-- Start a group. -/
def State.enter (st : State) (mode : Mode) : State :=
  { st with mode, outer := st.mode :: st.outer, repeatable := false }

/-- Whether a text can be the name of a group. -/
def isName : List Char → Bool
  | [] => false
  | c :: rest =>
    (c == '_' || Text.isAlphabetic c)
      && rest.all fun c => "_.[]".toList.contains c || Text.isAlphanumeric c

/-- The group with a name, which ends in an angle bracket. -/
def namedGroup? (st : State) (s : List Char) : Option (State × List Char) :=
  let name := s.takeWhile (· != '>')
  match s.dropWhile (· != '>') with
  | [] => none
  | _ :: rest =>
    if isName name && !st.names.contains name then
      some ({ st.enter st.mode with names := name :: st.names }, rest)
    else none

/-- Letters that change the mode, for a group or for what is left of the one around them. -/
def flags? (st : State) (s : List Char) : Option (State × List Char) :=
  let isEnd := fun c => c == ':' || c == ')'
  let letters := s.takeWhile (!isEnd ·)
  if !(letters.all flagLetters.contains && letters.Nodup) || letters.getLast? = some '-' then none
  else
    match s.dropWhile (!isEnd ·) with
    | [] => none
    | ':' :: rest => some (st.enter (st.mode.changedBy letters), rest)
    | _ :: rest =>
      if letters.isEmpty then none
      else some ({ st with mode := st.mode.changedBy letters, repeatable := false }, rest)

/-- What stands after an opening parenthesis. -/
def group? (st : State) (s : List Char) : Option (State × List Char) :=
  match st.mode.skip s with
  | '?' :: 'P' :: '<' :: rest => namedGroup? st rest
  | '?' :: '<' :: rest => namedGroup? st rest
  | '?' :: rest => flags? st rest
  | s => some (st.enter st.mode, s)

/-! ## Patterns -/

/-- Go on after an atom. -/
def State.atom? (st : State) (a : Atom) (rest : List Char) : Option (State × List Char) :=
  if a.isAllowed st.mode then some ({ st with repeatable := true }, rest) else none

/-- One step through a pattern. -/
def step (st : State) : List Char → Option (State × List Char)
  | [] => none
  | '(' :: rest => group? st rest
  | ')' :: rest =>
    match st.outer with
    | [] => none
    | mode :: outer => some ({ st with mode, outer, repeatable := true }, rest)
  | '|' :: rest => some ({ st with repeatable := false }, rest)
  | '[' :: rest => do
    let s ← openClass? st.mode rest
    let s ← class? st.mode (s.length + 1) 1 s
    some ({ st with repeatable := true }, s)
  | '\\' :: rest => do
    let (a, rest) ← escape? st.mode rest
    st.atom? a rest
  | '.' :: rest => st.atom? (.set true) rest
  | '\x7b' :: _ => none
  | c :: rest =>
    if c = '?' ∨ c = '*' ∨ c = '+' then if st.repeatable then some (st, rest) else none
    else some ({ st with repeatable := true }, rest)

/-- Whether the rest of a text completes a pattern. -/
def completes : Nat → State → List Char → Bool
  | 0, _, _ => false
  | fuel + 1, st, s =>
    match st.mode.skip s with
    | [] => st.outer.isEmpty
    | s =>
      match step st s with
      | some (st, rest) => completes fuel st rest
      | none => false

end Pattern

/-- Whether a text is a pattern. Every step takes at least one character. -/
def isPattern (s : List Char) : Bool := Pattern.completes (s.length + 1) {} s

end Codemod.Log
