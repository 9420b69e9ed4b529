import Codemod.Text.Line
import Codemod.Indentation.Scanner

set_option autoImplicit false

/-! # Indentation

What one level of indentation consists of, and which indentation a text uses. Every line that opens
a deeper block votes for tabs or for spaces; a line that continues another one, a blank line and a
comment never do. Spaces win with the narrowest such line, tabs win with one tab, and a tie means
four spaces. -/

namespace Codemod

/-- One level of indentation. -/
inductive Indentation where
  | spaces (width : Nat)
  | tab
deriving DecidableEq, Repr

namespace Indentation

/-- The indentation of a text that does not show one. -/
def standard : Indentation := .spaces 4

/-- The characters of one level. -/
def chars : Indentation → List Char
  | .spaces width => List.replicate width ' '
  | .tab => ['\t']

/-- The text of one level. -/
def text (indent : Indentation) : String :=
  String.ofList indent.chars

/-- The largest number of bytes that a text can have. -/
def maxTextSize : Nat := 0x7FFFFFFFFFFFFFFF

/-- Whether the text of one level can exist in memory at all. -/
def Representable : Indentation → Prop
  | .spaces width => width ≤ maxTextSize
  | .tab => True

instance : DecidablePred Representable := fun indent =>
  match indent with
  | .spaces width => inferInstanceAs (Decidable (width ≤ maxTextSize))
  | .tab => isTrue trivial

/-! ## Leading blanks -/

/-- A character that indents: a space, a tab or a form feed. -/
def isIndentChar (c : Char) : Bool :=
  c == ' ' || c == '\t' || c == '\x0c'

/-- The leading blanks of a line. -/
def leading (line : List Char) : List Char :=
  line.takeWhile isIndentChar

/-- The column after some leading blanks: a tab goes on to the next multiple of eight. -/
def width (indent : List Char) : Nat :=
  indent.foldl (fun column c => if c == '\t' then (column / 8 + 1) * 8 else column + 1) 0

/-- A line that holds no code: nothing but blanks, or blanks and a comment. -/
def isSilent (line : List Char) : Bool :=
  match line.dropWhile isIndentChar with
  | [] => true
  | c :: rest => c == '#' || (c :: rest).all Text.isLineEnd

/-! ## Voting -/

/-- What a line that opens a block votes for. -/
inductive Vote where
  | spaces (count : Nat)
  | tab
deriving DecidableEq, Repr

/-- The vote of a line with the given leading blanks; a mixture of tabs and spaces has none. -/
def vote? (indent : List Char) : Option Vote :=
  if indent.contains '\t' then
    if indent.contains ' ' then none else some .tab
  else some (.spaces indent.length)

/-- The votes so far, and the widths of the blocks that are open, the innermost first. -/
structure Poll where
  levels : List Nat := [0]
  spaces : Nat := 0
  tabs : Nat := 0
  narrowest : Option Nat := none
deriving DecidableEq, Repr

namespace Poll

/-- The width of the innermost open block. -/
def current (poll : Poll) : Nat :=
  poll.levels.headD 0

/-- Close the blocks that are deeper than `width`; the outermost one stays. -/
def closeTo (width : Nat) : List Nat → List Nat
  | top :: outer :: rest =>
    if width < top then closeTo width (outer :: rest) else top :: outer :: rest
  | levels => levels

/-- Count a vote. -/
def count (poll : Poll) : Option Vote → Poll
  | none => poll
  | some .tab => { poll with tabs := poll.tabs + 1 }
  | some (.spaces n) =>
    { poll with
      spaces := poll.spaces + 1
      narrowest := some (match poll.narrowest with | none => n | some m => min m n) }

/-- Take a line of code with the given leading blanks into account. -/
def addLine (poll : Poll) (indent : List Char) : Poll :=
  let w := Indentation.width indent
  if poll.current < w then
    count { poll with levels := w :: poll.levels } (vote? indent)
  else
    { poll with levels := closeTo w poll.levels }

/-- The outcome of the votes. -/
def result (poll : Poll) : Indentation :=
  if poll.tabs < poll.spaces then
    match poll.narrowest with
    | some n => .spaces n
    | none => standard
  else if poll.spaces < poll.tabs then .tab
  else standard

end Poll

/-! ## Detection -/

/-- The lines of a text that hold code and do not continue another line. -/
def counted (scanner : Scanner) : List (List Char) → List (List Char)
  | [] => []
  | line :: rest =>
    let later := counted (scanner.scan line) rest
    if scanner.inLogicalLine || isSilent line then later else line :: later

/-- The indentation that a text uses. -/
def detect (text : List Char) : Indentation :=
  let lines := counted {} (Text.lines text)
  (lines.foldl (fun (poll : Poll) line => poll.addLine (leading line)) {}).result

end Indentation

end Codemod
