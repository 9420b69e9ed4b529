import Codemod.Log.Event
import Codemod.Log.Pattern
import Codemod.Number.Binary64
import Codemod.Number.Numeral
import Codemod.Text.Blank
import Codemod.Text.Split

set_option autoImplicit false

/-! # Filters for events

A filter is written as directives with commas between them. A directive names a level, or a target
with a level; between brackets it can name a span and a field. Of the directives that apply to an
event the most specific one decides. -/

namespace Codemod.Log

/-- A directive: events are let through up to a level, nothing standing for no level at all. -/
structure Directive where
  level : Option Level := some .trace
  target : Option String := none
  /-- The span that events have to lie in. -/
  span : Option String := none
  /-- The field that events have to have, perhaps with a value. -/
  field : Option (String × Option String) := none
deriving DecidableEq, Repr

namespace Directive

/-! ## Reading -/

/-- The levels by their numbers. -/
def levels : List (Option Level) :=
  [none, some .error, some .warn, some .info, some .debug, some .trace]

/-- The names of the levels, in the order of their numbers. -/
def levelNames : List String := ["off", "error", "warn", "info", "debug", "trace"]

/-- The level with a number or a name. -/
def level? (s : List Char) : Option (Option Level) :=
  match Numeral.unsigned? 64 s with
  | some n => levels[n]?
  | none => levels[levelNames.idxOf (Text.lowerAscii (String.ofList s))]?

/-- The number of bytes before a part of a text, and the part itself. -/
def dropBytes? : Nat → List Char → Option (List Char)
  | 0, s => some s
  | _ + 1, [] => none
  | n + 1, c :: rest => if c.utf8Size ≤ n + 1 then dropBytes? (n + 1 - c.utf8Size) rest else none

/-- The part of a text between two positions, which are counted in bytes. -/
def part? (s : List Char) (start stop : Nat) : Option (List Char) := do
  let tail ← dropBytes? start s
  let rest ← dropBytes? stop s
  some (tail.take (tail.length - rest.length))

/-- Whether a text is a number with a plus sign. All other numbers are patterns as well. -/
def isSignedNumber : List Char → Bool
  | '+' :: s =>
    ["inf", "infinity", "nan"].contains (Text.lowerAscii (String.ofList s))
      || (Numeral.natural? s).isSome
      || (Binary64.ofPointText? s).isSome && s.head?.any (fun c => c == '.' || Numeral.isDigit c)
      || match s.dropWhile Numeral.isDigit with
        | c :: e => (c == 'e' || c == 'E') && s.head?.any Numeral.isDigit
            && (Numeral.integer? e).isSome
        | [] => false
  | _ => false

/-- The field with a name and perhaps a value, which has to be a number or a pattern. -/
def field? (s : List Char) : Option (String × Option String) :=
  match Text.split '=' s with
  | name :: value :: _ =>
    if isSignedNumber value || isPattern value then
      some (String.ofList name, some (String.ofList value))
    else none
  | _ => if s.isEmpty then none else some (String.ofList s, none)

/-- Where the reading of a directive stands, with the position at which its current part starts. -/
inductive Reading where
  | start
  | word (start : Nat)
  | span (start : Nat)
  | field (start : Nat)
  | closing
  | target
  | level (start : Nat)
deriving DecidableEq, Repr

/-- Whether a directive can start with a character. -/
def isStart (c : Char) : Bool :=
  Text.isAlphanumeric c || c == '-' || c == ':' || c == '_'

/-- Read a character at a position, with the text that the parts are taken from. -/
def step? (text : List Char) (d : Directive) (r : Reading) (i : Nat) (c : Char) :
    Option (Directive × Reading) :=
  match r with
  | .start =>
    if c = '[' then some (d, .span (i + 1))
    else if isStart c then some (d, .word i)
    else none
  | .word start =>
    if c = '=' ∨ c = '[' then do
      let target ← part? text start i
      let d := { d with target := some (String.ofList target) }
      some (d, if c = '=' then .level (i + 1) else .span (i + 1))
    else some (d, r)
  | .span start =>
    if c = ']' then do
      let name ← part? text start i
      some ({ d with span := some (String.ofList name) }, .target)
    else if c = '\x7b' then do
      let name ← part? text start i
      let span := if name.isEmpty then none else some (String.ofList name)
      some ({ d with span }, .field (i + 1))
    else some (d, r)
  | .field start =>
    if c = '\x7d' then do
      let field ← field? (← part? text start i)
      some ({ d with field := some field }, .closing)
    else some (d, r)
  | .closing => if c = ']' then some (d, .target) else none
  | .target => if c = '=' then some (d, .level (i + 1)) else none
  | .level _ => some (d, r)

/-- Read characters from a position on. -/
def read? (text : List Char) (d : Directive) (r : Reading) (i : Nat) :
    List Char → Option (Directive × Reading)
  | [] => some (d, r)
  | c :: rest => do
    let (d, r) ← step? text d r i c
    read? text d r (i + c.utf8Size) rest

/-- The directive when all of it has been read. A word that is no level is a target, and a level
that is left out is the most talkative one. -/
def finish? (text : List Char) (d : Directive) : Reading → Option Directive
  | .word start => do
    let word ← dropBytes? start text
    match level? word with
    | some level => some { d with level }
    | none => some { d with target := some (String.ofList word) }
  | .level start => do
    let level ← dropBytes? start text
    if level.isEmpty then some { d with level := some .trace }
    else (level? level).map fun level => { d with level }
  | .target => some d
  | _ => none

/-- A directive from its text. Blanks around it are passed over, yet its parts are taken from the
whole text at the places that they have without the blanks: so blanks in front move every part
away from where it is written. -/
def parse? (text : List Char) : Option Directive := do
  let (d, r) ← read? text {} .start 0 (Text.trim text)
  finish? text d r

/-! ## Events -/

/-- Whether a directive is about events wherever they happen. -/
def isStatic (d : Directive) : Bool := d.span.isNone && d.field.all fun f => f.2.isNone

/-- The names of the fields that an event has. -/
def fieldNames (e : Event) : List String := "message" :: e.fields.map (·.1)

/-- Whether a directive applies to an event. -/
def appliesTo (d : Directive) (e : Event) : Bool :=
  d.target.all (fun t => t.toList.isPrefixOf e.target.toList)
    && d.field.all fun f => (fieldNames e).contains f.1

/-- Whether a directive lets an event through that it applies to. -/
def admits (d : Directive) (e : Event) : Bool :=
  match d.level with
  | some level => e.level.rank ≤ level.rank
  | none => false

/-- How specific a directive is by its target. -/
def targetRank (d : Directive) : Nat :=
  match d.target with
  | some t => t.utf8ByteSize + 1
  | none => 0

/-- Whether one directive comes before another: for its longer target, for having a field, or for
the name of the field. -/
def precedes (d d' : Directive) : Bool :=
  d'.targetRank < d.targetRank || d.targetRank == d'.targetRank &&
    match d.field, d'.field with
    | some f, some f' => f'.1 < f.1
    | some _, none => true
    | none, _ => false

end Directive

/-! ## Filters -/

/-- A filter. -/
structure Filter where
  directives : List Directive := []
deriving DecidableEq, Repr

namespace Filter

/-- The filter for a level. -/
def ofLevel (level : Level) : Filter := { directives := [{ level := some level }] }

/-- A filter from its text, if all of it can be read. -/
def parse? (s : String) : Option Filter := do
  let parts := (Text.split ',' s.toList).filter fun part => !part.isEmpty
  let directives ← parts.mapM Directive.parse?
  some { directives := directives.filter Directive.isStatic }

/-- The directive that decides about an event: the first in precedence that applies, and the last
one given where neither precedes the other. -/
def decisive? (f : Filter) (e : Event) : Option Directive :=
  (f.directives.filter (·.appliesTo e)).foldl (fun best d =>
    match best with
    | some b => if b.precedes d then some b else some d
    | none => some d) none

/-- Whether an event is let through. -/
def admits (f : Filter) (e : Event) : Bool :=
  match f.decisive? e with
  | some d => d.admits e
  | none => false

/-- The filter from the environment, if it has one that can be read, or else the one for a level. -/
def ofEnvironment (value : Option String) (level : Level) : Filter :=
  (value.bind parse?).getD (ofLevel level)

end Filter

/-! ## Installation -/

/-- The filter through which events are written, once one has been installed. -/
structure Output where
  filter : Option Filter := none
deriving DecidableEq, Repr

namespace Output

/-- Install a filter, unless there is one already. -/
def install (output : Output) (value : Option String) (level : Level) : Bool × Output :=
  match output.filter with
  | some _ => (false, output)
  | none => (true, { filter := some (.ofEnvironment value level) })

/-- Whether an event is written. -/
def writes (output : Output) (e : Event) : Bool := output.filter.any (·.admits e)

end Output

end Codemod.Log
