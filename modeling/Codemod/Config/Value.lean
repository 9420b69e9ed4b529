import Codemod.Number.Binary64
import Codemod.Toml.Table

set_option autoImplicit false

/-! # Configuration values

The values that configuration sources give, whatever notation they are written in, and how the
tables of two sources are laid over each other: key by key, down to the first value that is no table
on both sides. -/

namespace Codemod.Config

/-- A value of a source. -/
inductive Value where
  | text (s : String)
  | bool (b : Bool)
  | integer (n : Int)
  | float (x : Binary64)
  | sequence
  | table (members : List (String × Value))
deriving Repr

/-- A table of values. -/
abbrev Members := List (String × Value)

namespace Members

/-- The value of a key. -/
def get? (ms : Members) (key : String) : Option Value :=
  (ms.find? fun m => m.1 == key).map (·.2)

/-- Give a key a value. -/
def put (ms : Members) (key : String) (value : Value) : Members :=
  ms.filter (fun m => m.1 != key) ++ [(key, value)]

end Members

/-! ## Layers -/

mutual

/-- A value laid over another. -/
def Value.over : Value → Value → Value
  | .table upper, .table lower => .table (overMembers upper lower)
  | upper, _ => upper

/-- A table laid over another. -/
def overMembers : Members → Members → Members
  | [], lower => lower
  | (key, value) :: upper, lower =>
    let value := match lower.get? key with
      | some below => value.over below
      | none => value
    overMembers upper (lower.put key value)

end

/-! ## Documents -/

mutual

/-- The value of a configuration document. A date is a table of its own, whose members nobody asks
for. -/
def Value.ofToml : Toml.Value → Value
  | .string s => .text s
  | .integer n => .integer n
  | .float x => .float x
  | .bool b => .bool b
  | .moment => .table []
  | .array _ | .tables _ => .sequence
  | .inline _ ms | .table _ ms => .table (ofTomlMembers ms)

/-- The table of a configuration document. -/
def ofTomlMembers : Toml.Members → Members
  | [] => []
  | (key, value) :: rest => (key, Value.ofToml value) :: ofTomlMembers rest

end

end Codemod.Config
