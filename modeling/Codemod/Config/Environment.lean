import Codemod.Config.Notation
import Codemod.Text.Split

set_option autoImplicit false

/-! # Settings in the environment

The variables whose names start with a prefix, whatever the case, are settings. The rest of a name
is a key; dots in it lead into tables. Where two names come down to one key the later one counts. -/

namespace Codemod.Config.Environment

/-- What the names of settings start with. -/
def namePrefix : String := "BPC_"

/-- The key that a name stands for, if it is the name of a setting. -/
def key? (name : String) : Option (List String) :=
  let name := Text.trim name.toList
  let start := name.take namePrefix.length
  if start.map Char.toLower ≠ namePrefix.toList.map Char.toLower then none
  else
    let key := Text.split '.' (Text.trim (name.drop namePrefix.length))
    if key.any List.isEmpty then none
    else some (key.map fun part => String.ofList (part.map Char.toLower))

/-- A value under a key with parts. -/
def nest (key : List String) (value : Value) : Value :=
  key.foldr (fun part v => .table [(part, v)]) value

/-- The members that one variable stands for. -/
def membersOf (name value : String) : Members :=
  match key? name with
  | some (part :: more) => [(part, nest more (Notation.value value))]
  | _ => []

/-- Set a variable. One that is set already keeps its place. -/
def set (env : List (String × String)) (name value : String) : List (String × String) :=
  if env.any fun v => v.1 == name then
    env.map fun v => if v.1 == name then (name, value) else v
  else env ++ [(name, value)]

/-- The settings of an environment. -/
def settings (env : List (String × String)) : Members :=
  env.foldl (fun ms (name, value) => overMembers (membersOf name value) ms) []

end Codemod.Config.Environment
