import Codemod.Json.Mismatch
import Codemod.Linesep

set_option autoImplicit false

/-! # Stored line separators

A line separator as a JSON value: its name, or an object with its name as the only member and
nothing as the value. -/

namespace Codemod.Linesep

/-- The separator with a name, or a refusal of the name. -/
def ofVariant (name : String) : Except Json.Mismatch Linesep :=
  match ofName? name with
  | some sep => .ok sep
  | none => .error (.unknownVariant name (all.map Linesep.name))

/-- The separator that a JSON value stands for. -/
def ofJson : Json → Except Json.Mismatch Linesep
  | .string s => ofVariant s
  | .object members =>
    match Json.sortMembers members with
    | [(name, value)] => do
      let sep ← ofVariant name
      match value with
      | .null => .ok sep
      | value => .error (.kind value "unit")
    | _ => .error .notSingle
  | j => .error (.kind j "string or map")

end Codemod.Linesep
