import Codemod.Json.Printer
import Codemod.Text.Literal

set_option autoImplicit false

/-! # Values that are not what was expected

Why a JSON value is refused where something else was expected, and the texts for it. -/

namespace Codemod.Json

/-- What a value is, in words. -/
def described : Json → String
  | .null => "null"
  | .bool b => "boolean `" ++ toString b ++ "`"
  | .number (.double x) => "floating point `" ++ x.dataText ++ "`"
  | .number n => "integer `" ++ String.ofList (numberText n) ++ "`"
  | .string s => "string " ++ Text.literal s
  | .array _ => "sequence"
  | .object _ => "map"

/-- Why a value is refused. -/
inductive Mismatch where
  /-- A value of another kind. -/
  | kind (found : Json) (expected : String)
  /-- An object with more or fewer members than one. -/
  | notSingle
  /-- A word that is not one of the known ones. -/
  | unknownVariant (word : String) (known : List String)
  /-- An array with too many items. -/
  | surplus (length : Nat)
  /-- A value whose content is refused. -/
  | content (message : String)

/-- The text of a refusal. -/
def Mismatch.message : Mismatch → String
  | .kind found expected => "invalid type: " ++ found.described ++ ", expected " ++ expected
  | .notSingle => "invalid value: map, expected map with a single key"
  | .unknownVariant word known =>
    "unknown variant `" ++ word ++ "`, expected one of " ++
      ", ".intercalate (known.map fun k => "`" ++ k ++ "`")
  | .surplus length =>
    "invalid length " ++ toString length ++ ", expected fewer elements in array"
  | .content message => message

end Codemod.Json
