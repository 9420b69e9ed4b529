import Codemod.Json.Parser
import Codemod.Json.Printer
import Codemod.Path

set_option autoImplicit false

/-! # Lookup tables

Which file each member of an archive is a copy of. The table is kept sorted by the names of the
members and lies in the archive itself, as an object of JSON. -/

namespace Codemod.Backup

/-- The paths of files by the names of members, sorted by name. -/
abbrev Lookup := List (String × Path)

namespace Lookup

/-- The name of the member with the table. -/
def fileName : String := "_lookup_table.json"

/-- Give a name a path. -/
def insert (table : Lookup) (name : String) (p : Path) : Lookup :=
  match table with
  | [] => [(name, p)]
  | first :: rest =>
    if name < first.1 then (name, p) :: first :: rest
    else if name = first.1 then (name, p) :: rest
    else first :: insert rest name p

/-- The table with some entries, the last one of each name. -/
def ofList (entries : List (String × Path)) : Lookup :=
  entries.foldl (fun table e => table.insert e.1 e.2) []

/-- The text of a path, if it is one. -/
def textOf (p : Path) : Option String :=
  (Encoding.Utf8.decode p.bytes).toOption.map String.ofList

/-- The bytes of a table; there are none if a path is no text. -/
def encode (table : Lookup) : Option (List UInt8) := do
  let members ← table.mapM fun e => (textOf e.2).map fun s => (e.1, s)
  some (Encoding.Utf8.encode (Json.prettyTable members))

/-- The entry that a member of a JSON object stands for. -/
def entry? (m : String × Json) : Option (String × Path) :=
  match m.2 with
  | .string s => some (m.1, .ofString s)
  | _ => none

/-- The table with given bytes, if they are one. -/
def decode (bytes : List UInt8) : Option Lookup := do
  let text ← (Encoding.Utf8.decode bytes).toOption
  match ← Json.parse? text with
  | .object members => (members.mapM entry?).map ofList
  | _ => none

/-- Whether a name is that of a member that lies directly in an archive. -/
def isPlainName (name : String) : Bool :=
  (Path.ofString name).fileName? == some (Name.ofString name)

end Lookup

end Codemod.Backup
