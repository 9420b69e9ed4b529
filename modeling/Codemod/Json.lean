import Codemod.Number.Binary64

set_option autoImplicit false

/-! # JSON values

The values of the JSON data format, with numbers kept apart by what can hold them: a word without a
sign, a word with one, or a floating-point number. The members of an object keep the order in which
they were put in; `Codemod.Json.Parser` reads them and `Codemod.Json.Printer` writes them. -/

namespace Codemod

/-- A number of a JSON document. A negative number is kept as its magnitude. -/
inductive JsonNumber where
  | natural (n : Nat)
  | negative (magnitude : Nat)
  | double (x : Binary64)
deriving DecidableEq, Repr

/-- A JSON value. -/
inductive Json where
  | null
  | bool (b : Bool)
  | number (n : JsonNumber)
  | string (s : String)
  | array (items : List Json)
  | object (members : List (String × Json))
deriving Repr

namespace Json

instance : Inhabited Json := ⟨.null⟩

/-- A number from a natural number of any size. -/
def ofNat (n : Nat) : Json := .number (.natural n)

/-- The value of a member. The last one counts if a name is there twice. -/
def find? (members : List (String × Json)) (name : String) : Option Json :=
  (members.reverse.find? fun m => m.1 == name).map (·.2)

/-- The value of a member of an object; nothing if it is no object or has no such member. -/
def get? (j : Json) (name : String) : Option Json :=
  match j with
  | .object members => find? members name
  | _ => none

/-- The members sorted by name, the last one of each name. -/
def sortMembers (members : List (String × Json)) : List (String × Json) :=
  members.foldl insert []
where
  /-- Put a member in its place in a sorted list. -/
  insert (sorted : List (String × Json)) (m : String × Json) : List (String × Json) :=
    match sorted with
    | [] => [m]
    | x :: rest =>
      if m.1 < x.1 then m :: x :: rest
      else if m.1 = x.1 then m :: rest
      else x :: insert rest m

mutual

/-- A value with the members of all its objects sorted. -/
def sorted : Json → Json
  | .array items => .array (sortedItems items)
  | .object members => .object (sortMembers (sortedValues members))
  | j => j

/-- The items of an array, each sorted. -/
def sortedItems : List Json → List Json
  | [] => []
  | j :: rest => sorted j :: sortedItems rest

/-- The members of an object, each value sorted. -/
def sortedValues : List (String × Json) → List (String × Json)
  | [] => []
  | (name, j) :: rest => (name, sorted j) :: sortedValues rest

end

end Json

end Codemod
