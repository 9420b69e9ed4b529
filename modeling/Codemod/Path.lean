import Codemod.Encoding.Utf8
import Codemod.Text.Split

set_option autoImplicit false

/-! # Paths

A path as it is written: bytes, with slashes between the parts. `components` gives what the parts
mean, `segments` what has to be looked up one after another. Names are bytes too, since a directory
does not ask whether a name is text. -/

namespace Codemod

/-- A name in a directory. -/
abbrev Name := List UInt8

/-- The bytes of a text. -/
def Name.ofString (s : String) : Name := Encoding.Utf8.encode s.toList

/-- A path as it is written. -/
structure Path where
  bytes : List UInt8
deriving DecidableEq, Repr

/-- A part of a path. -/
inductive Component where
  | root
  /-- The directory itself, named at the start of a path. -/
  | current
  | up
  | normal (name : Name)
deriving DecidableEq, Repr

namespace Path

/-- The byte between the parts of a path. -/
def separator : UInt8 := 0x2F

/-- The byte of a dot. -/
def dot : UInt8 := 0x2E

/-- The name of a directory itself. -/
def here : Name := [dot]

/-- The name of the directory above. -/
def above : Name := [dot, dot]

/-- The path of a text. -/
def ofString (s : String) : Path := ⟨Name.ofString s⟩

/-- A path as text; what is no text is marked. -/
def shown (p : Path) : String := String.ofList (Encoding.Utf8.decodeLossy p.bytes)

/-! ## Parts -/

/-- Whether a path starts at the root. -/
def isAbsolute (p : Path) : Bool := p.bytes.head? == some separator

/-- Whether a path ends in a slash. -/
def endsInSeparator (p : Path) : Bool := p.bytes.getLast? == some separator

/-- The names that are looked up one after another. -/
def segments (p : Path) : List Name :=
  (Text.split separator p.bytes).filter fun s => !s.isEmpty

/-- What a name means inside a path; nothing if it means to stay. -/
def componentOf? (s : Name) : Option Component :=
  if s = here then none else if s = above then some .up else some (.normal s)

/-- The parts of a path. Empty parts and dots mean nothing, except for a dot at the start. -/
def components (p : Path) : List Component :=
  let first :=
    if p.isAbsolute then [Component.root]
    else if p.segments.head? = some here then [Component.current]
    else []
  first ++ p.segments.filterMap componentOf?

/-- The name that stands for a part. -/
def nameOf : Component → Name
  | .root => [separator]
  | .current => here
  | .up => above
  | .normal name => name

/-- Put a path after another one. An absolute path stands for itself. -/
def join (p q : Path) : Path :=
  if q.isAbsolute then q
  else if p.bytes.isEmpty then q
  else if p.endsInSeparator then ⟨p.bytes ++ q.bytes⟩
  else ⟨p.bytes ++ separator :: q.bytes⟩

/-- A path with a slash at its end, unless it is empty. -/
def withSlash (p : Path) : Path := p.join ⟨[]⟩

/-- The path with the given parts. -/
def ofComponents (cs : List Component) : Path :=
  cs.foldl (fun p c => p.join ⟨nameOf c⟩) ⟨[]⟩

/-- The path without its last part, unless there is none or it is the root. -/
def parent? (p : Path) : Option Path :=
  match p.components.reverse with
  | [] | [.root] => none
  | _ :: rest => some (ofComponents rest.reverse)

/-- The last part, if it is a name. -/
def fileName? (p : Path) : Option Name :=
  match p.components.getLast? with
  | some (.normal name) => some name
  | _ => none

/-- What stands after the last dot of a name, unless the dot is its first byte. -/
def extensionOf? (name : Name) : Option Name :=
  let after := (name.reverse.takeWhile (· != dot)).reverse
  if after.length + 1 < name.length then some after else none

/-- The extension of the last part. -/
def extension? (p : Path) : Option Name :=
  p.fileName?.bind extensionOf?

/-- A relative path without the dot at its start. -/
def stripHere? (p : Path) : Option Path :=
  match p.components with
  | .current :: rest => some (ofComponents rest)
  | _ => none

/-- The path of a part inside a path; a part that only starts one has none. -/
def partOf? : Component → Option Path
  | .root | .current => none
  | c => some ⟨nameOf c⟩

/-- A path without dots that starts at the root, given where relative paths start. Two slashes at
the start, and one at the end, are kept. -/
def absolute (p directory : Path) : Path :=
  let names := p.components.filterMap partOf?
  let twoSlashes := p.bytes.takeWhile (· == separator) == [separator, separator]
  let start :=
    if twoSlashes then ⟨[separator, separator]⟩
    else if p.isAbsolute then ⟨[separator]⟩
    else directory
  let whole := names.foldl join start
  if p.endsInSeparator then whole.withSlash else whole

/-! ## Order -/

/-- The rank of a kind of part. -/
def Component.rank : Component → Nat
  | .root => 0
  | .current => 1
  | .up => 2
  | .normal _ => 3

/-- Whether bytes come before others, or are the same. -/
def bytesLe : List UInt8 → List UInt8 → Bool
  | [], _ => true
  | _ :: _, [] => false
  | a :: as, b :: bs => a < b || a == b && bytesLe as bs

/-- Whether a part comes before another one, or is the same. -/
def componentLe : Component → Component → Bool
  | .normal a, .normal b => bytesLe a b
  | a, b => Component.rank a ≤ Component.rank b

/-- Whether parts come before others, or are the same, the first difference counting. -/
def componentsLe : List Component → List Component → Bool
  | [], _ => true
  | _ :: _, [] => false
  | a :: as, b :: bs => if a = b then componentsLe as bs else componentLe a b

/-- The order of paths: part by part. -/
def le (p q : Path) : Bool := componentsLe p.components q.components

end Path

/-- The place of a directory or a file: the names that lead to it from the root, with no links and
no dots among them. -/
abbrev Location := List Name

/-- The path of a place. -/
def Location.path (l : Location) : Path :=
  Path.ofComponents (.root :: l.map .normal)

end Codemod
