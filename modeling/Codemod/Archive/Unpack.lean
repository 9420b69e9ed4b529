import Codemod.Archive.Gzip
import Codemod.Archive.Tar
import Codemod.Disk.Change

set_option autoImplicit false

/-! # Unpacking

The members of a file that is an archive, and how they come to lie in a directory. Nothing is ever
put outside the directory: members whose paths lead upwards are passed over, and so are no links
followed on the way that lead out of it. -/

namespace Codemod.Archive

/-! ## Members -/

/-- A member of a sealed archive. -/
def sealedMember (entry : Path × Option Content) : Member :=
  { path := entry.1
    kind := match entry.2 with | some content => .file content none | none => .directory true none }

/-- The members of a file, if it is an archive that is in order. -/
def membersOf : Content → Option (List Member)
  | .sealed entries => some (entries.map sealedMember)
  | .bytes bytes =>
    Tar.members (if Gzip.isCompressed bytes then Gzip.expand bytes else { bytes })

/-! ## Places -/

/-- The names below the directory that a member is to have; nothing if its path leads upwards. -/
def namesOf (p : Path) : Option (List Name) :=
  if p.components.contains .up then none
  else some (p.components.filterMap fun
    | .normal name => some name
    | _ => none)

/-- Fail unless a path leads to something in a directory. -/
def requireInside (top : Location) (p : Path) : Disk.Action Unit := do
  let l ← Disk.look (·.place? p)
  if top.isPrefixOf l then return () else throw .notPossible

/-- Make the directories with some names, one below the other, unless they are there. -/
def makeParents (top : Location) : List Name → List Name → Disk.Action Unit
  | _, [] => return ()
  | made, name :: rest => do
    let p := Location.path (top ++ made ++ [name])
    if ((← get).ownStatus? p).isNone then
      requireInside top (Location.path (top ++ made))
      Disk.ensureDirectories p
    makeParents top (made ++ [name]) rest

/-! ## Members of each kind -/

/-- Make something at a path. What is there gives way. -/
def replacing (p : Path) (make : Disk.Action Unit) : Disk.Action Unit := fun d =>
  match make d with
  | (.error .alreadyExists, d) => (do Disk.removeFile p; make) d
  | done => done

/-- Make a directory, unless there is one. A link to a directory is none. -/
def makeDirectory (p : Path) : Disk.Action Unit := fun d =>
  match Disk.makeDirectory p d with
  | (.error .alreadyExists, d) =>
    (if (d.ownStatus? p).any Disk.isDirectoryEntry then .ok () else .error .alreadyExists, d)
  | done => done

/-- What a mode lets the owner do. -/
def rightsOf (mode : Nat) : Rights :=
  { readable := mode.testBit 8, writable := mode.testBit 7, searchable := mode.testBit 6 }

/-- Take over a mode if there is one. -/
def setMode (p : Path) (mode : Option Nat) : Disk.Action Unit := do
  if let some mode := mode then Disk.setRights p (rightsOf mode)

/-- Put a member at a path. -/
def place (top : Location) (p : Path) : Kind → Disk.Action Unit
  | .file content mode => do
    replacing p (Disk.writeNew p content)
    setMode p mode
  | .directory _ mode => do
    makeDirectory p
    setMode p mode
  | .link target => replacing p (Disk.makeLink target p)
  | .sameAs target => do
    if target.bytes.isEmpty then throw .notFound
    let source := (Location.path top).join target
    requireInside top source
    Disk.makeHardLink source p
  | .remark => return ()

/-- Put a member into a directory. -/
def unpackMember (top : Location) (m : Member) : Disk.Action Unit := do
  match namesOf m.path with
  | none | some [] => return ()
  | some names => do
    let parents := names.dropLast
    makeParents top [] parents
    requireInside top (Location.path (top ++ parents))
    place top (Location.path (top ++ names)) m.kind

/-! ## All members -/

/-- The members in the order in which they are made: the late ones come last, what lies deeper
before what it lies in. -/
def inOrder (ms : List Member) : List Member :=
  ms.filter (!·.isLate) ++
    (ms.filter (·.isLate)).mergeSort fun a b => Path.bytesLe b.path.bytes a.path.bytes

/-- Put members into a directory. -/
def unpack (top : Location) (ms : List Member) : Disk.Action Unit :=
  (inOrder ms).forM (unpackMember top)

end Codemod.Archive
