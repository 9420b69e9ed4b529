import Codemod.Path

set_option autoImplicit false

/-! # A tree of directories and files

Directories, files with their contents, and symbolic links. Every entry has one place; files can be
in several places at once and then share one content. `resolve` finds the place that a path leads
to, through links and upwards, starting from the working directory. -/

namespace Codemod

/-- The content of a file: bytes, or a sealed archive, whose entries are known without reading any
bytes. An entry without content is a directory. -/
inductive Content where
  | bytes (bytes : List UInt8)
  | sealed (entries : List (Path × Option Content))

instance : Inhabited Content := ⟨.bytes []⟩

/-- What may be done with a directory or a file. -/
structure Rights where
  /-- A directory can be listed, and a file read. -/
  readable : Bool := true
  /-- Entries can be made in a directory and taken from it, and a file can get another content. -/
  writable : Bool := true
  /-- What is in a directory can be reached. For a file this means nothing here. -/
  searchable : Bool := true
deriving DecidableEq, Repr

/-- What is at a place. -/
inductive Entry where
  | directory (rights : Rights)
  /-- A file, known by a number. -/
  | file (key : Nat)
  | link (target : Path)
deriving DecidableEq, Repr

/-- Why a path leads nowhere, or something cannot be done there. -/
inductive PathError where
  | notFound
  | alreadyExists
  | tooManyLinks
  | notADirectory
  | isADirectory
  | notEmpty
  | denied
  | notPossible
deriving DecidableEq, Repr

/-- All directories and files, and the working directory. The root needs no entry. -/
structure Disk where
  entries : List (Location × Entry) := []
  contents : List (Nat × Content) := []
  /-- What may be done with files. With those that are not here all may be done. -/
  fileRights : List (Nat × Rights) := []
  /-- A number that no file has. -/
  nextKey : Nat := 0
  workingDirectory : Location := []

namespace Disk

/-! ## Looking -/

/-- What is at a place, if there is anything. -/
def at? (d : Disk) (l : Location) : Option Entry :=
  if l = [] then some (.directory {}) else (d.entries.find? fun e => e.1 == l).map (·.2)

/-- Whether something is a directory. -/
def isDirectoryEntry : Entry → Bool
  | .directory _ => true
  | _ => false

/-- Whether there is a directory at a place. -/
def hasDirectory (d : Disk) (l : Location) : Bool := (d.at? l).any isDirectoryEntry

/-- The content of a file. -/
def contentOf (d : Disk) (key : Nat) : Content :=
  ((d.contents.find? fun c => c.1 == key).map (·.2)).getD default

/-- What may be done with a file. -/
def rightsOf (d : Disk) (key : Nat) : Rights :=
  ((d.fileRights.find? fun r => r.1 == key).map (·.2)).getD {}

/-- What may be done at a place. -/
def rightsAt (d : Disk) (l : Location) : Rights :=
  match d.at? l with
  | some (.directory rights) => rights
  | some (.file key) => d.rightsOf key
  | _ => {}

/-- The entries of a directory, in no order that means anything. -/
def children (d : Disk) (l : Location) : List (Name × Entry) :=
  d.entries.filterMap fun (place, entry) =>
    match place.reverse with
    | name :: back => if back.reverse = l then some (name, entry) else none
    | [] => none

/-! ## Following paths -/

/-- Where a path leads: to an entry, or to a name that is free in a directory. -/
inductive Found where
  | entry (place : Location)
  | vacant (directory : Location) (name : Name)
deriving DecidableEq, Repr

/-- The place that was found, or would be. -/
def Found.place : Found → Location
  | .entry place => place
  | .vacant directory name => directory ++ [name]

/-- What comes of looking up names: an end, or a link on the way, with the names that remain. -/
inductive Course where
  | ends (found : Found)
  | link (from_ : Location) (target : Path) (rest : List Name)
deriving DecidableEq, Repr

/-- How long a name may be. -/
def nameLimit : Nat := 255

/-- How long a path may be. -/
def pathLimit : Nat := 4095

/-- Look up names from a directory on, up to the next link that has to be followed. A link at the
end is followed if `follow` says so, and then the end must be a directory if `slash` says so. -/
def advance (d : Disk) (follow slash : Bool) :
    Location → List Name → Except PathError Course
  | l, [] => .ok (.ends (.entry l))
  | l, name :: rest =>
    if !(d.rightsAt l).searchable then .error .denied
    else if name = Path.here then d.advance follow slash l rest
    else if name = Path.above then d.advance follow slash l.dropLast rest
    else if nameLimit < name.length then .error .notPossible
    else
      let place := l ++ [name]
      match d.at? place, rest with
      | none, [] => .ok (.ends (.vacant l name))
      | none, _ :: _ => .error .notFound
      | some (.directory _), rest => d.advance follow slash place rest
      | some (.file _), [] => if slash then .error .notADirectory else .ok (.ends (.entry place))
      | some (.file _), _ :: _ => .error .notADirectory
      | some (.link target), [] =>
        if follow || slash then .ok (.link l target []) else .ok (.ends (.entry place))
      | some (.link target), rest => .ok (.link l target rest)

/-- Look up names through at most a number of links. -/
def chase (d : Disk) (follow : Bool) :
    Nat → Bool → Location → List Name → Except PathError Found
  | links, slash, l, names =>
    match d.advance follow slash l names with
    | .error e => .error e
    | .ok (.ends found) => .ok found
    | .ok (.link l target rest) =>
      match links with
      | 0 => .error .tooManyLinks
      | links + 1 =>
        let start := if target.isAbsolute then [] else l
        d.chase follow links (slash || rest.isEmpty && target.endsInSeparator) start
          (target.segments ++ rest)

/-- How many links may be followed on the way. -/
def linkLimit : Nat := 40

/-- Whether a path can be handed to the system: it is not too long and has no byte zero. -/
def isPassable (p : Path) : Bool := !p.bytes.contains 0 && p.bytes.length ≤ pathLimit

/-- Find where the names of a path lead. A path that is empty or cannot be handed to the system
leads nowhere. -/
def locate (d : Disk) (p : Path) (follow slash : Bool) : Except PathError Found :=
  if p.bytes.isEmpty then .error .notFound
  else if !isPassable p then .error .notPossible
  else
    let start := if p.isAbsolute then [] else d.workingDirectory
    if !d.hasDirectory start then .error .notFound
    else d.chase follow linkLimit slash start p.segments

/-- Find where a path leads. A slash at its end asks for a directory. -/
def resolve (d : Disk) (p : Path) (follow : Bool) : Except PathError Found :=
  d.locate p follow p.endsInSeparator

/-- Find what a path names. A link at its end is not followed, even with a slash after it. -/
def resolveName (d : Disk) (p : Path) : Except PathError Found := d.locate p false false

/-- The place of what a path leads to, if there is anything. -/
def place? (d : Disk) (p : Path) (follow : Bool := true) : Except PathError Location :=
  match d.resolve p follow with
  | .error e => .error e
  | .ok (.entry place) => .ok place
  | .ok (.vacant ..) => .error .notFound

/-- What a path leads to, through links. -/
def status? (d : Disk) (p : Path) : Option Entry :=
  (d.place? p).toOption.bind d.at?

/-- What a path names, without following a link at its end. -/
def ownStatus? (d : Disk) (p : Path) : Option Entry :=
  (d.place? p false).toOption.bind d.at?

/-- Whether a path leads to anything. -/
def exists? (d : Disk) (p : Path) : Bool := (d.status? p).isSome

/-- Whether a path leads to a directory. -/
def isDirectory (d : Disk) (p : Path) : Bool := (d.status? p).any isDirectoryEntry

/-- Whether a path leads to a file. -/
def isFile (d : Disk) (p : Path) : Bool :=
  match d.status? p with
  | some (.file _) => true
  | _ => false

/-- The place that a path leads to, if it has a path without links and dots that is not too long. -/
def canonical? (d : Disk) (p : Path) : Option Location :=
  (d.place? p).toOption.filter fun place => isPassable place.path

/-- The content of the file that a path leads to. -/
def read (d : Disk) (p : Path) : Except PathError Content := do
  let place ← d.place? p
  match d.at? place with
  | some (.file key) =>
    if (d.rightsOf key).readable then .ok (d.contentOf key) else .error .denied
  | _ => .error .isADirectory

/-- The entries of the directory that a path leads to, sorted by name. -/
def list (d : Disk) (p : Path) : Except PathError (List (Name × Entry)) := do
  let place ← d.place? p
  if !d.hasDirectory place then .error .notADirectory
  else if !(d.rightsAt place).readable then .error .denied
  else .ok ((d.children place).mergeSort fun a b => Path.bytesLe a.1 b.1)

end Disk

end Codemod
