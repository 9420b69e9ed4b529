import Codemod.Disk

set_option autoImplicit false

/-! # Changing a tree

What can be done to directories and files. An action that fails leaves the tree as it was, except
where several directories have to be made: those that were made before the failure stay. -/

namespace Codemod.Disk

/-- An action on a tree that can fail. -/
abbrev Action (α : Type) := ExceptT PathError (StateM Disk) α

/-- Look at the tree. -/
def look {α : Type} (f : Disk → Except PathError α) : Action α := do
  match f (← get) with
  | .ok a => return a
  | .error e => throw e

/-! ## Entries -/

/-- The tree with an entry at a place, in the stead of what was there. -/
def put (d : Disk) (l : Location) (entry : Entry) : Disk :=
  { d with entries := d.entries.filter (fun e => e.1 != l) ++ [(l, entry)] }

/-- The tree without what is at a place and below it. -/
def cut (d : Disk) (l : Location) : Disk :=
  { d with entries := d.entries.filter fun e => !l.isPrefixOf e.1 }

/-- The tree with another content for a file. -/
def setContent (d : Disk) (key : Nat) (content : Content) : Disk :=
  { d with contents := (key, content) :: d.contents.filter fun c => c.1 != key }

/-- The tree with a new file at a place. -/
def addFile (d : Disk) (l : Location) (content : Content) : Disk :=
  { (d.put l (.file d.nextKey)).setContent d.nextKey content with nextKey := d.nextKey + 1 }

/-- The tree after what is at one place, with all below it, was put to another place. -/
def carry (d : Disk) (source target : Location) : Disk :=
  { d.cut target with
    entries := (d.cut target).entries.map fun (l, entry) =>
      (if source.isPrefixOf l then target ++ l.drop source.length else l, entry) }

/-- Whether the last name of a path is one of those that name no entry. -/
def endsSpecially (p : Path) : Bool :=
  match p.segments.getLast? with
  | none => true
  | some name => name == Path.here || name == Path.above

/-! ## Rights -/

/-- Fail unless something may be written at a place: a content for a file, or an entry of a
directory. -/
def requireWritable (l : Location) : Action Unit := do
  if !((← get).rightsAt l).writable then throw .denied

/-- Change what may be done with what a path leads to. -/
def setRights (p : Path) (rights : Rights) : Action Unit := do
  let l ← look (·.place? p)
  match (← get).at? l with
  | some (.file key) =>
    modify fun d =>
      { d with fileRights := (key, rights) :: d.fileRights.filter fun r => r.1 != key }
  | _ => modify (·.put l (.directory rights))

/-! ## Directories -/

/-- Put an entry where a name is free in a directory. -/
def putNew (l : Location) (name : Name) (entry : Entry) : Action Unit := do
  requireWritable l
  modify (·.put (l ++ [name]) entry)

/-- Make a directory. -/
def makeDirectory (p : Path) : Action Unit := do
  match ← look (·.resolveName p) with
  | .entry _ => throw .alreadyExists
  | .vacant l name => putNew l name (.directory {})

/-- Make a directory unless it is there, given what to do first if the one above it is missing. -/
def ensureDirectory (p : Path) (above : Action Unit) : Action Unit := fun d =>
  match makeDirectory p d with
  | (.ok _, d) => (.ok (), d)
  | (.error .notFound, d) =>
    match above d with
    | (.error e, d) => (.error e, d)
    | (.ok _, d) =>
      match makeDirectory p d with
      | (.ok _, d) => (.ok (), d)
      | (.error e, d) => (if d.isDirectory p then .ok () else .error e, d)
  | (.error e, d) => (if d.isDirectory p then .ok () else .error e, d)

/-- Make the directory with the given parts, in reverse, and those above it. -/
def ensureParts : List Component → Action Unit
  | [] => return ()
  | [.root] => ensureDirectory (Path.ofComponents [.root]) (throw .notPossible)
  | c :: back => ensureDirectory (Path.ofComponents (c :: back).reverse) (ensureParts back)

/-- Make a directory and those above it unless they are there. -/
def ensureDirectories (p : Path) : Action Unit :=
  if p.bytes.isEmpty then return ()
  else ensureDirectory p
    (match p.components.reverse with
      | [] | [.root] => throw .notPossible
      | _ :: back => ensureParts back)

/-- Make a directory the working directory. -/
def changeDirectory (p : Path) : Action Unit := do
  let l ← look (·.place? p)
  let d ← get
  if !d.hasDirectory l then throw .notADirectory
  if !(d.rightsAt l).searchable then throw .denied
  modify fun d => { d with workingDirectory := l }

/-! ## Files and links -/

/-- Write a file: a new one, or a new content for the one that a path leads to. -/
def write (p : Path) (content : Content) : Action Unit := do
  match ← look (·.resolve p true) with
  | .vacant l name =>
    if p.endsInSeparator then throw .isADirectory
    requireWritable l
    modify (·.addFile (l ++ [name]) content)
  | .entry l =>
    match (← get).at? l with
    | some (.file key) => do
      requireWritable l
      modify (·.setContent key content)
    | _ => throw .isADirectory

/-- Write a file where nothing is yet. -/
def writeNew (p : Path) (content : Content) : Action Unit := do
  match ← look (·.resolve p false) with
  | .entry _ => throw .alreadyExists
  | .vacant l name =>
    if p.endsInSeparator then throw .isADirectory
    requireWritable l
    modify (·.addFile (l ++ [name]) content)

/-- Make a link. -/
def makeLink (target p : Path) : Action Unit := do
  if target.bytes.isEmpty then throw .notFound
  if !isPassable target then throw .notPossible
  match ← look (·.resolveName p) with
  | .entry _ => throw .alreadyExists
  | .vacant l name =>
    if p.endsInSeparator then throw .notFound
    putNew l name (.link target)

/-- Put a file into one more place. -/
def makeHardLink (source p : Path) : Action Unit := do
  let l ← look (·.place? source false)
  match (← get).at? l with
  | some (.directory _) | none => throw .notPossible
  | some entry =>
    match ← look (·.resolveName p) with
    | .entry _ => throw .alreadyExists
    | .vacant l name =>
      if p.endsInSeparator then throw .notFound
      putNew l name entry

/-- Remove a file or a link. -/
def removeFile (p : Path) : Action Unit := do
  let l ← look (·.place? p false)
  match (← get).at? l with
  | some (.directory _) | none => throw .isADirectory
  | some _ => do
    requireWritable l.dropLast
    modify (·.cut l)

/-- The tree without what is below a place. -/
def cutBelow (d : Disk) (l : Location) : Disk :=
  { d with entries := d.entries.filter fun e => !(l.isPrefixOf e.1 && l != e.1) }

/-- Whether a path names what it leads to, and not a link to it with a slash after its name. -/
def namesDirectory (d : Disk) (p : Path) : Bool :=
  match d.ownStatus? (Path.ofComponents p.components) with
  | some (.link _) => !p.endsInSeparator
  | _ => !endsSpecially p

/-- Whether there is a directory at a place that cannot be listed, or that holds something which
cannot be removed. -/
def isSealedOff (d : Disk) (l : Location) : Bool :=
  let rights := d.rightsAt l
  d.hasDirectory l &&
    (!rights.readable || !(rights.writable && rights.searchable) && !(d.children l).isEmpty)

/-- Remove a directory with all below it, or a link. What is below a directory goes first; if its
path does not name it then the directory itself stays, and that is an error. Nothing goes if there
is something below that cannot be removed. -/
def removeTree (p : Path) : Action Unit := do
  let l ← look (·.place? p false)
  match (← get).at? l with
  | some (.directory _) =>
    let d ← get
    if d.entries.any fun e => l.isPrefixOf e.1 && d.isSealedOff e.1 then throw .denied
    modify (·.cutBelow l)
    if !(← get).namesDirectory p then throw .notPossible
    requireWritable l.dropLast
    modify (·.cut l)
  | some (.link _) => do
    requireWritable l.dropLast
    modify (·.cut l)
  | _ => throw .notADirectory

/-- Whether two entries are one file. -/
def sameFile : Entry → Entry → Bool
  | .file a, .file b => a == b
  | _, _ => false

/-- Put what is at one place to another one, out of one directory and into the other. A directory
that comes into another one is written to as well. -/
def move (source target : Location) : Action Unit := do
  requireWritable source.dropLast
  requireWritable target.dropLast
  if (← get).hasDirectory source && source.dropLast != target.dropLast then requireWritable source
  modify (·.carry source target)

/-- Rename what a path names. What the new path names gives way, if it is of the same kind and, as a
directory, empty; if both are one file already nothing happens. -/
def rename (source target : Path) : Action Unit := do
  let old ← look (·.place? source false)
  let new ← look (·.resolveName target)
  let d ← get
  if endsSpecially source || endsSpecially target then throw .notPossible
  match d.at? old with
  | none => throw .notFound
  | some (.directory _) =>
    if old.isPrefixOf new.place then
      if new.place = old then return () else throw .notPossible
    match d.at? new.place with
    | none => move old new.place
    | some (.directory _) =>
      if (d.children new.place).isEmpty then move old new.place else throw .notEmpty
    | some _ => throw .notADirectory
  | some entry =>
    if target.endsInSeparator then throw .notADirectory
    match d.at? new.place with
    | none => move old new.place
    | some (.directory _) => throw .isADirectory
    | some there =>
      if new.place = old || sameFile entry there then return ()
      else move old new.place

/-- Copy a file over what a path leads to, or to where that path is free. The copy may be used as the
file may. Over itself a file is emptied, since it is read after the copy was opened for writing. -/
def copyFile (source target : Path) : Action Unit := do
  let l ← look (·.place? source)
  let rights := (← get).rightsAt l
  let _ ← look (·.read source)
  write target (.bytes [])
  let content ← look (·.read source)
  write target content
  setRights target rights

/-- Rename what a path names; where that is refused, copy the file instead and remove it. -/
def moveFile (source target : Path) : Action Unit :=
  tryCatch (rename source target) fun _ => do
    copyFile source target
    removeFile source

end Codemod.Disk
