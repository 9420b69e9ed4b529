import Codemod.Backup.Failure
import Codemod.Backup.Lookup
import Codemod.Disk.Change
import Codemod.Log.Event
import Codemod.Moment

set_option autoImplicit false

/-! # Archiving files

Copies of files in a new archive. It is put together under a name of its own and only gets its final
name once it is whole, so whatever goes wrong the archives that are there stay as they are. -/

namespace Codemod.Backup

/-- Something that is done with files and can fail. -/
abbrev Action (α : Type) := ExceptT Failure (StateM Disk) α

/-- Do something to the tree, naming the failure. -/
def attempt {α : Type} (failure : PathError → Failure) (action : Disk.Action α) : Action α :=
  fun d =>
    match action d with
    | (.ok a, d) => (.ok a, d)
    | (.error e, d) => (.error (failure e), d)

/-- What the clock and chance give to a new archive. -/
structure Draw where
  moment : Moment
  /-- Sixteen hexadecimal digits. -/
  tag : String
  /-- The rest of the name of the unfinished archive. -/
  suffix : String
  /-- What the member for each file is called, before the extension. -/
  member : Nat → String

/-- The name of an archive. -/
def Draw.archiveName (draw : Draw) : String :=
  "archive-" ++ draw.moment.compact ++ "-" ++ draw.tag ++ ".tar.gz"

/-- The name of an archive that is not finished. -/
def Draw.unfinishedName (draw : Draw) : String := ".bpc-archive-" ++ draw.suffix

/-- The name of the member for a file. -/
def Draw.memberName (draw : Draw) (n : Nat) : String := draw.member n ++ ".py"

/-! ## Tables -/

/-- Where a path leads from the root. There is nothing where an empty path leads. -/
def fullPath (p : Path) : Action Path := do
  let d ← get
  if p.bytes.isEmpty then throw (.io .notPossible)
  else if p.isAbsolute || d.hasDirectory d.workingDirectory then
    return p.absolute d.workingDirectory.path
  else throw (.io .notFound)

/-- The table for some files, which get the names from a number on. -/
def tableFrom (draw : Draw) : Nat → Lookup → List Path → Action Lookup
  | _, table, [] => return table
  | n, table, p :: rest => do
    let full ← fullPath p
    tableFrom draw (n + 1) (table.insert (draw.memberName n) full) rest

/-! ## Archives -/

/-- A copy of a file, or nothing for a directory. -/
def copyOf (d : Disk) (p : Path) : Except Failure (Option Content) :=
  if d.isDirectory p then .ok none
  else
    match d.read p with
    | .ok content => .ok (some content)
    | .error _ => .error (.cannotArchive p)

/-- The entries of an archive: a copy of each file, and the table last. -/
def entriesOf (d : Disk) (table : Lookup) : Except Failure (List (Path × Option Content)) := do
  let copies ← table.mapM fun e => do return (Path.ofString e.1, ← copyOf d e.2)
  match table.encode with
  | none => .error .badTable
  | some bytes => .ok (copies ++ [(.ofString Lookup.fileName, some (.bytes bytes))])

/-- Fill an unfinished archive and give it its final name. -/
def complete (table : Lookup) (unfinished final : Path) : Action Unit := do
  match entriesOf (← get) table with
  | .error e => throw e
  | .ok entries =>
    attempt .io (Disk.write unfinished (.sealed entries))
    attempt .io (Disk.rename unfinished final)

/-- Do something, and remove a file if that fails. -/
def orRemove {α : Type} (p : Path) (action : Action α) : Action α := fun d =>
  match action d with
  | (.error e, d) => (.error e, (Disk.removeFile p d).2)
  | done => done

/-- What the log is told about a new archive. -/
def archived (files : List Path) (archive : Path) : Log.Event :=
  { level := .debug
    message := "archived " ++ toString files.length ++ " files into " ++ archive.shown }

/-- Archive files into a new archive in a directory, which is made if it is not there. The answer is
the path of the archive. -/
def archive (draw : Draw) (files : List Path) (directory : Path) : Action Path := do
  let table ← tableFrom draw 0 [] files
  attempt (fun _ => .cannotMakeDirectory directory) (Disk.ensureDirectories directory)
  let final := directory.join (.ofString draw.archiveName)
  let unfinished := directory.join (.ofString draw.unfinishedName)
  attempt .io (Disk.writeNew unfinished (.bytes []))
  orRemove unfinished (complete table unfinished final)
  return final

end Codemod.Backup
