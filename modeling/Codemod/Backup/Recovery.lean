import Codemod.Archive.Unpack
import Codemod.Backup.Archive

set_option autoImplicit false

/-! # Recovering files

The files of an archive are put back where they came from: it is unpacked into a directory of its
own, and each member with an entry in the lookup table is moved from there to its path. -/

namespace Codemod.Backup

/-- What is removed when the files are back. -/
inductive Cleanup where
  | keep
  /-- The archive. -/
  | removeArchive
  /-- The directory that was given, which must hold an archive and nothing else. -/
  | removeDirectory
deriving DecidableEq, Repr

/-! ## Reading archives -/

/-- The only item of a directory, which must be a file. -/
def onlyFileIn (d : Disk) (directory : Path) : Except Failure Path :=
  match d.list directory with
  | .error e => .error (.cannotList e)
  | .ok [] => .error (.noArchive directory)
  | .ok [(name, .file _)] => .ok (directory.join ⟨name⟩)
  | .ok [(name, _)] => .error (.notAFile name directory)
  | .ok _ => .error (.multipleItems directory)

/-- The archive that is meant by a path. -/
def archiveAt (d : Disk) (cleanup : Cleanup) (p : Path) : Except Failure Path :=
  match cleanup with
  | .removeDirectory => onlyFileIn d p
  | .keep | .removeArchive => .ok p

/-- The members of an archive. -/
def membersAt (d : Disk) (archive : Path) : Except Failure (List Archive.Member) :=
  match d.place? archive with
  | .error _ => .error (.cannotOpen archive)
  | .ok _ =>
    match d.read archive with
    | .error .denied => .error (.cannotOpen archive)
    | .error _ => .error (.cannotExtract archive)
    | .ok content =>
      match Archive.membersOf content with
      | some members => .ok members
      | none => .error (.cannotExtract archive)

/-- The table of an archive that is unpacked. -/
def tableAt (d : Disk) (staging archive : Path) : Except Failure Lookup :=
  match d.read (staging.join (.ofString Lookup.fileName)) with
  | .error _ => .error (.noLookupTable archive)
  | .ok (.sealed _) => .error .badTable
  | .ok (.bytes bytes) =>
    match Lookup.decode bytes with
    | some table => .ok table
    | none => .error .badTable

/-- Take what was found, or fail. -/
def check {α : Type} (found : Except Failure α) : Action α :=
  match found with
  | .ok a => return a
  | .error e => throw e

/-! ## Restoring -/

/-- Move the member of an entry to its path. -/
def restoreEntry (staging : Path) (e : String × Path) : Action Unit := do
  if !Lookup.isPlainName e.1 then throw (.invalidMember e.1)
  if let some parent := e.2.parent? then attempt .io (Disk.ensureDirectories parent)
  attempt (fun _ => .cannotRestore e.2) (Disk.moveFile (staging.join (.ofString e.1)) e.2)

/-- Unpack an archive into a directory and move its members to their paths. The answer is the number
of entries in the table. -/
def restore (staging archive : Path) : Action Nat := do
  let members ← check (membersAt (← get) archive)
  let top ← attempt .io (Disk.look (·.place? staging))
  attempt (fun _ => .cannotExtract archive) (Archive.unpack top members)
  let table ← check (tableAt (← get) staging archive)
  table.forM (restoreEntry staging)
  return table.length

/-- Remove what is to be removed at the end. -/
def clean (cleanup : Cleanup) (p archive : Path) : Action Unit :=
  match cleanup with
  | .keep => return ()
  | .removeArchive => attempt .io (Disk.removeFile archive)
  | .removeDirectory => attempt .io (Disk.removeTree p)

/-! ## Recovery -/

/-- What the log is told about a recovery. -/
def recovered (count : Nat) (archive : Path) : Log.Event :=
  { level := .debug
    message := "recovered " ++ toString count ++ " files from " ++ archive.shown }

/-- Do something with a new directory, which is removed afterwards. -/
def withDirectory {α : Type} (p : Path) (action : Action α) : Action α := do
  attempt .io (Disk.makeDirectory p)
  fun d =>
    let (answer, d) := action d
    (answer, (Disk.removeTree p d).2)

/-- Recover the files of an archive, with a directory for unpacking. The answer is what goes into
the log; it is there as soon as the files are back, even if the removals fail. -/
def recover (staging p : Path) (cleanup : Cleanup) :
    StateM Disk (Except Failure Unit × List Log.Event) := fun d =>
  match archiveAt d cleanup p with
  | .error e => ((.error e, []), d)
  | .ok archive =>
    match withDirectory staging (restore staging archive) d with
    | (.error e, d) => ((.error e, []), d)
    | (.ok count, d) =>
      let (answer, d) := clean cleanup p archive d
      ((answer, [recovered count archive]), d)

end Codemod.Backup
