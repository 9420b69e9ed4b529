import Codemod.Disk

set_option autoImplicit false

/-! # Why backups fail

The causes for which files cannot be archived or recovered, and the texts for those that a user can
do something about. -/

namespace Codemod.Backup

/-- Why an archive cannot be made or used. -/
inductive Failure where
  /-- The directory for archives cannot be made. -/
  | cannotMakeDirectory (directory : Path)
  | cannotArchive (file : Path)
  | cannotOpen (archive : Path)
  | cannotExtract (archive : Path)
  | noLookupTable (archive : Path)
  | cannotRestore (file : Path)
  /-- The directory for archives cannot be read. -/
  | cannotList (error : PathError)
  | noArchive (directory : Path)
  | multipleItems (directory : Path)
  | notAFile (item : Name) (directory : Path)
  /-- The lookup table has a name that is not the plain name of a file. -/
  | invalidMember (name : String)
  /-- The lookup table cannot be written or read. -/
  | badTable
  | io (error : PathError)
deriving DecidableEq, Repr

/-- Between single quotes, as it is. -/
def inQuotes (s : String) : String := "'" ++ s ++ "'"

/-- The text for a failure, if it has one of its own. -/
def Failure.message : Failure → Option String
  | .cannotMakeDirectory d => some ("cannot create archive directory " ++ d.shown)
  | .cannotArchive p => some ("cannot archive " ++ p.shown)
  | .cannotOpen p => some ("cannot open " ++ p.shown)
  | .cannotExtract p => some ("cannot extract " ++ p.shown)
  | .noLookupTable p => some (p.shown ++ " has no lookup table")
  | .cannotRestore p => some ("cannot restore " ++ p.shown)
  | .noArchive d => some ("no archive files found in " ++ inQuotes d.shown)
  | .multipleItems d => some ("more than one item found in " ++ inQuotes d.shown)
  | .notAFile item d =>
    some ("item " ++ inQuotes (Path.mk item).shown ++ " in " ++ inQuotes d.shown ++
      " is not a regular file")
  | .invalidMember name => some ("archive member " ++ inQuotes name ++ " is not a plain file name")
  | .cannotList _ | .badTable | .io _ => none

end Codemod.Backup
