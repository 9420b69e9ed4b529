import Codemod.Disk

set_option autoImplicit false

/-! # Walking through directories

Everything below a directory, links followed, the entries of each directory sorted by name. A link
that leads back to a directory on the way down is passed over, so every walk ends. A walk can also
pass over the directories that it, or another walk, has been to. -/

namespace Codemod.Disk

/-! ## Faults -/

/-- The system's text for a path that leads nowhere. -/
def PathError.text : PathError → String
  | .notFound => "No such file or directory (os error 2)"
  | .alreadyExists => "File exists (os error 17)"
  | .tooManyLinks => "Too many levels of symbolic links (os error 40)"
  | .notADirectory => "Not a directory (os error 20)"
  | .isADirectory => "Is a directory (os error 21)"
  | .notEmpty => "Directory not empty (os error 39)"
  | .denied => "Permission denied (os error 13)"
  | .notPossible => "Invalid argument (os error 22)"

/-- Why an entry is passed over. -/
inductive WalkFault where
  | path (path : Path) (error : PathError)
  /-- A link leads back to a directory above it. -/
  | loop (path : Path)
deriving DecidableEq, Repr

/-- The text of a fault. -/
def WalkFault.message : WalkFault → String
  | .path p e => "IO error for operation on " ++ p.shown ++ ": " ++ PathError.text e
  | .loop p => "File system loop found: " ++ p.shown ++ " points to an ancestor"

/-! ## Entries -/

/-- What a walk comes to: a file or a directory at a place, under the path that led there. -/
inductive Visit where
  | file (path : Path) (place : Location)
  | directory (path : Path) (place : Location)
  /-- A file or a directory that is listed but cannot be reached. -/
  | closed (path : Path)
  | fault (fault : WalkFault)
deriving DecidableEq, Repr

/-- The path of a file or a directory. -/
def Visit.path? : Visit → Option Path
  | .file p _ => some p
  | .directory p _ => some p
  | .closed p => some p
  | .fault _ => none

/-- What stands behind an entry, a link being followed. `above` are the directories on the way. -/
def meet (d : Disk) (above : List Location) (p : Path) (l : Location) (entry : Entry) : Visit :=
  let reachable := (d.rightsAt l.dropLast).searchable && isPassable p
  match entry with
  | .file _ => if reachable then .file p l else .closed p
  | .directory _ => if reachable then .directory p l else .closed p
  | .link _ =>
    match d.place? p with
    | .error e => .fault (.path p e)
    | .ok place =>
      if !d.hasDirectory place then .file p place
      else if above.contains place then .fault (.loop p)
      else .directory p place

/-- The entries of a directory, sorted by name. -/
def sortedChildren (d : Disk) (l : Location) : List (Name × Entry) :=
  (d.children l).mergeSort fun a b => Path.bytesLe a.1 b.1

/-- Everything below the directory at a place, in the order in which it is visited, and the
directories that have been visited then. With `once`, those are not visited again, and neither is a
directory whose own path is too long. -/
def below (d : Disk) (once : Bool) : Nat → List Location → List Location → Path → Location →
    List Visit × List Location
  | 0, _, visited, _, _ => ([], visited)
  | depth + 1, above, visited, p, l =>
    if !(d.rightsAt l).readable then ([.fault (.path p .denied)], visited)
    else (d.sortedChildren l).foldl (fun (seen, visited) (name, entry) =>
      match d.meet above (p.join ⟨name⟩) (l ++ [name]) entry with
      | .directory p place =>
        if once && (visited.contains place || !isPassable place.path) then (seen, visited)
        else
          let (more, visited) := d.below once depth (place :: above) (place :: visited) p place
          (seen ++ .directory p place :: more, visited)
      | visit => (seen ++ [visit], visited)) ([], visited)

/-- How deep a walk can get: every link on the way leads to a directory that is not on it yet. -/
def depthLimit (d : Disk) : Nat := (d.entries.length + 1) * (d.entries.length + 1)

/-- Everything below a path; nothing if it leads to no directory. -/
def walk (d : Disk) (p : Path) : List Visit :=
  match d.place? p with
  | .error _ => []
  | .ok place =>
    if d.hasDirectory place then (d.below false d.depthLimit [place] [place] p place).1 else []

/-- Everything below a directory that has not been visited yet, and what has been visited then. -/
def walkOnce (d : Disk) (visited : List Location) (l : Location) : List Visit × List Location :=
  if visited.contains l then ([], visited)
  else d.below true d.depthLimit [l] (l :: visited) l.path l

end Codemod.Disk
