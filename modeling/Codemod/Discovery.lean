import Codemod.Disk.Walk
import Codemod.Glob.Match
import Codemod.Log.Event

set_option autoImplicit false

/-! # Finding source files

The files that a user means by paths and patterns. Patterns stand for the paths they match, and
directories for the source files in them. Every file is listed once, whatever the number of paths
and places that lead to it. -/

namespace Codemod

/-! ## Expanding patterns -/

namespace Glob

/-- The parts of a pattern before the first one with a wildcard: every match lies below them. -/
def literalParts (pattern : Path) : List Component :=
  pattern.components.takeWhile fun
    | .normal name => !hasWildcard name
    | _ => true

/-- The directory in which the matches of a pattern are searched. -/
def literalBase (pattern : Path) : Path :=
  match literalParts pattern with
  | [] => ⟨Path.here⟩
  | parts => Path.ofComponents parts

/-- The paths that a pattern stands for, sorted. A path without wildcards stands for itself if it
leads to anything. -/
def expand (d : Disk) (pattern : String) : Except Error (List Path) := do
  let p := Path.ofString pattern
  if !hasWildcard p.bytes then
    return if d.exists? p then [p] else []
  else
    let tokens ← parse pattern
    let found := (d.walk (literalBase p)).filterMap Disk.Visit.path?
    return (found.filter (matchesPath tokens)).mergeSort Path.le

/-- The paths that several patterns stand for, in their order. -/
def expandAll (d : Disk) (patterns : List String) : Except Error (List Path) :=
  patterns.foldlM (fun paths pattern => return paths ++ (← expand d pattern)) []

end Glob

/-! ## Filters -/

/-- Which files in a directory are source files: those with one of some extensions. -/
structure FileFilter where
  extensions : List String
deriving DecidableEq, Repr

namespace FileFilter

/-- The extensions of source files. -/
def standardExtensions : List String := ["py", "pyw"]

/-- The filter for some extensions, which may be given with a dot. -/
def ofExtensions (extensions : List String) : FileFilter :=
  { extensions := extensions.map fun e => String.ofList (e.toList.dropWhile (· == '.')) }

/-- The filter for source files. -/
def standard : FileFilter := ofExtensions standardExtensions

/-- Whether a path has an accepted extension. -/
def accepts (filter : FileFilter) (p : Path) : Bool :=
  match p.extension? with
  | none => false
  | some e => filter.extensions.any fun accepted => Name.ofString accepted == e

end FileFilter

/-! ## Finding -/

/-- The number of the file that a path leads to. -/
def Disk.fileKey? (d : Disk) (p : Path) : Option Nat :=
  match d.status? p with
  | some (.file key) => some key
  | _ => none

/-- What a path leads to, by whichever name: a file by its number, a directory by its place. -/
inductive Identity where
  | file (key : Nat)
  | directory (place : Location)
deriving DecidableEq, Repr

/-- What a path leads to, if it leads to anything. -/
def Disk.identify (d : Disk) (p : Path) : Except PathError Identity :=
  match d.place? p with
  | .error e => .error e
  | .ok place =>
    match d.at? place with
    | some (.file key) => .ok (.file key)
    | some _ => .ok (.directory place)
    | none => .error .notFound

/-- One path for each thing that some paths lead to, and the position of each thing. -/
structure Unique where
  positions : List (Identity × Nat) := []
  paths : List Path := []
deriving DecidableEq, Repr

/-- Take up a path: in the stead of the one that leads to the same thing, or else at the end. -/
def Unique.add (u : Unique) (id : Identity) (p : Path) : Unique :=
  match u.positions.lookup id with
  | some position => { u with paths := u.paths.set position p }
  | none =>
    { positions := (id, u.paths.length) :: u.positions
      paths := u.paths ++ [p] }

/-- Take up some paths in turn. -/
def Unique.ofPaths (d : Disk) (paths : List Path) : Except PathError Unique :=
  paths.foldlM (fun u p => return u.add (← d.identify p) p) {}

/-- One path for each thing: the last one that leads to it, at the position of the first one. -/
def dedupe (d : Disk) (paths : List Path) : Except PathError (List Path) :=
  return (← Unique.ofPaths d paths).paths

/-- What a search has come to: the files, the directories that are to be walked, and the events for
the log. -/
structure Search where
  files : List Path := []
  directories : List Location := []
  log : List Log.Event := []

namespace Search

/-- Take up a path: a file is kept, whatever its extension, a directory is to be walked. -/
def addCandidate (d : Disk) (search : Search) (p : Path) : Search :=
  match d.canonical? p with
  | none =>
    { search with
      log := search.log ++
        [{ level := .debug, message := "skipping unresolvable path " ++ p.shown }] }
  | some place =>
    if d.hasDirectory place then { search with directories := search.directories ++ [place] }
    else { search with files := search.files ++ [place.path] }

/-- Take up what a walk came to. A file counts under the name that led to it or under its own; one
whose own path is too long is passed over. -/
def addVisit (filter : FileFilter) (search : Search) : Disk.Visit → Search
  | .directory .. | .closed _ => search
  | .file p place =>
    if Disk.isPassable place.path && (filter.accepts p || filter.accepts place.path) then
      { search with files := search.files ++ [place.path] }
    else search
  | .fault fault =>
    { search with
      log := search.log ++
        [{ level := .warn, message := "cannot read directory entry: " ++ fault.message }] }

/-- Walk through all directories, each of them once. -/
def walkAll (d : Disk) (filter : FileFilter) (search : Search) : Search :=
  (search.directories.foldl (fun (search, visited) l =>
    let (visits, visited) := d.walkOnce visited l
    (visits.foldl (addVisit filter) search, visited)) (search, [])).1

end Search

/-- The source files that paths and patterns stand for, and the events for the log. -/
def FileFilter.detect (filter : FileFilter) (d : Disk) (patterns : List String) :
    Except Glob.Error (List Path × List Log.Event) := do
  let candidates ← Glob.expandAll d patterns
  let search := (candidates.foldl (Search.addCandidate d) {}).walkAll d filter
  -- Paths that lead somewhere can be told apart, so there is always an answer here.
  return ((dedupe d (search.files.filter d.exists?)).toOption.getD [], search.log)

end Codemod
