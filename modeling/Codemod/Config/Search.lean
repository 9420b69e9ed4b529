import Codemod.Config
import Codemod.Disk

set_option autoImplicit false

/-! # Where the configuration file is

A relative path is looked for from the working directory upwards, and the first file that is found
counts. It is no fault if there is none. -/

namespace Codemod.Config

/-- A directory and those above it, the nearest first. -/
def withAbove (l : Location) : List Location :=
  (List.range (l.length + 1)).map fun n => l.take (l.length - n)

/-- The file that a path stands for, if there is one. -/
def findFile? (d : Disk) (p : Path) : Option Path :=
  if p.isAbsolute then if d.isFile p then some p else none
  else ((withAbove d.workingDirectory).map fun l => l.path.join p).find? fun p => d.isFile p

/-- The text of a file, which must be UTF-8. -/
def readDocument (d : Disk) (p : Path) : Except Error (List Char) :=
  match d.read p with
  | .ok (.bytes bytes) => (Encoding.Utf8.decode bytes).mapError fun _ => .source
  | _ => .error .source

/-- The configuration from the file that a path stands for, if there is one, and an environment. -/
def loadFrom (d : Disk) (env : List (String × String)) (p : Path) : Except Error DispatchConfig :=
  load ((findFile? d p).map (readDocument d)) env

end Codemod.Config
