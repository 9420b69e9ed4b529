import Codemod.Disk

set_option autoImplicit false

/-! # Members of archives

What an archive holds: files with their contents, directories and links, each under a path. -/

namespace Codemod.Archive

/-- What a member is. The mode says what may be done with it. -/
inductive Kind where
  | file (content : Content) (mode : Option Nat)
  /-- A directory. A late one is made after all other members. -/
  | directory (late : Bool) (mode : Option Nat)
  /-- A link; there is no target if it is empty. -/
  | link (target : Path)
  /-- One more name for another member; there is no target if it is empty. -/
  | sameAs (target : Path)
  /-- Something that leaves no trace. -/
  | remark

/-- A member of an archive. -/
structure Member where
  path : Path
  kind : Kind

/-- Whether a member is made after all others. -/
def Member.isLate (m : Member) : Bool :=
  match m.kind with
  | .directory late _ => late
  | _ => false

end Codemod.Archive
