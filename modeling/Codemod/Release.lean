set_option autoImplicit false

/-! # This release

The name and the version under which the program tells what it is. -/

namespace Codemod.Release

/-- The name of the package. -/
def name : String := "bpc-utils"

/-- The version of the package. -/
def version : String := "0.10.1"

/-- Whether paths follow the rules of Windows. -/
def windows : Bool := false

end Codemod.Release
