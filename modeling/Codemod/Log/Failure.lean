import Codemod.Log.Event
import Codemod.Task

set_option autoImplicit false

/-! # Telling the user about failures

The event for a task that failed. It has a target of its own, so that it can be filtered apart from
the events of a caller. -/

namespace Codemod.Log

/-- The target of the events about failures. -/
def failureTarget : String := "bpc_utils::logging"

/-- The event that tells the user about a failure. -/
def failureEvent (f : TaskFailure) : Event :=
  { level := .error, message := f.shown, target := failureTarget }

end Codemod.Log
