import Codemod.Lock

set_option autoImplicit false

/-! # Tasks

An item of work carries the place at which it was submitted, and so does what comes of it. A
transformation returns a value, fails with a chain of causes, or panics. -/

namespace Codemod

/-- A piece of work and its place among those submitted. -/
structure Task (α : Type) where
  index : Nat
  payload : α
deriving DecidableEq, Repr

/-- Give each item its place. -/
def Task.ofItems {α : Type} (items : List α) : List (Task α) :=
  items.zipIdx.map fun (payload, index) => { index, payload }

/-- What a transformation sees besides its payload. -/
structure TaskContext where
  index : Nat
  worker : Nat
  lock : TaskLock
deriving DecidableEq, Repr

/-- How a transformation ends. -/
inductive Outcome (β : Type) where
  | returned (value : β)
  /-- The texts of the error and of its causes, outermost first. -/
  | failed (chain : List String)
  /-- Panicked with a text, or with something that is none. -/
  | panicked (payload : Option String)
deriving DecidableEq, Repr

/-- What is done with the payload of each task. -/
abbrev Transform (α β : Type) := TaskContext → α → Outcome β

/-- The failure of one task. -/
structure TaskFailure where
  index : Nat
  message : String
deriving DecidableEq, Repr

/-- The text of a failure. -/
def TaskFailure.shown (f : TaskFailure) : String :=
  "task " ++ toString f.index ++ " failed: " ++ f.message

/-- What came of one task. -/
structure TaskResult (β : Type) where
  index : Nat
  outcome : Except TaskFailure β

namespace TaskResult

variable {β : Type}

/-- The result of a task that returned a value. -/
def success (index : Nat) (value : β) : TaskResult β :=
  { index, outcome := .ok value }

/-- The result of a task that failed, with all causes in its message. -/
def failure (index : Nat) (chain : List String) : TaskResult β :=
  { index, outcome := .error { index, message := ": ".intercalate chain } }

/-- The failure, if the task failed. -/
def failure? (r : TaskResult β) : Option TaskFailure :=
  match r.outcome with
  | .ok _ => none
  | .error f => some f

/-- Whether the task failed. -/
def isFailure (r : TaskResult β) : Bool := r.failure?.isSome

end TaskResult

/-! ## Crashes -/

/-- A worker that went down in a panic. -/
structure Crash where
  worker : Nat
  index : Nat
  message : String
deriving DecidableEq, Repr

namespace Crash

/-- The text of a panic whose payload is no text. -/
def standardMessage : String := "worker panicked"

/-- The text of a crash. -/
def shown (c : Crash) : String :=
  "worker " ++ toString c.worker ++ " crashed while running task " ++ toString c.index ++ ": " ++
    c.message

end Crash

/-- What a worker reports on one task. -/
inductive Report (β : Type) where
  | completed (result : TaskResult β)
  | crashed (crash : Crash)

namespace Report

variable {β : Type}

/-- The report on a task that has ended on a worker. -/
def ofOutcome (worker index : Nat) : Outcome β → Report β
  | .returned value => .completed (.success index value)
  | .failed chain => .completed (.failure index chain)
  | .panicked payload =>
    .crashed { worker, index, message := payload.getD Crash.standardMessage }

/-- The result in a report. -/
def result? : Report β → Option (TaskResult β)
  | .completed r => some r
  | .crashed _ => none

/-- The crash in a report. -/
def crash? : Report β → Option Crash
  | .completed _ => none
  | .crashed c => some c

end Report

end Codemod
