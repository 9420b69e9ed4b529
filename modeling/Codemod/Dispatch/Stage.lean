import Codemod.Dispatch

set_option autoImplicit false

/-! # Sessions on their way

A session step by step: the calling thread beside the threads of its pool. The calling thread runs
the tasks itself, or it waits until all threads have gone. Only then it looks at what came of the
tasks, and shows the failures to the reporter one after another. `Completes` says what a session
comes to; here is what can be seen until then. -/

namespace Codemod.Pool.State

variable {α β : Type}

/-- A pool without threads, which is over before anything happens. -/
def unstaffed : State α β :=
  { producer := .gone
    tasks := []
    workers := []
    reports := []
    collecting := false
    collected := []
    aborted := false
    started := [] }

/-- Whether everybody is done. -/
def isOver (s : State α β) : Bool := s.producer.isGone && s.deserted && !s.collecting

end Codemod.Pool.State

namespace Codemod.Dispatcher

variable {α β : Type}

/-! ## What can be seen -/

/-- Something that can be seen of a session. -/
inductive Happening (α : Type) where
  | started (task : Task α)
  | ended (task : Task α)
  /-- The reporter is called with a failure. -/
  | reported (failure : TaskFailure)

namespace Happening

/-- The task that is started. -/
def started? : Happening α → Option (Task α)
  | .started task => some task
  | _ => none

/-- The task that has ended. -/
def ended? : Happening α → Option (Task α)
  | .ended task => some task
  | _ => none

/-- The failure that is reported. -/
def reported? : Happening α → Option TaskFailure
  | .reported failure => some failure
  | _ => none

/-- What can be seen of the step that an actor of a pool takes: a worker starts a task, or its task
has ended. -/
def ofStep (s : Pool.State α β) : Pool.Actor → List (Happening α)
  | .worker w =>
    match s.workers[w]? with
    | some (.ready task) => [.started task]
    | some (.running task) => [.ended task]
    | _ => []
  | _ => []

end Happening

/-! ## Stages -/

/-- Where the calling thread is, outside of the pool. -/
inductive Caller (α β : Type) where
  /-- About to run the next of the tasks that are left, with the results of those before. -/
  | running (rest : List (Task α)) (results : List (TaskResult β))
  /-- Waiting until all threads of the pool have gone. -/
  | joining
  /-- About to report the failures that are left, and then to return the results. -/
  | reporting (rest : List TaskFailure) (results : List (TaskResult β))
  | returned (answer : Except DispatchError (List (TaskResult β)))

/-- A session on its way. -/
structure Stage (α β : Type) where
  pool : Pool.State α β
  caller : Caller α β
  /-- What could be seen so far, in order. -/
  history : List (Happening α)

/-- The failures that the reporter has been shown, in order. -/
def Stage.reported (s : Stage α β) : List TaskFailure := s.history.filterMap Happening.reported?

/-- How the calling thread goes on with what came of the tasks. -/
def receive (d : Dispatcher) (tasks : Nat) :
    Except Crash (List (TaskResult β)) → Caller α β
  | .error crash => .returned (.error (.workerPanicked crash))
  | .ok results =>
    let results := inOrder results
    if results.length ≠ tasks then .returned (.error (.resultsLost tasks results.length))
    else if d.reporter.isSome then .reporting (results.filterMap TaskResult.failure?) results
    else .returned (.ok results)

/-- The stage at which a session begins. -/
def begin (d : Dispatcher) (items : List α) : Stage α β :=
  let tasks := Task.ofItems items
  match Strategy.resolve d.options tasks.length with
  | .sequential => { pool := .unstaffed, caller := .running tasks [], history := [] }
  | .parallel workers => { pool := .start workers tasks, caller := .joining, history := [] }

/-- The step of the calling thread outside of the pool, given how tasks end and how many there are. -/
def proceed? (d : Dispatcher) (run : Nat → Task α → Outcome β) (tasks : Nat) (s : Stage α β) :
    Option (Stage α β) :=
  match s.caller with
  | .running [] results => some { s with caller := d.receive tasks (.ok results) }
  | .running (task :: rest) results =>
    let history := s.history ++ [.started task, .ended task]
    match Report.ofOutcome Pool.caller task.index (run Pool.caller task) with
    | .completed result => some { s with caller := .running rest (results ++ [result]), history }
    | .crashed crash => some { s with caller := d.receive tasks (.error crash), history }
  | .joining =>
    if s.pool.isOver then some { s with caller := d.receive tasks s.pool.answer } else none
  | .reporting (failure :: rest) results =>
    some { s with caller := .reporting rest results, history := s.history ++ [.reported failure] }
  | .reporting [] results => some { s with caller := .returned (.ok results) }
  | .returned _ => none

/-- The step of an actor of the pool, or of the calling thread outside of it. -/
def step? (d : Dispatcher) (run : Nat → Task α → Outcome β) (tasks : Nat) (s : Stage α β) :
    Option Pool.Actor → Option (Stage α β)
  | some actor => (s.pool.step? run actor).map fun pool =>
    { s with pool, history := s.history ++ Happening.ofStep s.pool actor }
  | none => d.proceed? run tasks s

/-- What a session can come to in any order of steps. -/
inductive Reaches (d : Dispatcher) (run : Nat → Task α → Outcome β) (tasks : Nat)
    (s : Stage α β) : Stage α β → Prop where
  | refl : Reaches d run tasks s s
  | step {t u : Stage α β} (actor : Option Pool.Actor) :
    Reaches d run tasks s t → d.step? run tasks t actor = some u → Reaches d run tasks s u

/-- How a task of a session ends on a worker. -/
def outcome (d : Dispatcher) (transform : Transform α β) (items : List α) :
    Nat → Task α → Outcome β :=
  Pool.outcome (lockFor d.options (Strategy.resolve d.options (Task.ofItems items).length)) transform

/-- Whether a session can get to a stage. -/
def Passes (d : Dispatcher) (transform : Transform α β) (items : List α) (s : Stage α β) : Prop :=
  d.Reaches (d.outcome transform items) (Task.ofItems items).length (d.begin items) s

end Codemod.Dispatcher
