import Codemod.Log.Event
import Codemod.Pool.Machine
import Codemod.Strategy

set_option autoImplicit false

/-! # Running tasks

A pool runs each task once, in the calling thread or on workers. A failed task is a result like any
other; a task that panics takes its worker down and fails the run. Results come in the order in
which the tasks were completed. -/

namespace Codemod.Pool

variable {α β : Type}

/-- What comes of a run, and what the calling thread told the log. -/
structure Run (α β : Type) where
  answer : Except Crash (List (TaskResult β))
  /-- The tasks that were started, in order. -/
  started : List (Task α)
  log : List Log.Event

/-- The worker that stands for the calling thread. -/
def caller : Nat := 0

/-- Whether a task panicked. -/
def panics : Outcome β → Bool
  | .panicked _ => true
  | _ => false

/-- The outcome of a task on a worker. -/
def outcome (lock : TaskLock) (transform : Transform α β) (worker : Nat) (task : Task α) :
    Outcome β :=
  transform { index := task.index, worker, lock } task.payload

/-- What a worker tells the log about a task that has ended. -/
def taskEvents (worker index : Nat) : Outcome β → List Log.Event
  | .returned _ =>
    [{ level := .trace
       message := "task " ++ toString index ++ " done on worker " ++ toString worker }]
  | .failed chain =>
    [{ level := .trace
       message := "task " ++ toString index ++ " failed on worker " ++ toString worker ++ ": " ++
        ": ".intercalate chain }]
  | .panicked _ => []

/-- What the collector tells the log about a report. -/
def collectorEvents : Report β → List Log.Event
  | .completed _ => []
  | .crashed c =>
    [{ level := .debug
       message := "worker " ++ toString c.worker ++ " crashed on task " ++ toString c.index }]

/-- Run the tasks one after another, up to the first that panics. -/
def runSequential (run : Nat → Task α → Outcome β) : List (Task α) → Run α β
  | [] => { answer := .ok [], started := [], log := [] }
  | task :: rest =>
    let outcome := run caller task
    let events := taskEvents caller task.index outcome
    match Report.ofOutcome caller task.index outcome with
    | .crashed crash => { answer := .error crash, started := [task], log := events }
    | .completed result =>
      let later := runSequential run rest
      { answer := later.answer.map (result :: ·)
        started := task :: later.started
        log := events ++ later.log }

/-- What the calling thread makes of a state in which a parallel run has ended. -/
def Run.ofState (s : State α β) : Run α β :=
  { answer := s.answer, started := s.started, log := s.collected.flatMap collectorEvents }

/-- Run the tasks. -/
def run (strategy : Strategy) (lock : TaskLock) (transform : Transform α β)
    (tasks : List (Task α)) : Run α β :=
  match strategy with
  | .sequential => runSequential (outcome lock transform) tasks
  | .parallel workers =>
    .ofState ((State.start workers tasks).finish (outcome lock transform))

/-- What can come of running the tasks, whatever the order of steps: on workers the run goes on
until nobody can take a step. -/
inductive Completes (run : Nat → Task α → Outcome β) (tasks : List (Task α)) :
    Strategy → Run α β → Prop where
  | sequential : Completes run tasks .sequential (runSequential run tasks)
  | parallel {workers : Nat} {s : State α β} :
    (State.start workers tasks).Reaches run s → s.Stuck run →
      Completes run tasks (.parallel workers) (.ofState s)

end Codemod.Pool
