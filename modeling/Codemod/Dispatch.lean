import Codemod.Pool

set_option autoImplicit false

/-! # Dispatch sessions

A session applies a transformation to every item and hands back one result for each, in the order in
which the items were submitted. A reporter is shown the failures once all tasks are done. Only a
crash fails a session, and then there are no results and nothing is reported. -/

namespace Codemod

variable {α β : Type}

/-! ## States -/

/-- Where a session is. -/
inductive DispatchState where
  | idle
  | dispatching
  | collecting
  | done
deriving DecidableEq, Repr

namespace DispatchState

/-- The state that follows. -/
def next? : DispatchState → Option DispatchState
  | .idle => some .dispatching
  | .dispatching => some .collecting
  | .collecting => some .done
  | .done => none

/-- The name of a state. -/
def name : DispatchState → String
  | .idle => "Idle"
  | .dispatching => "Dispatching"
  | .collecting => "Collecting"
  | .done => "Done"

/-- How many states are still to come. -/
def remaining : DispatchState → Nat
  | .idle => 3
  | .dispatching => 2
  | .collecting => 1
  | .done => 0

/-- All states from one on. -/
def chain (s : DispatchState) : List DispatchState :=
  match _h : s.next? with
  | some t => s :: t.chain
  | none => [s]
termination_by s.remaining
decreasing_by cases s <;> simp_all [next?] <;> subst _h <;> decide

end DispatchState

/-! ## Sessions -/

/-- Why a session fails. -/
inductive DispatchError where
  | workerPanicked (crash : Crash)
  | resultsLost (expected received : Nat)
deriving DecidableEq, Repr

/-- The text of an error. -/
def DispatchError.message : DispatchError → String
  | .workerPanicked crash => crash.shown
  | .resultsLost expected received =>
    "worker pool lost results: expected " ++ toString expected ++ ", received " ++
      toString received

/-- What a session is started with. A reporter says what it tells the log about a failure. -/
structure Dispatcher where
  options : DispatchOptions
  state : DispatchState := .idle
  reporter : Option (TaskFailure → List Log.Event) := none

/-- What a session leaves behind. -/
structure Session (β : Type) where
  answer : Except DispatchError (List (TaskResult β))
  /-- The failures that the reporter was shown, in order. -/
  reported : List TaskFailure
  /-- What the calling thread told the log. -/
  log : List Log.Event

namespace Dispatcher

/-- The form in which a dispatcher is shown. -/
def shown (d : Dispatcher) : String :=
  "Dispatcher \x7b options: " ++ d.options.shown ++ ", state: " ++ d.state.name ++
    ", reporter: " ++ toString d.reporter.isSome ++ " \x7d"

/-- What the log is told when the state changes. -/
def advanced (s t : DispatchState) : Log.Event :=
  { level := .trace, message := "dispatch state " ++ s.name ++ " -> " ++ t.name }

/-- What the log is told when tasks are handed out. -/
def announced (tasks : Nat) (strategy : Strategy) (lock : TaskLock) : Log.Event :=
  { level := .debug
    message := "dispatching " ++ toString tasks ++ " tasks (" ++ strategy.shown ++
      ", real lock: " ++ toString lock.isReal ++ ")" }

/-- What the log is told in the end. -/
def summed (tasks failed : Nat) : Log.Event :=
  { level := .debug
    message := "dispatch done: " ++ toString (tasks - failed) ++ " succeeded, " ++
      toString failed ++ " failed" }

/-- The lock that all tasks of a session are lent. -/
def lockFor (options : DispatchOptions) (strategy : Strategy) : TaskLock :=
  .create (strategy.isParallel && options.shared)

/-- Results in the order in which their items were submitted. -/
def inOrder (results : List (TaskResult β)) : List (TaskResult β) :=
  results.mergeSort fun a b => a.index ≤ b.index

/-- The rest of a session once the pool has run: order the results, count them, and show the
failures to the reporter. -/
def conclude (d : Dispatcher) (tasks : Nat) (run : Pool.Run α β) : Session β :=
  match run.answer with
  | .error crash => { answer := .error (.workerPanicked crash), reported := [], log := run.log }
  | .ok results =>
    let results := inOrder results
    let collecting := advanced .dispatching .collecting
    if results.length ≠ tasks then
      { answer := .error (.resultsLost tasks results.length)
        reported := []
        log := run.log ++ [collecting] }
    else
      let failures := results.filterMap TaskResult.failure?
      let (reported, told) := match d.reporter with
        | some report => (failures, failures.flatMap report)
        | none => ([], [])
      { answer := .ok results
        reported
        log := run.log ++ collecting :: told ++
          [advanced .collecting .done, summed tasks failures.length] }

/-- The session in which the pool runs as given. -/
def session (d : Dispatcher) (items : List α)
    (pool : Strategy → TaskLock → List (Task α) → Pool.Run α β) : Session β :=
  let tasks := Task.ofItems items
  let strategy := Strategy.resolve d.options tasks.length
  let lock := lockFor d.options strategy
  let ended := d.conclude tasks.length (pool strategy lock tasks)
  { ended with
    log := advanced .idle .dispatching :: announced tasks.length strategy lock :: ended.log }

/-- Apply a transformation to all items. -/
def dispatch (d : Dispatcher) (transform : Transform α β) (items : List α) : Session β :=
  d.session items fun strategy lock tasks => Pool.run strategy lock transform tasks

/-- The session that a dispatcher comes to with a run of the pool, which can be any that some order
of steps leads to. -/
def Completes (d : Dispatcher) (transform : Transform α β) (items : List α) (run : Pool.Run α β)
    (session : Session β) : Prop :=
  let tasks := Task.ofItems items
  let strategy := Strategy.resolve d.options tasks.length
  Pool.Completes (Pool.outcome (lockFor d.options strategy) transform) tasks strategy run ∧
    session = d.session items fun _ _ _ => run

end Dispatcher

end Codemod
