import Codemod.Task

set_option autoImplicit false

/-! # Workers, channels and their steps

A parallel run as a machine of communicating actors. A producer feeds tasks into a bounded channel,
workers take them out one at a time and run them, and a collector receives their reports over a
second bounded channel. A worker whose task panics raises a flag, reports the crash and leaves; who
sees the flag starts nothing new. Each actor has at most one step that it can take in a state, and
none as long as it has to wait or when it is done; every order of steps is a possible run. -/

namespace Codemod.Pool

variable {α β : Type}

/-! ## States -/

/-- Where the producer is. -/
inductive Producer (α : Type) where
  /-- About to look at the flag. -/
  | checking (rest : List (Task α))
  /-- About to put a task into the channel. -/
  | sending (task : Task α) (rest : List (Task α))
  | gone
deriving DecidableEq

/-- Where a worker is. -/
inductive Worker (α β : Type) where
  /-- About to take a task from the channel. -/
  | waiting
  /-- With a task in hand, about to look at the flag. -/
  | holding (task : Task α)
  /-- About to start a task. -/
  | ready (task : Task α)
  | running (task : Task α)
  /-- About to raise the flag. -/
  | crashing (crash : Crash)
  /-- About to put a report into the channel. -/
  | reporting (report : Report β)
  /-- About to let go of the channels. -/
  | leaving
  | gone

/-- A state of a run. -/
structure State (α β : Type) where
  producer : Producer α
  /-- The channel of tasks, the oldest first. -/
  tasks : List (Task α)
  workers : List (Worker α β)
  /-- The channel of reports, the oldest first. -/
  reports : List (Report β)
  /-- Whether the collector is still listening. -/
  collecting : Bool
  /-- What the collector has received, in order. -/
  collected : List (Report β)
  /-- Whether the flag is up. -/
  aborted : Bool
  /-- The tasks that were started, in order. -/
  started : List (Task α)

/-- Who takes a step. -/
inductive Actor where
  | producer
  | worker (number : Nat)
  | collector
deriving DecidableEq, Repr

namespace Producer

/-- Whether the producer has let go of its channel. -/
def isGone : Producer α → Bool
  | .gone => true
  | _ => false

/-- How much the producer has before it. -/
def measure : Producer α → Nat
  | .checking rest => 9 * rest.length + 1
  | .sending _ rest => 9 * rest.length + 9
  | .gone => 0

end Producer

namespace Worker

/-- Whether a worker has let go of its channels. -/
def isGone : Worker α β → Bool
  | .gone => true
  | _ => false

/-- How much a worker has before it. -/
def measure : Worker α β → Nat
  | .holding _ => 8
  | .ready _ => 7
  | .running _ => 6
  | .crashing _ => 5
  | .reporting _ => 4
  | .waiting => 2
  | .leaving => 1
  | .gone => 0

end Worker

namespace State

/-- A run before its first step. -/
def start (workers : Nat) (tasks : List (Task α)) : State α β :=
  { producer := .checking tasks
    tasks := []
    workers := List.replicate workers .waiting
    reports := []
    collecting := true
    collected := []
    aborted := false
    started := [] }

/-- How much each channel holds: two entries for each worker. -/
def capacity (s : State α β) : Nat := 2 * s.workers.length

/-- Whether all workers have let go of their channels. -/
def deserted (s : State α β) : Bool := s.workers.all Worker.isGone

/-! ## Steps -/

/-- The step of the producer. It leaves when nothing is left, when it sees the flag up, and when
nobody can take its task any more. -/
def produce? (s : State α β) : Option (State α β) :=
  match s.producer with
  | .checking [] => some { s with producer := .gone }
  | .checking (task :: rest) =>
    some { s with producer := if s.aborted then .gone else .sending task rest }
  | .sending task rest =>
    if s.deserted then some { s with producer := .gone }
    else if s.tasks.length < s.capacity then
      some { s with producer := .checking rest, tasks := s.tasks ++ [task] }
    else none
  | .gone => none

/-- Put a worker into another place. -/
def place (s : State α β) (w : Nat) (worker : Worker α β) : State α β :=
  { s with workers := s.workers.set w worker }

/-- The step of a worker that waits for a task. -/
def take? (s : State α β) (w : Nat) : Option (State α β) :=
  match s.tasks with
  | task :: rest => some ({ s with tasks := rest }.place w (.holding task))
  | [] => if s.producer.isGone then some (s.place w .leaving) else none

/-- The step of a worker that has something to report. After a crash it leaves. -/
def report? (s : State α β) (w : Nat) (report : Report β) : Option (State α β) :=
  if !s.collecting then some (s.place w .leaving)
  else if s.reports.length < s.capacity then
    let next := match report with
      | .completed _ => .waiting
      | .crashed _ => .leaving
    some ({ s with reports := s.reports ++ [report] }.place w next)
  else none

/-- The step of a worker, given how tasks end on it. -/
def work? (run : Nat → Task α → Outcome β) (s : State α β) (w : Nat) : Option (State α β) :=
  match s.workers[w]? with
  | none => none
  | some .waiting => s.take? w
  | some (.holding task) => some (s.place w (if s.aborted then .leaving else .ready task))
  | some (.ready task) => some ({ s with started := s.started ++ [task] }.place w (.running task))
  | some (.running task) =>
    match Report.ofOutcome w task.index (run w task) with
    | .crashed crash => some (s.place w (.crashing crash))
    | report => some (s.place w (.reporting report))
  | some (.crashing crash) =>
    some ({ s with aborted := true }.place w (.reporting (.crashed crash)))
  | some (.reporting report) => s.report? w report
  | some .leaving => some (s.place w .gone)
  | some .gone => none

/-- The step of the collector. It stops listening when all workers have gone and nothing is left. -/
def collect? (s : State α β) : Option (State α β) :=
  if !s.collecting then none
  else match s.reports with
    | report :: rest => some { s with reports := rest, collected := s.collected ++ [report] }
    | [] => if s.deserted then some { s with collecting := false } else none

/-- The step of an actor. -/
def step? (run : Nat → Task α → Outcome β) (s : State α β) : Actor → Option (State α β)
  | .producer => s.produce?
  | .worker w => s.work? run w
  | .collector => s.collect?

/-! ## Runs -/

/-- One state follows another by a step of some actor. -/
def Next (run : Nat → Task α → Outcome β) (s t : State α β) : Prop :=
  ∃ actor, s.step? run actor = some t

/-- What can come of a run in any order of steps. -/
inductive Reaches (run : Nat → Task α → Outcome β) (s : State α β) : State α β → Prop where
  | refl : Reaches run s s
  | step {t u : State α β} : Reaches run s t → Next run t u → Reaches run s u

/-- Nobody can take a step. -/
def Stuck (run : Nat → Task α → Outcome β) (s : State α β) : Prop :=
  ∀ actor, s.step? run actor = none

/-- Everybody is done. -/
def Final (s : State α β) : Prop :=
  s.producer.isGone ∧ s.deserted ∧ s.collecting = false

/-- What the collector makes of the reports: the first crash if there was one, else all results in
the order in which they came. -/
def answer (s : State α β) : Except Crash (List (TaskResult β)) :=
  match s.collected.findSome? Report.crash? with
  | some crash => .error crash
  | none => .ok (s.collected.filterMap Report.result?)

/-! ## One schedule -/

/-- A number that gets smaller with every step. -/
def measure (s : State α β) : Nat :=
  s.producer.measure + 7 * s.tasks.length + s.workers.foldr (fun w n => w.measure + n) 0 +
    s.reports.length + s.collecting.toNat

/-- All actors of a run. -/
def actors (s : State α β) : List Actor :=
  .producer :: (List.range s.workers.length).map .worker ++ [.collector]

/-- Let the first actor that can take a step take it, a given number of times or until none can. -/
def runFor (run : Nat → Task α → Outcome β) : Nat → State α β → State α β
  | 0, s => s
  | n + 1, s =>
    match s.actors.findSome? (s.step? run) with
    | some t => t.runFor run n
    | none => s

/-- Run to the end. -/
def finish (run : Nat → Task α → Outcome β) (s : State α β) : State α β :=
  s.runFor run s.measure

end State

end Codemod.Pool
