set_option autoImplicit false

/-! # How a session is run

Tasks run on worker threads if the host can, the caller lets them, more than one job is wanted and
there is anything to do; otherwise they run one after another in the calling thread. -/

namespace Codemod

/-! ## What is asked for and what there is -/

/-- What the host offers. -/
structure Capabilities where
  /-- Whether worker threads may be used at all. -/
  parallelAvailable : Bool
  /-- The number of workers where no number is asked for. -/
  cpuCount : Nat
deriving DecidableEq, Repr

namespace Capabilities

/-- A host without threads. -/
def serial : Capabilities := { parallelAvailable := false, cpuCount := 1 }

/-- A host with some processors: at least one, and threads if there are more. -/
def ofCpus (cpus : Nat) : Capabilities :=
  { parallelAvailable := 1 < max cpus 1, cpuCount := max cpus 1 }

/-- The form in which capabilities are shown. -/
def shown (c : Capabilities) : String :=
  "Capabilities \x7b parallel_available: " ++ toString c.parallelAvailable ++
    ", cpu_count: " ++ toString c.cpuCount ++ " \x7d"

end Capabilities

/-- What a caller asks of a session. -/
structure DispatchOptions where
  /-- The number of workers. Nothing, and none, stand for one on each processor. -/
  jobs : Option Nat := none
  /-- Whether the tasks share something that needs a lock. -/
  shared : Bool := false
  /-- Whether the session may use threads. -/
  parallel : Bool := true
  capabilities : Capabilities
deriving DecidableEq, Repr

/-- A number that may be absent, in words. -/
def shownCount : Option Nat → String
  | none => "None"
  | some n => "Some(" ++ toString n ++ ")"

/-- The form in which options are shown. -/
def DispatchOptions.shown (o : DispatchOptions) : String :=
  "DispatchOptions \x7b jobs: " ++ shownCount o.jobs ++ ", shared: " ++ toString o.shared ++
    ", parallel: " ++ toString o.parallel ++ ", capabilities: " ++ o.capabilities.shown ++ " \x7d"

/-! ## The choice -/

/-- How tasks are run. -/
inductive Strategy where
  | sequential
  | parallel (workers : Nat)
deriving DecidableEq, Repr

namespace Strategy

/-- The number of jobs that options stand for. -/
def jobCount (o : DispatchOptions) : Nat :=
  match o.jobs with
  | some (n + 1) => n + 1
  | _ => o.capabilities.cpuCount

/-- The strategy for a number of tasks. -/
def resolve (o : DispatchOptions) (tasks : Nat) : Strategy :=
  if !o.parallel || !o.capabilities.parallelAvailable then .sequential
  else if jobCount o ≤ 1 ∨ tasks = 0 then .sequential
  else .parallel (min (jobCount o) tasks)

/-- Whether worker threads are used. -/
def isParallel : Strategy → Bool
  | .sequential => false
  | .parallel _ => true

/-- The number of threads that run tasks. -/
def workers : Strategy → Nat
  | .sequential => 1
  | .parallel workers => workers

/-- The name of a strategy. -/
def name : Strategy → String
  | .sequential => "sequential"
  | .parallel _ => "parallel"

/-- The form in which a strategy is shown. -/
def shown : Strategy → String
  | .sequential => "Sequential"
  | .parallel workers => "Parallel \x7b workers: " ++ toString workers ++ " \x7d"

end Strategy

end Codemod
