import Codemod.Dispatch

set_option autoImplicit false

/-! # Tasks that share something

Tasks that change something they have in common. Such a task is a script: it takes the lock of its
session, changes the common thing step by step, gives the lock back, and ends. On the workers of a
pool the steps of the scripts and those of the pool follow one another in any order; in the calling
thread one script comes after the other. What a script still holds at its end is given back, in good
order or in a crash. -/

namespace Codemod.Pool

variable {σ α β : Type}

/-! ## Scripts -/

/-- What a task does, step by step, with a common thing of type `σ`. -/
inductive Script (σ β : Type) where
  | finish (outcome : Outcome β)
  | acquire (next : Script σ β)
  | release (next : Script σ β)
  /-- Change the common thing, and go on with what it was before. -/
  | change (f : σ → σ) (next : σ → Script σ β)

/-- The script for the payload of each task. -/
abbrev Scripted (σ α β : Type) := TaskContext → α → Script σ β

namespace Script

/-- Run a script that nothing comes between. The number is that of the guards it holds; there is no
outcome if it waits for a lock that it holds itself. -/
def run? : Script σ β → TaskLock → Nat → σ → Option (Outcome β × TaskLock × σ)
  | .finish outcome, lock, guards, x =>
    some (outcome, lock.dropAll (panics outcome) guards, x)
  | .acquire next, lock, guards, x =>
    match lock.acquire? with
    | some lock => next.run? lock (guards + 1) x
    | none => none
  | .release next, lock, guards, x =>
    if guards = 0 then next.run? lock 0 x else next.run? lock.drop (guards - 1) x
  | .change f next, lock, guards, x => (next x).run? lock guards (f x)

/-- Run the scripts of tasks in the calling thread, up to the first that panics. -/
def runAll? (script : Scripted σ α β) (lock : TaskLock) (x : σ) :
    List (Task α) → Option (List (Outcome β) × σ)
  | [] => some ([], x)
  | task :: rest =>
    match (script { index := task.index, worker := caller, lock } task.payload).run? lock 0 x with
    | none => none
    | some (outcome, lock, x) =>
      if panics outcome then some ([outcome], x)
      else (runAll? script lock x rest).map fun (outcomes, x) => (outcome :: outcomes, x)

end Script

/-! ## Scripts on workers -/

/-- What a worker is in the middle of. -/
structure Hand (σ β : Type) where
  script : Script σ β
  /-- The number of guards it holds. -/
  guards : Nat := 0

/-- A state of a run whose tasks share something. -/
structure Sharing (σ α β : Type) where
  pool : State α β
  lock : TaskLock
  common : σ
  hands : Nat → Option (Hand σ β)

namespace Sharing

/-- A run before its first step. -/
def start (workers : Nat) (tasks : List (Task α)) (lock : TaskLock) (x : σ) : Sharing σ α β :=
  { pool := .start workers tasks, lock, common := x, hands := fun _ => none }

/-- Give a worker something to do, or nothing. -/
def give (s : Sharing σ α β) (w : Nat) (hand : Option (Hand σ β)) : Sharing σ α β :=
  { s with hands := fun v => if v = w then hand else s.hands v }

/-- The step that a script on a worker takes; nothing if it has to wait. -/
def act? (s : Sharing σ α β) (w : Nat) (hand : Hand σ β) : Option (Sharing σ α β) :=
  match hand.script with
  | .finish outcome =>
    (s.pool.work? (fun _ _ => outcome) w).map fun pool =>
      { s with pool, lock := s.lock.dropAll (panics outcome) hand.guards }.give w none
  | .acquire next =>
    s.lock.acquire?.map fun lock =>
      { s with lock }.give w (some { script := next, guards := hand.guards + 1 })
  | .release next =>
    let lock := if hand.guards = 0 then s.lock else s.lock.drop
    some ({ s with lock }.give w (some { script := next, guards := hand.guards - 1 }))
  | .change f next =>
    some ({ s with common := f s.common }.give w (some { hand with script := next s.common }))

/-- The step of a worker. A task that is started brings its script. -/
def work? (script : Scripted σ α β) (s : Sharing σ α β) (w : Nat) : Option (Sharing σ α β) :=
  let idle := fun (_ : Nat) (_ : Task α) => Outcome.failed (β := β) []
  match s.pool.workers[w]?, s.hands w with
  | some (.running _), some hand => s.act? w hand
  | some (.ready task), _ =>
    let context := { index := task.index, worker := w, lock := s.lock : TaskContext }
    (s.pool.work? idle w).map fun pool =>
      { s with pool }.give w (some { script := script context task.payload })
  | _, _ => (s.pool.work? idle w).map fun pool => { s with pool }

/-- The step of an actor. -/
def step? (script : Scripted σ α β) (s : Sharing σ α β) : Actor → Option (Sharing σ α β)
  | .producer => s.pool.produce?.map fun pool => { s with pool }
  | .worker w => s.work? script w
  | .collector => s.pool.collect?.map fun pool => { s with pool }

/-- What can come of a run in any order of steps. -/
inductive Reaches (script : Scripted σ α β) (s : Sharing σ α β) : Sharing σ α β → Prop where
  | refl : Reaches script s s
  | step {t u : Sharing σ α β} (actor : Actor) :
    Reaches script s t → t.step? script actor = some u → Reaches script s u

end Sharing

end Codemod.Pool
