set_option autoImplicit false

/-! # The lock of a session

All tasks of a session are lent one lock for whatever they share. Where tasks can meet it is a
mutex; where they cannot it is free and grants everything. A mutex notes that a holder crashed, and
the lock takes no notice of that: it is granted again as if nothing had happened. -/

namespace Codemod

/-- What a mutex says to an attempt. -/
inductive Grant where
  | clean
  /-- Granted, with the note that a holder crashed. -/
  | tainted
  | refused
deriving DecidableEq, Repr

/-- A mutex: whether someone holds it, and whether a holder crashed. -/
structure Mutex where
  held : Bool := false
  tainted : Bool := false
deriving DecidableEq, Repr

namespace Mutex

/-- Try to take a mutex. -/
def tryTake (m : Mutex) : Grant × Mutex :=
  if m.held then (.refused, m)
  else (if m.tainted then .tainted else .clean, { m with held := true })

/-- Give a mutex back, in good order or in a crash. -/
def giveBack (m : Mutex) (crashed : Bool) : Mutex :=
  { held := false, tainted := m.tainted || crashed }

end Mutex

/-- The lock of a session, with the number of guards that are out. -/
inductive TaskLock where
  | exclusive (mutex : Mutex)
  | free (guards : Nat)
deriving DecidableEq, Repr

namespace TaskLock

/-- A new lock, for tasks that can meet or for tasks that cannot. -/
def create (parallel : Bool) : TaskLock :=
  if parallel then .exclusive {} else .free 0

/-- Whether a lock keeps others out. -/
def isReal : TaskLock → Bool
  | .exclusive _ => true
  | .free _ => false

/-- The number of guards that are out. -/
def guards : TaskLock → Nat
  | .exclusive mutex => mutex.held.toNat
  | .free guards => guards

/-- Try to take the lock, without waiting. -/
def tryAcquire : TaskLock → Bool × TaskLock
  | .exclusive mutex =>
    match mutex.tryTake with
    | (.refused, mutex) => (false, .exclusive mutex)
    | (_, mutex) => (true, .exclusive mutex)
  | .free guards => (true, .free (guards + 1))

/-- Take the lock; nothing as long as one has to wait for it. -/
def acquire? (lock : TaskLock) : Option TaskLock :=
  match lock.tryAcquire with
  | (true, lock) => some lock
  | (false, _) => none

/-- Drop a guard, in good order or in a crash. -/
def drop (lock : TaskLock) (crashed : Bool := false) : TaskLock :=
  match lock with
  | .exclusive mutex => .exclusive (mutex.giveBack crashed)
  | .free guards => .free (guards - 1)

/-- Drop some guards. -/
def dropAll (lock : TaskLock) (crashed : Bool) : Nat → TaskLock
  | 0 => lock
  | n + 1 => (lock.drop crashed).dropAll crashed n

/-! ## Histories -/

/-- What can be done with a lock. -/
inductive Use where
  | acquire
  | tryAcquire
  | drop
  /-- Hold the lock for as long as a body runs, which tries to take it once more. -/
  | hold
  /-- Hold the lock for a body that crashes. -/
  | crash
deriving DecidableEq, Repr

/-- What comes of a use: it is granted, refused or has to wait. A body in the hold says whether its
own attempt was granted. -/
inductive Answer where
  | granted
  | refused
  | waits
  | held (again : Bool)
deriving DecidableEq, Repr

/-- Use a lock once. A guard that is not out cannot be dropped. -/
def use (lock : TaskLock) : Use → Answer × TaskLock
  | .acquire =>
    match lock.acquire? with
    | some lock => (.granted, lock)
    | none => (.waits, lock)
  | .tryAcquire =>
    match lock.tryAcquire with
    | (true, lock) => (.granted, lock)
    | (false, lock) => (.refused, lock)
  | .drop => if lock.guards = 0 then (.refused, lock) else (.granted, lock.drop)
  | .hold =>
    match lock.acquire? with
    | none => (.waits, lock)
    | some lock =>
      match lock.tryAcquire with
      | (true, lock) => (.held true, lock.drop.drop)
      | (false, lock) => (.held false, lock.drop)
  | .crash =>
    match lock.acquire? with
    | some lock => (.granted, lock.drop true)
    | none => (.waits, lock)

/-- Use a lock several times. -/
def useAll (lock : TaskLock) : List Use → List Answer × TaskLock
  | [] => ([], lock)
  | u :: rest =>
    let (answer, lock) := lock.use u
    let (answers, lock) := lock.useAll rest
    (answer :: answers, lock)

end TaskLock

end Codemod
