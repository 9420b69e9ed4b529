import Codemod.Lock
import Mathlib.Data.List.Basic

set_option autoImplicit false

/-! # Histories of a lock

What the workers of a session do with its lock, in any order: wait for it, try it, drop a guard,
hold it for a body, panic while they hold it. `Lending` goes by the answers alone, as the workers
do: it knows which of them have a guard, and nothing of the state of a mutex. `Lending.Kept` says
how the two belong together after every history, and `Lending.run_forget` that the note of a crash
is never read. The main statement is `lock_after_history`. -/

namespace Codemod.TaskLock

/-- A lock, and the workers that have a guard of it, the latest first. -/
structure Lending where
  lock : TaskLock
  holders : List Nat := []
deriving DecidableEq, Repr

/-- What a worker does with a lock. -/
inductive Deed where
  /-- Wait for the lock, and keep the guard. -/
  | acquire
  /-- Take the lock, if there is no need to wait for it. -/
  | tryAcquire
  /-- Drop the latest guard. -/
  | drop
  /-- Wait for the lock, and begin a body for which it is held. -/
  | enter
  /-- Come out of the latest bodies and other scopes of guards: they have come to their end, or
  there was a panic, which is caught outside of them. -/
  | leave (scopes : Nat) (crashed : Bool)
deriving DecidableEq, Repr

/-- The same deed, without the panic in which it was done. -/
def Deed.calm : Deed → Deed
  | .leave scopes _ => .leave scopes false
  | deed => deed

/-- What workers do one after another. -/
abbrev History := List (Nat × Deed)

namespace Lending

/-- A new lock. -/
def start (parallel : Bool) : Lending := { lock := .create parallel }

/-- Wait for the lock. There is a guard as soon as there is no need to wait any more. -/
def wait (l : Lending) (w : Nat) : Option Answer × Lending :=
  match l.lock.acquire? with
  | some lock => (some .granted, { lock, holders := w :: l.holders })
  | none => (some .waits, l)

/-- Try to take the lock. -/
def attempt (l : Lending) (w : Nat) : Option Answer × Lending :=
  match l.lock.tryAcquire with
  | (true, lock) => (some .granted, { lock, holders := w :: l.holders })
  | (false, lock) => (some .refused, { l with lock })

/-- Give the latest guards of a worker back, as far as it has that many. -/
def giveBack (l : Lending) (w : Nat) (crashed : Bool) : Nat → Lending
  | 0 => l
  | n + 1 =>
    if w ∈ l.holders then
      giveBack { lock := l.lock.drop crashed, holders := l.holders.erase w } w crashed n
    else l

/-- What a worker does, with the answer of the lock where it is asked. -/
def step (l : Lending) (w : Nat) : Deed → Option Answer × Lending
  | .acquire | .enter => l.wait w
  | .tryAcquire => l.attempt w
  | .drop => (none, l.giveBack w false 1)
  | .leave scopes crashed => (none, l.giveBack w crashed scopes)

/-- What comes of a history, with all answers. -/
def run (l : Lending) : History → List (Option Answer) × Lending
  | [] => ([], l)
  | (w, deed) :: rest =>
    let (answer, l) := l.step w deed
    let (answers, l) := l.run rest
    (answer :: answers, l)

variable {parallel : Bool} {l : Lending}

/-! ## Guards and the mutex -/

/-- How a lock and the guards that are out belong together: a mutex is held while there is a guard,
and then there is one; the free lock, which is that of tasks that cannot meet, counts its guards. -/
inductive Kept : Bool → Lending → Prop where
  | idle (tainted : Bool) : Kept true { lock := .exclusive { held := false, tainted } }
  | taken (tainted : Bool) (w : Nat) :
    Kept true { lock := .exclusive { held := true, tainted }, holders := [w] }
  | free (holders : List Nat) : Kept false { lock := .free holders.length, holders }

theorem Kept.start (parallel : Bool) : Kept parallel (start parallel) := by
  cases parallel with
  | true => exact .idle false
  | false => exact .free []

/-- Who asks for a lock is granted it if no guard is out, whatever became of those before. -/
theorem Kept.grant (h : Kept parallel l) (hfree : parallel = false ∨ l.holders = []) (w : Nat) :
    ∃ t, Kept parallel t ∧ l.wait w = (some .granted, t) ∧ l.attempt w = (some .granted, t) := by
  cases h with
  | idle tainted =>
    -- The mutex says whether a holder crashed, and the lock grants it in both cases.
    cases tainted <;> exact ⟨_, .taken _ w, rfl, rfl⟩
  | taken tainted v => rcases hfree with hreal | hnil <;> contradiction
  | free holders => exact ⟨_, .free (w :: holders), rfl, rfl⟩

theorem Kept.refuse (h : Kept parallel l) (htaken : ¬ (parallel = false ∨ l.holders = []))
    (w : Nat) : l.wait w = (some .waits, l) ∧ l.attempt w = (some .refused, l) := by
  cases h with
  | idle tainted => exact absurd (.inr rfl) htaken
  | taken tainted v => exact ⟨rfl, rfl⟩
  | free holders => exact absurd (.inl rfl) htaken

/-- What is said to who waits for a lock and to who tries it. -/
theorem Kept.answers (h : Kept parallel l) (w : Nat) :
    (l.wait w).1 = some (if parallel = false ∨ l.holders = [] then .granted else .waits) ∧
      (l.attempt w).1 = some (if parallel = false ∨ l.holders = [] then .granted else .refused) := by
  by_cases hfree : parallel = false ∨ l.holders = []
  · obtain ⟨t, -, hwait, hattempt⟩ := h.grant hfree w
    simp only [hwait, hattempt, if_pos hfree, and_self]
  · obtain ⟨hwait, hattempt⟩ := h.refuse hfree w
    simp only [hwait, hattempt, if_neg hfree, and_self]

theorem Kept.drop (h : Kept parallel l) {w : Nat} (hw : w ∈ l.holders) (crashed : Bool) :
    Kept parallel { lock := l.lock.drop crashed, holders := l.holders.erase w } := by
  cases h with
  | idle tainted => cases hw
  | taken tainted v =>
    obtain rfl : w = v := by simpa using hw
    simpa [TaskLock.drop, Mutex.giveBack] using Kept.idle (tainted || crashed)
  | free holders =>
    simpa [TaskLock.drop, List.length_erase_of_mem hw] using Kept.free (holders.erase w)

theorem Kept.giveBack (h : Kept parallel l) (w : Nat) (crashed : Bool) (n : Nat) :
    Kept parallel (l.giveBack w crashed n) := by
  induction n generalizing l with
  | zero => exact h
  | succ n ih =>
    unfold Lending.giveBack
    split
    case isTrue hw => exact ih (h.drop hw crashed)
    case isFalse => exact h

theorem Kept.step (h : Kept parallel l) (w : Nat) (deed : Deed) :
    Kept parallel (l.step w deed).2 := by
  have hasked : Kept parallel (l.wait w).2 ∧ Kept parallel (l.attempt w).2 := by
    by_cases hfree : parallel = false ∨ l.holders = []
    · obtain ⟨t, ht, hwait, hattempt⟩ := h.grant hfree w
      rw [hwait, hattempt]
      exact ⟨ht, ht⟩
    · obtain ⟨hwait, hattempt⟩ := h.refuse hfree w
      rw [hwait, hattempt]
      exact ⟨h, h⟩
  cases deed with
  | acquire => exact hasked.1
  | tryAcquire => exact hasked.2
  | drop => exact h.giveBack w false 1
  | enter => exact hasked.1
  | leave scopes crashed => exact h.giveBack w crashed scopes

theorem Kept.run (h : Kept parallel l) (history : History) : Kept parallel (l.run history).2 := by
  induction history generalizing l with
  | nil => exact h
  | cons entry rest ih => exact ih (h.step entry.1 entry.2)

/-- A mutex has one guard at most. -/
theorem Kept.length_holders_le (h : Kept true l) : l.holders.length ≤ 1 := by
  cases h with
  | idle tainted => exact Nat.zero_le 1
  | taken tainted w => exact Nat.le_refl 1

/-- The free lock grants everything. -/
theorem Kept.granted_of_mem_run (h : Kept false l) (history : History) {answer : Answer}
    (hmem : some answer ∈ (l.run history).1) : answer = .granted := by
  induction history generalizing l with
  | nil => cases hmem
  | cons entry rest ih =>
    obtain ⟨w, deed⟩ := entry
    rcases List.mem_cons.mp hmem with hfirst | hrest
    · obtain ⟨hwait, hattempt⟩ := h.answers w
      cases deed with
      | acquire => simpa [hwait] using hfirst
      | tryAcquire => simpa [hattempt] using hfirst
      | drop => cases hfirst
      | enter => simpa [hwait] using hfirst
      | leave scopes crashed => cases hfirst
    · exact ih (h.step w deed) hrest

/-! ## Crashes -/

/-- A lock that nobody has crashed with. -/
def forget (l : Lending) : Lending :=
  match l.lock with
  | .exclusive mutex => { l with lock := .exclusive { mutex with tainted := false } }
  | .free _ => l

theorem wait_forget (l : Lending) (w : Nat) :
    l.forget.wait w = ((l.wait w).1, (l.wait w).2.forget) := by
  obtain ⟨lock, holders⟩ := l
  rcases lock with ⟨⟨_ | _, _ | _⟩⟩ | guards <;> rfl

theorem attempt_forget (l : Lending) (w : Nat) :
    l.forget.attempt w = ((l.attempt w).1, (l.attempt w).2.forget) := by
  obtain ⟨lock, holders⟩ := l
  rcases lock with ⟨⟨_ | _, _ | _⟩⟩ | guards <;> rfl

theorem giveBack_forget (l : Lending) (w : Nat) (crashed : Bool) (n : Nat) :
    l.forget.giveBack w false n = (l.giveBack w crashed n).forget := by
  induction n generalizing l with
  | zero => rfl
  | succ n ih =>
    have hholders : l.forget.holders = l.holders := by
      unfold forget
      split <;> rfl
    -- A crash leaves nothing but its note, so one guard less is the same with and without it.
    have hdrop : (⟨l.forget.lock.drop false, l.holders.erase w⟩ : Lending) =
        (⟨l.lock.drop crashed, l.holders.erase w⟩ : Lending).forget := by
      obtain ⟨lock, holders⟩ := l
      cases lock <;> rfl
    unfold giveBack
    rw [hholders]
    split
    · rw [hdrop, ih]
    · rfl

theorem step_forget (l : Lending) (w : Nat) (deed : Deed) :
    l.forget.step w deed.calm = ((l.step w deed).1, (l.step w deed).2.forget) := by
  cases deed with
  | acquire => exact wait_forget l w
  | tryAcquire => exact attempt_forget l w
  | drop => exact congrArg (Prod.mk none) (giveBack_forget l w false 1)
  | enter => exact wait_forget l w
  | leave scopes crashed => exact congrArg (Prod.mk none) (giveBack_forget l w crashed scopes)

/-- Without its panics a history goes in the same way, up to the note of a crash. -/
theorem run_forget (l : Lending) (history : History) :
    l.forget.run (history.map fun entry => (entry.1, entry.2.calm)) =
      ((l.run history).1, (l.run history).2.forget) := by
  induction history generalizing l with
  | nil => rfl
  | cons entry rest ih =>
    obtain ⟨w, deed⟩ := entry
    simp only [List.map_cons, run, step_forget, ih]

theorem forget_start (parallel : Bool) : (start parallel).forget = start parallel := by
  cases parallel <;> rfl

end Lending

/-- A lock does its work over every history of what workers do with it, in any order. A mutex has
one guard at most; an attempt is granted exactly if no guard is out, and so is who waits for the
lock. Without the panics in the history all answers are the same. The free lock grants whatever it
is asked for. -/
theorem lock_after_history (history : History) :
    let calm : History := history.map fun entry => (entry.1, entry.2.calm)
    let real := ((Lending.start true).run history).2
    real.holders.length ≤ 1 ∧
      (∀ w, (real.step w .tryAcquire).1 =
          some (if real.holders = [] then .granted else .refused) ∧
        (real.step w .acquire).1 = some (if real.holders = [] then .granted else .waits) ∧
        (real.step w .enter).1 = some (if real.holders = [] then .granted else .waits)) ∧
      (∀ parallel, ((Lending.start parallel).run calm).1 =
        ((Lending.start parallel).run history).1) ∧
      ∀ answer, some answer ∈ ((Lending.start false).run history).1 → answer = .granted := by
  intro calm real
  have hreal : Lending.Kept true real := (Lending.Kept.start true).run history
  refine ⟨hreal.length_holders_le, fun w => ?_, fun parallel => ?_, fun answer hanswer => ?_⟩
  · obtain ⟨hwait, hattempt⟩ := hreal.answers w
    simp only [Bool.true_eq_false, false_or] at hwait hattempt
    exact ⟨hattempt, hwait, hwait⟩
  · have hrun := Lending.run_forget (Lending.start parallel) history
    rw [Lending.forget_start] at hrun
    rw [hrun]
  · exact (Lending.Kept.start false).granted_of_mem_run history hanswer

end Codemod.TaskLock
