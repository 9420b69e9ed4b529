import Codemod.Pool.Sharing
import Codemod.Proofs.Pool.Move

set_option autoImplicit false

/-! # Steps of a run whose tasks share something

`Sharing.Step` says once what a step of such a run can do: a step of the pool in which no script
takes part, the start of a script, or one of the things that scripts do. From this follows who holds
the lock (`Sharing.HasHolder`): nobody, and then the lock can be had, or one worker with one guard,
and then it cannot, whichever way the guards before it were given back. -/

namespace Codemod.Pool

variable {σ α β : Type} {script : Scripted σ α β}

/-! ## Steps of the pool -/

theorem State.workers_of_produce {s t : State α β} (h : s.produce? = some t) :
    t.workers = s.workers := by
  unfold State.produce? at h
  split at h
  case h_1 => cases h; rfl
  case h_2 => cases h; rfl
  case h_3 =>
    split at h
    case isTrue => cases h; rfl
    case isFalse =>
      split at h
      case isTrue => cases h; rfl
      case isFalse => cases h
  case h_4 => cases h

theorem State.workers_of_collect {s t : State α β} (h : s.collect? = some t) :
    t.workers = s.workers := by
  unfold State.collect? at h
  split at h
  case isTrue => cases h
  case isFalse =>
    split at h
    case h_1 => cases h; rfl
    case h_2 =>
      split at h
      case isTrue => cases h; rfl
      case isFalse => cases h

theorem State.workers_of_work {run : Nat → Task α → Outcome β} {s t : State α β} {w : Nat}
    (h : s.work? run w = some t) : ∃ worker, t.workers = s.workers.set w worker := by
  unfold State.work? at h
  split at h
  case h_1 => cases h
  case h_2 =>
    unfold State.take? at h
    split at h
    case h_1 => cases h; exact ⟨_, rfl⟩
    case h_2 =>
      split at h
      case isTrue => cases h; exact ⟨_, rfl⟩
      case isFalse => cases h
  case h_3 => cases h; exact ⟨_, rfl⟩
  case h_4 => cases h; exact ⟨_, rfl⟩
  case h_5 => split at h <;> (cases h; exact ⟨_, rfl⟩)
  case h_6 => cases h; exact ⟨_, rfl⟩
  case h_7 =>
    unfold State.report? at h
    split at h
    case isTrue => cases h; exact ⟨_, rfl⟩
    case isFalse =>
      split at h
      case isTrue => cases h; exact ⟨_, rfl⟩
      case isFalse => cases h
  case h_8 => cases h; exact ⟨_, rfl⟩
  case h_9 => cases h

theorem State.getElem?_workers_of_work {run : Nat → Task α → Outcome β} {s t : State α β}
    {v w : Nat} (h : s.work? run v = some t) (hw : w ≠ v) : t.workers[w]? = s.workers[w]? := by
  obtain ⟨worker, hworkers⟩ := State.workers_of_work h
  rw [hworkers, List.getElem?_set_ne hw.symm]

/-- A worker that is ready starts its task. -/
theorem State.getElem?_workers_of_ready {run : Nat → Task α → Outcome β} {s t : State α β} {w : Nat}
    {task : Task α} (hw : s.workers[w]? = some (.ready task)) (h : s.work? run w = some t) :
    t.workers[w]? = some (.running task) := by
  obtain ⟨hlt, -⟩ := List.getElem?_eq_some_iff.mp hw
  simp only [State.work?, hw] at h
  cases h
  exact List.getElem?_set_self hlt

/-- A worker is moved by nobody else. -/
theorem State.getElem?_workers_of_step {run : Nat → Task α → Outcome β} {s t : State α β}
    {actor : Actor} (h : s.step? run actor = some t) {w : Nat} (hw : actor ≠ .worker w) :
    t.workers[w]? = s.workers[w]? := by
  cases actor with
  | producer => rw [State.workers_of_produce h]
  | collector => rw [State.workers_of_collect h]
  | worker v => exact State.getElem?_workers_of_work h fun heq => hw (congrArg Actor.worker heq.symm)

namespace Sharing

variable {s t u : Sharing σ α β}

/-! ## What a step can do -/

/-- The ends of tasks in those steps of the pool in which no task ends. -/
def unended (_ : Nat) (_ : Task α) : Outcome β := .failed []

/-- A worker that neither starts a script nor is in the middle of one. -/
structure IsIdle (s : Sharing σ α β) (w : Nat) : Prop where
  not_ready : ∀ task, s.pool.workers[w]? ≠ some (.ready task)
  not_busy : ∀ task hand, s.pool.workers[w]? = some (.running task) → s.hands w ≠ some hand

/-- What a step of a run can do. -/
inductive Step (script : Scripted σ α β) (s : Sharing σ α β) : Actor → Sharing σ α β → Prop where
  | pool {actor : Actor} {pool : State α β} (hactor : ∀ w, actor = .worker w → s.IsIdle w)
      (hpool : s.pool.step? unended actor = some pool) : Step script s actor { s with pool }
  | begin {w : Nat} {task : Task α} {pool : State α β}
      (hw : s.pool.workers[w]? = some (.ready task)) (hpool : s.pool.work? unended w = some pool) :
      Step script s (.worker w)
        ({ s with pool }.give w (some
          { script := script { index := task.index, worker := w, lock := s.lock } task.payload }))
  | finish {w : Nat} {task : Task α} {outcome : Outcome β} {guards : Nat} {pool : State α β}
      (hw : s.pool.workers[w]? = some (.running task))
      (hhand : s.hands w = some { script := .finish outcome, guards })
      (hpool : s.pool.work? (fun _ _ => outcome) w = some pool) :
      Step script s (.worker w)
        ({ s with pool, lock := s.lock.dropAll (panics outcome) guards }.give w none)
  | acquire {w : Nat} {task : Task α} {next : Script σ β} {guards : Nat} {lock : TaskLock}
      (hw : s.pool.workers[w]? = some (.running task))
      (hhand : s.hands w = some { script := .acquire next, guards })
      (hlock : s.lock.acquire? = some lock) :
      Step script s (.worker w)
        ({ s with lock }.give w (some { script := next, guards := guards + 1 }))
  | release {w : Nat} {task : Task α} {next : Script σ β} {guards : Nat}
      (hw : s.pool.workers[w]? = some (.running task))
      (hhand : s.hands w = some { script := .release next, guards }) :
      Step script s (.worker w)
        ({ s with lock := if guards = 0 then s.lock else s.lock.drop }.give w
          (some { script := next, guards := guards - 1 }))
  | change {w : Nat} {task : Task α} {f : σ → σ} {next : σ → Script σ β} {guards : Nat}
      (hw : s.pool.workers[w]? = some (.running task))
      (hhand : s.hands w = some { script := .change f next, guards }) :
      Step script s (.worker w)
        ({ s with common := f s.common }.give w (some { script := next s.common, guards }))

theorem Step.of_act {w : Nat} {task : Task α} {hand : Hand σ β}
    (hw : s.pool.workers[w]? = some (.running task)) (hhand : s.hands w = some hand)
    (h : s.act? w hand = some t) : Step script s (.worker w) t := by
  obtain ⟨code, guards⟩ := hand
  cases code with
  | finish outcome =>
    obtain ⟨pool, hpool, rfl⟩ := Option.map_eq_some_iff.mp h
    exact .finish hw hhand hpool
  | acquire next =>
    obtain ⟨lock, hlock, rfl⟩ := Option.map_eq_some_iff.mp h
    exact .acquire hw hhand hlock
  | release next =>
    cases h
    exact .release hw hhand
  | change f next =>
    cases h
    exact .change hw hhand

/-- Whatever an actor does is one of these steps. -/
theorem Step.of_step {actor : Actor} (h : s.step? script actor = some t) :
    Step script s actor t := by
  cases actor with
  | producer =>
    obtain ⟨pool, hpool, rfl⟩ := Option.map_eq_some_iff.mp h
    exact .pool (fun w hw => by cases hw) hpool
  | collector =>
    obtain ⟨pool, hpool, rfl⟩ := Option.map_eq_some_iff.mp h
    exact .pool (fun w hw => by cases hw) hpool
  | worker w =>
    simp only [step?, work?] at h
    split at h
    case h_1 task hand hw hhand => exact .of_act hw hhand h
    case h_2 task hw =>
      obtain ⟨pool, hpool, rfl⟩ := Option.map_eq_some_iff.mp h
      exact .begin hw hpool
    case h_3 hready hbusy =>
      obtain ⟨pool, hpool, rfl⟩ := Option.map_eq_some_iff.mp h
      refine .pool (fun v hv => ?_) hpool
      cases hv
      exact ⟨fun task hw => hready task hw, fun task hand hw hhand => hbusy task hand hw hhand⟩

/-- Each of these steps is taken by its actor. -/
theorem Step.step?_eq {actor : Actor} (h : Step script s actor t) :
    s.step? script actor = some t := by
  cases h with
  | pool hactor hpool =>
    cases actor with
    | producer => exact Option.map_eq_some_iff.mpr ⟨_, hpool, rfl⟩
    | collector => exact Option.map_eq_some_iff.mpr ⟨_, hpool, rfl⟩
    | worker w =>
      obtain ⟨hready, hbusy⟩ := hactor w rfl
      simp only [step?, work?]
      exact Option.map_eq_some_iff.mpr ⟨_, hpool, rfl⟩
  | begin hw hpool =>
    simp only [step?, work?, hw]
    exact Option.map_eq_some_iff.mpr ⟨_, hpool, rfl⟩
  | finish hw hhand hpool =>
    simp only [step?, work?, hw, hhand, act?]
    exact Option.map_eq_some_iff.mpr ⟨_, hpool, rfl⟩
  | acquire hw hhand hlock =>
    simp only [step?, work?, hw, hhand, act?]
    exact Option.map_eq_some_iff.mpr ⟨_, hlock, rfl⟩
  | release hw hhand => simp only [step?, work?, hw, hhand, act?]
  | change hw hhand => simp only [step?, work?, hw, hhand, act?]

/-! ## Who holds the lock -/

/-- A worker whose script holds a guard. -/
def Holds (s : Sharing σ α β) (w : Nat) : Prop :=
  ∃ hand, s.hands w = some hand ∧ 0 < hand.guards

/-- Nobody holds the lock. -/
def IsFree (s : Sharing σ α β) : Prop := ∀ w, ¬ s.Holds w

/-- Who holds the lock of a session in which tasks can meet: nobody, or one worker with one guard. -/
structure HasHolder (s : Sharing σ α β) (holder : Option Nat) : Prop where
  lock : ∃ tainted, s.lock = .exclusive { held := holder.isSome, tainted }
  /-- A script belongs to a task that is running. -/
  manned : ∀ w hand, s.hands w = some hand → ∃ task, s.pool.workers[w]? = some (.running task)
  guards : ∀ w hand, s.hands w = some hand → hand.guards = if holder = some w then 1 else 0
  holds : ∀ w, holder = some w → ∃ hand, s.hands w = some hand

/-- Who holds the lock when a worker has given back what it had of it. -/
def released (holder : Option Nat) (w : Nat) : Option Nat :=
  if holder = some w then none else holder

theorem released_ne (holder : Option Nat) (w : Nat) : released holder w ≠ some w := by
  unfold released
  split
  · exact (Option.some_ne_none w).symm
  · assumption

theorem released_eq_some_iff {holder : Option Nat} {v w : Nat} (hv : v ≠ w) :
    released holder w = some v ↔ holder = some v := by
  unfold released
  split
  · rename_i hw
    rw [hw]
    exact ⟨fun hnone => (nomatch hnone), fun heq => absurd (Option.some.inj heq).symm hv⟩
  · exact Iff.rfl

namespace HasHolder

variable {holder : Option Nat}

theorem holds_iff (h : s.HasHolder holder) (w : Nat) : s.Holds w ↔ holder = some w := by
  constructor
  · rintro ⟨hand, hhand, hpos⟩
    by_contra hne
    rw [h.guards w hand hhand, if_neg hne] at hpos
    exact Nat.lt_irrefl 0 hpos
  · intro heq
    obtain ⟨hand, hhand⟩ := h.holds w heq
    refine ⟨hand, hhand, ?_⟩
    rw [h.guards w hand hhand, if_pos heq]
    exact Nat.one_pos

theorem isFree_iff (h : s.HasHolder holder) : s.IsFree ↔ holder = none := by
  rw [Option.eq_none_iff_forall_ne_some]
  exact forall_congr' fun w => not_congr (h.holds_iff w)

/-- The lock can be had exactly if nobody holds it. That a holder crashed makes no difference. -/
theorem acquire?_eq (h : s.HasHolder holder) {lock : TaskLock} (hlock : s.lock.acquire? = some lock) :
    holder = none ∧ ∃ tainted, lock = .exclusive { held := true, tainted } := by
  obtain ⟨tainted, heq⟩ := h.lock
  rw [heq] at hlock
  cases holder with
  | none =>
    refine ⟨rfl, tainted, ?_⟩
    cases tainted <;> (cases hlock; rfl)
  | some w => cases hlock

theorem acquire?_eq_none_iff (h : s.HasHolder holder) :
    s.lock.acquire? = none ↔ ∃ w, s.Holds w := by
  obtain ⟨tainted, heq⟩ := h.lock
  rw [heq]
  cases holder with
  | none =>
    have hfree := h.isFree_iff.mpr rfl
    refine iff_of_false ?_ fun ⟨w, hw⟩ => hfree w hw
    cases tainted <;> (intro hnone; cases hnone)
  | some w => exact iff_of_true rfl ⟨w, (h.holds_iff w).mpr rfl⟩

/-- Guards that a worker gives back are all that were out, if there are any. -/
theorem lock_dropAll (h : s.HasHolder holder) {w : Nat} {hand : Hand σ β}
    (hhand : s.hands w = some hand) (crashed : Bool) :
    ∃ tainted, s.lock.dropAll crashed hand.guards =
      .exclusive { held := (released holder w).isSome, tainted } := by
  obtain ⟨tainted, heq⟩ := h.lock
  rw [h.guards w hand hhand, heq, released]
  by_cases hw : holder = some w
  · rw [if_pos hw, if_pos hw]
    exact ⟨tainted || crashed, rfl⟩
  · rw [if_neg hw, if_neg hw]
    exact ⟨tainted, rfl⟩

/-- The script of one worker goes on with another number of guards, or ends; all other workers are
as they were. -/
theorem give {holder' : Option Nat} (h : s.HasHolder holder) {w : Nat} {hand : Option (Hand σ β)}
    {pool : State α β} {lock : TaskLock} {common : σ}
    (hlock : ∃ tainted, lock = .exclusive { held := holder'.isSome, tainted })
    (hothers : ∀ v, v ≠ w → pool.workers[v]? = s.pool.workers[v]?)
    (hmanned : ∀ new, hand = some new → ∃ task, pool.workers[w]? = some (.running task))
    (hguards : ∀ new, hand = some new → new.guards = if holder' = some w then 1 else 0)
    (hholds : holder' = some w → ∃ new, hand = some new)
    (hholder : ∀ v, v ≠ w → (holder' = some v ↔ holder = some v)) :
    ({ s with pool, lock, common }.give w hand).HasHolder holder' where
  lock := hlock
  manned v new hnew := by
    by_cases hv : v = w
    · subst hv
      exact hmanned new (by simpa only [Sharing.give, if_true] using hnew)
    · simp only [Sharing.give, if_neg hv] at hnew ⊢
      rw [hothers v hv]
      exact h.manned v new hnew
  guards v new hnew := by
    by_cases hv : v = w
    · subst hv
      exact hguards new (by simpa only [Sharing.give, if_true] using hnew)
    · simp only [Sharing.give, if_neg hv] at hnew
      rw [h.guards v new hnew]
      exact if_congr (hholder v hv).symm rfl rfl
  holds v hv := by
    by_cases hvw : v = w
    · subst hvw
      simpa only [Sharing.give, if_true] using hholds hv
    · simpa only [Sharing.give, if_neg hvw] using h.holds v ((hholder v hvw).mp hv)

/-- What a step makes of the holder of the lock. -/
theorem step (h : s.HasHolder holder) {actor : Actor} (hstep : Step script s actor t) :
    ∃ holder', t.HasHolder holder' := by
  cases hstep with
  | pool hactor hpool =>
    refine ⟨holder, h.lock, fun w hand hhand => ?_, h.guards, h.holds⟩
    -- A worker with a script in hand is not one that takes a step of the pool.
    obtain ⟨task, hw⟩ := h.manned w hand hhand
    have hother : actor ≠ .worker w := fun heq =>
      (hactor w heq).not_busy task hand hw hhand
    exact ⟨task, (State.getElem?_workers_of_step hpool hother).trans hw⟩
  | @begin w task pool hw hpool =>
    have hnew : holder ≠ some w := fun heq => by
      obtain ⟨hand, hhand⟩ := h.holds w heq
      obtain ⟨task', hrunning⟩ := h.manned w hand hhand
      rw [hw] at hrunning
      cases hrunning
    refine ⟨holder, h.give h.lock (fun v hv => State.getElem?_workers_of_work hpool hv)
      (fun new _ => ⟨task, State.getElem?_workers_of_ready hw hpool⟩) (fun new hhand => ?_)
      (fun heq => absurd heq hnew) fun v _ => Iff.rfl⟩
    cases hhand
    rw [if_neg hnew]
  | @finish w task outcome guards pool hw hhand hpool =>
    obtain ⟨tainted, hlock⟩ := h.lock_dropAll hhand (panics outcome)
    exact ⟨_, h.give ⟨tainted, hlock⟩ (fun v hv => State.getElem?_workers_of_work hpool hv)
      (fun new hnone => (nomatch hnone)) (fun new hnone => (nomatch hnone))
      (fun heq => absurd heq (released_ne holder w)) fun v hv => released_eq_some_iff hv⟩
  | @acquire w task next guards lock hw hhand hlock =>
    obtain ⟨rfl, hlock⟩ := h.acquire?_eq hlock
    have hguards : guards = 0 := h.guards w _ hhand
    refine ⟨some w, h.give hlock (fun v _ => rfl) (fun new _ => ⟨task, hw⟩) (fun new heq => ?_)
      (fun _ => ⟨_, rfl⟩) fun v hv => ?_⟩
    · cases heq
      rw [if_pos rfl, hguards]
    · exact ⟨fun heq => absurd (Option.some.inj heq).symm hv, fun hnone => (nomatch hnone)⟩
  | @release w task next guards hw hhand =>
    obtain ⟨tainted, hlock⟩ := h.lock_dropAll hhand false
    have hguards : guards = if holder = some w then 1 else 0 := h.guards w _ hhand
    refine ⟨released holder w, h.give ⟨tainted, ?_⟩ (fun v _ => rfl)
      (fun new _ => ⟨task, hw⟩) (fun new heq => ?_)
      (fun heq => absurd heq (released_ne holder w)) fun v hv => released_eq_some_iff hv⟩
    · rw [← hlock, hguards]
      by_cases hw : holder = some w
      · rw [if_pos hw]
        rfl
      · rw [if_neg hw]
        rfl
    · cases heq
      rw [if_neg (released_ne holder w), hguards]
      by_cases hw : holder = some w
      · rw [if_pos hw]
      · rw [if_neg hw]
  | @change w task f next guards hw hhand =>
    refine ⟨holder, h.give h.lock (fun v _ => rfl) (fun new _ => ⟨task, hw⟩) (fun new heq => ?_)
      (fun _ => ⟨_, rfl⟩) fun v _ => Iff.rfl⟩
    cases heq
    exact h.guards w { script := .change f next, guards } hhand

/-- When all workers have gone nobody holds the lock. -/
theorem isFree_of_deserted (h : s.HasHolder holder) (hs : s.pool.deserted = true) : s.IsFree := by
  rintro w ⟨hand, hhand, -⟩
  obtain ⟨task, hw⟩ := h.manned w hand hhand
  have hgone := List.all_eq_true.mp hs _ (List.mem_of_getElem? hw)
  cases hgone

theorem start (workers : Nat) (tasks : List (Task α)) (x : σ) :
    (Sharing.start (β := β) workers tasks (.create true) x).HasHolder none where
  lock := ⟨false, rfl⟩
  manned _ _ hhand := by cases hhand
  guards _ _ hhand := by cases hhand
  holds _ heq := by cases heq

end HasHolder

theorem Reaches.hasHolder {workers : Nat} {tasks : List (Task α)} {x : σ}
    (h : (start workers tasks (.create true) x).Reaches script s) :
    ∃ holder, s.HasHolder holder := by
  induction h with
  | refl => exact ⟨none, .start workers tasks x⟩
  | step actor _ hstep ih =>
    obtain ⟨holder, hholder⟩ := ih
    exact hholder.step (.of_step hstep)

end Sharing

end Codemod.Pool
