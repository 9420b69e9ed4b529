import Codemod.Proofs.Pool.Sharing

set_option autoImplicit false

/-! # Sections under the lock, one after another

What a script does between taking the lock and giving it back is a section. Steps of other workers
that come between the steps of a section can as well be taken before it, since the lock keeps them
off what is shared (`Sharing.Within.commute`). So whatever a run comes to is come to by a run in which
no section is interrupted, and what is shared is then what the sections make of it, one after
another. The main statement is `sections_serial`, for sessions on workers and in the calling
thread. -/

namespace Codemod.Pool

variable {σ α β : Type} {script : Scripted σ α β}

/-! ## Scripts that keep to the lock -/

/-- A script that changes what is shared only while it holds a guard, and gives back none that it
does not hold. -/
def Script.IsGuarded : Script σ β → Nat → Prop
  | .finish _, _ => True
  | .acquire next, guards => next.IsGuarded (guards + 1)
  | .release next, guards => 0 < guards ∧ next.IsGuarded (guards - 1)
  | .change _ next, guards => 0 < guards ∧ ∀ x, (next x).IsGuarded guards

/-- Scripts that keep to the lock. That someone else holds the lock when a task starts is nothing
that the task can see. -/
structure Scripted.IsGuarded (script : Scripted σ α β) : Prop where
  guarded : ∀ context payload, (script context payload).IsGuarded 0
  blind : ∀ context lock payload, lock.isReal = context.lock.isReal →
    script { context with lock } payload = script context payload

/-- What a section makes of what is shared: it goes on up to where the lock is given back. -/
def Script.effect : Script σ β → σ → σ
  | .change f next, x => (next x).effect (f x)
  | _, x => x

/-- What a script comes to that nothing comes between, whatever the lock is. -/
def Script.alone : Script σ β → σ → Outcome β × σ
  | .finish outcome, x => (outcome, x)
  | .acquire next, x => next.alone x
  | .release next, x => next.alone x
  | .change f next, x => (next x).alone (f x)

/-- What tasks come to one after another, up to the first that panics. -/
def Scripted.inTurn (script : Scripted σ α β) (lock : TaskLock) (x : σ) :
    List (Task α) → List (Outcome β) × σ
  | [] => ([], x)
  | task :: rest =>
    let (outcome, y) :=
      (script { index := task.index, worker := caller, lock } task.payload).alone x
    if panics outcome then ([outcome], y)
    else
      let (outcomes, z) := script.inTurn lock y rest
      (outcome :: outcomes, z)

namespace Sharing

variable {s t u : Sharing σ α β}

/-! ## Uninterrupted sections -/

/-- From a state in which nobody holds the lock one worker has taken it, and only this worker has
taken steps since. -/
inductive Within (script : Scripted σ α β) (w : Nat) (s : Sharing σ α β) : Sharing σ α β → Prop where
  | take {t : Sharing σ α β} (hfree : s.IsFree) (hstep : s.step? script (.worker w) = some t)
      (hholds : t.Holds w) : Within script w s t
  | on {t u : Sharing σ α β} (ht : Within script w s t)
      (hstep : t.step? script (.worker w) = some u) (hholds : u.Holds w) : Within script w s u

/-- What can come of a run in which no section is interrupted, with the sections in their order. -/
inductive Serially (script : Scripted σ α β) (s : Sharing σ α β) :
    List (Script σ β) → Sharing σ α β → Prop where
  | refl : Serially script s [] s
  | step {sections : List (Script σ β)} {t u : Sharing σ α β} (actor : Actor)
      (ht : Serially script s sections t) (hstep : t.step? script actor = some u)
      (hfree : u.IsFree) : Serially script s sections u
  | turn {sections : List (Script σ β)} {t inside u : Sharing σ α β} {w : Nat}
      {code : Script σ β} (ht : Serially script s sections t)
      (hhand : t.hands w = some { script := .acquire code })
      (hinside : Within script w t inside) (hstep : inside.step? script (.worker w) = some u)
      (hfree : u.IsFree) : Serially script s (sections ++ [code]) u

/-! ## Two workers, two steps -/

/-- The script of each worker keeps to the lock. -/
def IsGuarded (s : Sharing σ α β) : Prop :=
  ∀ w hand, s.hands w = some hand → hand.script.IsGuarded hand.guards

/-- States that are the same to the script of a worker. -/
structure SameFor (w : Nat) (s t : Sharing σ α β) : Prop where
  lock : s.lock = t.lock
  common : s.common = t.common
  hand : s.hands w = t.hands w

/-- States that are the same to all others, who can do without the lock. -/
structure SameAside (w : Nat) (s t : Sharing σ α β) : Prop where
  pool : s.pool = t.pool
  hands : ∀ v, v ≠ w → s.hands v = t.hands v
  real : s.lock.isReal = t.lock.isReal

theorem SameFor.symm {w : Nat} (h : SameFor w s t) : SameFor w t s :=
  ⟨h.lock.symm, h.common.symm, h.hand.symm⟩

theorem SameFor.trans {w : Nat} (h : SameFor w s t) (h' : SameFor w t u) : SameFor w s u :=
  ⟨h.lock.trans h'.lock, h.common.trans h'.common, h.hand.trans h'.hand⟩

theorem SameAside.symm {w : Nat} (h : SameAside w s t) : SameAside w t s :=
  ⟨h.pool.symm, fun v hv => (h.hands v hv).symm, h.real.symm⟩

theorem SameAside.trans {w : Nat} (h : SameAside w s t) (h' : SameAside w t u) :
    SameAside w s u :=
  ⟨h.pool.trans h'.pool, fun v hv => (h.hands v hv).trans (h'.hands v hv), h.real.trans h'.real⟩

theorem SameAside.refl (w : Nat) (s : Sharing σ α β) : SameAside w s s :=
  ⟨rfl, fun _ _ => rfl, rfl⟩

theorem SameFor.eq {w : Nat} (h : SameFor w s t) (h' : SameAside w s t) : s = t := by
  obtain ⟨pool, lock, common, hands⟩ := s
  obtain ⟨pool', lock', common', hands'⟩ := t
  obtain ⟨rfl, rfl, hw⟩ := h
  obtain ⟨rfl, hothers, -⟩ := h'
  have hhands : hands = hands' := funext fun v => by
    by_cases hv : v = w
    · rw [hv]
      exact hw
    · exact hothers v hv
  rw [hhands]

theorem give_self (s : Sharing σ α β) (w : Nat) (hand : Option (Hand σ β)) :
    (s.give w hand).hands w = hand := if_pos rfl

theorem give_other (s : Sharing σ α β) {v w : Nat} (hand : Option (Hand σ β)) (hv : v ≠ w) :
    (s.give w hand).hands v = s.hands v := if_neg hv

/-- A step of the worker that has the lock, or takes it, does not depend on the others. -/
theorem Step.own {holder : Option Nat} {w : Nat} (hs : s.HasHolder holder)
    (h : Step script s (.worker w) t) (ht : t.Holds w) :
    SameAside w s t ∧ ∀ s', SameFor w s s' →
      (∃ task, s'.pool.workers[w]? = some (.running task)) →
      ∃ t', Step script s' (.worker w) t' ∧ SameFor w t t' ∧ SameAside w s' t' := by
  obtain ⟨tainted, hexclusive⟩ := hs.lock
  obtain ⟨hand, hnew, hpos⟩ := ht
  cases h with
  | pool hactor hpool =>
    obtain ⟨task, hw⟩ := hs.manned w hand hnew
    exact absurd hnew ((hactor w rfl).not_busy task hand hw)
  | begin hw hpool =>
    rw [give_self] at hnew
    cases hnew
    exact absurd hpos (Nat.lt_irrefl 0)
  | finish hw hhand hpool =>
    rw [give_self] at hnew
    cases hnew
  | @acquire _ task next guards lock hw hhand hlock =>
    obtain ⟨-, tainted', rfl⟩ := hs.acquire?_eq hlock
    refine ⟨⟨rfl, fun v hv => (give_other _ _ hv).symm, by rw [hexclusive]; rfl⟩, ?_⟩
    rintro s' ⟨hsame, hcommon, hhand'⟩ ⟨task', hw'⟩
    rw [hhand] at hhand'
    rw [hsame] at hlock hexclusive
    refine ⟨_, .acquire hw' hhand'.symm hlock, ⟨rfl, hcommon, ?_⟩,
      ⟨rfl, fun v hv => (give_other _ _ hv).symm, by rw [hexclusive]; rfl⟩⟩
    rw [give_self, give_self]
  | @release _ task next guards hw hhand =>
    rw [give_self] at hnew
    cases hnew
    have hguards : guards = if holder = some w then 1 else 0 := hs.guards w _ hhand
    have hle : guards ≤ 1 := by
      rw [hguards]
      split <;> omega
    have hpos : 0 < guards - 1 := hpos
    omega
  | @change _ task f next guards hw hhand =>
    refine ⟨⟨rfl, fun v hv => (give_other _ _ hv).symm, rfl⟩, ?_⟩
    rintro s' ⟨hsame, hcommon, hhand'⟩ ⟨task', hw'⟩
    rw [hhand] at hhand'
    refine ⟨_, .change hw' hhand'.symm, ⟨hsame, congrArg f hcommon, ?_⟩,
      ⟨rfl, fun v hv => (give_other _ _ hv).symm, rfl⟩⟩
    rw [give_self, give_self, hcommon]

/-- A step of somebody else, while a worker has the lock, does not depend on this worker. -/
theorem Step.foreign {actor : Actor} {w : Nat} (hscript : script.IsGuarded)
    (hs : s.HasHolder (some w)) (hguarded : s.IsGuarded) (h : Step script s actor t)
    (hactor : actor ≠ .worker w) :
    SameFor w s t ∧ ∀ s', SameAside w s s' →
      ∃ t', Step script s' actor t' ∧ SameFor w s' t' ∧ SameAside w t t' := by
  have hnone : ∀ {v hand}, v ≠ w → s.hands v = some hand → hand.guards = 0 := by
    intro v hand hv hhand
    rw [hs.guards v hand hhand, if_neg fun heq => hv (Option.some.inj heq).symm]
  have hother : ∀ {v}, Actor.worker v ≠ .worker w → w ≠ v := fun hne heq => hne (heq ▸ rfl)
  cases h with
  | @pool _ pool hidle hpool =>
    refine ⟨⟨rfl, rfl, rfl⟩, fun s' ⟨hsame, hhands, hreal⟩ => ?_⟩
    rw [hsame] at hpool
    refine ⟨_, .pool (fun v hv => ?_) hpool, ⟨rfl, rfl, rfl⟩, ⟨rfl, hhands, hreal⟩⟩
    subst hv
    have hv : v ≠ w := (hother hactor).symm
    obtain ⟨hready, hbusy⟩ := hidle v rfl
    rw [hsame] at hready hbusy
    rw [hhands v hv] at hbusy
    exact ⟨hready, hbusy⟩
  | @begin v task pool hw hpool =>
    have hv : w ≠ v := hother hactor
    refine ⟨⟨rfl, rfl, (give_other _ _ hv).symm⟩, fun s' ⟨hsame, hhands, hreal⟩ => ?_⟩
    rw [hsame] at hw hpool
    refine ⟨_, .begin hw hpool, ⟨rfl, rfl, (give_other _ _ hv).symm⟩, ⟨rfl, fun v' hv' => ?_, hreal⟩⟩
    by_cases heq : v' = v
    · subst heq
      rw [give_self, give_self]
      have hblind := hscript.blind { index := task.index, worker := v', lock := s.lock } s'.lock
        task.payload hreal.symm
      exact congrArg (fun code => some (Hand.mk code 0)) hblind.symm
    · rw [give_other _ _ heq, give_other _ _ heq]
      exact hhands v' hv'
  | @finish v task outcome guards pool hw hhand hpool =>
    have hv : w ≠ v := hother hactor
    obtain rfl : guards = 0 := hnone hv.symm hhand
    refine ⟨⟨rfl, rfl, (give_other _ _ hv).symm⟩, fun s' ⟨hsame, hhands, hreal⟩ => ?_⟩
    rw [hsame] at hw hpool
    rw [hhands v hv.symm] at hhand
    refine ⟨_, .finish hw hhand hpool, ⟨rfl, rfl, (give_other _ _ hv).symm⟩,
      ⟨rfl, fun v' hv' => ?_, hreal⟩⟩
    by_cases heq : v' = v
    · subst heq
      rw [give_self, give_self]
    · rw [give_other _ _ heq, give_other _ _ heq]
      exact hhands v' hv'
  | @acquire v task next guards lock hw hhand hlock =>
    obtain ⟨hfree, -⟩ := hs.acquire?_eq hlock
    cases hfree
  | @release v task next guards hw hhand =>
    have hkept := (hguarded v _ hhand).1
    rw [hnone (hother hactor).symm hhand] at hkept
    exact absurd hkept (Nat.lt_irrefl 0)
  | @change v task f next guards hw hhand =>
    have hkept := (hguarded v _ hhand).1
    rw [hnone (hother hactor).symm hhand] at hkept
    exact absurd hkept (Nat.lt_irrefl 0)

/-! ## Sections and the steps around them -/

theorem Within.hasHolder {w : Nat} (hs : s.HasHolder none) (h : Within script w s t) :
    t.HasHolder (some w) := by
  have hexists : ∃ holder, t.HasHolder holder := by
    induction h with
    | take hfree hstep hholds => exact hs.step (.of_step hstep)
    | on ht hstep hholds ih =>
      obtain ⟨holder, hholder⟩ := ih
      exact hholder.step (.of_step hstep)
  have hholds : t.Holds w := by
    cases h with
    | take _ _ hholds => exact hholds
    | on _ _ hholds => exact hholds
  obtain ⟨holder, hholder⟩ := hexists
  rwa [(hholder.holds_iff w).mp hholds] at hholder

/-- A section can be repeated by its worker wherever the lock and what is shared are the same. -/
theorem Within.replay {w : Nat} (hs : s.HasHolder none) (h : Within script w s t) :
    SameAside w s t ∧ ∀ s', SameFor w s s' → s'.IsFree →
      (∃ task, s'.pool.workers[w]? = some (.running task)) →
      ∃ t', Within script w s' t' ∧ SameFor w t t' ∧ SameAside w s' t' := by
  induction h with
  | take hfree hstep hholds =>
    obtain ⟨haside, hown⟩ := (Step.of_step hstep).own hs hholds
    refine ⟨haside, fun s' hfor hfree' hrunning => ?_⟩
    obtain ⟨t', hstep', hfor', haside'⟩ := hown s' hfor hrunning
    obtain ⟨hand, hhand, hpos⟩ := hholds
    exact ⟨t', .take hfree' hstep'.step?_eq ⟨hand, hfor'.hand ▸ hhand, hpos⟩, hfor', haside'⟩
  | @on u v hu hstep hholds ih =>
    obtain ⟨haside, hrepeat⟩ := ih
    obtain ⟨haside', hown⟩ := (Step.of_step hstep).own (hu.hasHolder hs) hholds
    refine ⟨haside.trans haside', fun s' hfor hfree' hrunning => ?_⟩
    obtain ⟨u', hu', hforu, hasideu⟩ := hrepeat s' hfor hfree' hrunning
    obtain ⟨v', hstep', hforv, hasidev⟩ := hown u' hforu (hasideu.pool ▸ hrunning)
    obtain ⟨hand, hhand, hpos⟩ := hholds
    exact ⟨v', .on hu' hstep'.step?_eq ⟨hand, hforv.hand ▸ hhand, hpos⟩, hforv,
      hasideu.trans hasidev⟩

/-- A step of somebody else in the midst of a section can be taken before the section. -/
theorem Within.commute {actor : Actor} {w : Nat} {hand : Hand σ β} (hscript : script.IsGuarded)
    (hs : s.HasHolder none) (hhand : s.hands w = some hand) (h : Within script w s t)
    (hguarded : t.IsGuarded) (hstep : Step script t actor u) (hactor : actor ≠ .worker w) :
    ∃ s', Step script s actor s' ∧ s'.IsFree ∧ SameFor w s s' ∧ Within script w s' u := by
  obtain ⟨haside, hrepeat⟩ := h.replay hs
  obtain ⟨hfor, hforeign⟩ := hstep.foreign hscript (h.hasHolder hs) hguarded hactor
  obtain ⟨s', hs', hfor', haside'⟩ := hforeign s haside.symm
  obtain ⟨holder, hholder⟩ := hs.step hs'
  -- The step before the section leaves the lock alone, and the worker of the section running.
  have hfree : s'.IsFree := by
    obtain ⟨tainted, hlock⟩ := hs.lock
    obtain ⟨tainted', hlock'⟩ := hholder.lock
    rw [← hfor'.lock, hlock] at hlock'
    rw [hholder.isFree_iff]
    cases holder with
    | none => rfl
    | some v => cases hlock'
  have hrunning : ∃ task, s'.pool.workers[w]? = some (.running task) :=
    hholder.manned w hand (hfor'.hand ▸ hhand)
  obtain ⟨u', hu', hforu, hasideu⟩ := hrepeat s' hfor' hfree hrunning
  have hu : u = u' := (hfor.symm.trans hforu).eq (haside'.trans hasideu)
  exact ⟨s', hs', hfree, hfor', hu ▸ hu'⟩

theorem Step.hands_eq {actor : Actor} (h : Step script s actor t) {v : Nat}
    (hv : actor ≠ .worker v) : t.hands v = s.hands v := by
  have hother : ∀ {w}, actor = .worker w → v ≠ w := fun hw heq => hv (heq ▸ hw)
  cases h with
  | pool hactor hpool => rfl
  | begin hw hpool => exact give_other _ _ (hother rfl)
  | finish hw hhand hpool => exact give_other _ _ (hother rfl)
  | acquire hw hhand hlock => exact give_other _ _ (hother rfl)
  | release hw hhand => exact give_other _ _ (hother rfl)
  | change hw hhand => exact give_other _ _ (hother rfl)

theorem Step.isGuarded {actor : Actor} (hscript : script.IsGuarded) (hs : s.IsGuarded)
    (h : Step script s actor t) : t.IsGuarded := by
  -- Only the script of the actor is another one afterwards.
  have hgive : ∀ {w : Nat} {new : Option (Hand σ β)} {s' : Sharing σ α β}, s'.hands = s.hands →
      (∀ hand, new = some hand → hand.script.IsGuarded hand.guards) →
      (s'.give w new).IsGuarded := by
    intro w new s' hsame hnew v hand hhand
    by_cases hv : v = w
    · subst hv
      rw [give_self] at hhand
      exact hnew hand hhand
    · rw [give_other _ _ hv, hsame] at hhand
      exact hs v hand hhand
  cases h with
  | pool hactor hpool => exact hs
  | begin hw hpool => exact hgive rfl fun hand heq => by cases heq; exact hscript.guarded _ _
  | finish hw hhand hpool => exact hgive rfl fun hand heq => by cases heq
  | @acquire w _ _ _ _ hw hhand hlock =>
    have hnext := hs w _ hhand
    exact hgive rfl fun hand heq => by cases heq; exact hnext
  | @release w _ _ _ hw hhand =>
    exact hgive rfl fun hand heq => by cases heq; exact (hs w _ hhand).2
  | @change w _ _ _ _ hw hhand =>
    exact hgive rfl fun hand heq => by cases heq; exact (hs w _ hhand).2 _

/-- Who has the lock where nobody had it has just taken it. -/
theorem Step.takes {actor : Actor} {w : Nat} (hs : s.HasHolder none) (h : Step script s actor t)
    (ht : t.Holds w) :
    actor = .worker w ∧ ∃ code : Script σ β, s.hands w = some { script := .acquire code } ∧
      t.hands w = some { script := code, guards := 1 } ∧ t.common = s.common := by
  obtain ⟨hand, hnew, hpos⟩ := ht
  have hactor : actor = .worker w := by
    by_contra hne
    rw [h.hands_eq hne] at hnew
    rw [hs.guards w hand hnew] at hpos
    exact Nat.lt_irrefl 0 hpos
  refine ⟨hactor, ?_⟩
  subst hactor
  have hnone : ∀ hand, s.hands w = some hand → hand.guards = 0 := hs.guards w
  cases h with
  | pool hactor hpool =>
    rw [hnone hand hnew] at hpos
    exact absurd hpos (Nat.lt_irrefl 0)
  | begin hw hpool =>
    rw [give_self] at hnew
    cases hnew
    exact absurd hpos (Nat.lt_irrefl 0)
  | finish hw hhand hpool =>
    rw [give_self] at hnew
    cases hnew
  | @acquire _ task code guards lock hw hhand hlock =>
    obtain rfl : guards = 0 := hnone _ hhand
    exact ⟨code, hhand, give_self _ _ _, rfl⟩
  | @release _ task code guards hw hhand =>
    obtain rfl : guards = 0 := hnone _ hhand
    rw [give_self] at hnew
    cases hnew
    exact absurd hpos (Nat.lt_irrefl 0)
  | @change _ task f code guards hw hhand =>
    obtain rfl : guards = 0 := hnone _ hhand
    rw [give_self] at hnew
    cases hnew
    exact absurd hpos (Nat.lt_irrefl 0)

/-- What the holder of the lock does with what is shared is a part of its section. -/
theorem Step.effect_eq {w : Nat} (hs : s.HasHolder (some w)) (h : Step script s (.worker w) t) :
    ∃ code : Script σ β, s.hands w = some { script := code, guards := 1 } ∧
      ((∃ rest : Script σ β, t.hands w = some { script := rest, guards := 1 } ∧
        rest.effect t.common = code.effect s.common) ∨
      (¬ t.Holds w ∧ t.common = code.effect s.common)) := by
  obtain ⟨hand, hhand⟩ := hs.holds w rfl
  have hone : ∀ hand, s.hands w = some hand → hand.guards = 1 := fun hand hhand => by
    rw [hs.guards w hand hhand, if_pos rfl]
  cases h with
  | pool hactor hpool =>
    obtain ⟨task, hw⟩ := hs.manned w hand hhand
    exact absurd hhand ((hactor w rfl).not_busy task hand hw)
  | begin hw hpool =>
    obtain ⟨task, hw'⟩ := hs.manned w hand hhand
    rw [hw] at hw'
    cases hw'
  | @finish _ task outcome guards pool hw hhand hpool =>
    obtain rfl : guards = 1 := hone _ hhand
    refine ⟨_, hhand, .inr ⟨?_, rfl⟩⟩
    rintro ⟨new, hnew, -⟩
    rw [give_self] at hnew
    cases hnew
  | acquire hw hhand hlock =>
    obtain ⟨hfree, -⟩ := hs.acquire?_eq hlock
    cases hfree
  | @release _ task code guards hw hhand =>
    obtain rfl : guards = 1 := hone _ hhand
    refine ⟨_, hhand, .inr ⟨?_, rfl⟩⟩
    rintro ⟨new, hnew, hpos⟩
    rw [give_self] at hnew
    cases hnew
    exact absurd hpos (Nat.lt_irrefl 0)
  | @change _ task f code guards hw hhand =>
    obtain rfl : guards = 1 := hone _ hhand
    exact ⟨_, hhand, .inl ⟨_, give_self _ _ _, rfl⟩⟩

/-- Where nobody has the lock nobody changes what is shared. -/
theorem Step.common_eq {actor : Actor} (hs : s.HasHolder none) (hguarded : s.IsGuarded)
    (h : Step script s actor t) : t.common = s.common := by
  cases h with
  | @change w task f next guards hw hhand =>
    have hkept : 0 < guards := (hguarded w _ hhand).1
    have hnone : guards = 0 := hs.guards w _ hhand
    omega
  | pool hactor hpool => rfl
  | begin hw hpool => rfl
  | finish hw hhand hpool => rfl
  | acquire hw hhand hlock => rfl
  | release hw hhand => rfl

theorem Within.effect_eq {w : Nat} {code : Script σ β} (hs : s.HasHolder none)
    (hhand : s.hands w = some { script := .acquire code }) (h : Within script w s t) :
    ∃ rest : Script σ β, t.hands w = some { script := rest, guards := 1 } ∧
      rest.effect t.common = code.effect s.common := by
  induction h with
  | take hfree hstep hholds =>
    obtain ⟨-, code', hhand', hnew, hcommon⟩ := (Step.of_step hstep).takes hs hholds
    rw [hhand] at hhand'
    cases hhand'
    exact ⟨_, hnew, by rw [hcommon]⟩
  | on ht hstep hholds ih =>
    obtain ⟨rest, hrest, heffect⟩ := ih
    obtain ⟨rest', hrest', hcases⟩ := (Step.of_step hstep).effect_eq (ht.hasHolder hs)
    rw [hrest] at hrest'
    cases hrest'
    rcases hcases with ⟨last, hlast, heffect'⟩ | ⟨hnone, -⟩
    · exact ⟨last, hlast, heffect'.trans heffect⟩
    · exact absurd hholds hnone

/-! ## Runs without interruptions -/

theorem Within.isGuarded {w : Nat} (hscript : script.IsGuarded) (hs : s.IsGuarded)
    (h : Within script w s t) : t.IsGuarded := by
  induction h with
  | take hfree hstep hholds => exact (Step.of_step hstep).isGuarded hscript hs
  | on ht hstep hholds ih => exact (Step.of_step hstep).isGuarded hscript ih

theorem Step.hasHolder_none {actor : Actor} {holder : Option Nat} (hs : s.HasHolder holder)
    (h : Step script s actor t) (hfree : t.IsFree) : t.HasHolder none := by
  obtain ⟨holder', hholder⟩ := hs.step h
  rwa [hholder.isFree_iff.mp hfree] at hholder

/-- Between the sections of an uninterrupted run nobody has the lock, and what is shared is what the
sections so far have made of it. -/
theorem Serially.invariant {sections : List (Script σ β)} (hscript : script.IsGuarded)
    (hs : s.HasHolder none) (hguarded : s.IsGuarded) (h : Serially script s sections t) :
    t.HasHolder none ∧ t.IsGuarded ∧
      t.common = sections.foldl (fun x code => code.effect x) s.common := by
  induction h with
  | refl => exact ⟨hs, hguarded, rfl⟩
  | step actor ht hstep hfree ih =>
    obtain ⟨hholder, hkept, hcommon⟩ := ih
    have hstep := Step.of_step hstep
    exact ⟨hstep.hasHolder_none hholder hfree, hstep.isGuarded hscript hkept,
      (hstep.common_eq hholder hkept).trans hcommon⟩
  | @turn sections t inside u w code ht hhand hinside hstep hfree ih =>
    obtain ⟨hholder, hkept, hcommon⟩ := ih
    have hstep := Step.of_step hstep
    have hwithin := hinside.hasHolder hholder
    refine ⟨hstep.hasHolder_none hwithin hfree,
      hstep.isGuarded hscript (hinside.isGuarded hscript hkept), ?_⟩
    obtain ⟨rest, hrest, heffect⟩ := hinside.effect_eq hholder hhand
    obtain ⟨rest', hrest', hcases⟩ := hstep.effect_eq hwithin
    rw [hrest] at hrest'
    cases hrest'
    rcases hcases with ⟨last, hlast, -⟩ | ⟨-, hend⟩
    · exact absurd ⟨_, hlast, Nat.one_pos⟩ (hfree w)
    · rw [hend, heffect, hcommon, List.foldl_append]
      rfl

/-- The run up to a state in which some worker is in the midst of a section, without interruptions
of this section or of the ones before it. -/
def Interrupted (script : Scripted σ α β) (s : Sharing σ α β) (w : Nat) (t : Sharing σ α β) : Prop :=
  ∃ (sections : List (Script σ β)) (before : Sharing σ α β) (code : Script σ β),
    Serially script s sections before ∧ before.hands w = some { script := .acquire code } ∧
      Within script w before t

theorem Interrupted.step {actor : Actor} {w : Nat} (hscript : script.IsGuarded)
    (hs : s.HasHolder none) (hguarded : s.IsGuarded) (ht : Interrupted script s w t)
    (hstep : Step script t actor u) :
    (u.IsFree → ∃ sections, Serially script s sections u) ∧
      ∀ v, u.Holds v → Interrupted script s v u := by
  obtain ⟨sections, before, code, hbefore, hhand, hwithin⟩ := ht
  obtain ⟨hholder, hkept, -⟩ := hbefore.invariant hscript hs hguarded
  have hinside := hwithin.hasHolder hholder
  by_cases hactor : actor = .worker w
  · -- The section goes on, or ends.
    subst hactor
    refine ⟨fun hfree => ⟨_, .turn hbefore hhand hwithin hstep.step?_eq hfree⟩, fun v hholds => ?_⟩
    have hv : v = w := by
      by_contra hne
      obtain ⟨hand, hnew, hpos⟩ := hholds
      rw [hstep.hands_eq fun heq => hne (Actor.worker.inj heq).symm] at hnew
      rw [hinside.guards v hand hnew, if_neg fun heq => hne (Option.some.inj heq).symm] at hpos
      exact Nat.lt_irrefl 0 hpos
    subst hv
    exact ⟨sections, before, code, hbefore, hhand, .on hwithin hstep.step?_eq hholds⟩
  · -- Somebody else moves, and might as well have done so before the section.
    obtain ⟨before', hfirst, hfree', hfor, hwithin'⟩ :=
      hwithin.commute hscript hholder hhand (hwithin.isGuarded hscript hkept) hstep hactor
    have hbefore' := hbefore.step actor hfirst.step?_eq hfree'
    obtain ⟨hholder', -, -⟩ := hbefore'.invariant hscript hs hguarded
    have hafter := hwithin'.hasHolder hholder'
    refine ⟨fun hfree => ?_, fun v hholds => ?_⟩
    · exact absurd ((hafter.holds_iff w).mpr rfl) (hfree w)
    · obtain rfl : w = v := Option.some.inj ((hafter.holds_iff v).mp hholds)
      exact ⟨sections, before', code, hbefore', hfor.hand ▸ hhand, hwithin'⟩

/-- What a run comes to is come to without an interruption of any section. -/
theorem Reaches.serially {workers : Nat} {tasks : List (Task α)} {x : σ}
    (hscript : script.IsGuarded) (h : (start workers tasks (.create true) x).Reaches script t) :
    (t.IsFree → ∃ sections, Serially script (start workers tasks (.create true) x) sections t) ∧
      ∀ w, t.Holds w → Interrupted script (start workers tasks (.create true) x) w t := by
  have hstart : (start (β := β) workers tasks (.create true) x).HasHolder none :=
    .start workers tasks x
  have hguarded : (start (β := β) workers tasks (.create true) x).IsGuarded := fun w hand hhand => by
    cases hhand
  induction h with
  | refl => exact ⟨fun _ => ⟨[], .refl⟩, fun w hholds => absurd hholds (hstart.isFree_iff.mpr rfl w)⟩
  | @step t u actor ht hstep ih =>
    obtain ⟨hfree, hholding⟩ := ih
    obtain ⟨holder, hholder⟩ := ht.hasHolder
    cases holder with
    | some w =>
      have hinside := hholding w ((hholder.holds_iff w).mpr rfl)
      exact hinside.step hscript hstart hguarded (.of_step hstep)
    | none =>
      have htfree := hholder.isFree_iff.mpr rfl
      obtain ⟨sections, hsections⟩ := hfree htfree
      refine ⟨fun hufree => ⟨sections, hsections.step actor hstep hufree⟩, fun w hholds => ?_⟩
      obtain ⟨rfl, code, hhand, -⟩ := (Step.of_step hstep).takes hholder hholds
      exact ⟨sections, t, code, hsections, hhand, .take htfree hstep hholds⟩

end Sharing

/-! ## The calling thread -/

theorem dropAll_free (guards : Nat) (crashed : Bool) :
    (TaskLock.free guards).dropAll crashed guards = .free 0 := by
  induction guards with
  | zero => rfl
  | succ guards ih => exact ih

/-- The free lock grants everything, also to who has it, and is free again in the end. -/
theorem Script.run?_free (code : Script σ β) (guards : Nat) (x : σ) :
    code.run? (.free guards) guards x =
      some ((code.alone x).1, .free 0, (code.alone x).2) := by
  induction code generalizing guards x with
  | finish outcome => rw [run?, dropAll_free, alone]
  | acquire next ih => exact ih (guards + 1) x
  | release next ih =>
    cases guards with
    | zero => exact ih 0 x
    | succ guards => exact ih guards x
  | change f next ih => exact ih x guards (f x)

theorem Script.runAll?_free (script : Scripted σ α β) (x : σ) (tasks : List (Task α)) :
    Script.runAll? script (.free 0) x tasks = some (script.inTurn (.free 0) x tasks) := by
  induction tasks generalizing x with
  | nil => rfl
  | cons task rest ih =>
    rw [runAll?, run?_free, Scripted.inTurn]
    dsimp only
    cases panics _ with
    | true => rfl
    | false => rw [if_neg Bool.false_ne_true, if_neg Bool.false_ne_true, ih]; rfl

/-! ## Sessions -/

/-- How the lock of a session on workers serialises what scripts do while they hold it, said of one
state of a run. -/
structure Serialised (script : Scripted σ α β) (start s : Sharing σ α β) : Prop where
  /-- Two scripts are never in a section at the same time. -/
  exclusive : ∀ v w, s.Holds v → s.Holds w → v = w
  /-- The lock can be had as soon as nobody holds it, whichever way it was given back. -/
  available : s.lock.acquire? = none ↔ ∃ w, s.Holds w
  released : s.pool.deserted = true → s.IsFree
  /-- Between sections the state is that of an uninterrupted run, and what is shared is what the
  sections make of it one after another. -/
  serial : script.IsGuarded → s.IsFree → ∃ sections : List (Script σ β),
    start.Serially script sections s ∧
      s.common = sections.foldl (fun x code => code.effect x) start.common
  /-- In the midst of a section it is that of an uninterrupted run up to there. -/
  interrupted : script.IsGuarded → ∀ w, s.Holds w → start.Interrupted script w s

theorem Sharing.Reaches.serialised {workers : Nat} {tasks : List (Task α)} {x : σ}
    {s : Sharing σ α β} (h : (Sharing.start workers tasks (.create true) x).Reaches script s) :
    Serialised script (.start workers tasks (.create true) x) s := by
  obtain ⟨holder, hholder⟩ := h.hasHolder
  refine ⟨fun v w hv hw => ?_, hholder.acquire?_eq_none_iff, hholder.isFree_of_deserted,
    fun hscript hfree => ?_, fun hscript => (h.serially hscript).2⟩
  · rw [hholder.holds_iff] at hv hw
    exact Option.some.inj (hv.symm.trans hw)
  · obtain ⟨sections, hsections⟩ := (h.serially hscript).1 hfree
    obtain ⟨-, -, hcommon⟩ := hsections.invariant hscript (.start workers tasks x)
      fun w hand hhand => by cases hhand
    exact ⟨sections, hsections, hcommon⟩

/-- In a session with shared things the lock serialises what tasks do while they hold it. On workers
that is so in every state that some order of steps leads to. In the calling thread, where the lock
is free and may be taken again by who has it, no script has to wait, and the tasks run one after
another. -/
theorem sections_serial (d : Dispatcher) (hshared : d.options.shared = true) (items : List α)
    (script : Scripted σ α β) (x : σ) :
    let tasks := Task.ofItems items
    let strategy := Strategy.resolve d.options tasks.length
    let lock := Dispatcher.lockFor d.options strategy
    match strategy with
    | .parallel workers => ∀ s, (Sharing.start workers tasks lock x).Reaches script s →
        Serialised script (.start workers tasks lock x) s
    | .sequential => Script.runAll? script lock x tasks = some (script.inTurn lock x tasks) := by
  intro tasks strategy lock
  have hlock : lock = .create strategy.isParallel := by
    rw [show lock = Dispatcher.lockFor d.options strategy from rfl, Dispatcher.lockFor, hshared,
      Bool.and_true]
  cases hstrategy : strategy with
  | sequential =>
    rw [hstrategy] at hlock
    rw [hlock]
    exact Script.runAll?_free script x tasks
  | parallel workers =>
    rw [hstrategy] at hlock
    rw [hlock]
    exact fun s hs => hs.serialised

/-- Let actors take steps in the given order. -/
def Sharing.follow? (script : Scripted σ α β) : List Actor → Sharing σ α β → Option (Sharing σ α β)
  | [], s => some s
  | actor :: actors, s => (s.step? script actor).bind (follow? script actors)

theorem Sharing.Reaches.of_follow {s t u : Sharing σ α β} (hs : s.Reaches script t)
    (actors : List Actor) (h : follow? script actors t = some u) : s.Reaches script u := by
  induction actors generalizing t with
  | nil =>
    cases h
    exact hs
  | cons actor actors ih =>
    obtain ⟨v, hstep, hrest⟩ := Option.bind_eq_some_iff.mp h
    exact ih (.step actor hs hstep) hrest

/-- Add the payload to a number in two steps, the second of which writes what the first has read. -/
def addScript : Scripted Nat Nat Unit := fun _ n =>
  .acquire (.change id fun old => .change (fun _ => old + n) fun _ => .finish (.panicked none))

theorem addScript_isGuarded : addScript.IsGuarded where
  guarded _ _ := ⟨Nat.one_pos, fun _ => ⟨Nat.one_pos, fun _ => trivial⟩⟩
  blind _ _ _ _ := rfl

/-- Two workers start a task each. The first is on its way when the second would like to have the
lock, and it panics with the lock in its hand. -/
def twoAdditions : List Actor :=
  [.producer, .producer, .producer, .producer, .worker 0, .worker 1, .worker 0, .worker 1,
    .worker 0, .worker 1, .worker 0, .worker 0, .worker 0, .worker 0, .worker 1, .worker 1,
    .worker 1, .worker 1]

/-- A session for tasks that share something, with two workers. -/
def sharingDispatcher : Dispatcher where
  options := { jobs := some 2, shared := true, capabilities := .ofCpus 4 }

theorem sections_serial_of_twoAdditions :
    sharingDispatcher.options.shared = true ∧ addScript.IsGuarded ∧
      ∃ s, (Sharing.start 2 (Task.ofItems [5, 7]) (.create true) 0).follow? addScript twoAdditions =
          some s ∧
        s.common = 12 ∧ s.IsFree ∧
        Serialised addScript (.start 2 (Task.ofItems [5, 7]) (.create true) 0) s := by
  have hall : ∀ s, (Sharing.start 2 (Task.ofItems [5, 7]) (.create true) 0).Reaches addScript s →
      Serialised addScript (.start 2 (Task.ofItems [5, 7]) (.create true) 0) s :=
    sections_serial sharingDispatcher rfl [5, 7] addScript 0
  refine ⟨rfl, addScript_isGuarded, _, rfl, rfl, ?_, ?_⟩
  · have hserial := hall _ (Sharing.Reaches.refl.of_follow twoAdditions rfl)
    exact fun w hw => absurd (hserial.available.mpr ⟨w, hw⟩) (by decide)
  · exact hall _ (Sharing.Reaches.refl.of_follow twoAdditions rfl)

end Codemod.Pool
