import Codemod.Proofs.Pool.Move

set_option autoImplicit false

/-! # Parallel runs come to an end

An actor that cannot take a step waits for something: the producer for room, a worker for a task or
for room, the collector for a report. The waiting cannot be mutual. Reports wait only as long as the
collector listens, and it listens until all workers have gone; where there is no report and no task,
both channels have room, because each holds two entries for each worker. So a run stops only when
everybody is done (`State.Reaches.final_of_stuck`), and since every move makes `State.measure`
smaller (`Move.measure_lt`), it does stop. -/

namespace Codemod.Pool

variable {α β : Type} {run : Nat → Task α → Outcome β}

/-! ## Every move costs something -/

theorem foldr_add_append {γ : Type} (weight : γ → Nat) (ws ws' : List γ) :
    (ws ++ ws').foldr (fun w n => weight w + n) 0 =
      ws.foldr (fun w n => weight w + n) 0 + ws'.foldr (fun w n => weight w + n) 0 := by
  induction ws with
  | nil => simp
  | cons w ws ih =>
    rw [List.cons_append, List.foldr_cons, List.foldr_cons, ih]
    omega

theorem Move.measure_lt {s t : State α β} (h : Move run s t) : t.measure < s.measure := by
  -- In each move the actor gives up more than what it puts into a channel counts for.
  cases h <;> simp_all [State.measure, Producer.measure, Worker.measure, foldr_add_append,
    -List.foldr_append] <;> omega

theorem measure_lt_of_next {s t : State α β} (h : State.Next run s t) : t.measure < s.measure := by
  obtain ⟨actor, hstep⟩ := h
  exact (Move.of_step hstep).measure_lt

/-- A sequence of steps cannot be longer than the measure of its first state. -/
theorem measure_add_le {states : Nat → State α β}
    (h : ∀ n, State.Next run (states n) (states (n + 1))) (n : Nat) :
    (states n).measure + n ≤ (states 0).measure := by
  induction n with
  | zero => simp
  | succ n ih =>
    have hlt := measure_lt_of_next (h n)
    omega

/-! ## What an actor waits for -/

theorem State.produce?_eq_none {s : State α β} (h : s.produce? = none) :
    s.producer = .gone ∨
      (∃ task rest, s.producer = .sending task rest) ∧ s.deserted = false ∧
        s.capacity ≤ s.tasks.length := by
  unfold State.produce? at h
  split at h
  case h_1 => cases h
  case h_2 => cases h
  case h_3 task rest hp =>
    split at h
    case isTrue => cases h
    case isFalse hd =>
      split at h
      case isTrue => cases h
      case isFalse hroom => exact Or.inr ⟨⟨task, rest, hp⟩, by simpa using hd, by omega⟩
  case h_4 hp => exact Or.inl hp

theorem State.work?_eq_none {s : State α β} {w : Nat} (h : s.work? run w = none) :
    s.workers[w]? = none ∨ s.workers[w]? = some .gone ∨
      (s.workers[w]? = some .waiting ∧ s.tasks = [] ∧ s.producer ≠ .gone) ∨
        (∃ report, s.workers[w]? = some (.reporting report)) ∧ s.collecting = true ∧
          s.capacity ≤ s.reports.length := by
  unfold State.work? at h
  split at h
  case h_1 hw => exact Or.inl hw
  case h_2 hw =>
    unfold State.take? at h
    split at h
    case h_1 => cases h
    case h_2 ht =>
      split at h
      case isTrue => cases h
      case isFalse hp =>
        refine Or.inr (Or.inr (Or.inl ⟨hw, ht, ?_⟩))
        intro hgone
        exact hp (by rw [hgone]; rfl)
  case h_3 => cases h
  case h_4 => cases h
  case h_5 => split at h <;> cases h
  case h_6 => cases h
  case h_7 report hw =>
    unfold State.report? at h
    split at h
    case isTrue => cases h
    case isFalse hc =>
      split at h
      case isTrue => cases h
      case isFalse hroom =>
        exact Or.inr (Or.inr (Or.inr ⟨⟨report, hw⟩, by simpa using hc, by omega⟩))
  case h_8 => cases h
  case h_9 hw => exact Or.inr (Or.inl hw)

theorem State.collect?_eq_none {s : State α β} (h : s.collect? = none) :
    s.collecting = false ∨ s.reports = [] ∧ s.deserted = false := by
  unfold State.collect? at h
  split at h
  case isTrue hc => exact Or.inl (by simpa using hc)
  case isFalse =>
    split at h
    case h_1 => cases h
    case h_2 hr =>
      split at h
      case isTrue => cases h
      case isFalse hd => exact Or.inr ⟨hr, by simpa using hd⟩

/-! ## Nobody talks to a collector that has left -/

/-- When the collector has stopped listening, all workers have gone and no report is left. -/
def State.Heard (s : State α β) : Prop :=
  s.collecting = false → s.deserted = true ∧ s.reports = []

theorem Move.heard {s t : State α β} (hs : s.Heard) (h : Move run s t) : t.Heard := by
  cases h <;> simp_all [State.Heard, State.deserted, Worker.isGone]

theorem State.Reaches.heard {workers : Nat} {tasks : List (Task α)} {s : State α β}
    (h : (State.start workers tasks).Reaches run s) : s.Heard := by
  refine h.induct ?_ ?_
  · intro hc
    cases hc
  · intro u v hu hmove
    exact hmove.heard hu

/-! ## A run stops only when everybody is done -/

theorem State.exists_worker_of_not_deserted {s : State α β} (h : s.deserted = false) :
    ∃ (w : Nat) (worker : Worker α β), s.workers[w]? = some worker ∧ worker ≠ .gone := by
  simp only [State.deserted, List.all_eq_false] at h
  obtain ⟨worker, hmem, hgone⟩ := h
  obtain ⟨w, hw⟩ := List.mem_iff_getElem?.1 hmem
  refine ⟨w, worker, hw, ?_⟩
  rintro rfl
  exact hgone rfl

/-- Each channel has room for something as long as there is a worker. -/
theorem State.capacity_pos {s : State α β} {w : Nat} {worker : Worker α β}
    (h : s.workers[w]? = some worker) : 0 < s.capacity := by
  obtain ⟨hlt, -⟩ := List.getElem?_eq_some_iff.1 h
  unfold State.capacity
  omega

theorem State.final_of_stuck {s : State α β} (hs : s.Heard) (h : s.Stuck run) : s.Final := by
  have hproducer := State.produce?_eq_none (h .producer)
  -- The workers first: with the collector gone they are, and otherwise one that has not gone waits
  -- for a task, while the producer that it waits for has room.
  have hdeserted : s.deserted = true := by
    by_contra hnot
    have hd : s.deserted = false := by simpa using hnot
    obtain ⟨w, worker, hw, hne⟩ := State.exists_worker_of_not_deserted hd
    have hcap := State.capacity_pos hw
    have hreports : s.reports = [] := by
      rcases State.collect?_eq_none (h .collector) with hc | ⟨hr, -⟩
      · exact (hs hc).2
      · exact hr
    rcases State.work?_eq_none (h (.worker w)) with hnone | hgone | ⟨-, ht, hp⟩ | ⟨-, -, hfull⟩
    · rw [hw] at hnone
      cases hnone
    · rw [hw] at hgone
      exact hne (Option.some.inj hgone)
    · rcases hproducer with hp' | ⟨-, -, hfull⟩
      · exact hp hp'
      · rw [ht] at hfull
        exact absurd hcap (Nat.not_lt.2 hfull)
    · rw [hreports] at hfull
      exact absurd hcap (Nat.not_lt.2 hfull)
  refine ⟨?_, hdeserted, ?_⟩
  · rcases hproducer with hp | ⟨-, hd, -⟩
    · rw [hp]
      rfl
    · rw [hdeserted] at hd
      cases hd
  · rcases State.collect?_eq_none (h .collector) with hc | ⟨-, hd⟩
    · exact hc
    · rw [hdeserted] at hd
      cases hd

theorem State.stuck_of_final {s : State α β} (h : s.Final) : s.Stuck run := by
  obtain ⟨hp, hd, hc⟩ := h
  intro actor
  cases actor with
  | producer =>
    simp only [State.step?, State.produce?, Producer.eq_gone hp]
  | worker w =>
    simp only [State.step?, State.work?]
    cases hw : s.workers[w]? with
    | none => rfl
    | some worker =>
      have hgone := List.all_eq_true.1 hd worker (List.mem_of_getElem? hw)
      cases worker <;> simp_all [Worker.isGone]
  | collector => simp [State.step?, State.collect?, hc]

theorem State.Reaches.final_of_stuck {workers : Nat} {tasks : List (Task α)} {s : State α β}
    (hs : (State.start workers tasks).Reaches run s) (h : s.Stuck run) : s.Final :=
  State.final_of_stuck hs.heard h

/-! ## The schedule that is run -/

/-- If nobody on the list of actors can take a step, then nobody can. -/
theorem State.stuck_of_actors {s : State α β}
    (h : s.actors.findSome? (s.step? run) = none) : s.Stuck run := by
  rw [List.findSome?_eq_none_iff] at h
  intro actor
  cases actor with
  | producer => exact h _ (by simp [State.actors])
  | collector => exact h _ (by simp [State.actors])
  | worker w =>
    by_cases hw : w < s.workers.length
    · exact h _ (by simp [State.actors, hw])
    · simp [State.step?, State.work?, List.getElem?_eq_none (Nat.le_of_not_lt hw)]

theorem State.reaches_runFor (n : Nat) (s : State α β) : s.Reaches run (s.runFor run n) := by
  induction n generalizing s with
  | zero => exact .refl
  | succ n ih =>
    unfold State.runFor
    split
    case h_1 t ht =>
      obtain ⟨actor, -, hstep⟩ := List.exists_of_findSome?_eq_some ht
      exact State.Reaches.trans (.step .refl ⟨actor, hstep⟩) (ih t)
    case h_2 => exact .refl

theorem State.stuck_runFor (n : Nat) (s : State α β) (h : s.measure ≤ n) :
    (s.runFor run n).Stuck run := by
  induction n generalizing s with
  | zero =>
    -- With nothing left to measure a step would have to take from nothing.
    intro actor
    cases hstep : s.step? run actor with
    | none => exact hstep
    | some t =>
      have hlt := (Move.of_step hstep).measure_lt
      omega
  | succ n ih =>
    unfold State.runFor
    split
    case h_1 t ht =>
      obtain ⟨actor, -, hstep⟩ := List.exists_of_findSome?_eq_some ht
      have hlt := (Move.of_step hstep).measure_lt
      exact ih t (by omega)
    case h_2 hnone => exact State.stuck_of_actors hnone

/-- The run that is made is one of those that can come of the tasks. -/
theorem run_completes (strategy : Strategy) (lock : TaskLock) (transform : Transform α β)
    (tasks : List (Task α)) :
    Completes (outcome lock transform) tasks strategy (Pool.run strategy lock transform tasks) := by
  cases strategy with
  | sequential => exact .sequential
  | parallel workers =>
    exact .parallel (State.reaches_runFor _ _) (State.stuck_runFor _ _ (Nat.le_refl _))

/-! ## The main result -/

/-- **No deadlock and no endless run.** Whatever the tasks come to and in whatever order steps are
taken, somebody can take a step until everybody is done, and the measure bounds the number of steps.
A producer with a task in hand is let go once all workers have left, and where a worker waits with a
report the collector has one to receive. -/
theorem runs_end (run : Nat → Task α → Outcome β) (workers : Nat) (tasks : List (Task α)) :
    (∀ s : State α β, (State.start workers tasks).Reaches run s →
      (s.Stuck run ↔ s.Final) ∧
      (¬ s.Final → ∃ t, State.Next run s t) ∧
      (∀ t, State.Next run s t → t.measure < s.measure) ∧
      (∀ task rest, s.producer = .sending task rest → s.deserted = true →
        s.produce? = some { s with producer := .gone }) ∧
      (∀ w report, s.workers[w]? = some (.reporting report) → s.work? run w = none →
        ∃ t, s.collect? = some t)) ∧
    ¬ ∃ states : Nat → State α β, states 0 = State.start workers tasks ∧
      ∀ n, State.Next run (states n) (states (n + 1)) := by
  refine ⟨fun s hs => ⟨⟨hs.final_of_stuck, State.stuck_of_final⟩, ?_, ?_, ?_, ?_⟩, ?_⟩
  · intro hnot
    by_contra hnone
    refine hnot (hs.final_of_stuck fun actor => ?_)
    cases hstep : s.step? run actor with
    | none => rfl
    | some t => exact absurd ⟨t, actor, hstep⟩ hnone
  · intro t hnext
    exact measure_lt_of_next hnext
  · intro task rest hp hd
    simp only [State.produce?, hp, hd, if_true]
  · intro w report hw hwait
    have hcap := State.capacity_pos hw
    rcases State.work?_eq_none hwait with hnone | hgone | ⟨hidle, -⟩ | ⟨-, hc, hfull⟩
    · rw [hw] at hnone
      cases hnone
    · rw [hw] at hgone
      cases hgone
    · rw [hw] at hidle
      cases hidle
    · cases hr : s.reports with
      | nil =>
        rw [hr] at hfull
        exact absurd hcap (Nat.not_lt.2 hfull)
      | cons report rest => simp [State.collect?, hc, hr]
  · rintro ⟨states, -, hsteps⟩
    have hle := measure_add_le hsteps ((states 0).measure + 1)
    omega

end Codemod.Pool
