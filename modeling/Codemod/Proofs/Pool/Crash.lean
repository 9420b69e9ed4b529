import Codemod.Proofs.Pool.Answer

set_option autoImplicit false

/-! # Runs in which a task panics

A panic raises the flag, and under the flag nothing is accepted any more, so that only those workers
start another task that had looked at the flag before (`State.Reaches.started_le`). A task is dropped
only under the flag, the flag goes with the report of a crash, and the collector receives all
reports: a run in which some task would panic cannot end well (`Completes.error_of_panic`). In the
calling thread the tasks up to the first that panics are started, and no others
(`runSequential_of_panic`). -/

namespace Codemod.Pool

variable {α β : Type} {run : Nat → Task α → Outcome β}

/-! ## Under the flag -/

/-- Whether a worker has looked at the flag and is about to start a task. -/
def Worker.isReady : Worker α β → Bool
  | .ready _ => true
  | _ => false

/-- Whether a worker will never start another task: it is done, or on its way out after a crash. -/
def Worker.isSpent (worker : Worker α β) : Bool := worker.isDone || worker.isAlarmed

/-- The number of workers that are about to start a task. -/
def State.readyCount (s : State α β) : Nat := s.workers.countP Worker.isReady

/-- The worker that raised the flag stays out of the work. -/
theorem Move.spent {s t : State α β} (hs : s.aborted = true → s.workers.any Worker.isSpent = true)
    (h : Move run s t) (ha : t.aborted = true) : t.workers.any Worker.isSpent = true := by
  cases h <;>
    simp_all [Worker.isSpent, Worker.isDone, Worker.isAlarmed, isCrash, Report.crash?]

theorem State.Reaches.spent {workers : Nat} {tasks : List (Task α)} {s : State α β}
    (h : (State.start workers tasks).Reaches run s) (ha : s.aborted = true) :
    s.workers.any Worker.isSpent = true := by
  refine h.induct (P := fun t => t.aborted = true → t.workers.any Worker.isSpent = true) ?_ ?_ ha
  · intro ha
    cases ha
  · intro u v hu hmove
    exact hmove.spent hu

/-- Under the flag some worker is not about to start anything. -/
theorem State.readyCount_lt {s : State α β} (h : s.workers.any Worker.isSpent = true) :
    s.readyCount < s.workers.length := by
  obtain ⟨worker, hmem, hspent⟩ := List.any_eq_true.1 h
  refine Nat.lt_of_le_of_ne List.countP_le_length ?_
  intro hall
  have hready := List.countP_eq_length.1 hall worker hmem
  cases worker <;> simp_all [Worker.isReady, Worker.isSpent, Worker.isDone, Worker.isAlarmed]

/-- Under the flag a task is started only by a worker that was about to. -/
theorem Move.started_add_ready_le {s t : State α β} (ha : s.aborted = true) (h : Move run s t) :
    t.started.length + t.readyCount ≤ s.started.length + s.readyCount := by
  cases h with
  | begin hw =>
    simp only [State.readyCount, hw, List.countP_append, List.countP_cons, List.length_append,
      List.length_singleton, Worker.isReady]
    simp
    omega
  | accept hw hdown =>
    rw [ha] at hdown
    cases hdown
  | _ => simp_all [State.readyCount, Worker.isReady]

theorem State.Reaches.started_add_ready_le {s t : State α β} (h : s.Reaches run t)
    (ha : s.aborted = true) :
    t.aborted = true ∧
      t.started.length + t.readyCount ≤ s.started.length + s.readyCount := by
  refine h.induct (P := fun t => t.aborted = true ∧
    t.started.length + t.readyCount ≤ s.started.length + s.readyCount) ⟨ha, Nat.le_refl _⟩ ?_
  rintro u v ⟨hua, hu⟩ hmove
  exact ⟨hmove.aborted hua, Nat.le_trans (hmove.started_add_ready_le hua) hu⟩

/-- Once the flag is up, each of the other workers starts one task at the most. -/
theorem State.Reaches.started_le {workers : Nat} {tasks : List (Task α)} {s t : State α β}
    (hs : (State.start workers tasks).Reaches run s) (ha : s.aborted = true)
    (h : s.Reaches run t) : t.started.length ≤ s.started.length + (workers - 1) := by
  have hready := State.readyCount_lt (hs.spent ha)
  rw [hs.length_workers] at hready
  have hle := (h.started_add_ready_le ha).2
  omega

/-! ## The end of a run with a panic -/

/-- A run with a task that would panic reports a crash: if the flag stayed down then all tasks were
started, that one too. -/
theorem State.Final.crashed_of_panic {tasks : List (Task α)} {s : State α β} (h : s.Final)
    (hs : Ledger run tasks s) (hpanic : ∃ task ∈ tasks, ∀ w, panics (run w task) = true) :
    s.collected.any isCrash = true := by
  obtain ⟨task, hmem, htask⟩ := hpanic
  obtain ⟨⟨ended, hstarted, hcollected⟩, -, hall, haborted⟩ := h.ledger hs
  cases ha : s.aborted with
  | true => rw [← haborted, ha]
  | false =>
    -- Nothing was dropped, so the task was started, and what it came to was received.
    have hin : task ∈ ended.map Prod.snd :=
      hstarted.mem_iff.2 ((hall ha).mem_iff.2 hmem)
    obtain ⟨⟨w, task'⟩, hended, rfl⟩ := List.mem_map.1 hin
    refine List.any_eq_true.2 ⟨reportOn run (w, task'), ?_, ?_⟩
    · exact hcollected.mem_iff.2 (List.mem_map.2 ⟨(w, task'), hended, rfl⟩)
    · rw [isCrash_reportOn]
      exact htask w

/-! ## In the calling thread -/

/-- The tasks up to the first that panics are started, and that one is reported. -/
theorem runSequential_of_panic {tasks : List (Task α)}
    (h : ∃ task ∈ tasks, panics (run caller task) = true) :
    ∃ before task after crash, tasks = before ++ task :: after ∧
      (∀ other ∈ before, panics (run caller other) = false) ∧
      (runSequential run tasks).started = before ++ [task] ∧
      (runSequential run tasks).answer = .error crash ∧ TellsOf run crash task ∧
      crash.worker = caller := by
  induction tasks with
  | nil =>
    obtain ⟨task, hmem, -⟩ := h
    cases hmem
  | cons head rest ih =>
    cases hreport : Report.ofOutcome caller head.index (run caller head) with
    | crashed crash =>
      obtain ⟨htells, hworker⟩ := tellsOf_of_report hreport
      exact ⟨[], head, rest, crash, rfl, by simp, by simp [runSequential, hreport],
        by simp [runSequential, hreport], htells, hworker⟩
    | completed result =>
      have hcalm : panics (run caller head) = false := by
        rw [← isCrash_reportOn, reportOn, hreport]
        rfl
      have hrest : ∃ task ∈ rest, panics (run caller task) = true := by
        obtain ⟨task, hmem, htask⟩ := h
        rcases List.mem_cons.1 hmem with rfl | hmem
        · rw [hcalm] at htask
          cases htask
        · exact ⟨task, hmem, htask⟩
      obtain ⟨before, task, after, crash, htasks, hbefore, hstarted, hanswer, htells⟩ := ih hrest
      refine ⟨head :: before, task, after, crash, by rw [htasks]; rfl, ?_, ?_, ?_, htells⟩
      · intro other hmem
        rcases List.mem_cons.1 hmem with rfl | hmem
        · exact hcalm
        · exact hbefore other hmem
      · simp [runSequential, hreport, hstarted]
      · simp [runSequential, hreport, hanswer, Except.map]

/-! ## The main result -/

/-- Whichever way the tasks are run, with a task that would panic the answer is a crash. -/
theorem Completes.error_of_panic {tasks : List (Task α)} {strategy : Strategy} {r : Run α β}
    (hw : 1 ≤ strategy.workers) (h : Completes run tasks strategy r)
    (hpanic : ∃ task ∈ tasks, ∀ w, panics (run w task) = true) :
    ∃ crash, r.answer = .error crash := by
  cases h with
  | sequential =>
    obtain ⟨task, hmem, htask⟩ := hpanic
    obtain ⟨-, -, -, crash, -, -, -, hanswer, -⟩ :=
      runSequential_of_panic ⟨task, hmem, htask caller⟩
    exact ⟨crash, hanswer⟩
  | @parallel workers s hreach hstuck =>
    have hfinal := hreach.final_of_stuck hstuck
    exact State.error_of_crash (hfinal.crashed_of_panic (hreach.ledger hw) hpanic)

/-- **A panic fails the run.** With a task that panics wherever it is run, every run comes to a crash
that tells of a task that was started and panicked, and no task is started twice. If only one task
can panic, the crash is the one that a run in the calling thread comes to, but for its worker. Once
the flag is up, at most `workers - 1` tasks are still started, and the run fails whatever else is the
case. In the calling thread the tasks up to the first that panics are started, and that one is
reported. -/
theorem panic_fails_run (run : Nat → Task α → Outcome β) (tasks : List (Task α))
    (hpanic : ∃ task ∈ tasks, ∀ w, panics (run w task) = true) :
    (∀ strategy r, 1 ≤ strategy.workers → Completes run tasks strategy r →
      r.started.Subperm tasks ∧
      (∃ crash task, r.answer = .error crash ∧ task ∈ r.started ∧ TellsOf run crash task) ∧
      ∀ only ∈ tasks, (∀ other ∈ tasks, other ≠ only → ∀ w, panics (run w other) = false) →
        ∃ crash serial, r.answer = .error crash ∧ TellsOf run crash only ∧
          (runSequential run tasks).answer = .error serial ∧ TellsOf run serial only ∧
          crash.index = serial.index ∧
          (run crash.worker only = run serial.worker only → crash.message = serial.message)) ∧
    (∀ workers s t, 1 ≤ workers → (State.start workers tasks).Reaches run s → s.aborted = true →
      s.Reaches run t → t.started.length ≤ s.started.length + (workers - 1) ∧
        (t.Stuck run → ∃ crash, t.answer = .error crash)) ∧
    ∃ before task after crash, tasks = before ++ task :: after ∧
      (∀ other ∈ before, panics (run caller other) = false) ∧
      (runSequential run tasks).started = before ++ [task] ∧
      (runSequential run tasks).answer = .error crash ∧ TellsOf run crash task ∧
      crash.worker = caller := by
  refine ⟨?_, ?_, ?_⟩
  · intro strategy r hw hr
    have hsub := hr.started_subperm hw
    obtain ⟨crash, hanswer⟩ := hr.error_of_panic hw hpanic
    obtain ⟨task, hin, htells⟩ := hr.of_error hw hanswer
    refine ⟨hsub, ⟨crash, task, hanswer, hin, htells⟩, ?_⟩
    intro only honly hothers
    -- Nobody else panics, so both crashes tell of the same task.
    have hthat : ∀ {c : Crash} {other : Task α}, other ∈ tasks → TellsOf run c other →
        TellsOf run c only := by
      intro c other hother hc
      by_cases heq : other = only
      · rwa [heq] at hc
      · have hcalm := hothers other hother heq c.worker
        rw [hc.panics] at hcalm
        cases hcalm
    have hseq : Completes run tasks .sequential (runSequential run tasks) := .sequential
    have hone : 1 ≤ Strategy.sequential.workers := Nat.le_refl 1
    obtain ⟨serial, hserial⟩ := hseq.error_of_panic hone hpanic
    obtain ⟨task', hin', htells'⟩ := hseq.of_error hone hserial
    have hcrash := hthat (hsub.subset hin) htells
    have hserial' := hthat ((hseq.started_subperm hone).subset hin') htells'
    exact ⟨crash, serial, hanswer, hcrash, hserial, hserial', hcrash.agree hserial'⟩
  · intro workers s t hw hs ha ht
    refine ⟨hs.started_le ha ht, ?_⟩
    intro hstuck
    have hreach := hs.trans ht
    have hledger := hreach.ledger hw
    obtain ⟨-, -, -, hcrash⟩ := (hreach.final_of_stuck hstuck).ledger hledger
    rw [(ht.started_add_ready_le ha).1] at hcrash
    exact State.error_of_crash hcrash.symm
  · obtain ⟨task, hmem, htask⟩ := hpanic
    exact runSequential_of_panic ⟨task, hmem, htask caller⟩

/-- The second of three tasks panics, on two workers. -/
theorem panic_fails_run_of_second_task :
    let run : Nat → Task String → Outcome Nat := fun _ task =>
      if task.index = 1 then .panicked (some "crashed") else .returned task.payload.length
    let tasks := Task.ofItems ["fine", "crash", "fine"]
    (∃ task ∈ tasks, ∀ w, panics (run w task) = true) ∧
      ∃ crash, (Run.ofState ((State.start 2 tasks).finish run)).answer = .error crash ∧
        crash.index = 1 ∧ crash.message = "crashed" := by
  intro run tasks
  have hpanic : ∃ task ∈ tasks, ∀ w, panics (run w task) = true :=
    ⟨⟨1, "crash"⟩, by decide, fun _ => rfl⟩
  have hothers : ∀ other ∈ tasks, other ≠ ⟨1, "crash"⟩ → ∀ w, panics (run w other) = false := by
    intro other hmem hne w
    have hcases : other = ⟨0, "fine"⟩ ∨ other = ⟨1, "crash"⟩ ∨ other = ⟨2, "fine"⟩ := by
      simpa [tasks, Task.ofItems] using hmem
    rcases hcases with rfl | rfl | rfl
    · rfl
    · exact absurd rfl hne
    · rfl
  have hrun : Completes run tasks (.parallel 2) (.ofState ((State.start 2 tasks).finish run)) :=
    .parallel (State.reaches_runFor _ _) (State.stuck_runFor _ _ (Nat.le_refl _))
  obtain ⟨-, -, honly⟩ := (panic_fails_run run tasks hpanic).1 _ _ (by decide) hrun
  obtain ⟨crash, -, hanswer, ⟨payload, hpayload, hindex, hmessage⟩, -⟩ :=
    honly ⟨1, "crash"⟩ (by decide) hothers
  cases hpayload
  exact ⟨hpanic, crash, hanswer, hindex, hmessage⟩

end Codemod.Pool
