import Codemod.Proofs.Pool.Ledger

set_option autoImplicit false

/-! # What an answer says

What can be read off the answer of a run, in the calling thread or on workers in any order of steps.
No task is started twice (`Completes.started_subperm`). An error tells of a task that was started and
panicked (`Completes.of_error`). Results are those of all tasks, one for each (`Completes.of_ok`). -/

namespace Codemod.Pool

variable {α β : Type} {run : Nat → Task α → Outcome β}

/-! ## Crashes and panics -/

/-- A crash tells of a task if that panicked on the worker of the crash: it has the place of the task
and the text of the panic. -/
def TellsOf (run : Nat → Task α → Outcome β) (crash : Crash) (task : Task α) : Prop :=
  ∃ payload, run crash.worker task = .panicked payload ∧ crash.index = task.index ∧
    crash.message = payload.getD Crash.standardMessage

theorem TellsOf.panics {crash : Crash} {task : Task α} (h : TellsOf run crash task) :
    panics (run crash.worker task) = true := by
  obtain ⟨payload, hrun, -⟩ := h
  rw [hrun]
  rfl

theorem tellsOf_of_report {w : Nat} {task : Task α} {crash : Crash}
    (h : Report.ofOutcome w task.index (run w task) = .crashed crash) :
    TellsOf run crash task ∧ crash.worker = w := by
  cases hrun : run w task with
  | returned value =>
    rw [hrun] at h
    cases h
  | failed chain =>
    rw [hrun] at h
    cases h
  | panicked payload =>
    rw [hrun] at h
    cases h
    exact ⟨⟨payload, hrun, rfl, rfl⟩, rfl⟩

theorem isCrash_reportOn (w : Nat) (task : Task α) :
    isCrash (reportOn run (w, task)) = panics (run w task) := by
  unfold reportOn
  cases run w task <;> rfl

/-- Two crashes that tell of one task agree on what does not depend on the worker. -/
theorem TellsOf.agree {c d : Crash} {task : Task α} (hc : TellsOf run c task)
    (hd : TellsOf run d task) :
    c.index = d.index ∧ (run c.worker task = run d.worker task → c.message = d.message) := by
  obtain ⟨p, hp, hci, hcm⟩ := hc
  obtain ⟨q, hq, hdi, hdm⟩ := hd
  refine ⟨hci.trans hdi.symm, ?_⟩
  intro hsame
  rw [hp, hq] at hsame
  cases hsame
  exact hcm.trans hdm.symm

/-! ## Runs on workers -/

/-- A crash in the answer was received. -/
theorem State.mem_collected_of_error {s : State α β} {crash : Crash}
    (h : s.answer = .error crash) : Report.crashed crash ∈ s.collected := by
  cases hfind : s.collected.findSome? Report.crash? with
  | none =>
    simp only [State.answer, hfind] at h
    cases h
  | some crash' =>
    simp only [State.answer, hfind] at h
    cases h
    obtain ⟨report, hmem, hcrash⟩ := List.exists_of_findSome?_eq_some hfind
    cases report with
    | completed result => cases hcrash
    | crashed crash' =>
      cases hcrash
      exact hmem

theorem map_completed_filterMap {reports : List (Report β)}
    (h : ∀ report ∈ reports, report.crash? = none) :
    (reports.filterMap Report.result?).map Report.completed = reports := by
  induction reports with
  | nil => rfl
  | cons report rest ih =>
    have hrest := ih fun other hmem => h other (List.mem_cons_of_mem _ hmem)
    cases report with
    | completed result => simpa [Report.result?] using hrest
    | crashed crash => cases h _ (List.mem_cons_self ..)

/-- With results for an answer no crash was received. -/
theorem State.collected_of_ok {s : State α β} {results : List (TaskResult β)}
    (h : s.answer = .ok results) :
    s.collected.any isCrash = false ∧ results.map Report.completed = s.collected := by
  cases hfind : s.collected.findSome? Report.crash? with
  | some crash =>
    simp only [State.answer, hfind] at h
    cases h
  | none =>
    simp only [State.answer, hfind] at h
    cases h
    rw [List.findSome?_eq_none_iff] at hfind
    refine ⟨?_, map_completed_filterMap hfind⟩
    rw [List.any_eq_false]
    intro report hmem
    simp [isCrash, hfind report hmem]

/-- A crash that was received makes the answer an error. -/
theorem State.error_of_crash {s : State α β} (h : s.collected.any isCrash = true) :
    ∃ crash, s.answer = .error crash := by
  cases hanswer : s.answer with
  | error crash => exact ⟨crash, rfl⟩
  | ok results =>
    rw [(State.collected_of_ok hanswer).1] at h
    cases h

/-- Every crash that was received is that of a task that was started. -/
theorem State.Final.tellsOf {tasks : List (Task α)} {s : State α β} (h : s.Final)
    (hs : Ledger run tasks s) {crash : Crash} (hcrash : Report.crashed crash ∈ s.collected) :
    ∃ task ∈ s.started, TellsOf run crash task := by
  obtain ⟨⟨ended, hstarted, hcollected⟩, -⟩ := h.ledger hs
  obtain ⟨⟨w, task⟩, hmem, hreport⟩ := List.mem_map.1 (hcollected.mem_iff.1 hcrash)
  have hin : task ∈ s.started := hstarted.mem_iff.1 (List.mem_map.2 ⟨(w, task), hmem, rfl⟩)
  exact ⟨task, hin, (tellsOf_of_report hreport).1⟩

/-! ## Runs in the calling thread -/

theorem runSequential_started_isPrefix (tasks : List (Task α)) :
    (runSequential run tasks).started <+: tasks := by
  induction tasks with
  | nil => exact List.prefix_refl _
  | cons head rest ih =>
    cases hreport : Report.ofOutcome caller head.index (run caller head) with
    | crashed crash => simp [runSequential, hreport]
    | completed result => simpa [runSequential, hreport] using ih

theorem runSequential_of_error {tasks : List (Task α)} {crash : Crash}
    (h : (runSequential run tasks).answer = .error crash) :
    ∃ task ∈ (runSequential run tasks).started, TellsOf run crash task := by
  induction tasks with
  | nil => cases h
  | cons head rest ih =>
    cases hreport : Report.ofOutcome caller head.index (run caller head) with
    | crashed crash' =>
      simp only [runSequential, hreport] at h ⊢
      cases h
      exact ⟨head, List.mem_singleton.2 rfl, (tellsOf_of_report hreport).1⟩
    | completed result =>
      simp only [runSequential, hreport] at h ⊢
      cases hrest : (runSequential run rest).answer with
      | ok results =>
        rw [hrest] at h
        cases h
      | error crash' =>
        rw [hrest] at h
        cases h
        obtain ⟨task, hmem, htells⟩ := ih hrest
        exact ⟨task, List.mem_cons_of_mem _ hmem, htells⟩

theorem runSequential_of_ok {tasks : List (Task α)} {results : List (TaskResult β)}
    (h : (runSequential run tasks).answer = .ok results) :
    (runSequential run tasks).started = tasks ∧
      results.map Report.completed = tasks.map fun task => reportOn run (caller, task) := by
  induction tasks generalizing results with
  | nil =>
    cases h
    exact ⟨rfl, rfl⟩
  | cons head rest ih =>
    cases hreport : Report.ofOutcome caller head.index (run caller head) with
    | crashed crash =>
      simp only [runSequential, hreport] at h
      cases h
    | completed result =>
      simp only [runSequential, hreport] at h ⊢
      cases hrest : (runSequential run rest).answer with
      | error crash =>
        rw [hrest] at h
        cases h
      | ok later =>
        rw [hrest] at h
        cases h
        obtain ⟨hstarted, hlater⟩ := ih hrest
        exact ⟨by rw [hstarted], by rw [List.map_cons, List.map_cons, hlater, reportOn, hreport]⟩

/-! ## All runs -/

theorem Completes.started_subperm {tasks : List (Task α)} {strategy : Strategy} {r : Run α β}
    (hw : 1 ≤ strategy.workers) (h : Completes run tasks strategy r) :
    r.started.Subperm tasks := by
  cases h with
  | sequential => exact (runSequential_started_isPrefix tasks).sublist.subperm
  | parallel hreach hstuck => exact ((hreach.final_of_stuck hstuck).ledger (hreach.ledger hw)).2.1

theorem Completes.of_error {tasks : List (Task α)} {strategy : Strategy} {r : Run α β}
    {crash : Crash} (hw : 1 ≤ strategy.workers) (h : Completes run tasks strategy r)
    (hr : r.answer = .error crash) : ∃ task ∈ r.started, TellsOf run crash task := by
  cases h with
  | sequential => exact runSequential_of_error hr
  | @parallel workers s hreach hstuck =>
    exact (hreach.final_of_stuck hstuck).tellsOf (hreach.ledger hw) (State.mem_collected_of_error hr)

/-- Results are those of all tasks, each from the worker on which the task ended. -/
theorem Completes.of_ok {tasks : List (Task α)} {strategy : Strategy} {r : Run α β}
    {results : List (TaskResult β)} (hw : 1 ≤ strategy.workers)
    (h : Completes run tasks strategy r) (hr : r.answer = .ok results) :
    r.started.Perm tasks ∧ ∃ ended : List (Nat × Task α), (ended.map Prod.snd).Perm tasks ∧
      (results.map Report.completed).Perm (ended.map (reportOn run)) := by
  cases h with
  | sequential =>
    obtain ⟨hstarted, hresults⟩ := runSequential_of_ok hr
    refine ⟨by rw [hstarted], tasks.map fun task => (caller, task), ?_, ?_⟩
    · simp [Function.comp_def]
    · rw [hresults, List.map_map]
      rfl
  | @parallel workers s hreach hstuck =>
    obtain ⟨⟨ended, hstarted, hcollected⟩, -, hall, haborted⟩ :=
      (hreach.final_of_stuck hstuck).ledger (hreach.ledger hw)
    obtain ⟨hcalm, hresults⟩ := State.collected_of_ok hr
    rw [hcalm] at haborted
    exact ⟨hall haborted, ended, hstarted.trans (hall haborted), hresults ▸ hcollected⟩

end Codemod.Pool
