import Codemod.Dispatch.Stage
import Codemod.Proofs.Dispatch.Order
import Codemod.Proofs.Pool.Sharing

set_option autoImplicit false

/-! # The stages of a session

`Lawful` says what has happened at each stage that a session passes. As long as there are threads
only starts and ends of tasks are seen (`Seen`), and from then on the calling thread alone takes steps
(`Answered`). Each step keeps it (`Lawful.step`). The stages at which a session has returned are those
that `Completes` tells of: `completes_of_returned` and `returned_of_completes`. -/

namespace Codemod.Pool

variable {α β : Type} {run : Nat → Task α → Outcome β} {s t : State α β}

/-! ## Pools -/

theorem State.isOver_iff : s.isOver = true ↔ s.Final := by
  simp [State.isOver, State.Final, and_assoc]

theorem State.final_unstaffed : (State.unstaffed : State α β).Final := ⟨rfl, rfl, rfl⟩

/-- A worker's place adds to what the workers are running what the worker is running there. -/
theorem State.executing_set {w : Nat} {worker : Worker α β} (hw : s.workers[w]? = some worker)
    (next : Worker α β) :
    ∃ before after, s.workers.flatMap Worker.executing = before ++ worker.executing ++ after ∧
      (s.workers.set w next).flatMap Worker.executing = before ++ next.executing ++ after := by
  obtain ⟨before, after, hs, -, hset⟩ := State.split_workers hw
  refine ⟨before.flatMap Worker.executing, after.flatMap Worker.executing, ?_, ?_⟩
  · rw [hs, List.flatMap_append, List.flatMap_cons, List.append_assoc]
  · rw [hset, List.flatMap_append, List.flatMap_cons, List.append_assoc]

theorem State.started_of_produce (h : s.produce? = some t) : t.started = s.started := by
  unfold State.produce? at h
  grind

theorem State.started_of_collect (h : s.collect? = some t) : t.started = s.started := by
  unfold State.collect? at h
  grind

/-- If the first tasks come to results then the calling thread goes on with those that are left. -/
theorem runSequential_append {done : List (Task α)} {results : List (TaskResult β)}
    (h : results.map Report.completed = done.map fun task => reportOn run (caller, task))
    (rest : List (Task α)) :
    (runSequential run (done ++ rest)).answer =
        (runSequential run rest).answer.map (results ++ ·) ∧
      (runSequential run (done ++ rest)).started = done ++ (runSequential run rest).started := by
  induction done generalizing results with
  | nil =>
    obtain rfl := List.map_eq_nil_iff.1 h
    refine ⟨?_, rfl⟩
    rw [List.nil_append]
    cases (runSequential run rest).answer <;> rfl
  | cons task done ih =>
    obtain ⟨result, results, rfl, hresult, hresults⟩ := List.map_eq_cons_iff.1 h
    obtain ⟨hanswer, hstarted⟩ := ih hresults
    have hreport : Report.ofOutcome caller task.index (run caller task) = .completed result :=
      hresult.symm
    simp only [List.cons_append, runSequential, hreport, hanswer, hstarted]
    cases (runSequential run rest).answer <;> simp [Except.map]

end Codemod.Pool

namespace Codemod.Dispatcher

variable {α β : Type} {d : Dispatcher} {run : Nat → Task α → Outcome β} {tasks : List (Task α)}
  {pool pool' : Pool.State α β} {history : List (Happening α)}

open Pool (Worker)

/-! ## What can be seen of a pool -/

/-- What could be seen of a pool: the tasks that were started, and of these all that are not running
any more have ended. -/
structure Seen (pool : Pool.State α β) (history : List (Happening α)) : Prop where
  started : history.filterMap Happening.started? = pool.started
  ended : (pool.workers.flatMap Worker.executing ++ history.filterMap Happening.ended?).Perm
    pool.started
  reported : history.filterMap Happening.reported? = []

/-- Nothing is seen of a step that starts no task and ends none. -/
theorem Seen.quiet (h : Seen pool history) (hstarted : pool'.started = pool.started)
    (hworkers : pool'.workers.flatMap Worker.executing = pool.workers.flatMap Worker.executing) :
    Seen pool' (history ++ []) := by
  rw [List.append_nil]
  refine ⟨h.started.trans hstarted.symm, ?_, h.reported⟩
  rw [hstarted, hworkers]
  exact h.ended

/-- Nor of a step that takes a worker from one place where it runs nothing to another one. -/
theorem Seen.place (h : Seen pool history) {w : Nat} {worker next : Worker α β}
    (hw : pool.workers[w]? = some worker) (hstarted : pool'.started = pool.started)
    (hworkers : pool'.workers = pool.workers.set w next) (hworker : worker.executing = [])
    (hnext : next.executing = []) : Seen pool' (history ++ []) := by
  obtain ⟨before, after, hs, hset⟩ := Pool.State.executing_set hw next
  refine h.quiet hstarted ?_
  rw [hworkers, hset, hs, hworker, hnext]

/-- A task that was started is running. -/
theorem Seen.begin (h : Seen pool history) {w : Nat} {task : Task α}
    (hw : pool.workers[w]? = some (.ready task)) :
    Seen ({ pool with started := pool.started ++ [task] }.place w (.running task))
      (history ++ [.started task]) := by
  obtain ⟨before, after, hs, hset⟩ := Pool.State.executing_set hw (.running task)
  refine ⟨?_, ?_, ?_⟩
  · rw [List.filterMap_append, h.started]
    rfl
  · have hended := h.ended
    classical
    refine List.perm_iff_count.2 fun x => ?_
    have hx := hended.count_eq x
    simp only [Pool.State.place, hset, hs, Worker.executing, List.filterMap_append,
      List.filterMap_cons, List.filterMap_nil, Happening.ended?, List.count_append,
      List.count_nil] at hx ⊢
    omega
  · rw [List.filterMap_append, h.reported]
    rfl

/-- A task that has ended is not running any more. -/
theorem Seen.end_task (h : Seen pool history) {w : Nat} {task : Task α} {next : Worker α β}
    (hw : pool.workers[w]? = some (.running task)) (hnext : next.executing = []) :
    Seen (pool.place w next) (history ++ [.ended task]) := by
  obtain ⟨before, after, hs, hset⟩ := Pool.State.executing_set hw next
  rw [hnext, List.append_nil] at hset
  refine ⟨?_, ?_, ?_⟩
  · rw [List.filterMap_append, h.started]
    exact List.append_nil _
  · have hended := h.ended
    classical
    refine List.perm_iff_count.2 fun x => ?_
    have hx := hended.count_eq x
    simp only [Pool.State.place, hset, hs, Worker.executing, List.filterMap_append,
      List.filterMap_cons, List.filterMap_nil, Happening.ended?, List.count_append] at hx ⊢
    omega
  · rw [List.filterMap_append, h.reported]
    rfl

/-- The step of a worker. -/
theorem Seen.work (h : Seen pool history) {w : Nat} (hstep : pool.work? run w = some pool') :
    Seen pool' (history ++ Happening.ofStep pool (.worker w)) := by
  rcases hw : pool.workers[w]? with _ | worker
  · simp only [Pool.State.work?, hw] at hstep
    cases hstep
  cases worker with
  | waiting =>
    simp only [Pool.State.work?, hw, Pool.State.take?] at hstep
    simp only [Happening.ofStep, hw]
    split at hstep
    · cases hstep
      exact h.place hw rfl rfl rfl rfl
    · split at hstep
      · cases hstep
        exact h.place hw rfl rfl rfl rfl
      · cases hstep
  | holding task =>
    simp only [Pool.State.work?, hw] at hstep
    simp only [Happening.ofStep, hw]
    cases hstep
    exact h.place hw rfl rfl rfl (by split <;> rfl)
  | ready task =>
    simp only [Pool.State.work?, hw] at hstep
    simp only [Happening.ofStep, hw]
    cases hstep
    exact h.begin hw
  | running task =>
    simp only [Pool.State.work?, hw] at hstep
    simp only [Happening.ofStep, hw]
    split at hstep
    · cases hstep
      exact h.end_task hw rfl
    · cases hstep
      exact h.end_task hw rfl
  | crashing crash =>
    simp only [Pool.State.work?, hw] at hstep
    simp only [Happening.ofStep, hw]
    cases hstep
    exact h.place hw rfl rfl rfl rfl
  | reporting report =>
    simp only [Pool.State.work?, hw, Pool.State.report?] at hstep
    simp only [Happening.ofStep, hw]
    split at hstep
    · cases hstep
      exact h.place hw rfl rfl rfl rfl
    · split at hstep
      · cases hstep
        exact h.place hw rfl rfl rfl (by split <;> rfl)
      · cases hstep
  | leaving =>
    simp only [Pool.State.work?, hw] at hstep
    simp only [Happening.ofStep, hw]
    cases hstep
    exact h.place hw rfl rfl rfl rfl
  | gone =>
    simp only [Pool.State.work?, hw] at hstep
    cases hstep

theorem Seen.step (h : Seen pool history) {actor : Pool.Actor}
    (hstep : pool.step? run actor = some pool') :
    Seen pool' (history ++ Happening.ofStep pool actor) := by
  cases actor with
  | worker w => exact h.work hstep
  | producer =>
    exact h.quiet (Pool.State.started_of_produce hstep)
      (by rw [Pool.State.workers_of_produce hstep])
  | collector =>
    exact h.quiet (Pool.State.started_of_collect hstep)
      (by rw [Pool.State.workers_of_collect hstep])

/-! ## The end of a pool -/

/-- At the end of a pool all that was started has ended. -/
theorem Seen.ended_of_final (h : Seen pool history) (hfinal : pool.Final) :
    (history.filterMap Happening.ended?).Perm pool.started := by
  have hended := h.ended
  rwa [hfinal.flatMap_workers rfl, List.nil_append] at hended

/-- What can be seen of tasks that are run one after another. -/
def oneByOne (tasks : List (Task α)) : List (Happening α) :=
  tasks.flatMap fun task => [.started task, .ended task]

theorem started_oneByOne (tasks : List (Task α)) :
    (oneByOne tasks).filterMap Happening.started? = tasks := by
  induction tasks with
  | nil => rfl
  | cons task rest ih => exact congrArg (task :: ·) ih

theorem ended_oneByOne (tasks : List (Task α)) :
    (oneByOne tasks).filterMap Happening.ended? = tasks := by
  induction tasks with
  | nil => rfl
  | cons task rest ih => exact congrArg (task :: ·) ih

theorem reported_oneByOne (tasks : List (Task α)) :
    (oneByOne tasks).filterMap Happening.reported? = [] := by
  induction tasks with
  | nil => rfl
  | cons task rest ih => exact ih

theorem oneByOne_append (done : List (Task α)) (task : Task α) :
    oneByOne (done ++ [task]) = oneByOne done ++ [.started task, .ended task] :=
  List.flatMap_append

/-! ## The calling thread after the pool -/

/-- Where the calling thread is with the answer of the pool, and the failures that it has shown to
the reporter on its way there. -/
inductive Answered (d : Dispatcher) (tasks : Nat) (answer : Except Crash (List (TaskResult β))) :
    List TaskFailure → Caller α β → Prop where
  | reporting {shown rest : List TaskFailure} {results : List (TaskResult β)} :
    (d.receive tasks answer : Caller α β) = .reporting (shown ++ rest) results →
      Answered d tasks answer shown (.reporting rest results)
  | reported {shown : List TaskFailure} {results : List (TaskResult β)} :
    (d.receive tasks answer : Caller α β) = .reporting shown results →
      Answered d tasks answer shown (.returned (.ok results))
  | returned {result : Except DispatchError (List (TaskResult β))} :
    (d.receive tasks answer : Caller α β) = .returned result →
      Answered d tasks answer [] (.returned result)

/-- Nothing has been shown when the answer comes. -/
theorem Answered.of_receive (d : Dispatcher) (tasks : Nat)
    (answer : Except Crash (List (TaskResult β))) :
    Answered d tasks answer [] (d.receive tasks answer : Caller α β) := by
  cases hplace : (d.receive tasks answer : Caller α β) with
  | reporting rest results => exact .reporting hplace
  | returned result => exact .returned hplace
  | running rest results =>
    unfold receive at hplace
    grind
  | joining =>
    unfold receive at hplace
    grind

/-- The reporter is shown something only of results that are those of all tasks. -/
theorem reporting_of_receive {n : Nat} {answer : Except Crash (List (TaskResult β))}
    {failures : List TaskFailure} {results : List (TaskResult β)}
    (h : (d.receive n answer : Caller α β) = .reporting failures results) :
    ∃ raw, answer = .ok raw ∧ results = inOrder raw ∧ results.length = n ∧
      failures = results.filterMap TaskResult.failure? ∧ d.reporter.isSome = true := by
  unfold receive at h
  grind

/-! ## Every stage -/

/-- What holds at every stage of a session. -/
inductive Lawful (d : Dispatcher) (run : Nat → Task α → Outcome β) (tasks : List (Task α))
    (strategy : Strategy) : Stage α β → Prop where
  /-- The calling thread runs the tasks, and none has panicked. -/
  | running {done rest : List (Task α)} {results : List (TaskResult β)} :
    strategy = .sequential → tasks = done ++ rest →
      results.map Report.completed = done.map (fun task => Pool.reportOn run (Pool.caller, task)) →
        Lawful d run tasks strategy
          { pool := .unstaffed, caller := .running rest results, history := oneByOne done }
  /-- The threads of the pool are at it. -/
  | joining {workers : Nat} {pool : Pool.State α β} {history : List (Happening α)} :
    strategy = .parallel workers → (Pool.State.start workers tasks).Reaches run pool →
      Seen pool history →
        Lawful d run tasks strategy { pool, caller := .joining, history }
  /-- The tasks are done with, and from now on failures are all that there is to see. -/
  | answered {pool : Pool.State α β} {r : Pool.Run α β} {history : List (Happening α)}
      {shown : List TaskFailure} {caller : Caller α β} :
    pool.Final → Pool.Completes run tasks strategy r →
      history.filterMap Happening.started? = r.started →
      (history.filterMap Happening.ended?).Perm r.started →
      history.filterMap Happening.reported? = [] →
      Answered d tasks.length r.answer shown caller →
        Lawful d run tasks strategy { pool, caller, history := history ++ shown.map .reported }

variable {strategy : Strategy} {s t : Stage α β}

/-- The calling thread has run all tasks, or one has panicked. -/
theorem Lawful.of_sequential (d : Dispatcher) {done : List (Task α)}
    (hstrategy : strategy = .sequential)
    (hstarted : (Pool.runSequential run tasks).started = done) :
    Lawful d run tasks strategy
      { pool := .unstaffed
        caller := d.receive tasks.length (Pool.runSequential run tasks).answer
        history := oneByOne done } := by
  subst hstrategy
  have hrun : Pool.Completes run tasks .sequential (Pool.runSequential run tasks) := .sequential
  have h := Lawful.answered (d := d) Pool.State.final_unstaffed hrun
    ((started_oneByOne done).trans hstarted.symm)
    (by rw [ended_oneByOne, hstarted]) (reported_oneByOne done)
    (Answered.of_receive d _ _)
  simpa using h

/-- The calling thread runs one task, or has run all of them. -/
theorem Lawful.proceed_running {done rest : List (Task α)} {results : List (TaskResult β)}
    (hstrategy : strategy = .sequential) (htasks : tasks = done ++ rest)
    (hresults :
      results.map Report.completed = done.map (fun task => Pool.reportOn run (Pool.caller, task)))
    (hstep : d.proceed? run tasks.length
      { pool := .unstaffed, caller := .running rest results, history := oneByOne done } = some t) :
    Lawful d run tasks strategy t := by
  obtain ⟨hanswer, hstarted⟩ := Pool.runSequential_append hresults rest
  rw [← htasks] at hanswer hstarted
  cases rest with
  | nil =>
    simp only [proceed?] at hstep
    cases hstep
    have hend := Lawful.of_sequential d hstrategy (hstarted.trans (List.append_nil _))
    rw [hanswer] at hend
    simpa [Pool.runSequential, Except.map] using hend
  | cons task rest =>
    simp only [proceed?] at hstep
    cases hreport : Report.ofOutcome Pool.caller task.index (run Pool.caller task) with
    | completed result =>
      simp only [hreport] at hstep
      cases hstep
      rw [← oneByOne_append]
      refine .running hstrategy (by rw [htasks, List.append_assoc]; rfl) ?_
      rw [List.map_append, List.map_append, hresults]
      simp only [List.map_cons, List.map_nil, Pool.reportOn, hreport]
    | crashed crash =>
      simp only [hreport] at hstep
      cases hstep
      rw [← oneByOne_append]
      have hlast : (Pool.runSequential run tasks).started = done ++ [task] := by
        rw [hstarted]
        simp only [Pool.runSequential, hreport]
      have hend := Lawful.of_sequential d hstrategy hlast
      rw [hanswer] at hend
      simpa only [Pool.runSequential, hreport, Except.map] using hend

theorem Lawful.proceed (h : Lawful d run tasks strategy s)
    (hstep : d.proceed? run tasks.length s = some t) : Lawful d run tasks strategy t := by
  cases h with
  | running hstrategy htasks hresults => exact proceed_running hstrategy htasks hresults hstep
  | joining hstrategy hreach hseen =>
    simp only [proceed?] at hstep
    split at hstep
    case isFalse => cases hstep
    case isTrue hover =>
      cases hstep
      have hfinal := Pool.State.isOver_iff.1 hover
      have hcompletes := Pool.Completes.parallel hreach (Pool.State.stuck_of_final hfinal)
      have hend := Lawful.answered (d := d) hfinal hcompletes hseen.started
        (hseen.ended_of_final hfinal) hseen.reported (Answered.of_receive d _ _)
      subst hstrategy
      simpa [Pool.Run.ofState] using hend
  | @answered pool r history shown caller hfinal hrun hstarted hended hquiet hanswered =>
    cases hanswered with
    | @reporting _ rest results hplace =>
      cases rest with
      | nil =>
        simp only [proceed?] at hstep
        cases hstep
        refine .answered hfinal hrun hstarted hended hquiet (.reported ?_)
        rwa [List.append_nil] at hplace
      | cons failure rest =>
        simp only [proceed?] at hstep
        cases hstep
        have hmoved : Answered d tasks.length _ (shown ++ [failure]) (.reporting rest results) :=
          .reporting (by rw [hplace, List.append_assoc]; rfl)
        have hnext := Lawful.answered hfinal hrun hstarted hended hquiet hmoved
        simpa using hnext
    | reported hplace =>
      simp only [proceed?] at hstep
      cases hstep
    | returned hplace =>
      simp only [proceed?] at hstep
      cases hstep

/-- Each step keeps what holds at every stage. -/
theorem Lawful.step (h : Lawful d run tasks strategy s) {actor : Option Pool.Actor}
    (hstep : d.step? run tasks.length s actor = some t) : Lawful d run tasks strategy t := by
  cases actor with
  | none => exact h.proceed hstep
  | some actor =>
    obtain ⟨pool', hpool, rfl⟩ := Option.map_eq_some_iff.1 hstep
    cases h with
    | joining hstrategy hreach hseen =>
      exact .joining hstrategy (.step hreach ⟨actor, hpool⟩) (hseen.step hpool)
    -- Elsewhere there is nobody in the pool who could have taken the step.
    | running =>
      rw [Pool.State.stuck_of_final Pool.State.final_unstaffed actor] at hpool
      cases hpool
    | answered hfinal =>
      rw [Pool.State.stuck_of_final hfinal actor] at hpool
      cases hpool

theorem Lawful.begin (d : Dispatcher) (run : Nat → Task α → Outcome β) (items : List α) :
    Lawful d run (Task.ofItems items) (Strategy.resolve d.options (Task.ofItems items).length)
      (d.begin items) := by
  cases hstrategy : Strategy.resolve d.options (Task.ofItems items).length with
  | sequential =>
    have hnone : ([] : List (TaskResult β)).map Report.completed =
        ([] : List (Task α)).map fun task => Pool.reportOn run (Pool.caller, task) := rfl
    simp only [Dispatcher.begin, hstrategy]
    exact Lawful.running rfl (List.nil_append _).symm hnone
  | parallel workers =>
    have hseen : Seen (Pool.State.start workers (Task.ofItems items) : Pool.State α β) [] :=
      ⟨rfl, by simp [Pool.State.start, Worker.executing], rfl⟩
    simp only [Dispatcher.begin, hstrategy]
    exact .joining rfl .refl hseen

theorem Lawful.reaches (h : Lawful d run tasks strategy s)
    (hreach : d.Reaches run tasks.length s t) : Lawful d run tasks strategy t := by
  induction hreach with
  | refl => exact h
  | step actor _ hstep ih => exact ih.step hstep

theorem Passes.lawful {transform : Transform α β} {items : List α}
    (h : d.Passes transform items s) :
    Lawful d (d.outcome transform items) (Task.ofItems items)
      (Strategy.resolve d.options (Task.ofItems items).length) s :=
  (Lawful.begin d _ items).reaches h

/-! ## Sessions on their way and what they come to -/

variable {n : Nat} {answer : Except Crash (List (TaskResult β))} {shown : List TaskFailure}
  {caller : Caller α β}

theorem Reaches.trans {t u : Stage α β} (hst : d.Reaches run n s t) (htu : d.Reaches run n t u) :
    d.Reaches run n s u := by
  induction htu with
  | refl => exact hst
  | step actor _ hstep ih => exact .step actor ih hstep

/-- Behind a quiet history the reporter has been shown what follows. -/
theorem reported_append {history : List (Happening α)} (shown : List TaskFailure)
    (hquiet : history.filterMap Happening.reported? = []) :
    (history ++ shown.map Happening.reported).filterMap Happening.reported? = shown := by
  rw [List.filterMap_append, hquiet, List.filterMap_map, List.nil_append]
  exact List.filterMap_some

/-- With the answer of the pool a session ends as `conclude` says. -/
theorem Answered.conclude {r : Pool.Run α β} {result : Except DispatchError (List (TaskResult β))}
    (h : Answered (α := α) d n r.answer shown (.returned result)) :
    (d.conclude n r).answer = result ∧ (d.conclude n r).reported = shown := by
  cases h with
  | reported hplace =>
    obtain ⟨raw, hanswer, rfl, hlength, rfl, hreporter⟩ := reporting_of_receive hplace
    obtain ⟨report, hreport⟩ := Option.isSome_iff_exists.1 hreporter
    simp [Dispatcher.conclude, hanswer, hlength, hreport]
  | returned hplace =>
    unfold receive at hplace
    unfold Dispatcher.conclude
    grind

/-- What a session returns on its way is what it can come to. -/
theorem completes_of_returned {transform : Transform α β} {items : List α} {s : Stage α β}
    {result : Except DispatchError (List (TaskResult β))} (h : d.Passes transform items s)
    (hcaller : s.caller = .returned result) :
    ∃ r session, d.Completes transform items r session ∧ session.answer = result ∧
      session.reported = s.reported ∧ s.history.filterMap Happening.started? = r.started := by
  cases h.lawful with
  | running => cases hcaller
  | joining => cases hcaller
  | @answered _ r history shown _ hfinal hrun hstarted hended hquiet hanswered =>
    obtain rfl := hcaller
    obtain ⟨hanswer, hreported⟩ := hanswered.conclude
    refine ⟨r, _, ⟨hrun, rfl⟩, hanswer, ?_, ?_⟩
    · simp only [Stage.reported, reported_append _ hquiet]
      exact hreported
    · rw [List.filterMap_append, hstarted]
      simp [List.filterMap_map, Function.comp_def, Happening.started?]

/-- The calling thread runs the tasks that are left. -/
theorem reaches_of_running (d : Dispatcher) (run : Nat → Task α → Outcome β) (n : Nat)
    (pool : Pool.State α β) (rest : List (Task α)) (results : List (TaskResult β))
    (history : List (Happening α)) :
    d.Reaches run n { pool, caller := .running rest results, history }
      { pool
        caller := d.receive n ((Pool.runSequential run rest).answer.map (results ++ ·))
        history := history ++ oneByOne (Pool.runSequential run rest).started } := by
  induction rest generalizing results history with
  | nil =>
    refine .step none .refl ?_
    simp [step?, proceed?, Pool.runSequential, Except.map, oneByOne]
  | cons task rest ih =>
    cases hreport : Report.ofOutcome Pool.caller task.index (run Pool.caller task) with
    | crashed crash =>
      refine .step none .refl ?_
      simp [step?, proceed?, Pool.runSequential, Except.map, oneByOne, hreport]
    | completed result =>
      have hlater := ih (results ++ [result]) (history ++ [.started task, .ended task])
      have hanswer : (Pool.runSequential run (task :: rest)).answer.map (results ++ ·) =
          (Pool.runSequential run rest).answer.map (results ++ [result] ++ ·) := by
        simp only [Pool.runSequential, hreport]
        cases (Pool.runSequential run rest).answer <;> simp [Except.map]
      have hstarted : history ++ oneByOne (Pool.runSequential run (task :: rest)).started =
          history ++ [.started task, .ended task] ++
            oneByOne (Pool.runSequential run rest).started := by
        simp [Pool.runSequential, hreport, oneByOne]
      rw [hanswer, hstarted]
      refine Reaches.trans (.step none .refl ?_) hlater
      simp only [step?, proceed?, hreport]

/-- The threads of a pool do what they can do in a pool on its own. -/
theorem reaches_of_joining {pool pool' : Pool.State α β} (h : pool.Reaches run pool')
    (history : List (Happening α)) :
    ∃ later, d.Reaches run n { pool, caller := .joining, history }
      { pool := pool', caller := .joining, history := later } := by
  induction h with
  | refl => exact ⟨history, .refl⟩
  | step _ hnext ih =>
    obtain ⟨later, hreach⟩ := ih
    obtain ⟨actor, hstep⟩ := hnext
    exact ⟨_, .step (some actor) hreach (Option.map_eq_some_iff.2 ⟨_, hstep, rfl⟩)⟩

/-- The calling thread shows the failures that are left. -/
theorem reaches_of_reporting (pool : Pool.State α β) (rest : List TaskFailure)
    (results : List (TaskResult β)) (history : List (Happening α)) :
    d.Reaches run n { pool, caller := .reporting rest results, history }
      { pool, caller := .returned (.ok results), history := history ++ rest.map .reported } := by
  induction rest generalizing history with
  | nil =>
    rw [List.map_nil, List.append_nil]
    exact .step none .refl rfl
  | cons failure rest ih =>
    have hlater := ih (history ++ [.reported failure])
    rw [List.append_assoc] at hlater
    exact Reaches.trans (.step none .refl rfl) hlater

/-- With an answer at hand the calling thread returns. -/
theorem reaches_of_receive (pool : Pool.State α β) (answer : Except Crash (List (TaskResult β)))
    (history : List (Happening α)) :
    ∃ shown result, Answered (α := α) d n answer shown (.returned result) ∧
      d.Reaches run n { pool, caller := d.receive n answer, history }
        { pool, caller := .returned result, history := history ++ shown.map .reported } := by
  have hplace := Answered.of_receive (α := α) d n answer
  cases hreceive : (d.receive n answer : Caller α β) with
  | reporting rest results =>
    exact ⟨rest, _, .reported hreceive, reaches_of_reporting pool rest results history⟩
  | returned result =>
    refine ⟨[], result, .returned hreceive, ?_⟩
    rw [List.map_nil, List.append_nil]
    exact .refl
  | running rest results =>
    rw [hreceive] at hplace
    cases hplace
  | joining =>
    rw [hreceive] at hplace
    cases hplace

/-- A session gets to every answer that its pool can come to, and up to there nothing is reported. -/
theorem passes_of_completes {transform : Transform α β} {items : List α} {r : Pool.Run α β}
    (h : Pool.Completes (d.outcome transform items) (Task.ofItems items)
      (Strategy.resolve d.options (Task.ofItems items).length) r) :
    ∃ (pool : Pool.State α β) (history : List (Happening α)),
      history.filterMap Happening.reported? = [] ∧ d.Passes transform items
        { pool
          caller := d.receive (Task.ofItems items).length r.answer
          history } := by
  cases hstrategy : Strategy.resolve d.options (Task.ofItems items).length with
  | sequential =>
    rw [hstrategy] at h
    cases h
    have hrunning := reaches_of_running d (d.outcome transform items) (Task.ofItems items).length
      .unstaffed (Task.ofItems items) [] []
    have hnone (answer : Except Crash (List (TaskResult β))) : answer.map ([] ++ ·) = answer := by
      cases answer <;> rfl
    rw [hnone, List.nil_append] at hrunning
    have hbegin : d.begin items =
        ({ pool := .unstaffed, caller := .running (Task.ofItems items) [], history := [] } :
          Stage α β) := by
      simp only [begin, hstrategy]
    rw [← hbegin] at hrunning
    exact ⟨_, _, reported_oneByOne _, hrunning⟩
  | parallel workers =>
    rw [hstrategy] at h
    cases h with
    | @parallel _ pool hreach hstuck =>
      obtain ⟨history, hpool⟩ := reaches_of_joining (d := d) (n := (Task.ofItems items).length)
        hreach []
      have hover := Pool.State.isOver_iff.2 (hreach.final_of_stuck hstuck)
      have hjoining : d.Passes transform items { pool, caller := .joining, history } := by
        simpa only [Passes, begin, hstrategy] using hpool
      have hquiet : history.filterMap Happening.reported? = [] := by
        cases hjoining.lawful with
        | joining _ _ hseen => exact hseen.reported
        | answered _ _ _ _ _ hanswered => cases hanswered
      refine ⟨pool, history, hquiet, .step none hjoining ?_⟩
      simp only [step?, proceed?, hover, if_true]
      rfl

/-- What a session can come to it comes to on some way. -/
theorem returned_of_completes {transform : Transform α β} {items : List α} {r : Pool.Run α β}
    {session : Session β} (h : d.Completes transform items r session) :
    ∃ s, d.Passes transform items s ∧ s.caller = .returned session.answer ∧
      s.reported = session.reported := by
  obtain ⟨hrun, rfl⟩ := h
  obtain ⟨pool, history, hquiet, hpasses⟩ := passes_of_completes hrun
  obtain ⟨shown, result, hplace, hreach⟩ := reaches_of_receive pool r.answer history
  obtain ⟨hanswer, hreported⟩ := hplace.conclude
  refine ⟨_, Reaches.trans hpasses hreach, ?_, ?_⟩
  · exact congrArg Caller.returned hanswer.symm
  · rw [Stage.reported, reported_append _ hquiet]
    exact hreported.symm

/-- A session that nobody is at any more has returned. -/
theorem returned_of_stuck {transform : Transform α β} {items : List α} {s : Stage α β}
    (h : d.Passes transform items s)
    (hstuck : ∀ actor, d.step? (d.outcome transform items) (Task.ofItems items).length s actor =
      none) :
    ∃ result, s.caller = .returned result := by
  have hcaller : d.proceed? _ _ s = none := hstuck none
  cases h.lawful with
  | @running done rest results =>
    cases rest with
    | nil => cases hcaller
    | cons task rest =>
      simp only [proceed?] at hcaller
      split at hcaller <;> cases hcaller
  | joining hstrategy hreach hseen =>
    have hpool : Pool.State.Stuck (d.outcome transform items) _ := fun actor =>
      Option.map_eq_none_iff.1 (hstuck (some actor))
    simp only [proceed?, Pool.State.isOver_iff.2 (hreach.final_of_stuck hpool), if_true] at hcaller
    cases hcaller
  | answered hfinal hrun hstarted hended hquiet hanswered =>
    cases hanswered with
    | @reporting _ rest results hplace => cases rest <;> cases hcaller
    | reported => exact ⟨_, rfl⟩
    | returned => exact ⟨_, rfl⟩

end Codemod.Dispatcher
