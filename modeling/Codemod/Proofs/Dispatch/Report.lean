import Codemod.Proofs.Dispatch.Stage

set_option autoImplicit false

/-! # What the reporter is shown, and when

The reporter is called when every task has ended, and not at all if a worker went down. The failures
that are reported are those of the results, in the order of the items, whatever the order in which
the tasks ended. The main statement is `reported_when_all_ended`. -/

namespace Codemod.Dispatcher

variable {α β : Type} {d : Dispatcher} {run : Nat → Task α → Outcome β} {tasks : List (Task α)}
  {strategy : Strategy} {s : Stage α β}

/-! ## Results -/

/-- The place of the task that a report is on. -/
def placeOf : Report β → Nat
  | .completed result => result.index
  | .crashed crash => crash.index

theorem placeOf_reportOn (run : Nat → Task α → Outcome β) (e : Nat × Task α) :
    placeOf (Pool.reportOn run e) = e.2.index := by
  unfold Pool.reportOn
  cases run e.1 e.2 <;> rfl

/-- A result has a failure exactly if its task failed, and then it is that failure. -/
theorem failure?_of_reportOn {w : Nat} {task : Task α} {result : TaskResult β}
    (h : Pool.reportOn run (w, task) = .completed result) (failure : TaskFailure) :
    result.failure? = some failure ↔ ∃ chain, run w task = .failed chain ∧
      failure = { index := task.index, message := ": ".intercalate chain } := by
  unfold Pool.reportOn at h
  cases houtcome : run w task with
  | returned value =>
    simp only [houtcome, Report.ofOutcome] at h
    cases h
    simp [TaskResult.failure?, TaskResult.success]
  | failed chain =>
    simp only [houtcome, Report.ofOutcome] at h
    cases h
    simp [TaskResult.failure?, TaskResult.failure, eq_comm]
  | panicked payload =>
    simp only [houtcome, Report.ofOutcome] at h
    cases h

/-- The results of a session: one for each item in the order of the items, and each what came of its
task on some worker. -/
structure ResultsOf (run : Nat → Task α → Outcome β) (items : List α)
    (results : List (TaskResult β)) : Prop where
  indices : results.map TaskResult.index = List.range items.length
  came : ∀ result ∈ results, ∃ w, ∃ task ∈ Task.ofItems items,
    Pool.reportOn run (w, task) = .completed result

/-- Results that are put in order. -/
theorem ResultsOf.of_ok {items : List α} {strategy : Strategy} {r : Pool.Run α β}
    {raw : List (TaskResult β)} (hw : 1 ≤ strategy.workers)
    (h : Pool.Completes run (Task.ofItems items) strategy r) (hr : r.answer = .ok raw) :
    ResultsOf run items (inOrder raw) := by
  obtain ⟨-, ended, hended, hreports⟩ := h.of_ok hw hr
  have hsame : (inOrder raw).Perm raw := List.mergeSort_perm raw _
  have hcame : ∀ result ∈ raw, ∃ e ∈ ended, Pool.reportOn run e = .completed result := by
    intro result hmem
    exact List.mem_map.1 (hreports.mem_iff.1 (List.mem_map_of_mem hmem))
  constructor
  · have hplaces : (raw.map TaskResult.index).Perm (List.range items.length) := by
      have hmap := hreports.map placeOf
      rw [List.map_map, List.map_map] at hmap
      have htasks := hended.map Task.index
      rw [List.map_map, Task.map_index_ofItems] at htasks
      refine List.Perm.trans (List.Perm.trans hmap (List.Perm.of_eq ?_)) htasks
      exact List.map_congr_left fun e _ => placeOf_reportOn run e
    refine List.Perm.eq_of_pairwise (fun a b _ _ => Nat.le_antisymm) ?_ List.pairwise_le_range
      ((hsame.map TaskResult.index).trans hplaces)
    exact List.pairwise_map.2 (pairwise_inOrder raw)
  · intro result hmem
    obtain ⟨⟨w, task⟩, he, hreport⟩ := hcame result (hsame.mem_iff.1 hmem)
    exact ⟨w, task, hended.mem_iff.1 (List.mem_map_of_mem he), hreport⟩

theorem ResultsOf.pairwise {items : List α} {results : List (TaskResult β)}
    (h : ResultsOf run items results) : results.Pairwise fun a b => a.index < b.index := by
  refine List.pairwise_map.1 ?_
  rw [h.indices]
  exact List.pairwise_lt_range

/-- The failures among results are those of tasks that failed, in the order of the items. -/
theorem ResultsOf.failures {items : List α} {results : List (TaskResult β)}
    (h : ResultsOf run items results) :
    ((results.filterMap TaskResult.failure?).Pairwise fun a b => a.index < b.index) ∧
      ∀ failure ∈ results.filterMap TaskResult.failure?, ∃ task ∈ Task.ofItems items,
        ∃ w chain, run w task = .failed chain ∧
          failure = { index := task.index, message := ": ".intercalate chain } := by
  have howner : ∀ result ∈ results, ∀ failure, result.failure? = some failure →
      ∃ task ∈ Task.ofItems items, ∃ w chain, run w task = .failed chain ∧
        failure = { index := task.index, message := ": ".intercalate chain } ∧
          result.index = task.index := by
    intro result hmem failure hfailure
    obtain ⟨w, task, htask, hreport⟩ := h.came result hmem
    obtain ⟨chain, hfailed, hown⟩ := (failure?_of_reportOn hreport failure).1 hfailure
    have hindex := placeOf_reportOn run (w, task)
    rw [hreport] at hindex
    exact ⟨task, htask, w, chain, hfailed, hown, hindex⟩
  constructor
  · rw [List.pairwise_filterMap]
    refine List.Pairwise.imp_of_mem ?_ h.pairwise
    intro a b ha hb hlt f hf g hg
    obtain ⟨task, -, -, -, -, rfl, htask⟩ := howner a ha f hf
    obtain ⟨other, -, -, -, -, rfl, hother⟩ := howner b hb g hg
    rwa [htask, hother] at hlt
  · intro failure hmem
    obtain ⟨result, hresult, hfailure⟩ := List.mem_filterMap.1 hmem
    obtain ⟨task, htask, w, chain, hfailed, hown, -⟩ := howner result hresult failure hfailure
    exact ⟨task, htask, w, chain, hfailed, hown⟩

/-! ## What the reporter is shown -/

variable {n : Nat} {answer : Except Crash (List (TaskResult β))} {shown : List TaskFailure}
  {caller : Caller α β}

/-- What is shown comes of results, in their order. -/
theorem Answered.of_shown (h : Answered d n answer shown caller) :
    shown = [] ∨ ∃ raw, answer = .ok raw ∧
      shown <+: (inOrder raw).filterMap TaskResult.failure? := by
  cases h with
  | returned => exact Or.inl rfl
  | reported hplace =>
    obtain ⟨raw, hanswer, rfl, -, rfl, -⟩ := reporting_of_receive hplace
    exact Or.inr ⟨raw, hanswer, List.prefix_refl _⟩
  | reporting hplace =>
    obtain ⟨raw, hanswer, rfl, -, hfailures, -⟩ := reporting_of_receive hplace
    exact Or.inr ⟨raw, hanswer, hfailures ▸ List.prefix_append _ _⟩

/-- When results are returned all their failures have been shown. -/
theorem Answered.of_ok {results : List (TaskResult β)} (hreporter : d.reporter.isSome = true)
    (h : Answered (α := α) d n answer shown (.returned (.ok results))) :
    ∃ raw, answer = .ok raw ∧ results = inOrder raw ∧
      shown = results.filterMap TaskResult.failure? := by
  cases h with
  | reported hplace =>
    obtain ⟨raw, hanswer, hresults, -, hfailures, -⟩ := reporting_of_receive hplace
    exact ⟨raw, hanswer, hresults, hfailures⟩
  | returned hplace =>
    unfold receive at hplace
    grind

/-- Where nothing has been reported no failure stands in the history. -/
theorem not_mem_of_quiet {history : List (Happening α)}
    (h : history.filterMap Happening.reported? = []) (failure : TaskFailure) :
    .reported failure ∉ history := by
  intro hmem
  have hsome := List.filterMap_eq_nil_iff.1 h _ hmem
  cases hsome

/-- A failure that follows on a quiet history comes with the reports after it. -/
theorem split_at_report {history before after : List (Happening α)} {failure : TaskFailure}
    (hquiet : history.filterMap Happening.reported? = [])
    (h : history ++ shown.map .reported = before ++ .reported failure :: after) :
    ∃ earlier later, before = history ++ earlier.map .reported ∧ after = later.map .reported ∧
      shown = earlier ++ failure :: later := by
  rcases List.append_eq_append_iff.1 h with ⟨middle, rfl, hmiddle⟩ | ⟨middle, rfl, hmiddle⟩
  · obtain ⟨earlier, rest, rfl, rfl, hrest⟩ := List.map_eq_append_iff.1 hmiddle
    obtain ⟨failure', later, rfl, hfailure, rfl⟩ := List.map_eq_cons_iff.1 hrest
    cases hfailure
    exact ⟨earlier, later, rfl, rfl, rfl⟩
  · cases middle with
    | nil =>
      obtain ⟨failure', later, rfl, hfailure, rfl⟩ := List.map_eq_cons_iff.1 hmiddle.symm
      cases hfailure
      exact ⟨[], later, by simp, rfl, rfl⟩
    | cons happening middle =>
      cases hmiddle
      exact absurd (by simp) (not_mem_of_quiet hquiet failure)


/-- When the reporter is called all tasks have been started and have ended. -/
theorem Lawful.before_report (h : Lawful d run tasks strategy s) (hw : 1 ≤ strategy.workers)
    {before after : List (Happening α)} {failure : TaskFailure}
    (hsplit : s.history = before ++ .reported failure :: after) :
    (before.filterMap Happening.started?).Perm tasks ∧
      (before.filterMap Happening.ended?).Perm tasks ∧
      ∀ happening ∈ after, ∃ failure, happening = .reported failure := by
  have hmem : .reported failure ∈ s.history := hsplit ▸ List.mem_append_right _ (List.mem_cons_self ..)
  cases h with
  | running => exact absurd hmem (not_mem_of_quiet (reported_oneByOne _) failure)
  | joining _ _ hseen => exact absurd hmem (not_mem_of_quiet hseen.reported failure)
  | answered hfinal hrun hstarted hended hquiet hanswered =>
    obtain ⟨earlier, later, rfl, rfl, rfl⟩ := split_at_report hquiet hsplit
    rcases hanswered.of_shown with hnone | ⟨raw, hanswer, -⟩
    · cases (List.append_eq_nil_iff.1 hnone).2
    -- There are results, and so all tasks were run.
    obtain ⟨hall, -⟩ := hrun.of_ok hw hanswer
    have hreports : ∀ {γ : Type} (f : Happening α → Option γ), (∀ g, f (.reported g) = none) →
        (earlier.map Happening.reported).filterMap f = [] := by
      intro γ f hf
      simp [List.filterMap_map, hf]
    refine ⟨?_, ?_, ?_⟩
    · rw [List.filterMap_append, hstarted, hreports _ fun _ => rfl, List.append_nil]
      exact hall
    · rw [List.filterMap_append, hreports _ fun _ => rfl, List.append_nil]
      exact hended.trans hall
    · intro happening hlater
      obtain ⟨g, -, rfl⟩ := List.mem_map.1 hlater
      exact ⟨g, rfl⟩

/-- The reporter has been shown nothing, or some of the first failures among the results. -/
theorem Lawful.shown_of_results {items : List α}
    (h : Lawful d run (Task.ofItems items) strategy s) (hw : 1 ≤ strategy.workers) :
    s.reported = [] ∨ ∃ results, ResultsOf run items results ∧
      s.reported <+: results.filterMap TaskResult.failure? := by
  cases h with
  | running => exact Or.inl (reported_oneByOne _)
  | joining _ _ hseen => exact Or.inl hseen.reported
  | answered hfinal hrun hstarted hended hquiet hanswered =>
    simp only [Stage.reported, reported_append _ hquiet]
    refine hanswered.of_shown.imp id ?_
    rintro ⟨raw, hanswer, hshown⟩
    exact ⟨inOrder raw, .of_ok hw hrun hanswer, hshown⟩

/-- When the session is over it has shown all failures among the results that it returns, or
nothing. -/
theorem Lawful.returned {items : List α} {result : Except DispatchError (List (TaskResult β))}
    (hreporter : d.reporter.isSome = true) (h : Lawful d run (Task.ofItems items) strategy s)
    (hw : 1 ≤ strategy.workers) (hcaller : s.caller = .returned result) :
    (∀ results, result = .ok results →
      ResultsOf run items results ∧ s.reported = results.filterMap TaskResult.failure?) ∧
    ∀ error, result = .error error → s.reported = [] := by
  cases h with
  | running => cases hcaller
  | joining => cases hcaller
  | answered hfinal hrun hstarted hended hquiet hanswered =>
    obtain rfl := hcaller
    simp only [Stage.reported, reported_append _ hquiet]
    constructor
    · rintro results rfl
      obtain ⟨raw, hanswer, rfl, hshown⟩ := hanswered.of_ok hreporter
      exact ⟨.of_ok hw hrun hanswer, hshown⟩
    · rintro error rfl
      cases hanswered
      rfl

/-- **What the reporter is shown, and when.** At every stage that a session can get to: the reporter
is called only when all tasks have been started and have ended, and from then on nothing but its
calls is seen; it is shown failures of tasks that failed, in the order of the items. When results are
returned they are those of all items and it has been shown exactly their failures; when the session
fails it has been shown nothing. -/
theorem reported_when_all_ended {transform : Transform α β} {items : List α} {s : Stage α β}
    (hreporter : d.reporter.isSome = true) (h : d.Passes transform items s) :
    (∀ before failure after, s.history = before ++ .reported failure :: after →
      (before.filterMap Happening.started?).Perm (Task.ofItems items) ∧
      (before.filterMap Happening.ended?).Perm (Task.ofItems items) ∧
      ∀ happening ∈ after, ∃ failure, happening = .reported failure) ∧
    (s.reported.Pairwise fun a b => a.index < b.index) ∧
    (∀ failure ∈ s.reported, ∃ task ∈ Task.ofItems items, ∃ w chain,
      d.outcome transform items w task = .failed chain ∧
        failure = { index := task.index, message := ": ".intercalate chain }) ∧
    ∀ result, s.caller = .returned result →
      (∀ results, result = .ok results →
        ResultsOf (d.outcome transform items) items results ∧
          s.reported = results.filterMap TaskResult.failure?) ∧
      ∀ error, result = .error error → s.reported = [] := by
  have hw := workers_resolve d.options (Task.ofItems items).length
  have hlawful := h.lawful
  refine ⟨fun before failure after => hlawful.before_report hw, ?_, ?_,
    fun result => hlawful.returned hreporter hw⟩
  all_goals rcases hlawful.shown_of_results hw with hnone | ⟨results, hresults, hshown⟩
  · rw [hnone]
    exact List.Pairwise.nil
  · exact hresults.failures.1.sublist hshown.sublist
  · intro failure hmem
    rw [hnone] at hmem
    cases hmem
  · intro failure hmem
    exact hresults.failures.2 failure (hshown.subset hmem)

/-- Let actors take steps in the given order. -/
def follow? (d : Dispatcher) (run : Nat → Task α → Outcome β) (tasks : Nat) :
    List (Option Pool.Actor) → Stage α β → Option (Stage α β)
  | [], s => some s
  | actor :: actors, s => (d.step? run tasks s actor).bind (d.follow? run tasks actors)

theorem Reaches.of_follow (d : Dispatcher) (run : Nat → Task α → Outcome β) (n : Nat)
    (s : Stage α β) {t : Stage α β} (actors : List (Option Pool.Actor))
    (h : d.follow? run n actors s = some t) : d.Reaches run n s t := by
  induction actors generalizing s with
  | nil =>
    cases h
    exact .refl
  | cons actor actors ih =>
    obtain ⟨u, hstep, hrest⟩ := Option.bind_eq_some_iff.1 h
    exact Reaches.trans (.step actor .refl hstep) (ih u hrest)

/-- Half of a number, if it is even. -/
def halve : Transform Nat Nat := fun _ item =>
  if item % 2 = 0 then .returned (item / 2) else .failed ["odd", toString item]

/-- A session for halves by two workers, with a reporter. -/
def halving : Dispatcher where
  options := { jobs := some 2, capabilities := .ofCpus 4 }
  reporter := some fun _ => []

/-- The first of three numbers keeps a worker busy until the others are done with. -/
def firstComesLast : List (Option Pool.Actor) :=
  .replicate 7 (some .producer) ++ .replicate 3 (some (.worker 0)) ++
    .replicate 12 (some (.worker 1)) ++ .replicate 4 (some (.worker 0)) ++
      .replicate 4 (some .collector)

theorem reported_when_all_ended_of_firstComesLast :
    halving.reporter.isSome = true ∧ ∃ s, halving.Passes halve [7, 4, 9] s ∧
      (s.history.filterMap Happening.ended?).map Task.index = [1, 2, 0] ∧
      s.caller = .returned (.ok [.failure 0 ["odd", "7"], .success 1 2, .failure 2 ["odd", "9"]]) ∧
      s.reported = [⟨0, "odd: 7"⟩, ⟨2, "odd: 9"⟩] := by
  have hjoined := Reaches.of_follow halving (halving.outcome halve [7, 4, 9]) 3
    (halving.begin [7, 4, 9]) firstComesLast rfl
  have hsorted : inOrder [.success 1 2, .failure 2 ["odd", "9"], .failure 0 ["odd", "7"]] =
      ([.failure 0 ["odd", "7"], .success 1 2, .failure 2 ["odd", "9"]] : List (TaskResult Nat)) :=
    inOrder_eq (List.Perm.trans (List.Perm.cons _ (List.Perm.swap _ _ _)) (List.Perm.swap _ _ _))
      (by simp [TaskResult.success, TaskResult.failure])
  have hreceived : halving.receive 3 (.ok [.success 1 2, .failure 2 ["odd", "9"],
      .failure 0 ["odd", "7"]]) = (.reporting [⟨0, "odd: 7"⟩, ⟨2, "odd: 9"⟩]
        [.failure 0 ["odd", "7"], .success 1 2, .failure 2 ["odd", "9"]] : Caller Nat Nat) := by
    simp only [receive, hsorted]
    rfl
  have hreporting := Reaches.trans hjoined (Reaches.step none .refl (congrArg some
    (congrArg (fun caller => Stage.mk _ caller _) hreceived)))
  have hpasses := Reaches.trans hreporting (Reaches.of_follow _ _ _ _ [none, none, none] rfl)
  have h := reported_when_all_ended rfl (show halving.Passes halve [7, 4, 9] _ from hpasses)
  exact ⟨rfl, _, hpasses, rfl, rfl, ((h.2.2.2 _ rfl).1 _ rfl).2⟩

end Codemod.Dispatcher
