import Codemod.Dispatch
import Codemod.Proofs.Pool.Answer
import Mathlib.Data.List.Nodup

set_option autoImplicit false

/-! # One result for each item, in order

A transformation that never panics and looks at nothing but its item and the place of the item gives
the same session in every order of steps and with every number of workers: each task is run once
(`Completes.of_ok`), so the results are those of the items up to their order, and sorting them by
place leaves no choice (`inOrder_eq`). The main statement is `dispatch_any_order`. -/

namespace Codemod

variable {α β : Type}

/-! ## What a transformation computes -/

/-- How a transformation ends that comes to a value or fails with a chain of causes. -/
def Outcome.ofExcept : Except (List String) β → Outcome β
  | .ok value => .returned value
  | .error chain => .failed chain

/-- What a transformation comes to that does not panic. -/
def Outcome.toExcept : Outcome β → Except (List String) β
  | .returned value => .ok value
  | .failed chain => .error chain
  | .panicked _ => .error []

theorem Outcome.ofExcept_toExcept {o : Outcome β} (h : Pool.panics o = false) :
    ofExcept o.toExcept = o := by
  cases o with
  | returned value => rfl
  | failed chain => rfl
  | panicked payload => cases h

theorem Outcome.panics_ofExcept (e : Except (List String) β) :
    Pool.panics (ofExcept e) = false := by
  cases e <;> rfl

/-- The result of a task that comes to a value or fails with a chain of causes. -/
def TaskResult.ofExcept (index : Nat) : Except (List String) β → TaskResult β
  | .ok value => .success index value
  | .error chain => .failure index chain

/-- A transformation computes `f` if it comes to what `f` says of the item and its place, whatever
worker it is run on: it does not panic and looks at nothing else. -/
def Transform.Computes (transform : Transform α β) (f : Nat → α → Except (List String) β) : Prop :=
  ∀ context item, transform context item = .ofExcept (f context.index item)

/-- There is something that a transformation computes if it never panics and depends on the item and
its place alone. -/
theorem Transform.exists_computes_iff {transform : Transform α β} :
    (∃ f, transform.Computes f) ↔
      (∀ context item, Pool.panics (transform context item) = false) ∧
        ∀ c d item, c.index = d.index → transform c item = transform d item := by
  constructor
  · rintro ⟨f, hf⟩
    refine ⟨fun context item => ?_, fun c d item hindex => ?_⟩
    · rw [hf, Outcome.panics_ofExcept]
    · rw [hf, hf, hindex]
  · rintro ⟨hcalm, hlocal⟩
    refine ⟨fun index item => (transform { index, worker := 0, lock := .free 0 } item).toExcept, ?_⟩
    intro context item
    rw [Outcome.ofExcept_toExcept (hcalm _ _)]
    exact hlocal _ _ _ rfl

@[simp]
theorem TaskResult.ofExcept_index (index : Nat) (e : Except (List String) β) :
    (TaskResult.ofExcept index e).index = index := by
  cases e <;> rfl

theorem Transform.Computes.reportOn {transform : Transform α β}
    {f : Nat → α → Except (List String) β} (h : transform.Computes f) (lock : TaskLock)
    (e : Nat × Task α) :
    Pool.reportOn (Pool.outcome lock transform) e =
      .completed (.ofExcept e.2.index (f e.2.index e.2.payload)) := by
  simp only [Pool.reportOn, Pool.outcome, h _ _]
  cases f e.2.index e.2.payload <;> rfl

/-! ## Order -/

/-- The places of the tasks are those of the items. -/
theorem Task.map_index_ofItems (items : List α) :
    (Task.ofItems items).map Task.index = List.range items.length := by
  rw [Task.ofItems, List.map_map, List.range_eq_range', ← List.zipIdx_map_snd 0 items]
  rfl

theorem Task.pairwise_ofItems (items : List α) :
    (Task.ofItems items).Pairwise fun a b => a.index < b.index := by
  have hindices : ((Task.ofItems items).map Task.index).Pairwise (· < ·) := by
    rw [Task.map_index_ofItems]
    exact List.pairwise_lt_range
  exact List.pairwise_map.1 hindices

namespace Dispatcher

theorem pairwise_inOrder (results : List (TaskResult β)) :
    (inOrder results).Pairwise fun a b => a.index ≤ b.index := by
  have h : (inOrder results).Pairwise fun a b => decide (a.index ≤ b.index) = true :=
    List.pairwise_mergeSort
      (fun a b c hab hbc => by simp only [decide_eq_true_eq] at *; omega)
      (fun a b => by simp only [Bool.or_eq_true, decide_eq_true_eq]; omega) results
  simpa only [decide_eq_true_eq] using h

/-- Results that come in any order are put into the one order in which their places grow. -/
theorem inOrder_eq {results sorted : List (TaskResult β)} (hperm : results.Perm sorted)
    (hsorted : sorted.Pairwise fun a b => a.index < b.index) : inOrder results = sorted := by
  have hsame : (inOrder results).Perm sorted := (List.mergeSort_perm results _).trans hperm
  have hle := pairwise_inOrder results
  refine List.Perm.eq_of_pairwise ?_ hle (hsorted.imp Nat.le_of_lt) hsame
  -- Places tell the results apart, so that `≤` on places is an order on them.
  have hnodup : (sorted.map TaskResult.index).Nodup :=
    List.pairwise_map.2 (hsorted.imp Nat.ne_of_lt)
  intro a b ha hb hab hba
  exact List.inj_on_of_nodup_map hnodup (hsame.mem_iff.1 ha) hb (Nat.le_antisymm hab hba)

end Dispatcher

/-! ## Runs -/

theorem Task.map_ofItems_ofExcept (f : Nat → α → Except (List String) β) (items : List α) :
    ((Task.ofItems items).map fun task => .ofExcept task.index (f task.index task.payload)) =
      items.zipIdx.map fun (item, index) => TaskResult.ofExcept index (f index item) := by
  rw [Task.ofItems, List.map_map]
  rfl

/-- Where nothing panics a run comes to what is computed for each task, in some order. -/
theorem Pool.Completes.ok_of_computes {transform : Transform α β}
    {f : Nat → α → Except (List String) β} (hf : transform.Computes f) {lock : TaskLock}
    {tasks : List (Task α)} {strategy : Strategy} {run : Run α β} (hw : 1 ≤ strategy.workers)
    (h : Completes (outcome lock transform) tasks strategy run) :
    run.started.Perm tasks ∧ ∃ results, run.answer = .ok results ∧
      results.Perm (tasks.map fun task => .ofExcept task.index (f task.index task.payload)) := by
  cases hanswer : run.answer with
  | error crash =>
    -- A crash would tell of a task that panicked.
    obtain ⟨task, -, htells⟩ := h.of_error hw hanswer
    have hpanics := htells.panics
    rw [outcome, hf, Outcome.panics_ofExcept] at hpanics
    cases hpanics
  | ok results =>
    obtain ⟨hstarted, ended, hended, hreports⟩ := h.of_ok hw hanswer
    refine ⟨hstarted, results, rfl, ?_⟩
    have hsame : ended.map (reportOn (outcome lock transform)) =
        (ended.map fun e => TaskResult.ofExcept e.2.index (f e.2.index e.2.payload)).map
          Report.completed := by
      rw [List.map_map]
      exact List.map_congr_left fun e _ => hf.reportOn lock e
    rw [hsame] at hreports
    have hinj : Function.Injective (Report.completed (β := β)) := fun a b hab => by
      cases hab
      rfl
    have hresults := (List.map_perm_map_iff hinj).1 hreports
    refine hresults.trans ?_
    have hmap := hended.map fun task => TaskResult.ofExcept task.index (f task.index task.payload)
    rw [List.map_map] at hmap
    exact hmap

/-! ## Sessions -/

namespace Dispatcher

theorem workers_resolve (o : DispatchOptions) (tasks : Nat) :
    1 ≤ (Strategy.resolve o tasks).workers := by
  unfold Strategy.resolve
  split
  · exact Nat.le_refl 1
  · split
    · exact Nat.le_refl 1
    · simp only [Strategy.workers]
      omega

/-- The session that is run is one of those that a dispatcher can come to. -/
theorem dispatch_completes (d : Dispatcher) (transform : Transform α β) (items : List α) :
    d.Completes transform items
      (Pool.run (Strategy.resolve d.options (Task.ofItems items).length)
        (lockFor d.options (Strategy.resolve d.options (Task.ofItems items).length)) transform
        (Task.ofItems items))
      (d.dispatch transform items) :=
  ⟨Pool.run_completes _ _ _ _, rfl⟩

/-- With results for all tasks a session ends well. -/
theorem answer_session_of_ok (d : Dispatcher) (items : List α) {run : Pool.Run α β}
    {results : List (TaskResult β)} (hrun : run.answer = .ok results)
    (hlength : results.length = items.length) :
    (d.session items fun _ _ _ => run).answer = .ok (inOrder results) := by
  have hcount : (inOrder results).length = (Task.ofItems items).length := by
    rw [inOrder, List.length_mergeSort, hlength, Task.ofItems, List.length_map, List.length_zipIdx]
  simp only [session, conclude, hrun, hcount, ne_eq, not_true_eq_false, if_false]

/-- The session of a transformation that never panics and looks at its item and the place alone. -/
theorem answer_of_completes {transform : Transform α β} {f : Nat → α → Except (List String) β}
    (hf : transform.Computes f) {d : Dispatcher} {items : List α} {run : Pool.Run α β}
    {session : Session β} (h : d.Completes transform items run session) :
    session.answer = .ok (items.zipIdx.map fun (item, index) => .ofExcept index (f index item)) ∧
      run.started.Perm (Task.ofItems items) := by
  obtain ⟨hrun, rfl⟩ := h
  obtain ⟨hstarted, results, hanswer, hresults⟩ := hrun.ok_of_computes hf (workers_resolve _ _)
  refine ⟨?_, hstarted⟩
  have hlength : results.length = items.length := by
    rw [hresults.length_eq, List.length_map, Task.ofItems, List.length_map, List.length_zipIdx]
  have hsorted : ((Task.ofItems items).map fun task =>
      TaskResult.ofExcept task.index (f task.index task.payload)).Pairwise
        fun a b => a.index < b.index := by
    rw [List.pairwise_map]
    simpa using Task.pairwise_ofItems items
  rw [answer_session_of_ok d items hanswer hlength, inOrder_eq hresults hsorted,
    Task.map_ofItems_ofExcept]

/-- The dispatcher that keeps to the calling thread. -/
def inCaller (d : Dispatcher) : Dispatcher :=
  { d with options := { d.options with parallel := false } }

theorem resolve_inCaller (d : Dispatcher) (tasks : Nat) :
    Strategy.resolve d.inCaller.options tasks = .sequential := rfl

/-- In every order of steps and with every number of workers, a transformation that never panics and
looks at its item and the place of the item alone gives one result for each item, in the order of the
items and the one that the calling thread comes to, and each task is started once. -/
theorem dispatch_any_order {transform : Transform α β} {f : Nat → α → Except (List String) β}
    (hf : transform.Computes f) (d : Dispatcher) (items : List α) {run : Pool.Run α β}
    {session : Session β} (h : d.Completes transform items run session) :
    session.answer = .ok (items.zipIdx.map fun (item, index) => .ofExcept index (f index item)) ∧
      run.started.Perm (Task.ofItems items) ∧
      session.answer = (d.inCaller.dispatch transform items).answer := by
  obtain ⟨hanswer, hstarted⟩ := answer_of_completes hf h
  have hcaller := (answer_of_completes hf (dispatch_completes d.inCaller transform items)).1
  exact ⟨hanswer, hstarted, hanswer.trans hcaller.symm⟩

/-- Half of the items, with the odd ones failing, by two workers. -/
theorem dispatch_any_order_of_halves :
    ∃ transform : Transform Nat Nat, ∃ d : Dispatcher, ∃ run session,
      Strategy.resolve d.options 3 = .parallel 2 ∧
        d.Completes transform [4, 7, 2] run session ∧
        session.answer =
          .ok [.success 0 2, .failure 1 ["item 1 is odd", "7"], .success 2 1] ∧
        run.started.Perm (Task.ofItems [4, 7, 2]) := by
  let f : Nat → Nat → Except (List String) Nat := fun index item =>
    if item % 2 = 0 then .ok (item / 2) else .error ["item " ++ toString index ++ " is odd", "7"]
  let d : Dispatcher := { options := { capabilities := .ofCpus 2 } }
  let transform : Transform Nat Nat := fun context item => .ofExcept (f context.index item)
  have hf : transform.Computes f := fun _ _ => rfl
  have hcompletes := d.dispatch_completes transform [4, 7, 2]
  have h := dispatch_any_order hf d [4, 7, 2] hcompletes
  exact ⟨transform, d, _, _, by decide, hcompletes, h.1, h.2.1⟩

end Dispatcher

end Codemod
