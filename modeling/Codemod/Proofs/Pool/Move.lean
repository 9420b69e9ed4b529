import Codemod.Pool
import Mathlib.Data.List.Basic

set_option autoImplicit false

/-! # The moves of a parallel run

`Move` says once what a step of a run can do: one constructor for each thing that the producer, a
worker or the collector does, with the condition under which it does it. A worker is singled out by
the workers `before` and `after` it, its number being the length of `before`. Every step is a move
(`Move.of_step`), so a property of all runs is shown by cases on moves. -/

namespace Codemod.Pool

variable {α β : Type}

/-- What a step of a run can do. -/
inductive Move (run : Nat → Task α → Outcome β) (s : State α β) : State α β → Prop where
  | exhaust (hp : s.producer = .checking []) : Move run s { s with producer := .gone }
  | giveUp {task : Task α} {rest : List (Task α)} (hp : s.producer = .checking (task :: rest))
      (ha : s.aborted = true) : Move run s { s with producer := .gone }
  | offer {task : Task α} {rest : List (Task α)} (hp : s.producer = .checking (task :: rest))
      (ha : s.aborted = false) : Move run s { s with producer := .sending task rest }
  | abandon {task : Task α} {rest : List (Task α)} (hp : s.producer = .sending task rest)
      (hd : s.deserted = true) : Move run s { s with producer := .gone }
  | send {task : Task α} {rest : List (Task α)} (hp : s.producer = .sending task rest)
      (hd : s.deserted = false) (hroom : s.tasks.length < s.capacity) :
      Move run s { s with producer := .checking rest, tasks := s.tasks ++ [task] }
  | take {before after : List (Worker α β)} {task : Task α} {rest : List (Task α)}
      (hw : s.workers = before ++ .waiting :: after) (ht : s.tasks = task :: rest) :
      Move run s { s with tasks := rest, workers := before ++ .holding task :: after }
  | hangUp {before after : List (Worker α β)} (hw : s.workers = before ++ .waiting :: after)
      (ht : s.tasks = []) (hp : s.producer = .gone) :
      Move run s { s with workers := before ++ .leaving :: after }
  | discard {before after : List (Worker α β)} {task : Task α}
      (hw : s.workers = before ++ .holding task :: after) (ha : s.aborted = true) :
      Move run s { s with workers := before ++ .leaving :: after }
  | accept {before after : List (Worker α β)} {task : Task α}
      (hw : s.workers = before ++ .holding task :: after) (ha : s.aborted = false) :
      Move run s { s with workers := before ++ .ready task :: after }
  | begin {before after : List (Worker α β)} {task : Task α}
      (hw : s.workers = before ++ .ready task :: after) :
      Move run s
        { s with workers := before ++ .running task :: after, started := s.started ++ [task] }
  | complete {before after : List (Worker α β)} {task : Task α} {result : TaskResult β}
      (hw : s.workers = before ++ .running task :: after)
      (hr : Report.ofOutcome before.length task.index (run before.length task)
        = .completed result) :
      Move run s { s with workers := before ++ .reporting (.completed result) :: after }
  | crash {before after : List (Worker α β)} {task : Task α} {crash : Crash}
      (hw : s.workers = before ++ .running task :: after)
      (hr : Report.ofOutcome before.length task.index (run before.length task)
        = .crashed crash) :
      Move run s { s with workers := before ++ .crashing crash :: after }
  | raise {before after : List (Worker α β)} {crash : Crash}
      (hw : s.workers = before ++ .crashing crash :: after) :
      Move run s
        { s with workers := before ++ .reporting (.crashed crash) :: after, aborted := true }
  | forsake {before after : List (Worker α β)} {report : Report β}
      (hw : s.workers = before ++ .reporting report :: after) (hc : s.collecting = false) :
      Move run s { s with workers := before ++ .leaving :: after }
  | deliver {before after : List (Worker α β)} {result : TaskResult β}
      (hw : s.workers = before ++ .reporting (.completed result) :: after)
      (hc : s.collecting = true) (hroom : s.reports.length < s.capacity) :
      Move run s
        { s with
          workers := before ++ .waiting :: after
          reports := s.reports ++ [.completed result] }
  | alarm {before after : List (Worker α β)} {crash : Crash}
      (hw : s.workers = before ++ .reporting (.crashed crash) :: after)
      (hc : s.collecting = true) (hroom : s.reports.length < s.capacity) :
      Move run s
        { s with
          workers := before ++ .leaving :: after
          reports := s.reports ++ [.crashed crash] }
  | depart {before after : List (Worker α β)} (hw : s.workers = before ++ .leaving :: after) :
      Move run s { s with workers := before ++ .gone :: after }
  | receive {report : Report β} {rest : List (Report β)} (hr : s.reports = report :: rest)
      (hc : s.collecting = true) :
      Move run s { s with reports := rest, collected := s.collected ++ [report] }
  | stop (hr : s.reports = []) (hc : s.collecting = true) (hd : s.deserted = true) :
      Move run s { s with collecting := false }

/-! ## Every step is a move -/

/-- A worker splits the list of workers, and another place for it changes nothing else. -/
theorem State.split_workers {s : State α β} {w : Nat} {worker : Worker α β}
    (h : s.workers[w]? = some worker) :
    ∃ before after, s.workers = before ++ worker :: after ∧ before.length = w ∧
      ∀ next, s.workers.set w next = before ++ next :: after := by
  obtain ⟨hlt, hget⟩ := List.getElem?_eq_some_iff.1 h
  refine ⟨s.workers.take w, s.workers.drop (w + 1), ?_, ?_, ?_⟩
  · rw [← hget, List.getElem_cons_drop hlt, List.take_append_drop]
  · exact List.length_take_of_le (Nat.le_of_lt hlt)
  · intro next
    rw [List.set_eq_take_append_cons_drop, if_pos hlt]

theorem Producer.eq_gone {p : Producer α} (h : p.isGone = true) : p = .gone := by
  cases p with
  | gone => rfl
  | checking rest => simp [isGone] at h
  | sending task rest => simp [isGone] at h

theorem Move.of_produce {run : Nat → Task α → Outcome β} {s t : State α β}
    (h : s.produce? = some t) : Move run s t := by
  unfold State.produce? at h
  split at h
  case h_1 hp => cases h; exact .exhaust hp
  case h_2 task rest hp =>
    cases h
    by_cases ha : s.aborted = true
    · rw [if_pos ha]
      exact .giveUp hp ha
    · rw [if_neg ha]
      exact .offer hp (by simpa using ha)
  case h_3 task rest hp =>
    split at h
    case isTrue hd => cases h; exact .abandon hp hd
    case isFalse hd =>
      split at h
      case isTrue hroom => cases h; exact .send hp (by simpa using hd) hroom
      case isFalse => cases h
  case h_4 => cases h

theorem Move.of_take {run : Nat → Task α → Outcome β} {s t : State α β} {w : Nat}
    (hw : s.workers[w]? = some .waiting) (h : s.take? w = some t) : Move run s t := by
  obtain ⟨before, after, hs, -, hset⟩ := State.split_workers hw
  unfold State.take? at h
  split at h
  case h_1 task rest ht =>
    cases h
    simp only [State.place, hset]
    exact .take hs ht
  case h_2 ht =>
    split at h
    case isTrue hp =>
      cases h
      simp only [State.place, hset]
      exact .hangUp hs ht (Producer.eq_gone hp)
    case isFalse => cases h

theorem Move.of_report {run : Nat → Task α → Outcome β} {s t : State α β} {w : Nat}
    {report : Report β} (hw : s.workers[w]? = some (.reporting report))
    (h : s.report? w report = some t) : Move run s t := by
  obtain ⟨before, after, hs, -, hset⟩ := State.split_workers hw
  unfold State.report? at h
  split at h
  case isTrue hc =>
    cases h
    simp only [State.place, hset]
    exact .forsake hs (by simpa using hc)
  case isFalse hc =>
    have hc : s.collecting = true := by simpa using hc
    split at h
    case isTrue hroom =>
      cases h
      simp only [State.place, hset]
      cases report with
      | completed result => exact .deliver hs hc hroom
      | crashed crash => exact .alarm hs hc hroom
    case isFalse => cases h

theorem Move.of_work {run : Nat → Task α → Outcome β} {s t : State α β} {w : Nat}
    (h : s.work? run w = some t) : Move run s t := by
  unfold State.work? at h
  split at h
  case h_1 => cases h
  case h_2 hw => exact .of_take hw h
  case h_3 task hw =>
    obtain ⟨before, after, hs, -, hset⟩ := State.split_workers hw
    cases h
    simp only [State.place, hset]
    by_cases ha : s.aborted = true
    · rw [if_pos ha]
      exact .discard hs ha
    · rw [if_neg ha]
      exact .accept hs (by simpa using ha)
  case h_4 task hw =>
    obtain ⟨before, after, hs, -, hset⟩ := State.split_workers hw
    cases h
    simp only [State.place, hset]
    exact .begin hs
  case h_5 task hw =>
    -- How a task ends depends on the worker, whose number is the length of what stands before it.
    obtain ⟨before, after, hs, rfl, hset⟩ := State.split_workers hw
    cases hr : Report.ofOutcome before.length task.index (run before.length task) with
    | completed result =>
      simp only [hr] at h
      cases h
      simp only [State.place, hset]
      exact .complete hs hr
    | crashed crash =>
      simp only [hr] at h
      cases h
      simp only [State.place, hset]
      exact .crash hs hr
  case h_6 crash hw =>
    obtain ⟨before, after, hs, -, hset⟩ := State.split_workers hw
    cases h
    simp only [State.place, hset]
    exact .raise hs
  case h_7 report hw => exact .of_report hw h
  case h_8 hw =>
    obtain ⟨before, after, hs, -, hset⟩ := State.split_workers hw
    cases h
    simp only [State.place, hset]
    exact .depart hs
  case h_9 => cases h

theorem Move.of_collect {run : Nat → Task α → Outcome β} {s t : State α β}
    (h : s.collect? = some t) : Move run s t := by
  unfold State.collect? at h
  split at h
  case isTrue => cases h
  case isFalse hc =>
    have hc : s.collecting = true := by simpa using hc
    split at h
    case h_1 report rest hr => cases h; exact .receive hr hc
    case h_2 hr =>
      split at h
      case isTrue hd => cases h; exact .stop hr hc hd
      case isFalse => cases h

/-- Whatever an actor does is a move. -/
theorem Move.of_step {run : Nat → Task α → Outcome β} {s t : State α β} {actor : Actor}
    (h : s.step? run actor = some t) : Move run s t := by
  cases actor with
  | producer => exact .of_produce h
  | worker w => exact .of_work h
  | collector => exact .of_collect h

/-! ## Properties of all runs -/

/-- What holds at first and is kept by every move holds in every state of a run. -/
theorem State.Reaches.induct {run : Nat → Task α → Outcome β} {s t : State α β}
    {P : State α β → Prop} (h : s.Reaches run t) (hs : P s)
    (hkeep : ∀ {u v}, P u → Move run u v → P v) : P t := by
  induction h with
  | refl => exact hs
  | step _ hnext ih =>
    obtain ⟨actor, hstep⟩ := hnext
    exact hkeep ih (.of_step hstep)

theorem State.Reaches.trans {run : Nat → Task α → Outcome β} {s t u : State α β}
    (hst : s.Reaches run t) (htu : t.Reaches run u) : s.Reaches run u := by
  induction htu with
  | refl => exact hst
  | step _ hnext ih => exact .step ih hnext

/-- No worker is hired or forgotten. -/
theorem Move.length_workers {run : Nat → Task α → Outcome β} {s t : State α β}
    (h : Move run s t) : t.workers.length = s.workers.length := by
  cases h <;> simp_all

theorem State.Reaches.length_workers {run : Nat → Task α → Outcome β} {workers : Nat}
    {tasks : List (Task α)} {s : State α β} (h : (State.start workers tasks).Reaches run s) :
    s.workers.length = workers := by
  refine h.induct (P := fun t => t.workers.length = workers) ?_ ?_
  · exact List.length_replicate
  · intro u v hu hmove
    exact hmove.length_workers.trans hu

end Codemod.Pool
