import Codemod.Proofs.Pool.Progress
import Mathlib.Data.List.Perm.Subperm

set_option autoImplicit false

/-! # Where every task is

The accounts of a run. A task that is still to come is with the producer, in the channel or in the
hand of a worker (`State.places`, which also holds the tasks that were started). No move makes a
task, and one is dropped only under the flag or when all workers have gone (`Move.places`). A task
that was started is running or has ended, and each one that has ended has its one report, which is
with its worker, in the channel or with the collector (`Reported`). The flag is up exactly if there
is the report of a crash, and as long as it is down workers leave only when no task can come
(`Flagged`). `State.Final.ledger` reads off what this comes to in the end. -/

namespace Codemod.Pool

variable {α β : Type} {run : Nat → Task α → Outcome β}

/-! ## Counting over workers -/

/-- What the workers have of something is what one of them has of it and what the others have. -/
theorem count_flatMap_workers {γ : Type} [BEq γ] (f : Worker α β → List γ)
    (before after : List (Worker α β)) (worker : Worker α β) (x : γ) :
    ((before ++ worker :: after).flatMap f).count x =
      (f worker).count x + ((before ++ after).flatMap f).count x := by
  simp only [List.flatMap_append, List.flatMap_cons, List.count_append]
  omega

/-! ## Tasks -/

/-- The tasks that the producer has yet to put into the channel. -/
def Producer.pending : Producer α → List (Task α)
  | .checking rest => rest
  | .sending task rest => task :: rest
  | .gone => []

/-- The task that a worker has taken and not started. -/
def Worker.unstarted : Worker α β → List (Task α)
  | .holding task => [task]
  | .ready task => [task]
  | _ => []

/-- The tasks that were started, and those that still can be. -/
def State.places (s : State α β) : List (Task α) :=
  s.producer.pending ++ s.tasks ++ s.workers.flatMap Worker.unstarted ++ s.started

/-- No move makes a task. One is lost only under the flag, or by a producer that nobody listens to. -/
theorem Move.places {s t : State α β} (h : Move run s t) :
    t.places.Perm s.places ∨ t.places.Subperm s.places ∧
      (s.aborted = true ∨ (∃ task rest, s.producer = .sending task rest) ∧ s.deserted = true) := by
  classical
  simp only [List.perm_iff_count, List.subperm_iff_count, State.places, List.count_append]
  -- The three moves that drop a task, and then those that take one from a place to the next.
  cases h with
  | giveUp hp ha =>
    refine Or.inr ⟨fun x => ?_, Or.inl ha⟩
    simp only [hp, Producer.pending, List.count_nil]
    omega
  | abandon hp hd =>
    refine Or.inr ⟨fun x => ?_, Or.inr ⟨⟨_, _, hp⟩, hd⟩⟩
    simp only [hp, Producer.pending, List.count_nil]
    omega
  | discard hw ha =>
    refine Or.inr ⟨fun x => ?_, Or.inl ha⟩
    simp only [hw, count_flatMap_workers, Worker.unstarted, List.count_nil]
    omega
  | send hp hd hroom =>
    refine Or.inl fun x => ?_
    simp only [hp, Producer.pending, List.count_append, List.count_cons, List.count_nil]
    omega
  | take hw ht =>
    refine Or.inl fun x => ?_
    simp only [hw, ht, count_flatMap_workers, Worker.unstarted, List.count_cons, List.count_nil]
    omega
  | begin hw =>
    refine Or.inl fun x => ?_
    simp only [hw, count_flatMap_workers, Worker.unstarted, List.count_append, List.count_cons,
      List.count_nil]
    omega
  | _ => exact Or.inl fun x => by simp_all [Producer.pending, Worker.unstarted]

/-! ## Reports -/

/-- The task that a worker is running. -/
def Worker.executing : Worker α β → List (Task α)
  | .running task => [task]
  | _ => []

/-- The report that a worker has yet to put into the channel. -/
def Worker.undelivered : Worker α β → List (Report β)
  | .crashing crash => [.crashed crash]
  | .reporting report => [report]
  | _ => []

/-- The reports that there are, wherever they are. -/
def State.allReports (s : State α β) : List (Report β) :=
  s.workers.flatMap Worker.undelivered ++ s.reports ++ s.collected

/-- The report on a task that ended on a worker. -/
def reportOn (run : Nat → Task α → Outcome β) (e : Nat × Task α) : Report β :=
  Report.ofOutcome e.1 e.2.index (run e.1 e.2)

/-- The tasks that were started are those that are running and those that have ended, on some worker
each, and there is one report for each that has ended. -/
def Reported (run : Nat → Task α → Outcome β) (s : State α β) : Prop :=
  ∃ ended : List (Nat × Task α),
    (s.workers.flatMap Worker.executing ++ ended.map Prod.snd).Perm s.started ∧
      s.allReports.Perm (ended.map (reportOn run))

/-- A task that ends leaves its report with its worker. -/
theorem Reported.end_task {s : State α β} (hr : Reported run s) {before after : List (Worker α β)}
    {task : Task α} {next : Worker α β} (hw : s.workers = before ++ .running task :: after)
    (he : next.executing = []) (hu : next.undelivered = [reportOn run (before.length, task)]) :
    Reported run { s with workers := before ++ next :: after } := by
  classical
  obtain ⟨ended, hstarted, hreports⟩ := hr
  refine ⟨(before.length, task) :: ended, ?_, ?_⟩
  · refine List.perm_iff_count.2 fun x => ?_
    have hx := hstarted.count_eq x
    simp only [hw, count_flatMap_workers, he, List.count_append, List.map_cons] at hx ⊢
    simp only [Worker.executing, List.count_cons, List.count_nil] at hx ⊢
    omega
  · refine List.perm_iff_count.2 fun x => ?_
    have hx := hreports.count_eq x
    simp only [State.allReports, hw, count_flatMap_workers, hu, List.count_append,
      List.map_cons] at hx ⊢
    simp only [Worker.undelivered, List.count_cons, List.count_nil] at hx ⊢
    omega

/-- A report that is put into the channel is no longer with its worker. -/
theorem Reported.deliver {s : State α β} (hr : Reported run s) {before after : List (Worker α β)}
    {report : Report β} {next : Worker α β}
    (hw : s.workers = before ++ .reporting report :: after) (he : next.executing = [])
    (hu : next.undelivered = []) :
    Reported run
      { s with workers := before ++ next :: after, reports := s.reports ++ [report] } := by
  classical
  obtain ⟨ended, hstarted, hreports⟩ := hr
  refine ⟨ended, ?_, ?_⟩
  · simp only [hw, List.flatMap_append, List.flatMap_cons, he] at hstarted ⊢
    exact hstarted
  · refine List.perm_iff_count.2 fun x => ?_
    have hx := hreports.count_eq x
    simp only [State.allReports, hw, count_flatMap_workers, hu, List.count_append] at hx ⊢
    simp only [Worker.undelivered, List.count_cons, List.count_nil] at hx ⊢
    omega

/-- A worker that has something to report is heard. -/
theorem State.Heard.collecting {s : State α β} (hs : s.Heard) {before after : List (Worker α β)}
    {report : Report β} (hw : s.workers = before ++ .reporting report :: after) :
    s.collecting = true := by
  by_contra hc
  have hd := (hs (by simpa using hc)).1
  simp [State.deserted, hw, Worker.isGone] at hd

theorem Move.reported {s t : State α β} (hs : s.Heard) (hr : Reported run s) (h : Move run s t) :
    Reported run t := by
  classical
  cases h with
  | complete hw hreport => exact hr.end_task hw rfl (by rw [reportOn, hreport]; rfl)
  | crash hw hreport => exact hr.end_task hw rfl (by rw [reportOn, hreport]; rfl)
  | deliver hw hc hroom => exact hr.deliver hw rfl rfl
  | alarm hw hc hroom => exact hr.deliver hw rfl rfl
  -- The only move that would lose a report is never made.
  | forsake hw hc =>
    rw [hs.collecting hw] at hc
    cases hc
  | begin hw =>
    obtain ⟨ended, hstarted, hreports⟩ := hr
    refine ⟨ended, List.perm_iff_count.2 fun x => ?_, ?_⟩
    · have hx := hstarted.count_eq x
      simp only [hw, count_flatMap_workers, Worker.executing, List.count_append, List.count_cons,
        List.count_nil] at hx ⊢
      omega
    · simpa [State.allReports, hw, Worker.undelivered] using hreports
  | receive hqueue hc =>
    obtain ⟨ended, hstarted, hreports⟩ := hr
    refine ⟨ended, hstarted, List.perm_iff_count.2 fun x => ?_⟩
    have hx := hreports.count_eq x
    simp only [State.allReports, hqueue, List.count_append, List.count_cons, List.count_nil] at hx ⊢
    omega
  | _ =>
    obtain ⟨ended, hstarted, hreports⟩ := hr
    exact ⟨ended, by simp_all [Worker.executing],
      by simp_all [State.allReports, Worker.undelivered]⟩

/-! ## The flag -/

/-- Whether a report is one of a crash. -/
def isCrash (report : Report β) : Bool := report.crash?.isSome

/-- Whether a worker has raised the flag and not yet reported why. -/
def Worker.isAlarmed : Worker α β → Bool
  | .reporting report => isCrash report
  | _ => false

/-- Whether a worker will take no more tasks. -/
def Worker.isDone : Worker α β → Bool
  | .leaving => true
  | .gone => true
  | _ => false

/-- The flag goes with the report of a crash. As long as it is down, a worker is done only when no
task can come. -/
structure Flagged (s : State α β) : Prop where
  raised : s.aborted =
    (s.workers.any Worker.isAlarmed || s.reports.any isCrash || s.collected.any isCrash)
  lowered : s.aborted = false → s.workers.any Worker.isDone = true →
    s.producer = .gone ∧ s.tasks = []

theorem Move.raised {s t : State α β} (hs : s.Heard) (hf : Flagged s) (h : Move run s t) :
    t.aborted =
      (t.workers.any Worker.isAlarmed || t.reports.any isCrash || t.collected.any isCrash) := by
  have hraised := hf.raised
  cases h with
  | forsake hw hc =>
    rw [hs.collecting hw] at hc
    cases hc
  | receive hr hc =>
    rw [hraised, hr]
    simp only [List.any_cons, List.any_append, List.any_nil, Bool.or_false]
    cases isCrash _ <;> simp
  | raise hw => simp [Worker.isAlarmed, isCrash, Report.crash?]
  | alarm hw hc hroom => simp [hraised, hw, Worker.isAlarmed, isCrash, Report.crash?]
  | deliver hw hc hroom => simp [hraised, hw, Worker.isAlarmed, isCrash, Report.crash?]
  | complete hw hr => simp [hraised, hw, Worker.isAlarmed, isCrash, Report.crash?]
  | _ => simp_all [Worker.isAlarmed]

theorem Move.lowered {s t : State α β} (hs : s.Heard) (hf : Flagged s) (h : Move run s t)
    (ha : t.aborted = false) (hdone : t.workers.any Worker.isDone = true) :
    t.producer = .gone ∧ t.tasks = [] := by
  have hlowered := hf.lowered
  -- Under a flag that is down only `hangUp` makes a worker done that was not done before. The other
  -- moves keep what `hlowered` says, or they cannot be made.
  cases h with
  | exhaust hp => exact ⟨rfl, (hlowered ha hdone).2⟩
  | giveUp hp => exact ⟨rfl, (hlowered ha hdone).2⟩
  | abandon hp => exact ⟨rfl, (hlowered ha hdone).2⟩
  | offer hp =>
    rw [(hlowered ha hdone).1] at hp
    cases hp
  | send hp =>
    rw [(hlowered ha hdone).1] at hp
    cases hp
  | take hw ht =>
    have hsame : s.workers.any Worker.isDone = true := by simpa [hw, Worker.isDone] using hdone
    rw [(hlowered ha hsame).2] at ht
    cases ht
  | hangUp hw ht hp => exact ⟨hp, ht⟩
  | discard hw ha' =>
    rw [ha] at ha'
    cases ha'
  | raise hw => cases ha
  | forsake hw hc =>
    rw [hs.collecting hw] at hc
    cases hc
  | alarm hw =>
    have hup : s.aborted = true := by
      simp [hf.raised, hw, Worker.isAlarmed, isCrash, Report.crash?]
    rw [ha] at hup
    cases hup
  | accept hw => exact hlowered ha (by simpa [hw, Worker.isDone] using hdone)
  | begin hw => exact hlowered ha (by simpa [hw, Worker.isDone] using hdone)
  | complete hw => exact hlowered ha (by simpa [hw, Worker.isDone] using hdone)
  | crash hw => exact hlowered ha (by simpa [hw, Worker.isDone] using hdone)
  | deliver hw => exact hlowered ha (by simpa [hw, Worker.isDone] using hdone)
  | depart hw => exact hlowered ha (by simp [hw, Worker.isDone])
  | receive => exact hlowered ha hdone
  | stop => exact hlowered ha hdone

theorem Move.flagged {s t : State α β} (hs : s.Heard) (hf : Flagged s) (h : Move run s t) :
    Flagged t :=
  ⟨h.raised hs hf, h.lowered hs hf⟩

/-- The flag is never taken down. -/
theorem Move.aborted {s t : State α β} (h : Move run s t) (ha : s.aborted = true) :
    t.aborted = true := by
  cases h <;> first | exact ha | rfl

/-! ## The books of a run -/

/-- The accounts of a state of a run of `tasks`. -/
structure Ledger (run : Nat → Task α → Outcome β) (tasks : List (Task α)) (s : State α β) :
    Prop where
  heard : s.Heard
  reported : Reported run s
  flagged : Flagged s
  staffed : s.workers ≠ []
  /-- No task is started twice, -/
  atMost : s.places.Subperm tasks
  /-- and as long as the flag is down none is lost. -/
  exactly : s.aborted = false → s.places.Perm tasks

theorem places_start (workers : Nat) (tasks : List (Task α)) :
    (State.start workers tasks : State α β).places = tasks := by
  have hnone : (List.replicate workers (Worker.waiting : Worker α β)).flatMap Worker.unstarted = [] := by
    rw [List.flatMap_eq_nil_iff]
    intro worker hmem
    rw [List.eq_of_mem_replicate hmem]
    rfl
  simp [State.places, State.start, Producer.pending, hnone]

theorem Ledger.start {workers : Nat} (hw : 1 ≤ workers) (tasks : List (Task α)) :
    Ledger run tasks (State.start workers tasks) where
  heard := fun hc => by cases hc
  reported := ⟨[], by simp [State.start, Worker.executing],
    by simp [State.allReports, State.start, Worker.undelivered]⟩
  flagged := ⟨by simp [State.start, Worker.isAlarmed], by simp [State.start, Worker.isDone]⟩
  staffed := by
    simp only [State.start, ne_eq, List.replicate_eq_nil_iff]
    omega
  atMost := by rw [places_start]
  exactly := fun _ => by rw [places_start]

/-- With workers at hand, a producer finds nobody listening only under the flag. -/
theorem Ledger.aborted_of_sending {tasks : List (Task α)} {s : State α β} (hs : Ledger run tasks s)
    {task : Task α} {rest : List (Task α)} (hp : s.producer = .sending task rest)
    (hd : s.deserted = true) : s.aborted = true := by
  by_contra hnot
  obtain ⟨worker, hmem⟩ := List.exists_mem_of_ne_nil _ hs.staffed
  have hgone : worker.isDone = true := by
    have hworker := List.all_eq_true.1 hd worker hmem
    cases worker <;> simp_all [Worker.isGone, Worker.isDone]
  have hlow := hs.flagged.lowered (by simpa using hnot) (List.any_eq_true.2 ⟨worker, hmem, hgone⟩)
  rw [hlow.1] at hp
  cases hp

theorem Move.ledger {tasks : List (Task α)} {s t : State α β} (hs : Ledger run tasks s)
    (h : Move run s t) : Ledger run tasks t where
  heard := h.heard hs.heard
  reported := h.reported hs.heard hs.reported
  flagged := h.flagged hs.heard hs.flagged
  staffed := by
    intro hnil
    have hlength := h.length_workers
    rw [hnil] at hlength
    exact hs.staffed (List.length_eq_zero_iff.1 hlength.symm)
  atMost := by
    rcases h.places with hperm | ⟨hsub, -⟩
    · exact hperm.subperm.trans hs.atMost
    · exact hsub.trans hs.atMost
  exactly := fun ha => by
    have hdown : s.aborted = false := by
      by_contra hup
      rw [h.aborted (by simpa using hup)] at ha
      cases ha
    rcases h.places with hperm | ⟨-, hup | ⟨⟨task, rest, hp⟩, hd⟩⟩
    · exact hperm.trans (hs.exactly hdown)
    · rw [hdown] at hup
      cases hup
    · rw [hs.aborted_of_sending hp hd] at hdown
      cases hdown

theorem State.Reaches.ledger {workers : Nat} (hw : 1 ≤ workers) {tasks : List (Task α)}
    {s : State α β} (h : (State.start workers tasks).Reaches run s) : Ledger run tasks s := by
  refine h.induct (Ledger.start hw tasks) ?_
  intro u v hu hmove
  exact hmove.ledger hu

/-! ## The end of a run -/

theorem State.Final.workers_gone {s : State α β} (h : s.Final) :
    ∀ worker ∈ s.workers, worker = .gone := by
  intro worker hmem
  have hgone := List.all_eq_true.1 h.2.1 worker hmem
  cases worker <;> simp_all [Worker.isGone]

theorem State.Final.flatMap_workers {γ : Type} {s : State α β} (h : s.Final)
    {f : Worker α β → List γ} (hf : f .gone = []) : s.workers.flatMap f = [] := by
  rw [List.flatMap_eq_nil_iff]
  intro worker hmem
  rw [h.workers_gone worker hmem, hf]

/-- The books at the end: the tasks that were started have ended, each with one report, and all
reports were received. If the flag is down then all tasks were started. -/
theorem State.Final.ledger {tasks : List (Task α)} {s : State α β} (h : s.Final)
    (hs : Ledger run tasks s) :
    (∃ ended : List (Nat × Task α), (ended.map Prod.snd).Perm s.started ∧
      s.collected.Perm (ended.map (reportOn run))) ∧
    s.started.Subperm tasks ∧ (s.aborted = false → s.started.Perm tasks) ∧
    s.aborted = s.collected.any isCrash := by
  obtain ⟨-, hreports⟩ := hs.heard h.2.2
  refine ⟨?_, ?_, ?_, ?_⟩
  · obtain ⟨ended, hstarted, hall⟩ := hs.reported
    refine ⟨ended, ?_, ?_⟩
    · rwa [h.flatMap_workers rfl] at hstarted
    · rwa [State.allReports, h.flatMap_workers rfl, hreports] at hall
  · refine List.Subperm.trans ?_ hs.atMost
    exact (List.sublist_append_right _ _).subperm
  · intro ha
    obtain ⟨worker, hmem⟩ := List.exists_mem_of_ne_nil _ hs.staffed
    have hdone : s.workers.any Worker.isDone = true :=
      List.any_eq_true.2 ⟨worker, hmem, by rw [h.workers_gone worker hmem]; rfl⟩
    obtain ⟨hp, ht⟩ := hs.flagged.lowered ha hdone
    have hperm := hs.exactly ha
    rwa [State.places, h.flatMap_workers rfl, hp, ht] at hperm
  · rw [hs.flagged.raised, hreports]
    have hquiet : s.workers.any Worker.isAlarmed = false := by
      rw [List.any_eq_false]
      intro worker hmem
      simp [h.workers_gone worker hmem, Worker.isAlarmed]
    simp [hquiet]

end Codemod.Pool
