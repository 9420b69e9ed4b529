import Codemod.Proofs.Config.Load

set_option autoImplicit false

/-! # Settings by key

The three settings are read alike: each has a name, a value that it has if nothing is said about it,
and a reader. An answer is right if it is the configuration whose settings are all read from what is
said about them (`Answers`). Layered sources are answered like that (`ReadFrom.answers`), and stored
objects and lists are (`answers_object`, `answers_array`). So what becomes of one setting follows from
what is said about it, as long as the others are accepted (`Answers.map_get`). -/

namespace Codemod.Config

/-! ## Keys -/

/-- What is set. -/
inductive Key where
  | jobs
  | shared
  | parallel
deriving DecidableEq

/-- A number of jobs, or nothing, as what it would be read from. -/
def jobsScalar : Option Nat → Scalar
  | none => .absent
  | some n => .integer n

/-- What is read from what is said, or the standard if nothing is said; nothing if it is refused. -/
def accepted {α : Type} (said : Option Scalar) (standard : α) (read : Scalar → Except Refusal α) :
    Option α :=
  match said with
  | none => some standard
  | some x => (read x).toOption

namespace Key

/-- The name under which a source has the setting. -/
def name : Key → String
  | jobs => "jobs"
  | shared => "shared"
  | parallel => "parallel"

/-- Where a list of settings has the setting. -/
def position : Key → Nat
  | jobs => 0
  | shared => 1
  | parallel => 2

/-- The setting in a configuration. -/
def get (c : DispatchConfig) : Key → Scalar
  | jobs => jobsScalar c.jobs
  | shared => .bool c.shared
  | parallel => .bool c.parallel

/-- The setting that what is said about it comes to, unless that is refused. -/
def read (said : Option Scalar) : Key → Option Scalar
  | jobs => (accepted said none readJobs).map jobsScalar
  | shared => (accepted said false readSwitch).map .bool
  | parallel => (accepted said true readSwitch).map .bool

end Key

variable {k : Key} {said : Key → Option Scalar} {answer : Option DispatchConfig}

theorem forall_key {p : Key → Prop} : (∀ k, p k) ↔ p .jobs ∧ p .shared ∧ p .parallel := by
  constructor
  · exact fun h => ⟨h .jobs, h .shared, h .parallel⟩
  · rintro ⟨hjobs, hshared, hparallel⟩ k
    cases k <;> assumption

theorem jobsScalar_inj {m n : Option Nat} : jobsScalar m = jobsScalar n ↔ m = n := by
  constructor
  · intro h
    cases m <;> cases n <;> cases h <;> rfl
  · exact congrArg jobsScalar

theorem Key.read_jobs (x : Scalar) :
    Key.read (some x) .jobs = (readJobs x).toOption.map jobsScalar := rfl

theorem Key.read_switch (hk : k ≠ .jobs) (x : Scalar) :
    k.read (some x) = (readSwitch x).toOption.map .bool := by
  cases k with
  | jobs => exact absurd rfl hk
  | shared => rfl
  | parallel => rfl

/-- What nothing is said about is as in the standard configuration. -/
theorem Key.read_none (k : Key) : k.read none = some (k.get {}) := by
  cases k <;> rfl

/-- Settings that are all read are those of a configuration. -/
theorem forall_read_iff {c : DispatchConfig} :
    (∀ k : Key, k.read (said k) = some (k.get c)) ↔
      accepted (said .jobs) none readJobs = some c.jobs ∧
        accepted (said .shared) false readSwitch = some c.shared ∧
          accepted (said .parallel) true readSwitch = some c.parallel := by
  rw [forall_key]
  simp only [Key.read, Key.get, Option.map_eq_some_iff, jobsScalar_inj, Scalar.bool.injEq,
    exists_eq_right]

/-! ## Answers -/

/-- What is answered to what is said about the settings, if all of them are accepted. -/
def Answers (said : Key → Option Scalar) (answer : Option DispatchConfig) : Prop :=
  ∀ c, answer = some c ↔ ∀ k : Key, k.read (said k) = some (k.get c)

/-- There is an answer if every setting is accepted. -/
theorem Answers.isSome (h : Answers said answer)
    (hall : ∀ k : Key, (k.read (said k)).isSome = true) : answer.isSome = true := by
  have hread : ∀ {α β : Type} {x : Option α} {f : α → β}, (x.map f).isSome = true → ∃ a, x = some a :=
    fun hx => Option.isSome_iff_exists.mp (by rwa [Option.isSome_map] at hx)
  obtain ⟨hjobs, hshared, hparallel⟩ := forall_key.mp hall
  obtain ⟨jobs, hjobs⟩ := hread hjobs
  obtain ⟨shared, hshared⟩ := hread hshared
  obtain ⟨parallel, hparallel⟩ := hread hparallel
  have hc := (h { jobs, shared, parallel }).mpr (forall_read_iff.mpr ⟨hjobs, hshared, hparallel⟩)
  rw [hc]
  rfl

/-- Whether what is said about the other settings is accepted. -/
def OthersAccepted (k : Key) (said : Key → Option Scalar) : Prop :=
  ∀ k', k' ≠ k → (k'.read (said k')).isSome = true

/-- Where the other settings are accepted, the answer is about this one: it has what is read from
what is said about it, and there is none if that is refused. -/
theorem Answers.map_get (h : Answers said answer) (hothers : OthersAccepted k said) :
    answer.map (k.get ·) = k.read (said k) := by
  cases hanswer : answer with
  | some c => exact ((h c).mp hanswer k).symm
  | none =>
    cases hread : k.read (said k) with
    | none => rfl
    | some x =>
      have hsome : answer.isSome = true := h.isSome fun k' => by
        by_cases hk : k' = k
        · rw [hk, hread]
          rfl
        · exact hothers k' hk
      rw [hanswer] at hsome
      cases hsome

/-! ## Layered sources -/

theorem toOption_eq_some_iff {ε α : Type} {e : Except ε α} {x : α} :
    e.toOption = some x ↔ e = .ok x := by
  refine ⟨eq_ok_of_toOption, ?_⟩
  rintro rfl
  rfl

theorem bind_eq_ok_iff {ε α β : Type} {e : Except ε α} {f : α → Except ε β} {y : β} :
    (e >>= f) = .ok y ↔ ∃ x, e = .ok x ∧ f x = .ok y := by
  cases e with
  | error e =>
    constructor
    · intro h
      cases h
    · rintro ⟨x, h, -⟩
      cases h
  | ok x =>
    constructor
    · exact fun h => ⟨x, rfl, h⟩
    · rintro ⟨x, h, hf⟩
      cases h
      exact hf

/-- What layered sources say about a setting. -/
def sourceSaid (sources : List Members) (k : Key) : Option Scalar :=
  (topmost? sources k.name).map Value.scalar

theorem reading_eq_ok_iff {α : Type} {sources : List Members} {key : String} {standard x : α}
    {read : Scalar → Except Refusal α} : reading sources key standard read = .ok x ↔
      accepted ((topmost? sources key).map Value.scalar) standard read = some x := by
  unfold reading accepted
  cases topmost? sources key with
  | none => simp
  | some v => exact toOption_eq_some_iff.symm

theorem ReadFrom.answers {answer : Except Error DispatchConfig} {sources : List Members}
    (h : ReadFrom answer sources) : Answers (sourceSaid sources) answer.toOption := by
  intro c
  rw [toOption_eq_some_iff, h.ok, forall_read_iff]
  simp only [reading_eq_ok_iff]
  exact and_congr_right fun _ => and_comm

/-- Documents that are put over each other are read like that. -/
theorem readFrom_layered {firstWins : Bool} {documents : List (List Char)} {tables : List Members}
    (h : documents.mapM ofDocument = .ok tables) :
    ReadFrom ((layered firstWins documents).bind ofMembers) (ranked firstWins tables) := by
  obtain ⟨ms, hms, hshows⟩ := shows_layered h
  rw [hms]
  exact hshows.readFrom

/-! ## Stored configurations -/

/-- What the members of a stored object say about a setting. -/
def objectSaid (ms : List (String × Json)) (k : Key) : Option Scalar :=
  (Json.find? ms k.name).map scalarOf

theorem stored_eq_ok_iff {α : Type} {value : Option Json} {standard x : α}
    {read : Scalar → Except Refusal α} :
    stored value standard read = .ok x ↔ accepted (value.map scalarOf) standard read = some x := by
  unfold stored accepted
  cases value with
  | none => simp
  | some j =>
    rw [Option.map_some]
    dsimp only
    cases read (scalarOf j) with
    | error refusal =>
      constructor
      · intro h
        cases h
      · intro h
        cases h
    | ok y =>
      change Except.ok y = _ ↔ some y = some x
      rw [Except.ok.injEq, Option.some.injEq]

/-- A stored object is answered by key. -/
theorem answers_object (ms : List (String × Json)) :
    Answers (objectSaid ms) (ofJson (.object ms)).toOption := by
  intro c
  rw [toOption_eq_some_iff, forall_read_iff, ofJson]
  simp only [bind_eq_ok_iff, stored_eq_ok_iff]
  constructor
  · rintro ⟨jobs, hjobs, parallel, hparallel, shared, hshared, hc⟩
    cases hc
    exact ⟨hjobs, hshared, hparallel⟩
  · rintro ⟨hjobs, hshared, hparallel⟩
    exact ⟨_, hjobs, _, hparallel, _, hshared, rfl⟩

/-- What the items of a stored list say about a setting. -/
def arraySaid (items : List Json) (k : Key) : Option Scalar :=
  items[k.position]?.map scalarOf

/-- A stored list is answered by position. -/
theorem answers_array {items : List Json} (hlength : items.length ≤ 3) :
    Answers (arraySaid items) (ofJson (.array items)).toOption := by
  intro c
  rw [toOption_eq_some_iff, forall_read_iff, ofJson]
  simp only [bind_eq_ok_iff, stored_eq_ok_iff, if_neg (Nat.not_lt.mpr hlength)]
  constructor
  · rintro ⟨jobs, hjobs, shared, hshared, parallel, hparallel, hc⟩
    cases hc
    exact ⟨hjobs, hshared, hparallel⟩
  · rintro ⟨hjobs, hshared, hparallel⟩
    exact ⟨_, hjobs, _, hshared, _, hparallel, rfl⟩

end Codemod.Config
