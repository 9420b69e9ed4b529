import Codemod.Proofs.Config.Key
import Codemod.Proofs.Config.Variable
import Codemod.Proofs.Json.RoundTrip
import Codemod.Proofs.Setting.Count

set_option autoImplicit false

/-! # Configurations that are stored

No number of jobs and none at all mean the same, so a configuration is only ever read with one of the
two (`IsNormal`). Each setting that is stored says itself (`objectSaid_storedWithout`), and what is
read of that is the setting again; so a configuration in normal form is read as it was stored, with
or without the keys that hold what they would hold anyway (`normal_round_trip`). -/

namespace Codemod.Config

variable {k : Key} {c : DispatchConfig} {said : Key → Option Scalar} {answer : Option DispatchConfig}

/-- A configuration in which a number of jobs is not zero. -/
def IsNormal (c : DispatchConfig) : Prop := c.jobs ≠ some 0

/-! ## What is read is in normal form -/

theorem normalJobs_ne_zero (n : Nat) : normalJobs n ≠ some 0 := by
  unfold normalJobs
  split
  · exact nofun
  · rename_i hn
    exact fun h => hn (Option.some.inj h)

theorem readJobs_ne_zero (x : Scalar) : readJobs x ≠ .ok (some 0) := by
  intro h
  cases x with
  | absent => cases h
  | bool b => cases h
  | other => cases h
  | integer n =>
    rw [readJobs] at h
    split at h
    · cases h
    · exact normalJobs_ne_zero _ (Except.ok.inj h)
  | text s =>
    rw [readJobs] at h
    split at h
    · cases h
    · cases hcount : Setting.readCount (Text.trimString s) with
      | error e =>
        rw [hcount] at h
        cases h
      | ok n =>
        rw [hcount] at h
        cases h
        exact absurd (Setting.readCount_eq_some_iff.mp hcount).2.1 (by decide)

theorem Answers.isNormal (h : Answers said answer) (hc : answer = some c) : IsNormal c := by
  intro hzero
  have hjobs := (forall_read_iff.mp ((h c).mp hc)).1
  rw [hzero] at hjobs
  unfold accepted at hjobs
  split at hjobs
  · cases hjobs
  · exact readJobs_ne_zero _ (toOption_eq_some_iff.mp hjobs)

theorem isNormal_of_ofMembers {ms : Members} (h : ofMembers ms = .ok c) : IsNormal c :=
  (Shows.single ms).readFrom.answers.isNormal (toOption_eq_some_iff.mpr h)

theorem isNormal_of_ofJson {j : Json} (h : ofJson j = .ok c) : IsNormal c := by
  have hanswer := toOption_eq_some_iff.mpr h
  cases j with
  | object ms => exact (answers_object ms).isNormal hanswer
  | array items =>
    by_cases hlength : items.length ≤ 3
    · exact (answers_array hlength).isNormal hanswer
    · simp only [ofJson, bind_eq_ok_iff, if_pos (Nat.not_le.mp hlength)] at h
      obtain ⟨jobs, -, shared, -, parallel, -, h⟩ := h
      cases h
  | null => cases h
  | bool b => cases h
  | number n => cases h
  | string s => cases h

theorem isNormal_of_load {document : Option (Except Error (List Char))}
    {env : List (String × String)} (h : load document env = .ok c) : IsNormal c := by
  unfold load at h
  split at h
  · exact isNormal_of_ofMembers h
  · obtain ⟨ms, -, h⟩ := bind_eq_ok_iff.mp h
    exact isNormal_of_ofMembers h

/-! ## What is not said is as it goes without saying -/

theorem Answers.get_of_none (h : Answers said answer) (hc : answer = some c) (hk : said k = none) :
    k.get c = k.get {} := by
  have hread := (h c).mp hc k
  rw [hk, k.read_none] at hread
  exact (Option.some.inj hread).symm

theorem read_sourceSaid_defaults (k : Key) :
    k.read (sourceSaid [defaults] k) = some (k.get {}) := by
  cases k <;> decide +kernel

/-! ## What is stored is read -/

/-- The members that a configuration is stored as. -/
def storedMembers (c : DispatchConfig) : List (String × Json) :=
  [("jobs", match c.jobs with | some n => .ofNat n | none => .null),
    ("shared", .bool c.shared), ("parallel", .bool c.parallel)]

/-- What a configuration is stored as if some of its keys are taken out. -/
def storedWithout (removed : List Key) (c : DispatchConfig) : Json :=
  .object ((storedMembers c).filter fun m => removed.all fun k => m.1 != k.name)

/-- With no key taken out it is what is stored. -/
theorem storedWithout_nil (c : DispatchConfig) : storedWithout [] c = toJson c := rfl

theorem find?_filter (p : String → Bool) (ms : List (String × Json)) (name : String) :
    Json.find? (ms.filter fun m => p m.1) name = if p name then Json.find? ms name else none := by
  unfold Json.find?
  rw [← List.filter_reverse, List.find?_filter]
  by_cases hp : p name = true
  · rw [if_pos hp]
    congr 2
    funext m
    by_cases hm : m.1 = name <;> simp [hm, hp]
  · rw [if_neg hp, Option.map_eq_none_iff, List.find?_eq_none]
    rintro m - hm
    simp only [decide_eq_true_eq, beq_iff_eq] at hm
    exact hp (hm.2 ▸ hm.1)

theorem name_inj {k k' : Key} : k.name = k'.name ↔ k = k' := by
  cases k <;> cases k' <;> simp [Key.name]

/-- A key that is stored says its setting. -/
theorem objectSaid_storedMembers (c : DispatchConfig) (k : Key) :
    objectSaid (storedMembers c) k = some (k.get c) := by
  cases k with
  | jobs =>
    obtain ⟨jobs, shared, parallel⟩ := c
    cases jobs <;> rfl
  | shared => rfl
  | parallel => rfl

theorem objectSaid_filter (removed : List Key) (c : DispatchConfig) (k : Key) :
    objectSaid ((storedMembers c).filter fun m => removed.all fun k => m.1 != k.name) k =
      if k ∈ removed then none else some (k.get c) := by
  rw [objectSaid, find?_filter fun name => removed.all fun k => name != k.name]
  by_cases hk : k ∈ removed
  · rw [if_pos hk, if_neg]
    · rfl
    · simpa using ⟨k, hk, rfl⟩
  · rw [if_neg hk, if_pos]
    · exact objectSaid_storedMembers c k
    · simp only [List.all_eq_true, bne_iff_ne, ne_eq, name_inj]
      rintro k' hk' rfl
      exact hk hk'

/-- The configuration in normal form that says the same. -/
def normalized (c : DispatchConfig) : DispatchConfig := { c with jobs := c.jobs.bind normalJobs }

theorem normalized_of_isNormal (h : IsNormal c) : normalized c = c := by
  obtain ⟨jobs, shared, parallel⟩ := c
  cases jobs with
  | none => rfl
  | some n =>
    have hn : n ≠ 0 := fun hn => h (congrArg some hn)
    rw [normalized, Option.bind_some, normalJobs, if_neg hn]

/-- What a setting says is read as that setting in normal form. -/
theorem Key.read_get (c : DispatchConfig) (k : Key) :
    k.read (some (k.get c)) = some (k.get (normalized c)) := by
  cases k with
  | jobs =>
    obtain ⟨jobs, shared, parallel⟩ := c
    cases jobs with
    | none => rfl
    | some n =>
      rw [read_jobs, get, jobsScalar, readJobs, if_neg (by omega)]
      rfl
  | shared => rfl
  | parallel => rfl

theorem ofJson_toJson (c : DispatchConfig) : ofJson (toJson c) = .ok (normalized c) := by
  refine toOption_eq_some_iff.mp ((answers_object (storedMembers c) _).mpr fun k => ?_)
  rw [objectSaid_storedMembers, k.read_get]

/-- Keys that hold what goes without saying can be left out. -/
theorem ofJson_storedWithout {removed : List Key} (h : IsNormal c)
    (hremoved : ∀ k ∈ removed, k.get c = k.get {}) : ofJson (storedWithout removed c) = .ok c := by
  refine toOption_eq_some_iff.mp ((answers_object _ _).mpr fun k => ?_)
  rw [objectSaid_filter]
  split_ifs with hk
  · rw [k.read_none, hremoved k hk]
  · rw [k.read_get, normalized_of_isNormal h]

/-! ## Texts -/

theorem isExact_storedWithout (removed : List Key) (hjobs : ∀ n ∈ c.jobs, n < 2 ^ 64) :
    (storedWithout removed c).IsExact := by
  refine .object fun m hm => ?_
  have hmem := (List.mem_filter.mp hm).1
  simp only [storedMembers, List.mem_cons, List.not_mem_nil, or_false] at hmem
  rcases hmem with rfl | rfl | rfl
  · obtain ⟨jobs, shared, parallel⟩ := c
    cases jobs with
    | none => exact .null
    | some n => exact .number (hjobs n rfl)
  · exact .bool c.shared
  · exact .bool c.parallel

/-- **What is read is in normal form, and what is in normal form is read as it was stored.** Whatever
a configuration comes from, its number of jobs is not zero. A setting that is not given is as in the
standard configuration. A configuration that is stored comes back, with no number of jobs for zero;
it does so if it is put in writing, as far as its number of jobs is a word, and if keys are left out
that hold what goes without saying. -/
theorem normal_round_trip :
    (∀ j c, ofJson j = .ok c → IsNormal c) ∧
    (∀ ms c, ofMembers ms = .ok c → IsNormal c) ∧
    (∀ d env p c, loadFrom d env p = .ok c → IsNormal c) ∧
    (∀ firstWins documents c, (layered firstWins documents).bind ofMembers = .ok c → IsNormal c) ∧
    (∀ c, IsNormal c → ofJson (toJson c) = .ok c) ∧
    (∀ c, c.jobs = some 0 → ofJson (toJson c) = .ok { c with jobs := none }) ∧
    (∀ c removed, IsNormal c → (∀ k ∈ removed, k.get c = k.get {}) →
      ofJson (storedWithout removed c) = .ok c) ∧
    (∀ c removed, (∀ n ∈ c.jobs, n < 2 ^ 64) →
      Json.parse? (storedWithout removed c).render = some (storedWithout removed c)) ∧
    (∀ ms c, ofJson (.object ms) = .ok c → ∀ k : Key, Json.find? ms k.name = none →
      k.get c = k.get {}) ∧
    ∀ d env p ms c, FileGives d p ms → loadFrom d env p = .ok c → ∀ k : Key,
      (Environment.settings env).get? k.name = none → ms.get? k.name = none → k.get c = k.get {} := by
  refine ⟨fun _ _ => isNormal_of_ofJson, fun _ _ => isNormal_of_ofMembers,
    fun _ _ _ _ => isNormal_of_load, ?_, ?_, ?_, fun c removed => ofJson_storedWithout,
    fun c removed hjobs => Json.parse?_render (isExact_storedWithout removed hjobs), ?_, ?_⟩
  · intro firstWins documents c h
    obtain ⟨ms, -, h⟩ := bind_eq_ok_iff.mp h
    exact isNormal_of_ofMembers h
  · intro c h
    rw [ofJson_toJson, normalized_of_isNormal h]
  · intro c h
    rw [ofJson_toJson, normalized, h]
    rfl
  · intro ms c h k hk
    refine (answers_object ms).get_of_none (toOption_eq_some_iff.mpr h) ?_
    rw [objectSaid, hk]
    rfl
  · intro d env p ms c hfile h k henv hms
    have hread := ((hfile.readFrom env).answers c).mp (toOption_eq_some_iff.mpr h) k
    rw [sourceSaid_cons_of_none _ henv, sourceSaid_cons_of_none _ hms,
      read_sourceSaid_defaults] at hread
    exact (Option.some.inj hread).symm

/-- A configuration with one setting that goes without saying. -/
def sharedConfig : DispatchConfig := { jobs := some 8, shared := true }

theorem normal_round_trip_of_sharedConfig :
    IsNormal sharedConfig ∧ (∀ k ∈ [Key.parallel], k.get sharedConfig = k.get {}) ∧
      ofJson (toJson sharedConfig) = .ok sharedConfig ∧
      ofJson (storedWithout [.parallel] sharedConfig) = .ok sharedConfig ∧
      Json.parse? (toJson sharedConfig).render = some (toJson sharedConfig) := by
  obtain ⟨-, -, -, -, hstored, -, hwithout, htext, -⟩ := normal_round_trip
  have hnormal : IsNormal sharedConfig := by
    unfold IsNormal
    decide
  have hparallel : ∀ k ∈ [Key.parallel], k.get sharedConfig = k.get {} := by
    rintro k hk
    cases List.mem_singleton.mp hk
    rfl
  have hword : ∀ n ∈ sharedConfig.jobs, n < 2 ^ 64 := by
    rintro n hn
    cases hn
    decide
  refine ⟨hnormal, hparallel, hstored _ hnormal, hwithout _ _ hnormal hparallel, ?_⟩
  rw [← storedWithout_nil]
  exact htext _ [] hword

end Codemod.Config
