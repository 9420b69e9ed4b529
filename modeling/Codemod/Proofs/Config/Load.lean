import Codemod.Proofs.Config.Layers

set_option autoImplicit false

/-! # What a configuration is read from

Nothing is read before all sources are laid over each other. So each setting is what the highest
source that has it says, read as such a setting (`ReadFrom`), and what a lower source says about it
does not matter, even if that would be refused (`ReadFrom.inert`). The main statement is
`load_by_key`. -/

namespace Codemod.Config

/-! ## Reading -/

/-- What a setting comes to with some sources, the highest of them first. -/
def reading {α : Type} (sources : List Members) (key : String) (standard : α)
    (read : Scalar → Except Refusal α) : Except Refusal α :=
  match topmost? sources key with
  | none => .ok standard
  | some v => read v.scalar

theorem Value.StandsFor.scalar_eq {v w : Value} (h : v.StandsFor w) : v.scalar = w.scalar := by
  rcases h with rfl | ⟨hv, hw⟩
  · rfl
  · cases v <;> cases hv
    cases w <;> cases hw
    rfl

/-- The setting of a key is read from the highest source, and if it is refused then it is the value
there that is held against it. -/
theorem Shows.field {α : Type} {ms : Members} {sources : List Members} (h : Shows ms sources)
    (key : String) (standard : α) (read : Scalar → Except Refusal α) :
    match reading sources key standard read with
    | .ok x => Config.field ms key standard read = .ok x
    | .error refusal => ∃ found v,
        Config.field ms key standard read = .error (.value key found refusal) ∧
          topmost? sources key = some v ∧ found.StandsFor v := by
  have hkey := h key
  unfold reading Config.field
  generalize ms.get? key = found at hkey ⊢
  generalize topmost? sources key = top at hkey ⊢
  cases hkey with
  | none => rfl
  | @some found v hstands =>
    simp only [hstands.scalar_eq]
    cases read v.scalar with
    | ok x => rfl
    | error refusal => exact ⟨found, v, rfl, rfl, hstands⟩

/-- Why some sources give no configuration: the key with a value that is refused, and why it is. -/
inductive Refused (sources : List Members) : String → Refusal → Prop where
  | jobs {refusal : Refusal} :
    reading sources "jobs" none readJobs = .error refusal → Refused sources "jobs" refusal
  | parallel {refusal : Refusal} :
    reading sources "parallel" true readSwitch = .error refusal → Refused sources "parallel" refusal
  | shared {refusal : Refusal} :
    reading sources "shared" false readSwitch = .error refusal → Refused sources "shared" refusal

/-- An answer is read from some sources: each setting is what the highest source says that has it,
and there is no configuration exactly if one of them is refused. -/
structure ReadFrom (answer : Except Error DispatchConfig) (sources : List Members) : Prop where
  ok (c : DispatchConfig) : answer = .ok c ↔
    reading sources "jobs" none readJobs = .ok c.jobs ∧
      reading sources "parallel" true readSwitch = .ok c.parallel ∧
        reading sources "shared" false readSwitch = .ok c.shared
  fails : (∃ error, answer = .error error) ↔ ∃ key refusal, Refused sources key refusal
  /-- What is told is a key and its value in the highest source. -/
  error (error : Error) : answer = .error error → ∃ key found refusal v,
    error = .value key found refusal ∧ Refused sources key refusal ∧
      topmost? sources key = some v ∧ found.StandsFor v

theorem ReadFrom.of_ok {answer : Except Error DispatchConfig} {sources : List Members}
    {c : DispatchConfig} (h : answer = .ok c)
    (hjobs : reading sources "jobs" none readJobs = .ok c.jobs)
    (hparallel : reading sources "parallel" true readSwitch = .ok c.parallel)
    (hshared : reading sources "shared" false readSwitch = .ok c.shared) :
    ReadFrom answer sources := by
  subst h
  refine ⟨fun c' => ⟨?_, ?_⟩, ⟨?_, ?_⟩, ?_⟩
  · rintro heq
    cases heq
    exact ⟨hjobs, hparallel, hshared⟩
  · rintro ⟨hjobs', hparallel', hshared'⟩
    rw [hjobs'] at hjobs
    rw [hparallel'] at hparallel
    rw [hshared'] at hshared
    cases c
    cases c'
    simp_all
  · rintro ⟨error, herror⟩
    cases herror
  · rintro ⟨key, refusal, hrefused⟩
    cases hrefused <;> simp_all
  · intro error herror
    cases herror

theorem ReadFrom.of_error {answer : Except Error DispatchConfig} {sources : List Members}
    {key : String} {found v : Value} {refusal : Refusal}
    (h : answer = .error (.value key found refusal)) (hrefused : Refused sources key refusal)
    (htop : topmost? sources key = some v) (hstands : found.StandsFor v) :
    ReadFrom answer sources := by
  subst h
  refine ⟨fun c => ⟨?_, ?_⟩, ⟨fun _ => ⟨key, refusal, hrefused⟩, fun _ => ⟨_, rfl⟩⟩, ?_⟩
  · rintro heq
    cases heq
  · rintro ⟨hjobs, hparallel, hshared⟩
    cases hrefused <;> simp_all
  · intro error herror
    cases herror
    exact ⟨key, found, refusal, v, rfl, hrefused, htop, hstands⟩

/-- A table is read as the sources that it shows. -/
theorem Shows.readFrom {ms : Members} {sources : List Members} (h : Shows ms sources) :
    ReadFrom (ofMembers ms) sources := by
  have hjobs := h.field "jobs" none readJobs
  have hparallel := h.field "parallel" true readSwitch
  have hshared := h.field "shared" false readSwitch
  -- What is refused first ends the reading; with nothing refused there is a configuration.
  cases rjobs : reading sources "jobs" none readJobs with
  | error refusal =>
    rw [rjobs] at hjobs
    obtain ⟨found, v, hfield, htop, hstands⟩ := hjobs
    have hanswer : ofMembers ms = .error (.value "jobs" found refusal) := by
      simp only [ofMembers, hfield, bind, Except.bind]
    exact .of_error hanswer (.jobs rjobs) htop hstands
  | ok jobs =>
  rw [rjobs] at hjobs
  cases rparallel : reading sources "parallel" true readSwitch with
  | error refusal =>
    rw [rparallel] at hparallel
    obtain ⟨found, v, hfield, htop, hstands⟩ := hparallel
    have hanswer : ofMembers ms = .error (.value "parallel" found refusal) := by
      simp only [ofMembers, hjobs, hfield, bind, Except.bind]
    exact .of_error hanswer (.parallel rparallel) htop hstands
  | ok parallel =>
  rw [rparallel] at hparallel
  cases rshared : reading sources "shared" false readSwitch with
  | error refusal =>
    rw [rshared] at hshared
    obtain ⟨found, v, hfield, htop, hstands⟩ := hshared
    have hanswer : ofMembers ms = .error (.value "shared" found refusal) := by
      simp only [ofMembers, hjobs, hparallel, hfield, bind, Except.bind]
    exact .of_error hanswer (.shared rshared) htop hstands
  | ok shared =>
  rw [rshared] at hshared
  have hanswer : ofMembers ms = .ok { jobs, shared, parallel } := by
    simp only [ofMembers, hjobs, hparallel, hshared, bind, Except.bind, pure, Except.pure]
  exact .of_ok hanswer rjobs rparallel rshared

/-! ## What does not matter -/

/-- The keys that mean something. -/
def settingKeys : List String := ["jobs", "parallel", "shared"]

/-- Answers that are read from sources of which the highest say the same come to the same, whatever
a lower one says about a key that a higher one has. -/
theorem ReadFrom.inert {answer answer' : Except Error DispatchConfig}
    {above below below' : List Members} (h : ReadFrom answer (above ++ below))
    (h' : ReadFrom answer' (above ++ below'))
    (hkeys : ∀ key ∈ settingKeys,
      (topmost? above key).isSome = true ∨ topmost? below key = topmost? below' key) :
    answer.toOption = answer'.toOption := by
  have htop : ∀ key ∈ settingKeys, topmost? (above ++ below) key = topmost? (above ++ below') key := by
    intro key hkey
    rw [topmost?_append, topmost?_append]
    rcases hkeys key hkey with habove | hsame
    · obtain ⟨v, hv⟩ := Option.isSome_iff_exists.1 habove
      rw [hv]
      rfl
    · rw [hsame]
  have hreading : ∀ {α : Type} (key : String) (standard : α) (read : Scalar → Except Refusal α),
      key ∈ settingKeys → reading (above ++ below) key standard read =
        reading (above ++ below') key standard read := by
    intro α key standard read hkey
    rw [reading, reading, htop key hkey]
  have hok : ∀ c, answer = .ok c ↔ answer' = .ok c := by
    intro c
    rw [h.ok, h'.ok, hreading "jobs" _ _ (by decide), hreading "parallel" _ _ (by decide),
      hreading "shared" _ _ (by decide)]
  cases answer with
  | ok c => rw [(hok c).1 rfl]
  | error e =>
    cases answer' with
    | error e' => rfl
    | ok c => cases (hok c).2 rfl

/-! ## Sources of a configuration -/

theorem distinct_defaults : DistinctKeys defaults := by
  unfold DistinctKeys
  decide

/-- What the file that a path stands for gives, which is nothing if there is none. -/
inductive FileGives (d : Disk) (p : Path) : Members → Prop where
  | nothing : findFile? d p = none → FileGives d p []
  | document {file : Path} {text : List Char} {ms : Members} :
    findFile? d p = some file → readDocument d file = .ok text → ofDocument text = .ok ms →
      FileGives d p ms

theorem FileGives.distinct {d : Disk} {p : Path} {ms : Members} (h : FileGives d p ms) :
    DistinctKeys ms := by
  cases h with
  | nothing => exact List.nodup_nil
  | document _ _ hdocument => exact distinct_ofDocument hdocument

/-- The environment over the file over what goes without saying. -/
theorem FileGives.readFrom {d : Disk} {p : Path} {ms : Members} (h : FileGives d p ms)
    (env : List (String × String)) :
    ReadFrom (loadFrom d env p) [Environment.settings env, ms, defaults] := by
  have hload : loadFrom d env p =
      ofMembers (overMembers (Environment.settings env) (overMembers ms defaults)) := by
    cases h with
    | nothing hnone =>
      rw [loadFrom, hnone]
      rfl
    | document hfile hread hdocument =>
      rw [loadFrom, hfile, Option.map_some, hread]
      simp only [load, Except.bind, hdocument, bind]
  rw [hload]
  exact ((Shows.single _).over (distinct_settings env)
    ((Shows.single ms).over h.distinct (Shows.single defaults))).readFrom

/-- Documents and what goes without saying, the highest first. -/
def ranked (firstWins : Bool) (tables : List Members) : List Members :=
  if firstWins then defaults :: tables else tables.reverse ++ [defaults]

/-- One document after the other is laid over those before it, or under them. -/
theorem shows_layered_from {firstWins : Bool} {documents : List (List Char)} {tables : List Members}
    (h : documents.mapM ofDocument = .ok tables) {ms : Members} {sources : List Members}
    (hdistinct : DistinctKeys ms) (hshows : Shows ms sources) :
    ∃ ms', (documents.foldlM (fun ms text => do
        let more ← ofDocument text
        return if firstWins then overMembers ms more else overMembers more ms) ms) = .ok ms' ∧
      Shows ms' (if firstWins then sources ++ tables else tables.reverse ++ sources) := by
  induction documents generalizing tables ms sources with
  | nil =>
    cases h
    refine ⟨ms, rfl, ?_⟩
    cases firstWins <;> simpa using hshows
  | cons text documents ih =>
    obtain ⟨more, htext, htables⟩ : ∃ more, ofDocument text = .ok more ∧
        ∃ rest, documents.mapM ofDocument = .ok rest ∧ tables = more :: rest := by
      rw [List.mapM_cons] at h
      cases htext : ofDocument text with
      | error e =>
        rw [htext] at h
        cases h
      | ok more =>
        cases hrest : documents.mapM ofDocument with
        | error e =>
          rw [htext, hrest] at h
          cases h
        | ok rest =>
          rw [htext, hrest] at h
          cases h
          exact ⟨more, rfl, rest, rfl, rfl⟩
    obtain ⟨rest, hrest, rfl⟩ := htables
    have hmore := distinct_ofDocument htext
    simp only [List.foldlM_cons, htext, bind, Except.bind, pure, Except.pure]
    cases firstWins with
    | false =>
      obtain ⟨ms', hms', hshows'⟩ := ih hrest (distinct_overMembers more hdistinct)
        ((Shows.single more).over hmore hshows)
      exact ⟨ms', hms', by simpa using hshows'⟩
    | true =>
      obtain ⟨ms', hms', hshows'⟩ := ih hrest (distinct_overMembers ms hmore)
        (hshows.over hdistinct (Shows.single more))
      exact ⟨ms', hms', by simpa using hshows'⟩

theorem shows_layered {firstWins : Bool} {documents : List (List Char)} {tables : List Members}
    (h : documents.mapM ofDocument = .ok tables) :
    ∃ ms, layered firstWins documents = .ok ms ∧ Shows ms (ranked firstWins tables) :=
  shows_layered_from h distinct_defaults (Shows.single defaults)

/-- **Each setting is read from the highest source that has it.** For a configuration from a file and
an environment that is the environment, then the file, then what goes without saying; for one from
documents that are put over each other it is the last document that has it, or the first if what is
there first wins. It does not matter what a lower source says about a key that a higher one has: it
can say something else or nothing, or something that would be refused. -/
theorem load_by_key :
    (∀ d env p ms, FileGives d p ms →
      ReadFrom (loadFrom d env p) [Environment.settings env, ms, defaults]) ∧
    (∀ d d' env p p' ms ms', FileGives d p ms → FileGives d' p' ms' →
      (∀ key ∈ settingKeys, ((Environment.settings env).get? key).isSome = true ∨
        ms.get? key = ms'.get? key) →
      (loadFrom d env p).toOption = (loadFrom d' env p').toOption) ∧
    (∀ firstWins documents tables, documents.mapM ofDocument = .ok tables →
      ReadFrom ((layered firstWins documents).bind ofMembers) (ranked firstWins tables)) ∧
    ∀ firstWins documents documents' tables tables' above below below',
      documents.mapM ofDocument = .ok tables → documents'.mapM ofDocument = .ok tables' →
      ranked firstWins tables = above ++ below → ranked firstWins tables' = above ++ below' →
      (∀ key ∈ settingKeys, (topmost? above key).isSome = true ∨
        topmost? below key = topmost? below' key) →
      ((layered firstWins documents).bind ofMembers).toOption =
        ((layered firstWins documents').bind ofMembers).toOption := by
  have hlayered : ∀ firstWins documents tables, documents.mapM ofDocument = .ok tables →
      ReadFrom ((layered firstWins documents).bind ofMembers) (ranked firstWins tables) := by
    intro firstWins documents tables hdocuments
    obtain ⟨ms, hms, hshows⟩ := shows_layered hdocuments
    rw [hms]
    exact hshows.readFrom
  refine ⟨fun d env p ms h => h.readFrom env, ?_, hlayered, ?_⟩
  · intro d d' env p p' ms ms' h h' hkeys
    have hread : ReadFrom (loadFrom d env p) ([Environment.settings env] ++ [ms, defaults]) :=
      h.readFrom env
    refine hread.inert (h'.readFrom env) ?_
    intro key hkey
    refine (hkeys key hkey).imp (fun habove => ?_) fun hsame => ?_
    · rw [topmost?, List.findSome?_cons]
      revert habove
      cases (Environment.settings env).get? key <;> simp
    · simp only [topmost?, List.findSome?_cons, hsame]
  · intro firstWins documents documents' tables tables' above below below' h h' habove habove' hkeys
    have hread := hlayered firstWins _ _ h
    have hread' := hlayered firstWins _ _ h'
    rw [habove] at hread
    rw [habove'] at hread'
    exact hread.inert hread' hkeys

/-- A document in which nothing is right. -/
def wrongText : List Char := "jobs = -3\nshared = \"maybe\"".toList

/-- A file with that document. -/
def wrongFile : Disk where
  entries := [([.ofString fileName], .file 0)]
  contents := [(0, .bytes (Encoding.Utf8.encode wrongText))]
  nextKey := 1

/-- Variables that leave nothing to a file. -/
def fullEnvironment : List (String × String) :=
  [("BPC_JOBS", "8"), ("bpc_shared", "off"), ("BPC_PARALLEL", "yes")]

theorem eq_ok_of_toOption {ε α : Type} {e : Except ε α} {x : α} (h : e.toOption = some x) :
    e = .ok x := by
  cases e with
  | error e => cases h
  | ok y => exact congrArg Except.ok (Option.some.inj h)

theorem exists_fileGives_wrongFile : ∃ ms, FileGives wrongFile (.ofString fileName) ms := by
  have hread : ((findFile? wrongFile (.ofString fileName)).bind fun file =>
      (readDocument wrongFile file).toOption) = some wrongText := by decide +kernel
  have hparsed : (ofDocument wrongText).toOption.isSome = true := by decide +kernel
  obtain ⟨file, hfile, htext⟩ := Option.bind_eq_some_iff.1 hread
  obtain ⟨ms, hms⟩ := Option.isSome_iff_exists.1 hparsed
  exact ⟨ms, .document hfile (eq_ok_of_toOption htext) (eq_ok_of_toOption hms)⟩

theorem isSome_fullEnvironment : settingKeys.all (fun key =>
    ((Environment.settings fullEnvironment).get? key).isSome) = true := by
  decide +kernel

theorem fileGives_nothing : FileGives {} (.ofString fileName) [] :=
  .nothing (by decide +kernel)

theorem load_by_key_of_wrongFile :
    (∃ ms, FileGives wrongFile (.ofString fileName) ms) ∧
      (loadFrom wrongFile [] (.ofString fileName)).toOption = none ∧
      (loadFrom wrongFile fullEnvironment (.ofString fileName)).toOption =
        (loadFrom {} fullEnvironment (.ofString fileName)).toOption ∧
      (loadFrom {} fullEnvironment (.ofString fileName)).toOption = some { jobs := some 8 } := by
  obtain ⟨ms, hfile⟩ := exists_fileGives_wrongFile
  refine ⟨⟨ms, hfile⟩, by decide +kernel, ?_, by decide +kernel⟩
  exact load_by_key.2.1 _ _ _ _ _ _ _ hfile fileGives_nothing fun key hkey =>
    .inl (List.all_eq_true.1 isSome_fullEnvironment key hkey)

end Codemod.Config
