import Codemod.Proofs.Disk.Change

set_option autoImplicit false

/-! # What actions on a tree come to

For each action on directories and files one equation that says what it comes to and what tree it
leaves, and from that equation that it keeps trees in good form. -/

namespace Codemod.Disk

variable {d : Disk} {l : Location} {name : Name} {p : Path}

/-! ## Looking and asking -/

theorem run_look {α : Type} (f : Disk → Except PathError α) (d : Disk) :
    (look f).run.run d = (f d, d) := by
  rw [look, run_bind, run_get]
  dsimp only
  rcases f d with e | a
  · rfl
  · rfl

theorem run_look_bind {α β : Type} (f : Disk → Except PathError α) (next : α → Action β)
    (d : Disk) :
    (look f >>= next).run.run d =
      match f d with
      | .ok a => (next a).run.run d
      | .error e => (.error e, d) := by
  rw [run_bind, run_look]
  rcases f d with e | a
  · rfl
  · rfl

theorem run_requireWritable (l : Location) (d : Disk) :
    (requireWritable l).run.run d =
      (if (d.rightsAt l).writable then .ok () else .error .denied, d) := by
  rw [requireWritable, run_bind, run_get]
  dsimp only
  cases (d.rightsAt l).writable
  · rfl
  · rfl

theorem run_requireWritable_bind {α : Type} (l : Location) (next : Unit → Action α) (d : Disk) :
    (requireWritable l >>= next).run.run d =
      if (d.rightsAt l).writable then (next ()).run.run d else (.error .denied, d) := by
  rw [run_bind, run_requireWritable]
  cases (d.rightsAt l).writable
  · rfl
  · rfl

/-! ## Directories -/

theorem run_putNew (l : Location) (name : Name) (entry : Entry) (d : Disk) :
    (putNew l name entry).run.run d =
      if (d.rightsAt l).writable then (.ok (), d.put (l ++ [name]) entry)
      else (.error .denied, d) := by
  rw [putNew, run_requireWritable_bind]
  rfl

theorem run_makeDirectory (p : Path) (d : Disk) :
    (makeDirectory p).run.run d =
      match d.resolveName p with
      | .error e => (.error e, d)
      | .ok (.entry _) => (.error .alreadyExists, d)
      | .ok (.vacant l name) =>
        if (d.rightsAt l).writable then (.ok (), d.put (l ++ [name]) (.directory {}))
        else (.error .denied, d) := by
  rw [makeDirectory, run_look_bind]
  rcases d.resolveName p with e | l | ⟨l, name⟩
  · rfl
  · rfl
  · exact run_putNew ..

/-- A directory is made where a name is free, or nothing changes. -/
theorem run_makeDirectory_cases (p : Path) (d : Disk) :
    (∃ e, (makeDirectory p).run.run d = (.error e, d)) ∨
      ∃ l name, d.resolveName p = .ok (.vacant l name) ∧
        (makeDirectory p).run.run d = (.ok (), d.put (l ++ [name]) (.directory {})) := by
  rw [run_makeDirectory]
  rcases d.resolveName p with e | l | ⟨l, name⟩
  · exact .inl ⟨e, rfl⟩
  · exact .inl ⟨_, rfl⟩
  · dsimp only
    split
    · exact .inr ⟨l, name, rfl, rfl⟩
    · exact .inl ⟨_, rfl⟩

theorem run_makeDirectory_error {e : PathError} {d' : Disk}
    (h : (makeDirectory p).run.run d = (.error e, d')) : d' = d := by
  rcases run_makeDirectory_cases p d with ⟨e', hrun⟩ | ⟨l, name, -, hrun⟩
  · cases hrun.symm.trans h
    rfl
  · cases hrun.symm.trans h

/-- Something is missing for a directory exactly if it is on the way to the name. -/
theorem run_makeDirectory_notFound_iff :
    ((makeDirectory p).run.run d).1 = .error .notFound ↔ d.resolveName p = .error .notFound := by
  rw [run_makeDirectory]
  rcases d.resolveName p with e | l | ⟨l, name⟩
  · simp
  · simp
  · dsimp only
    split
    · simp
    · simp

namespace WellFormed

theorem keeps_makeDirectory (p : Path) : Keeps WellFormed (makeDirectory p) := by
  intro d hd
  rcases run_makeDirectory_cases p d with ⟨e, hrun⟩ | ⟨l, name, hfound, hrun⟩
  · rw [hrun]
    exact hd
  · rw [hrun]
    exact hd.putNew (hd.isThere_of_locate hfound) fun key hkey => by cases hkey

end WellFormed

/-! ## Directories that are there -/

theorem isDirectory_iff :
    d.isDirectory p = true ↔ ∃ l, d.place? p = .ok l ∧ d.hasDirectory l = true := by
  rw [isDirectory, status?]
  rcases d.place? p with e | l
  · simp [Except.toOption]
  · simp [Except.toOption, Disk.hasDirectory]

/-- If a path leads to something then its name is taken. -/
theorem exists_resolveName_of_place? (h : d.place? p = .ok l) :
    ∃ m, d.resolveName p = .ok (.entry m) := by
  obtain ⟨hne, hpass, hstart, hchase⟩ := place?_eq_ok_iff.1 h
  suffices hlast : ∃ m, d.chase false linkLimit false (d.startOf p) p.segments = .ok (.entry m) by
    obtain ⟨m, hm⟩ := hlast
    exact ⟨m, locate_eq_ok_iff.2 ⟨hne, hpass, hstart, hm⟩⟩
  rcases List.eq_nil_or_concat p.segments with hnil | ⟨init, n, hsegments⟩
  · rw [hnil]
    exact ⟨_, chase_nil ..⟩
  rw [List.concat_eq_append] at hsegments
  rw [hsegments, chase_append _ _ _ _ _ _ (List.cons_ne_nil _ _)] at hchase ⊢
  rcases henter : d.enter linkLimit (d.startOf p) init with e | ⟨left, l'⟩
  · rw [henter] at hchase
    cases hchase
  rw [henter] at hchase
  dsimp only at hchase ⊢
  rw [chase_singleton] at hchase ⊢
  rcases hturn : d.turn l' n with e | m | target
  · rw [hturn] at hchase
    cases e
    case notADirectory => exact ⟨_, rfl⟩
    all_goals cases hchase
  · exact ⟨m, rfl⟩
  · exact ⟨_, rfl⟩

theorem exists_resolveName_of_isDirectory (h : d.isDirectory p = true) :
    ∃ l, d.resolveName p = .ok (.entry l) := by
  obtain ⟨l, hplace, -⟩ := isDirectory_iff.1 h
  exact exists_resolveName_of_place? hplace

/-! ## Directories above directories -/

/-- Make a directory with none missing above it. One that is there will do. -/
def makeOrFind (p : Path) : Action Unit := fun d =>
  match makeDirectory p d with
  | (.ok _, d) => (.ok (), d)
  | (.error e, d) => (if d.isDirectory p then .ok () else .error e, d)

theorem run_makeOrFind (p : Path) (d : Disk) :
    (makeOrFind p).run.run d =
      match (makeDirectory p).run.run d with
      | (.ok _, d) => (.ok (), d)
      | (.error e, d) => (if d.isDirectory p then .ok () else .error e, d) := rfl

theorem run_makeOrFind_of_isDirectory (h : d.isDirectory p = true) :
    (makeOrFind p).run.run d = (.ok (), d) := by
  obtain ⟨l, hfound⟩ := exists_resolveName_of_isDirectory h
  rw [run_makeOrFind, run_makeDirectory, hfound]
  simp only [h, if_true]

/-- Nothing is done first if nothing is missing above. -/
theorem run_ensureDirectory_of_ne (h : d.resolveName p ≠ .error .notFound) (above : Action Unit) :
    (ensureDirectory p above).run.run d = (makeOrFind p).run.run d := by
  have hmake : ((makeDirectory p).run.run d).1 ≠ .error .notFound :=
    fun hmake => h (run_makeDirectory_notFound_iff.1 hmake)
  change ensureDirectory p above d = makeOrFind p d
  rw [ensureDirectory, makeOrFind]
  rcases hrun : makeDirectory p d with ⟨e | ⟨⟩, d'⟩
  · cases e
    case notFound => exact absurd (congrArg Prod.fst hrun) hmake
    all_goals rfl
  · rfl

/-- What is missing above is made first. -/
theorem run_ensureDirectory_of_notFound (h : d.resolveName p = .error .notFound)
    (above : Action Unit) :
    (ensureDirectory p above).run.run d =
      match above.run.run d with
      | (.error e, d) => (.error e, d)
      | (.ok _, d) => (makeOrFind p).run.run d := by
  have hmake : makeDirectory p d = (.error .notFound, d) := by
    have hrun := run_makeDirectory p d
    rwa [h] at hrun
  change ensureDirectory p above d = _
  rw [ensureDirectory, hmake]
  rfl

theorem run_ensureDirectory_of_isDirectory (h : d.isDirectory p = true) (above : Action Unit) :
    (ensureDirectory p above).run.run d = (.ok (), d) := by
  obtain ⟨l, hfound⟩ := exists_resolveName_of_isDirectory h
  rw [run_ensureDirectory_of_ne (by simp [hfound]), run_makeOrFind_of_isDirectory h]

/-- The path of a directory, or one that some of its first parts make. -/
def AtOrAbove (p q : Path) : Prop := q = p ∨ ∃ cs, cs <+: p.components ∧ q = Path.ofComponents cs

section

variable {P : Disk → Prop}

theorem keeps_makeOrFind (hmake : Keeps P (makeDirectory p)) : Keeps P (makeOrFind p) := by
  intro d hd
  have hkept := hmake d hd
  rw [run_makeOrFind]
  rcases hrun : (makeDirectory p).run.run d with ⟨e | _, d'⟩
  · rw [hrun] at hkept
    exact hkept
  · rw [hrun] at hkept
    exact hkept

theorem keeps_ensureDirectory (hmake : Keeps P (makeDirectory p)) {above : Action Unit}
    (habove : Keeps P above) : Keeps P (ensureDirectory p above) := by
  intro d hd
  by_cases hmissing : d.resolveName p = .error .notFound
  · have hkept := habove d hd
    rw [run_ensureDirectory_of_notFound hmissing]
    rcases hrun : above.run.run d with ⟨e | _, d'⟩
    · rw [hrun] at hkept
      exact hkept
    · rw [hrun] at hkept
      exact keeps_makeOrFind hmake d' hkept
  · rw [run_ensureDirectory_of_ne hmissing]
    exact keeps_makeOrFind hmake d hd

theorem keeps_ensureParts {cs : List Component}
    (hmake : ∀ bs, bs <:+ cs → Keeps P (makeDirectory (Path.ofComponents bs.reverse))) :
    Keeps P (ensureParts cs) := by
  induction cs using ensureParts.induct with
  | case1 => exact .pure ()
  | case2 => exact keeps_ensureDirectory (hmake [.root] List.suffix_rfl) (.throw _)
  | case3 c back hne ih =>
    rw [ensureParts]
    · exact keeps_ensureDirectory (hmake _ List.suffix_rfl)
        (ih fun bs hbs => hmake bs (hbs.trans (List.suffix_cons ..)))
    · exact hne

/-- Making directories keeps what making each of them keeps. -/
theorem keeps_ensureDirectories (hmake : ∀ q, AtOrAbove p q → Keeps P (makeDirectory q)) :
    Keeps P (ensureDirectories p) := by
  rw [ensureDirectories]
  split
  · exact .pure ()
  · refine keeps_ensureDirectory (hmake p (.inl rfl)) ?_
    split
    · exact .throw _
    · exact .throw _
    · rename_i c back _ hparts
      refine keeps_ensureParts fun bs hbs => hmake _ (.inr ⟨bs.reverse, ?_, rfl⟩)
      rw [← List.reverse_suffix, List.reverse_reverse, hparts]
      exact hbs.trans (List.suffix_cons ..)

end

theorem keeps_ensureParts_wellFormed (cs : List Component) : Keeps WellFormed (ensureParts cs) :=
  keeps_ensureParts fun _ _ => WellFormed.keeps_makeDirectory _

/-! ## Files and links -/

theorem run_write (p : Path) (content : Content) (d : Disk) :
    (write p content).run.run d =
      match d.resolve p true with
      | .error e => (.error e, d)
      | .ok (.vacant l name) =>
        if p.endsInSeparator then (.error .isADirectory, d)
        else if (d.rightsAt l).writable then (.ok (), d.addFile (l ++ [name]) content)
        else (.error .denied, d)
      | .ok (.entry l) =>
        match d.at? l with
        | some (.file key) =>
          if (d.rightsAt l).writable then (.ok (), d.setContent key content)
          else (.error .denied, d)
        | _ => (.error .isADirectory, d) := by
  rw [write, run_look_bind]
  rcases d.resolve p true with e | l | ⟨l, name⟩
  · rfl
  · dsimp only
    rw [run_bind, run_get]
    dsimp only
    rcases d.at? l with _ | rights | key | target
    · rfl
    · rfl
    · exact run_requireWritable_bind ..
    · rfl
  · dsimp only
    cases p.endsInSeparator
    · exact run_requireWritable_bind ..
    · rfl

/-- A file is written where a name is free, or gets another content, or nothing changes. -/
theorem run_write_cases (p : Path) (content : Content) (d : Disk) :
    (∃ e, (write p content).run.run d = (.error e, d)) ∨
      (∃ l name, d.resolve p true = .ok (.vacant l name) ∧ p.endsInSeparator = false ∧
        (d.rightsAt l).writable = true ∧
        (write p content).run.run d = (.ok (), d.addFile (l ++ [name]) content)) ∨
      ∃ l key, d.place? p = .ok l ∧ d.at? l = some (.file key) ∧ (d.rightsAt l).writable = true ∧
        (write p content).run.run d = (.ok (), d.setContent key content) := by
  rw [run_write, place?]
  rcases d.resolve p true with e | l | ⟨l, name⟩
  · exact .inl ⟨e, rfl⟩
  · dsimp only
    rcases hat : d.at? l with _ | rights | key | target
    · exact .inl ⟨_, rfl⟩
    · exact .inl ⟨_, rfl⟩
    · dsimp only
      split
      · exact .inr (.inr ⟨l, key, rfl, hat, ‹_›, rfl⟩)
      · exact .inl ⟨_, rfl⟩
    · exact .inl ⟨_, rfl⟩
  · dsimp only
    split
    · exact .inl ⟨_, rfl⟩
    · rename_i hslash
      split
      · exact .inr (.inl ⟨l, name, rfl, by simpa using hslash, ‹_›, rfl⟩)
      · exact .inl ⟨_, rfl⟩

theorem run_writeNew (p : Path) (content : Content) (d : Disk) :
    (writeNew p content).run.run d =
      match d.resolve p false with
      | .error e => (.error e, d)
      | .ok (.entry _) => (.error .alreadyExists, d)
      | .ok (.vacant l name) =>
        if p.endsInSeparator then (.error .isADirectory, d)
        else if (d.rightsAt l).writable then (.ok (), d.addFile (l ++ [name]) content)
        else (.error .denied, d) := by
  rw [writeNew, run_look_bind]
  rcases d.resolve p false with e | l | ⟨l, name⟩
  · rfl
  · rfl
  · dsimp only
    cases p.endsInSeparator
    · exact run_requireWritable_bind ..
    · rfl

/-- A file is written where a name is free, or nothing changes. -/
theorem run_writeNew_cases (p : Path) (content : Content) (d : Disk) :
    (∃ e, (writeNew p content).run.run d = (.error e, d)) ∨
      ∃ l name, d.resolve p false = .ok (.vacant l name) ∧
        (writeNew p content).run.run d = (.ok (), d.addFile (l ++ [name]) content) := by
  rw [run_writeNew]
  rcases d.resolve p false with e | l | ⟨l, name⟩
  · exact .inl ⟨e, rfl⟩
  · exact .inl ⟨_, rfl⟩
  · dsimp only
    split
    · exact .inl ⟨_, rfl⟩
    · split
      · exact .inr ⟨l, name, rfl, rfl⟩
      · exact .inl ⟨_, rfl⟩

/-- A link is made where a name is free, or nothing changes. -/
theorem run_makeLink_cases (target p : Path) (d : Disk) :
    (∃ e, (makeLink target p).run.run d = (.error e, d)) ∨
      ∃ l name, d.resolveName p = .ok (.vacant l name) ∧
        (makeLink target p).run.run d = (.ok (), d.put (l ++ [name]) (.link target)) := by
  rw [makeLink]
  split
  · exact .inl ⟨_, rfl⟩
  · dsimp only
    split
    · exact .inl ⟨_, rfl⟩
    · rw [run_look_bind]
      rcases d.resolveName p with e | l | ⟨l, name⟩
      · exact .inl ⟨e, rfl⟩
      · exact .inl ⟨_, rfl⟩
      · dsimp only
        split
        · exact .inl ⟨_, rfl⟩
        · rw [run_putNew]
          split
          · exact .inr ⟨l, name, rfl, rfl⟩
          · exact .inl ⟨_, rfl⟩

/-- What a path names comes to one more place, where a name is free, or nothing changes. -/
theorem run_makeHardLink_cases (source p : Path) (d : Disk) :
    (∃ e, (makeHardLink source p).run.run d = (.error e, d)) ∨
      ∃ m entry l name, d.place? source false = .ok m ∧ d.at? m = some entry ∧
        d.resolveName p = .ok (.vacant l name) ∧
        (makeHardLink source p).run.run d = (.ok (), d.put (l ++ [name]) entry) := by
  rw [makeHardLink, run_look_bind]
  rcases d.place? source false with e | m
  · exact .inl ⟨e, rfl⟩
  · dsimp only
    rw [run_bind, run_get]
    dsimp only
    rcases hat : d.at? m with _ | rights | key | target
    · exact .inl ⟨_, rfl⟩
    · exact .inl ⟨_, rfl⟩
    all_goals
      dsimp only
      rw [run_look_bind]
      rcases d.resolveName p with e | l | ⟨l, name⟩
      · exact .inl ⟨e, rfl⟩
      · exact .inl ⟨_, rfl⟩
      · dsimp only
        split
        · exact .inl ⟨_, rfl⟩
        · rw [run_putNew]
          split
          · exact .inr ⟨m, _, l, name, rfl, hat, rfl, rfl⟩
          · exact .inl ⟨_, rfl⟩

theorem run_removeFile (p : Path) (d : Disk) :
    (removeFile p).run.run d =
      match d.place? p false with
      | .error e => (.error e, d)
      | .ok l =>
        match d.at? l with
        | some (.directory _) | none => (.error .isADirectory, d)
        | some _ =>
          if (d.rightsAt l.dropLast).writable then (.ok (), d.cut l) else (.error .denied, d) := by
  rw [removeFile, run_look_bind]
  rcases d.place? p false with e | l
  · rfl
  · dsimp only
    rw [run_bind, run_get]
    dsimp only
    rcases d.at? l with _ | rights | key | target
    · rfl
    · rfl
    · exact run_requireWritable_bind ..
    · exact run_requireWritable_bind ..

/-- A file or a link is removed, or nothing changes. -/
theorem run_removeFile_cases (p : Path) (d : Disk) :
    (∃ e, (removeFile p).run.run d = (.error e, d)) ∨
      ∃ l, d.place? p false = .ok l ∧ d.hasDirectory l = false ∧
        (removeFile p).run.run d = (.ok (), d.cut l) := by
  rw [run_removeFile]
  rcases d.place? p false with e | l
  · exact .inl ⟨e, rfl⟩
  · dsimp only
    rcases hat : d.at? l with _ | rights | key | target
    · exact .inl ⟨_, rfl⟩
    · exact .inl ⟨_, rfl⟩
    all_goals
      dsimp only
      split
      · exact .inr ⟨l, rfl, by simp [hasDirectory, hat, isDirectoryEntry], rfl⟩
      · exact .inl ⟨_, rfl⟩

theorem run_setRights (p : Path) (rights : Rights) (d : Disk) :
    (setRights p rights).run.run d =
      match d.place? p with
      | .error e => (.error e, d)
      | .ok l =>
        match d.at? l with
        | some (.file key) =>
          (.ok (), { d with
            fileRights := (key, rights) :: d.fileRights.filter fun r => r.1 != key })
        | _ => (.ok (), d.put l (.directory rights)) := by
  rw [setRights, run_look_bind]
  rcases d.place? p with e | l
  · rfl
  · dsimp only
    rw [run_bind, run_get]
    dsimp only
    rcases d.at? l with _ | old | key | target
    · rfl
    · rfl
    · rfl
    · rfl

/-- A directory is emptied before it goes, and stays if its path does not name it. -/
theorem run_removeTree (p : Path) (d : Disk) :
    (removeTree p).run.run d =
      match d.place? p false with
      | .error e => (.error e, d)
      | .ok l =>
        match d.at? l with
        | some (.directory _) =>
          if d.entries.any fun e => l.isPrefixOf e.1 && d.isSealedOff e.1 then (.error .denied, d)
          else if !(d.cutBelow l).namesDirectory p then (.error .notPossible, d.cutBelow l)
          else if ((d.cutBelow l).rightsAt l.dropLast).writable then
            (.ok (), (d.cutBelow l).cut l)
          else (.error .denied, d.cutBelow l)
        | some (.link _) =>
          if (d.rightsAt l.dropLast).writable then (.ok (), d.cut l) else (.error .denied, d)
        | _ => (.error .notADirectory, d) := by
  rw [removeTree, run_look_bind]
  rcases d.place? p false with e | l
  · rfl
  · dsimp only
    rw [run_bind, run_get]
    dsimp only
    rcases d.at? l with _ | rights | key | target
    · rfl
    · dsimp only
      rw [run_bind, run_get]
      dsimp only
      cases d.entries.any fun e => l.isPrefixOf e.1 && d.isSealedOff e.1
      · simp only [Bool.false_eq_true, if_false]
        rw [run_bind, run_modify]
        dsimp only
        rw [run_bind, run_get]
        dsimp only
        cases (d.cutBelow l).namesDirectory p
        · rfl
        · exact run_requireWritable_bind ..
      · rfl
    · rfl
    · exact run_requireWritable_bind ..

/-! ## Moving -/

theorem run_move (source target : Location) (d : Disk) :
    (move source target).run.run d =
      if (d.rightsAt source.dropLast).writable && (d.rightsAt target.dropLast).writable &&
          (!(d.hasDirectory source && source.dropLast != target.dropLast) ||
            (d.rightsAt source).writable) then
        (.ok (), d.carry source target)
      else (.error .denied, d) := by
  rw [move, run_requireWritable_bind]
  cases (d.rightsAt source.dropLast).writable
  · rfl
  · simp only [if_true, Bool.true_and]
    rw [run_requireWritable_bind]
    cases (d.rightsAt target.dropLast).writable
    · rfl
    · simp only [if_true, Bool.true_and]
      rw [run_bind, run_get]
      dsimp only
      cases d.hasDirectory source && source.dropLast != target.dropLast
      · rfl
      · simp only [if_true, Bool.not_true, Bool.false_or]
        rw [run_requireWritable_bind]
        rfl

/-- What may give way to what is moved: nothing at all, an empty directory for a directory, and
anything but a directory for the rest. A directory is not moved into itself. -/
def MayMove (d : Disk) (source target : Location) : Prop :=
  (d.hasDirectory source = true ∧ ¬ source <+: target ∧
      (d.at? target = none ∨ d.children target = [])) ∨
    (d.hasDirectory source = false ∧ source ≠ target ∧ d.hasDirectory target = false)

/-- Renaming moves what a path names to what the other one names, or changes nothing. -/
theorem run_rename_cases {source target : Path} {old : Location} {new : Found}
    (hold : d.place? source false = .ok old) (hnew : d.resolveName target = .ok new) :
    ((rename source target).run.run d).2 = d ∨
      d.MayMove old new.place ∧
        (rename source target).run.run d = (.ok (), d.carry old new.place) := by
  have hmove : d.MayMove old new.place → ((move old new.place).run.run d).2 = d ∨
      d.MayMove old new.place ∧
        (move old new.place).run.run d = (.ok (), d.carry old new.place) := by
    intro hmay
    rw [run_move]
    split
    · exact .inr ⟨hmay, rfl⟩
    · exact .inl rfl
  rw [rename, run_look_bind, hold]
  dsimp only
  rw [run_look_bind, hnew]
  dsimp only
  rw [run_bind, run_get]
  dsimp only
  split
  · exact .inl rfl
  rcases hat : d.at? old with _ | rights | key | link
  · exact .inl rfl
  · have hdir := hasDirectory_of_at? hat
    dsimp only
    split
    · split
      · exact .inl rfl
      · exact .inl rfl
    · rename_i hinside
      rw [List.isPrefixOf_iff_prefix] at hinside
      rcases hthere : d.at? new.place with _ | rights' | key | link
      · exact hmove (.inl ⟨hdir, hinside, .inl hthere⟩)
      · dsimp only
        split
        · rename_i hempty
          exact hmove (.inl ⟨hdir, hinside, .inr (List.isEmpty_iff.1 hempty)⟩)
        · exact .inl rfl
      · exact .inl rfl
      · exact .inl rfl
  all_goals
    have hdir : d.hasDirectory old = false := by simp [hasDirectory, hat, isDirectoryEntry]
    dsimp only
    split
    · exact .inl rfl
    · rcases hthere : d.at? new.place with _ | rights' | key | link
      · refine hmove (.inr ⟨hdir, ?_, by simp [hasDirectory, hthere]⟩)
        intro h
        rw [← h, hat] at hthere
        cases hthere
      · exact .inl rfl
      all_goals
        dsimp only
        split
        · exact .inl rfl
        · rename_i hother
          simp only [Bool.or_eq_true, decide_eq_true_eq, not_or] at hother
          exact hmove (.inr ⟨hdir, Ne.symm hother.1,
            by simp [hasDirectory, hthere, isDirectoryEntry]⟩)

/-- A file takes the place of what another path names, unless that is a directory. -/
theorem run_rename_of_file {source target : Path} {old : Location} {new : Found} {key : Nat}
    (hold : d.place? source false = .ok old) (hnew : d.resolveName target = .ok new)
    (hkey : d.at? old = some (.file key)) :
    (rename source target).run.run d =
      if endsSpecially source || endsSpecially target then (.error .notPossible, d)
      else if target.endsInSeparator then (.error .notADirectory, d)
      else
        match d.at? new.place with
        | none => (move old new.place).run.run d
        | some (.directory _) => (.error .isADirectory, d)
        | some there =>
          if new.place = old || sameFile (.file key) there then (.ok (), d)
          else (move old new.place).run.run d := by
  rw [rename, run_look_bind, hold]
  dsimp only
  rw [run_look_bind, hnew]
  dsimp only
  rw [run_bind, run_get]
  simp only [hkey]
  cases endsSpecially source || endsSpecially target
  · cases target.endsInSeparator
    · simp only [Bool.false_eq_true, if_false]
      rcases d.at? new.place with _ | rights | other | link
      · rfl
      · rfl
      · dsimp only
        split
        · rfl
        · rfl
      · dsimp only
        split
        · rfl
        · rfl
    · rfl
  · rfl

/-- A file can be moved out of one directory and into another one if both can be written to. -/
theorem run_move_file {source target : Location} {key : Nat}
    (hkey : d.at? source = some (.file key))
    (hsource : (d.rightsAt source.dropLast).writable = true)
    (htarget : (d.rightsAt target.dropLast).writable = true) :
    (move source target).run.run d = (.ok (), d.carry source target) := by
  rw [run_move, if_pos]
  simp [hsource, htarget, hasDirectory, hkey, isDirectoryEntry]

/-- A file takes the place of what another path names: of nothing or of another file. -/
theorem run_rename_file {source target : Path} {old : Location} {new : Found} {key : Nat}
    (hold : d.place? source false = .ok old) (hnew : d.resolveName target = .ok new)
    (hkey : d.at? old = some (.file key)) (hsource : endsSpecially source = false)
    (htarget : endsSpecially target = false) (hslash : target.endsInSeparator = false)
    (hthere : d.at? new.place = none ∨ ∃ other, d.at? new.place = some (.file other) ∧
      other ≠ key)
    (hwritable : (d.rightsAt old.dropLast).writable = true)
    (hwritable' : (d.rightsAt new.place.dropLast).writable = true) :
    (rename source target).run.run d = (.ok (), d.carry old new.place) := by
  have hmove := run_move_file hkey hwritable hwritable'
  rw [run_rename_of_file hold hnew hkey, hsource, htarget, hslash]
  simp only [Bool.or_self, Bool.false_eq_true, if_false]
  rcases hthere with hthere | ⟨other, hthere, hne⟩
  · simp only [hthere]
    exact hmove
  · have hplace : new.place ≠ old := by
      intro h
      rw [h, hkey] at hthere
      cases hthere
      exact hne rfl
    simp only [hthere, hplace, decide_false, sameFile, Ne.symm hne, beq_iff_eq, Bool.false_or,
      if_false]
    exact hmove

/-! ## Form -/

namespace WellFormed

/-- What gives way has nothing below it. -/
theorem at?_below_of_mayMove (hd : d.WellFormed) {source target m : Location}
    (hmay : d.MayMove source target) (h : target <+: m) (hne : target ≠ m) : d.at? m = none := by
  rw [Option.eq_none_iff_forall_ne_some]
  intro entry hat
  have hdir := hd.hasDirectory_above hat h hne
  rcases hmay with ⟨-, -, hnone | hempty⟩ | ⟨-, -, hnot⟩
  · rw [Disk.hasDirectory, hnone] at hdir
    cases hdir
  · -- The directory on the way down is not empty.
    obtain ⟨rest, rfl⟩ := h
    obtain ⟨n, rest, rfl⟩ := List.exists_cons_of_ne_nil (l := rest) fun hnil =>
      hne (by rw [hnil, List.append_nil])
    have hthere : ∃ entry, d.at? (target ++ [n]) = some entry := by
      by_cases hrest : rest = []
      · exact ⟨entry, hrest ▸ hat⟩
      · have hdir' := hd.hasDirectory_above (m := target ++ [n]) hat (by simp) (by simpa using hrest)
        exact (hasDirectory_iff.1 hdir').imp' _ fun _ h => h
    obtain ⟨entry', hat'⟩ := hthere
    have hmem := hd.mem_children_iff.2 hat'
    rw [hempty] at hmem
    cases hmem
  · rw [hnot] at hdir
    cases hdir

/-- What may be moved is put neither into itself nor above itself. -/
theorem not_prefix_of_mayMove (hd : d.WellFormed) {old target : Location} {entry : Entry}
    (hold : d.at? old = some entry) (hparent : d.hasDirectory target.dropLast = true)
    (hmay : d.MayMove old target) : ¬ old <+: target ∧ ¬ target <+: old := by
  have hst : ¬ old <+: target := by
    rcases hmay with ⟨-, h, -⟩ | ⟨hfile, hne, -⟩
    · exact h
    · intro h
      rw [hd.hasDirectory_above_of_dropLast hparent h hne] at hfile
      cases hfile
  refine ⟨hst, fun h => ?_⟩
  have hne : target ≠ old := fun heq => hst (heq ▸ List.prefix_rfl)
  rw [hd.at?_below_of_mayMove hmay h hne] at hold
  cases hold

theorem carry_of_mayMove (hd : d.WellFormed) {old target : Location} {entry : Entry}
    (hold : d.at? old = some entry) (hname : ∀ n ∈ target, IsEntryName n)
    (hparent : d.hasDirectory target.dropLast = true) (hmay : d.MayMove old target) :
    (d.carry old target).WellFormed := by
  obtain ⟨hst, hts⟩ := hd.not_prefix_of_mayMove hold hparent hmay
  exact hd.carry hst hts hname hparent

theorem keeps_write (p : Path) (content : Content) : Keeps WellFormed (write p content) := by
  intro d hd
  rcases run_write_cases p content d with
    ⟨e, hrun⟩ | ⟨l, name, hfound, -, -, hrun⟩ | ⟨l, key, -, -, -, hrun⟩
  · rw [hrun]
    exact hd
  · rw [hrun]
    exact hd.addFile (hd.isThere_of_locate hfound) content
  · rw [hrun]
    exact hd.setContent key content

theorem keeps_writeNew (p : Path) (content : Content) : Keeps WellFormed (writeNew p content) := by
  intro d hd
  rcases run_writeNew_cases p content d with ⟨e, hrun⟩ | ⟨l, name, hfound, hrun⟩
  · rw [hrun]
    exact hd
  · rw [hrun]
    exact hd.addFile (hd.isThere_of_locate hfound) content

theorem keeps_removeFile (p : Path) : Keeps WellFormed (removeFile p) := by
  intro d hd
  rcases run_removeFile_cases p d with ⟨e, hrun⟩ | ⟨l, -, -, hrun⟩
  · rw [hrun]
    exact hd
  · rw [hrun]
    exact hd.cut l

theorem keeps_removeTree (p : Path) : Keeps WellFormed (removeTree p) := by
  intro d hd
  rw [run_removeTree]
  rcases d.place? p false with e | l
  · exact hd
  · dsimp only
    split
    · split
      · exact hd
      · split
        · exact hd.cutBelow l
        · split
          · exact (hd.cutBelow l).cut l
          · exact hd.cutBelow l
    · split
      · exact hd.cut l
      · exact hd
    · exact hd

theorem at?_of_place? (hd : d.WellFormed) {follow : Bool} (h : d.place? p follow = .ok l) :
    ∃ entry, d.at? l = some entry := by
  obtain ⟨-, -, hstart, hchase⟩ := place?_eq_ok_iff.1 h
  exact Option.ne_none_iff_exists'.1
    (hd.isThere_of_chase hstart (fun _ => Path.isPart_of_mem_segments) hchase)

/-- Where something is, or could be, is a place with a name in a directory. -/
theorem of_isThere (hd : d.WellFormed) {found : Found} (h : found.IsThere d) :
    (∀ n ∈ found.place, IsEntryName n) ∧ d.hasDirectory found.place.dropLast = true := by
  cases found with
  | entry l =>
    obtain ⟨entry, hat⟩ := Option.ne_none_iff_exists'.1 h
    exact ⟨fun n => hd.isEntryName_of_at? hat, hd.hasDirectory_dropLast hat⟩
  | vacant l name =>
    rw [Found.place, List.dropLast_concat]
    exact ⟨hd.isEntryName_concat h, h.hasDirectory⟩

theorem keeps_rename (source target : Path) : Keeps WellFormed (rename source target) := by
  intro d hd
  rcases hold : d.place? source false with e | old
  · rw [rename, run_look_bind, hold]
    exact hd
  · rcases hnew : d.resolveName target with e | new
    · rw [rename, run_look_bind, hold]
      dsimp only
      rw [run_look_bind, hnew]
      exact hd
    · rcases run_rename_cases hold hnew with h | ⟨hmay, h⟩
      · rw [h]
        exact hd
      · obtain ⟨hname, hparent⟩ := hd.of_isThere (hd.isThere_of_locate hnew)
        obtain ⟨entry, hat⟩ := hd.at?_of_place? hold
        rw [h]
        exact hd.carry_of_mayMove hat hname hparent hmay

theorem keeps_setRights (p : Path) (rights : Rights) : Keeps WellFormed (setRights p rights) := by
  intro d hd
  rw [run_setRights]
  rcases hplace : d.place? p with e | l
  · exact hd
  · dsimp only
    rcases hd.file_or_directory hplace with ⟨key, hkey⟩ | hdir
    · rw [hkey]
      refine hd.renumber (Nat.le_refl _) (fun r hr => ?_) ..
      rcases List.mem_cons.1 hr with rfl | hr
      · exact hd.key_lt hkey
      · exact hd.rights_fresh r (List.mem_of_mem_filter hr)
    · obtain ⟨old, hat⟩ := hasDirectory_iff.1 hdir
      rw [hat]
      exact hd.putDirectory hdir rights

theorem keeps_makeLink (target p : Path) : Keeps WellFormed (makeLink target p) := by
  intro d hd
  rcases run_makeLink_cases target p d with ⟨e, hrun⟩ | ⟨l, name, hfound, hrun⟩
  · rw [hrun]
    exact hd
  · rw [hrun]
    exact hd.putNew (hd.isThere_of_locate hfound) fun key hkey => by cases hkey

theorem keeps_makeHardLink (source p : Path) : Keeps WellFormed (makeHardLink source p) := by
  intro d hd
  rcases run_makeHardLink_cases source p d with
    ⟨e, hrun⟩ | ⟨m, entry, l, name, -, hat, hfound, hrun⟩
  · rw [hrun]
    exact hd
  · rw [hrun]
    refine hd.putNew (hd.isThere_of_locate hfound) fun key hkey => ?_
    rw [hkey] at hat
    exact hd.key_lt hat

theorem keeps_changeDirectory (p : Path) : Keeps WellFormed (changeDirectory p) := by
  intro d hd
  rw [changeDirectory, run_look_bind]
  rcases d.place? p with e | l
  · exact hd
  · dsimp only
    rw [run_bind, run_get]
    dsimp only
    split
    · exact hd
    · split
      · exact hd
      · exact hd.renumber (Nat.le_refl _) hd.rights_fresh ..

theorem keeps_look {α : Type} (f : Disk → Except PathError α) : Keeps WellFormed (look f) := by
  intro d hd
  rw [run_look]
  exact hd

theorem keeps_copyFile (source target : Path) : Keeps WellFormed (copyFile source target) :=
  .bind (keeps_look _) fun _ => .bind .get fun _ => .bind (keeps_look _) fun _ =>
    .bind (keeps_write _ _) fun _ => .bind (keeps_look _) fun _ => .bind (keeps_write _ _) fun _ =>
      keeps_setRights _ _

theorem keeps_moveFile (source target : Path) : Keeps WellFormed (moveFile source target) :=
  .tryCatch (keeps_rename _ _) fun _ => .bind (keeps_copyFile _ _) fun _ => keeps_removeFile _

end WellFormed

end Codemod.Disk
