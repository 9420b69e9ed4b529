import Codemod.Proofs.Archive.Unpack
import Codemod.Proofs.Backup.Turn

set_option autoImplicit false

/-! # Putting files back

What restoring one entry of a table does (`run_restoreEntry`), and from it what restoring all of them
does (`run_restoreAll`): the member of an entry comes to the place of its path, the directories that
were missing on the way are made, and nothing else changes. Of entries with one place the last one
counts (`lastAt`). -/

namespace Codemod.Backup

open Disk Archive

variable {d d' c : Disk} {t staging : Path} {top : Location} {ns : List Name} {n : Name}
  {e : String × Path} {table done : Lookup}

/-! ## Paths to put files at -/

/-- The names on the way to what a path leads to. -/
def wayOf (t : Path) : List Name := t.segments.dropLast

/-- The place that a path leads to from the root if there are no links. -/
def placeOf (t : Path) : Location := lexical [] t.segments

/-- A path that leads from the root to a file, with neither links nor dots. -/
structure IsTarget (t : Path) : Prop where
  isAbsolute : t.isAbsolute = true
  slash : t.endsInSeparator = false
  isPassable : isPassable t = true
  isWay : IsWay (wayOf t)
  last : ∃ n, t.segments = wayOf t ++ [n] ∧ IsEntryName n

/-- What is on the way to a file does not stand in the way of putting it there: directories can be
searched, and written to where something has to be made; and where the file comes to lie there is
nothing or a file. -/
structure IsAccessible (d : Disk) (t : Path) : Prop where
  isOpen : d.Open [] (wayOf t)
  writable : ∀ rights, d.at? (lexical [] (wayOf t)) = some (.directory rights) →
    rights.writable = true
  file : ∀ entry, d.at? (placeOf t) = some entry → ∃ key, entry = .file key

theorem isAccessible_iff :
    IsAccessible d t ↔ d.Open [] (wayOf t) ∧
      (d.hasDirectory (lexical [] (wayOf t)) = true →
        (d.rightsAt (lexical [] (wayOf t))).writable = true) ∧
      ∀ entry ∈ d.at? (placeOf t), (keyOf? entry).isSome = true := by
  constructor
  · rintro ⟨hopen, hwritable, hfile⟩
    refine ⟨hopen, fun hdir => ?_, fun entry hat => ?_⟩
    · obtain ⟨rights, hat⟩ := hasDirectory_iff.1 hdir
      rw [rightsAt, hat]
      exact hwritable rights hat
    · obtain ⟨key, rfl⟩ := hfile entry hat
      rfl
  · rintro ⟨hopen, hwritable, hfile⟩
    refine ⟨hopen, fun rights hat => ?_, fun entry hat => ?_⟩
    · have hdir := hwritable (hasDirectory_of_at? hat)
      rw [rightsAt, hat] at hdir
      exact hdir
    · obtain ⟨key, hkey⟩ := Option.isSome_iff_exists.1 (hfile entry hat)
      exact ⟨key, keyOf?_eq_some_iff.1 hkey⟩

instance (d : Disk) (t : Path) : Decidable (IsAccessible d t) :=
  decidable_of_iff _ isAccessible_iff.symm

namespace IsTarget

theorem placeOf_eq (ht : IsTarget t) :
    ∃ n, IsEntryName n ∧ t.segments = wayOf t ++ [n] ∧ placeOf t = lexical [] (wayOf t) ++ [n] := by
  obtain ⟨n, hn, hname⟩ := ht.last
  exact ⟨n, hname, hn, by rw [placeOf, hn, lexical_concat _ _ hname.ne_above]⟩

theorem dropLast_placeOf (ht : IsTarget t) : (placeOf t).dropLast = lexical [] (wayOf t) := by
  obtain ⟨n, -, -, hplace⟩ := ht.placeOf_eq
  rw [hplace, List.dropLast_concat]

theorem parent? (ht : IsTarget t) : t.parent? = some (Path.root.under (wayOf t)) := by
  obtain ⟨n, hname, hsegments, -⟩ := ht.placeOf_eq
  refine Path.parent?_of_segments ht.isAbsolute hsegments ?_
  rw [List.mem_append, List.mem_singleton, not_or]
  exact ⟨ht.isWay.here_notMem, Ne.symm hname.ne_here⟩

theorem endsSpecially (ht : IsTarget t) : endsSpecially t = false := by
  obtain ⟨n, hname, hsegments, -⟩ := ht.placeOf_eq
  simp [Disk.endsSpecially, hsegments, hname.ne_here, hname.ne_above]

theorem isPassable_parent (ht : IsTarget t) :
    Disk.isPassable (Path.root.under (wayOf t)) = true :=
  isPassable_under ht.isAbsolute ht.isPassable (List.dropLast_sublist _)

/-- With all directories there the path leads to the place, be there a file or nothing. -/
theorem locate (ht : IsTarget t) (hl : d.Leveled [] (wayOf t))
    (hfile : ∀ entry, d.at? (placeOf t) = some entry → ∃ key, entry = .file key)
    (follow : Bool) :
    ∃ found : Found, d.locate t follow false = .ok found ∧ found.place = placeOf t ∧
      (found = .entry (placeOf t) ↔ d.at? (placeOf t) ≠ none) := by
  obtain ⟨n, hname, hsegments, hplace⟩ := ht.placeOf_eq
  have hlast : d.locate t follow false =
      d.chase follow linkLimit false (lexical [] (wayOf t)) [n] := by
    rw [locate_of_segments ht.isAbsolute ht.isPassable, hsegments,
      chase_append _ _ _ _ _ _ (List.cons_ne_nil _ _), enter_of_leveled linkLimit ht.isWay hl]
  rw [hplace] at hfile ⊢
  rw [hlast, chase_singleton, turn_of_isOrdinary hl.searchable hname.toIsOrdinary]
  rcases hat : d.at? (lexical [] (wayOf t) ++ [n]) with _ | entry
  · exact ⟨_, rfl, rfl, by simp⟩
  · obtain ⟨key, rfl⟩ := hfile entry hat
    exact ⟨_, rfl, rfl, by simp⟩

end IsTarget

/-! ## One entry -/

/-- An entry with a plain name and a path that is not the root: the directory above comes first. -/
theorem restoreEntry_eq {parent : Path} (staging : Path)
    (hplain : Lookup.isPlainName e.1 = true) (hparent : e.2.parent? = some parent) :
    restoreEntry staging e = (do
      attempt .io (Disk.ensureDirectories parent)
      attempt (fun _ => .cannotRestore e.2) (Disk.moveFile (staging.join (.ofString e.1)) e.2)) := by
  rw [restoreEntry, hplain, hparent]
  rfl

/-- A staged file is moved to the place of its path, once the directories above are there. -/
theorem run_restoreEntry {source : Location} {key : Nat} (hd : d.WellFormed)
    (hplain : Lookup.isPlainName e.1 = true) (ht : IsTarget e.2) (hopen : IsAccessible d e.2)
    (hname : IsEntryName (Name.ofString e.1))
    (hsource : d.place? (staging.join (.ofString e.1)) false = .ok source)
    (hkey : d.at? source = some (.file key))
    (hwritable : (d.rightsAt source.dropLast).writable = true)
    (hother : ∀ other, d.at? (placeOf e.2) = some (.file other) → other ≠ key)
    (hapart : ¬ OnWay [] (wayOf e.2) (placeOf e.2)) (hne : source ≠ placeOf e.2) :
    ∃ d₁ d', d.Grown (OnWay [] (wayOf e.2)) d₁ ∧ d₁.Leveled [] (wayOf e.2) ∧
      (restoreEntry staging e).run.run d = (.ok (), d') ∧ d₁.SameFiles d' ∧
      ∀ m, d'.at? m =
        if m = placeOf e.2 then some (.file key) else if m = source then none else d₁.at? m := by
  obtain ⟨d₁, hrun, hl, hgrown⟩ :=
    run_ensureDirectories hd ht.isWay hopen.isOpen ht.isPassable_parent
  have hd₁ : d₁.WellFormed := by
    have h := keeps_ensureDirectories (p := Path.root.under (wayOf e.2))
      (fun _ _ => WellFormed.keeps_makeDirectory _) d hd
    rw [hrun] at h
    exact h
  have hsame : d₁.at? (placeOf e.2) = d.at? (placeOf e.2) :=
    (hgrown.at?_cases _).resolve_right fun h => hapart h.2.2
  have hold : d₁.place? (staging.join (.ofString e.1)) false = .ok source :=
    hgrown.isExtended.place? hd (fun key h => ⟨key, hgrown.at?_of_some h⟩) hsource
  obtain ⟨found, hfound, hplace, -⟩ := ht.locate hl (hsame ▸ hopen.file) false
  have hspecial : Disk.endsSpecially (staging.join (.ofString e.1)) = false := by
    have hsegments := Path.segments_join staging hname.isPart
    simp [Disk.endsSpecially, Path.ofString, hsegments, hname.ne_here, hname.ne_above]
  have hthere : d₁.at? found.place = none ∨
      ∃ other, d₁.at? found.place = some (.file other) ∧ other ≠ key := by
    rw [hplace, hsame]
    rcases hat : d.at? (placeOf e.2) with _ | entry
    · exact .inl rfl
    · obtain ⟨other, rfl⟩ := hopen.file entry hat
      exact .inr ⟨other, rfl, hother other hat⟩
  have hwritable₁ : (d₁.rightsAt source.dropLast).writable = true := by
    rw [hgrown.isExtended.rightsAt (hd.hasDirectory_dropLast hkey)]
    exact hwritable
  have hwritable₂ : (d₁.rightsAt found.place.dropLast).writable = true := by
    obtain ⟨rights, hat, -⟩ := hl _ List.prefix_rfl
    rw [hplace, ht.dropLast_placeOf, rightsAt, hat]
    rcases hgrown.at?_cases (lexical [] (wayOf e.2)) with h | ⟨-, h, -⟩
    · exact hopen.writable rights (h ▸ hat)
    · rw [hat] at h
      cases h
      rfl
  have hrename := run_rename_file hold hfound (hgrown.at?_of_some hkey) hspecial ht.endsSpecially
    ht.slash hthere hwritable₁ hwritable₂
  have hfree : d₁.hasDirectory (placeOf e.2) = false := by
    rw [hasDirectory, hsame]
    rcases hat : d.at? (placeOf e.2) with _ | entry
    · rfl
    · obtain ⟨other, rfl⟩ := hopen.file entry hat
      rfl
  have hparent : d₁.hasDirectory (placeOf e.2).dropLast = true := by
    rw [ht.dropLast_placeOf]
    exact hl.hasDirectory
  refine ⟨d₁, d₁.carry source (placeOf e.2), hgrown, hl, ?_, rfl,
    hd₁.at?_carry_file (hgrown.at?_of_some hkey) hfree hparent hne⟩
  rw [restoreEntry_eq staging hplain ht.parent?, run_bind_of_ok (run_attempt_eq_ok_iff.2 hrun),
    run_attempt_eq_ok_iff, Disk.moveFile, run_tryCatch, hrename, hplace]

/-! ## All entries -/

/-- The last of the entries whose path leads to a place. -/
def lastAt (table : Lookup) (m : Location) : Option (String × Path) :=
  table.reverse.find? fun e => placeOf e.2 == m

theorem lastAt_concat (table : Lookup) (e : String × Path) (m : Location) :
    lastAt (table ++ [e]) m = if placeOf e.2 = m then some e else lastAt table m := by
  rw [lastAt, List.reverse_append, List.reverse_singleton, List.singleton_append, List.find?_cons]
  by_cases h : placeOf e.2 = m
  · simp [h]
  · have hne : (placeOf e.2 == m) = false := by simpa using h
    rw [hne, if_neg h]
    rfl

theorem lastAt_eq_some {m : Location} (h : lastAt table m = some e) :
    e ∈ table ∧ placeOf e.2 = m :=
  ⟨List.mem_reverse.1 (List.mem_of_find?_eq_some h), by simpa using List.find?_some h⟩

theorem exists_lastAt (h : e ∈ table) : ∃ e', lastAt table (placeOf e.2) = some e' := by
  rw [← Option.isSome_iff_exists, lastAt, List.find?_isSome]
  exact ⟨e, List.mem_reverse.2 h, by simp⟩

/-- Where the member of an entry is staged. -/
def stagedAt (top : Location) (e : String × Path) : Location := top ++ [Name.ofString e.1]

/-- The members of a table are staged in a directory of their own. -/
structure IsStaged (c : Disk) (staging : Path) (top : Location) (table : Lookup) : Prop where
  wellFormed : c.WellFormed
  directory : c.at? top = some (.directory {})
  ne_nil : staging.bytes ≠ []
  start : c.hasDirectory (c.startOf staging) = true
  leads : ∃ left, c.enter linkLimit (c.startOf staging) staging.segments = .ok (left, top)
  isPassable : isPassable staging = true
  short : staging.bytes.length + plainLimit < pathLimit
  isPlain : ∀ e ∈ table, IsPlain (Name.ofString e.1)
  nodup : (table.map fun e => Name.ofString e.1).Nodup
  staged : ∀ e ∈ table, ∃ key, c.at? (stagedAt top e) = some (.file key) ∧
    ∀ m, c.at? m = some (.file key) → m = stagedAt top e

/-- The paths of a table are all those of files to be, and none is in the way of another one or of
the staged members. -/
structure IsRestorable (c : Disk) (top : Location) (table : Lookup) : Prop where
  isTarget : ∀ e ∈ table, IsTarget e.2
  isAccessible : ∀ e ∈ table, IsAccessible c e.2
  apart : ∀ e ∈ table, ∀ e' ∈ table, ¬ OnWay [] (wayOf e'.2) (placeOf e.2)
  outside : ∀ e ∈ table, ¬ top <+: placeOf e.2 ∧ ∀ m, OnWay [] (wayOf e.2) m → ¬ top <+: m

/-- A place on the way to a file of the table. -/
def OnWays (table : Lookup) (m : Location) : Prop := ∃ e ∈ table, OnWay [] (wayOf e.2) m

/-- A tree in which some of the entries of a table have been restored. -/
structure Restored (c : Disk) (top : Location) (table done : Lookup) (d : Disk) : Prop where
  wellFormed : d.WellFormed
  sameFiles : c.SameFiles d
  leveled : ∀ e ∈ done, d.Leveled [] (wayOf e.2)
  /-- What was staged is at the place of its path. -/
  restored : ∀ m e, lastAt done m = some e → d.at? m = c.at? (stagedAt top e)
  taken : ∀ e ∈ done, d.at? (stagedAt top e) = none
  inside : ∀ m, top <+: m → (∀ e ∈ done, m ≠ stagedAt top e) → d.at? m = c.at? m
  /-- Elsewhere nothing has changed, but for directories that were missing. -/
  outside : ∀ m, ¬ top <+: m → lastAt done m = none → d.at? m = c.at? m ∨
    c.at? m = none ∧ d.at? m = some (.directory {}) ∧ OnWays table m

theorem IsStaged.restored_nil (hstaged : IsStaged c staging top table) :
    Restored c top table [] c where
  wellFormed := hstaged.wellFormed
  sameFiles := .refl c
  leveled := fun _ h => nomatch h
  restored := fun _ _ h => nomatch h
  taken := fun _ h => nomatch h
  inside := fun _ _ _ => rfl
  outside := fun _ _ _ => .inl rfl

/-- What is restored is in the way of nothing. -/
theorem Restored.isExtended (hstaged : IsStaged c staging top table)
    (hrestorable : IsRestorable c top table) (hdone : ∀ e ∈ done, e ∈ table)
    (h : Restored c top table done d) : c.Extends d := by
  refine .of_stays h.sameFiles.workingDirectory fun m entry hentry hat => ?_
  by_cases htop : top <+: m
  · rw [h.inside m htop, hat]
    rintro e he rfl
    obtain ⟨key, hkey, -⟩ := hstaged.staged e (hdone e he)
    rw [hat] at hkey
    exact hentry key (Option.some.inj hkey)
  · rcases hlast : lastAt done m with _ | e
    · rcases h.outside m htop hlast with hsame | ⟨hnone, -⟩
      · rw [hsame, hat]
      · rw [hat] at hnone
        cases hnone
    · obtain ⟨he, rfl⟩ := lastAt_eq_some hlast
      obtain ⟨key, rfl⟩ := (hrestorable.isAccessible e (hdone e he)).file entry hat
      exact absurd rfl (hentry key)

/-- What has been restored leaves the way open for what is still to be restored. -/
theorem Restored.isAccessible (hstaged : IsStaged c staging top table)
    (hrestorable : IsRestorable c top table) (hdone : ∀ e ∈ done, e ∈ table)
    (h : Restored c top table done d) (he : e ∈ table) : IsAccessible d e.2 := by
  have hopen := hrestorable.isAccessible e he
  have hway : ∀ m, OnWay [] (wayOf e.2) m → d.at? m = c.at? m ∨
      c.at? m = none ∧ d.at? m = some (.directory {}) := by
    intro m hm
    have hlast : lastAt done m = none := by
      rw [Option.eq_none_iff_forall_ne_some]
      intro e' hlast
      obtain ⟨he', rfl⟩ := lastAt_eq_some hlast
      exact hrestorable.apart e' (hdone e' he') e he hm
    exact (h.outside m ((hrestorable.outside e he).2 m hm) hlast).imp_right
      fun h => ⟨h.1, h.2.1⟩
  refine ⟨fun init hinit entry hat => ?_, fun rights hat => ?_, fun entry hat => ?_⟩
  · rcases hway _ ⟨init, hinit, rfl⟩ with hsame | ⟨-, hnew⟩
    · rw [hsame] at hat
      obtain ⟨rights, heq, hsearch, hwrite⟩ := hopen.isOpen init hinit entry hat
      refine ⟨rights, heq, hsearch, fun n hn hnone => hwrite n hn ?_⟩
      rcases hway _ ⟨init ++ [n], hn, rfl⟩ with hsame | ⟨hnone', -⟩
      · rw [← hsame, hnone]
      · exact hnone'
    · rw [hnew] at hat
      cases hat
      exact ⟨{}, rfl, rfl, fun _ _ _ => rfl⟩
  · rcases hway _ ⟨_, List.prefix_rfl, rfl⟩ with hsame | ⟨-, hnew⟩
    · exact hopen.writable rights (hsame ▸ hat)
    · rw [hnew] at hat
      cases hat
      rfl
  · rcases hlast : lastAt done (placeOf e.2) with _ | e'
    · rcases h.outside _ (hrestorable.outside e he).1 hlast with hsame | ⟨-, -, e', he', hm⟩
      · exact hopen.file entry (hsame ▸ hat)
      · exact absurd hm (hrestorable.apart e he e' he')
    · obtain ⟨key, hkey, -⟩ := hstaged.staged e' (hdone e' (lastAt_eq_some hlast).1)
      rw [h.restored _ e' hlast, hkey] at hat
      cases hat
      exact ⟨key, rfl⟩

theorem isPlainName_of_isPlain {name : String} (h : IsPlain (Name.ofString name)) :
    Lookup.isPlainName name = true := by
  have hsegments : (Path.ofString name).segments = [] ++ [Name.ofString name] :=
    Path.segments_of_isPart h.isPart
  rw [Lookup.isPlainName, Path.fileName?_of_segments hsegments h.ne_here h.ne_above]
  exact beq_self_eq_true _

/-- The path of a member in the directory leads to it. -/
theorem IsStaged.place? (hstaged : IsStaged c staging top table) (hextends : c.Extends d)
    (hn : IsPlain n) {key : Nat} (hkey : d.at? (top ++ [n]) = some (.file key)) (follow : Bool) :
    d.place? (staging.join ⟨n⟩) follow = .ok (top ++ [n]) := by
  obtain ⟨left, henter⟩ := hstaged.leads
  have hstart : d.startOf (staging.join ⟨n⟩) = c.startOf staging := by
    rw [startOf, Path.isAbsolute_join hstaged.ne_nil hn.isPart, hextends.workingDirectory]
    rfl
  have hsearch : (d.rightsAt top).searchable = true := by
    rw [rightsAt, hextends.directory _ _ hstaged.directory]
  rw [place?_eq_ok_iff, hstart, Path.segments_join _ hn.isPart,
    Path.endsInSeparator_join _ hn.isPart]
  refine ⟨Path.bytes_join_ne_nil _ hn.isPart,
    isPassable_join hstaged.isPassable hn hstaged.short, hextends.hasDirectory hstaged.start, ?_⟩
  rw [chase_append _ _ _ _ _ _ (List.cons_ne_nil _ _),
    hextends.enter hstaged.wellFormed hstaged.start henter]
  dsimp only
  rw [chase_singleton, turn_of_isOrdinary hsearch hn.toIsOrdinary, hkey]
  rfl

/-! ## The next entry -/

/-- What restoring an entry does to a tree: the directories that were missing on the way are made, and
then the staged member comes to the place of its path. -/
structure Moves (c : Disk) (top : Location) (e : String × Path) (d d₁ d' : Disk) : Prop where
  wellFormed : d'.WellFormed
  grown : d.Grown (OnWay [] (wayOf e.2)) d₁
  leveled : d₁.Leveled [] (wayOf e.2)
  sameFiles : d₁.SameFiles d'
  at? : ∀ m, d'.at? m =
    if m = placeOf e.2 then c.at? (stagedAt top e)
    else if m = stagedAt top e then none else d₁.at? m

theorem prefix_stagedAt (top : Location) (e : String × Path) : top <+: stagedAt top e :=
  List.prefix_append ..

/-- No two entries have one member. -/
theorem IsStaged.stagedAt_ne {rest : Lookup} (hstaged : IsStaged c staging top table)
    (htable : table = done ++ e :: rest) : ∀ e' ∈ done, stagedAt top e ≠ stagedAt top e' := by
  intro e' he' heq
  have hnodup := hstaged.nodup
  rw [htable, List.map_append, List.nodup_append] at hnodup
  exact hnodup.2.2 _ (List.mem_map_of_mem he') _ (List.mem_map_of_mem (List.mem_cons_self ..))
    (List.cons.inj (List.append_cancel_left heq)).1.symm

section Next

variable (hstaged : IsStaged c staging top table) (hrestorable : IsRestorable c top table)
  (he : e ∈ table) (hnew : ∀ e' ∈ done, stagedAt top e ≠ stagedAt top e')
  (h : Restored c top table done d)
include hstaged hrestorable he hnew h

/-- What lies at the place of an entry that is still to be restored is not its member. -/
theorem Restored.ne_staged {key other : Nat} (hkey : c.at? (stagedAt top e) = some (.file key))
    (hat : d.at? (placeOf e.2) = some (.file other)) : other ≠ key := by
  rintro rfl
  obtain ⟨_, hkey', hunique⟩ := hstaged.staged e he
  rw [hkey] at hkey'
  cases hkey'
  have hplace := (hrestorable.outside e he).1
  rcases hlast : lastAt done (placeOf e.2) with _ | e'
  · rcases h.outside _ hplace hlast with hsame | ⟨-, hdir, -⟩
    · exact hplace (hunique _ (hsame ▸ hat) ▸ prefix_stagedAt top e)
    · rw [hat] at hdir
      cases hdir
  · rw [h.restored _ e' hlast] at hat
    exact hnew e' (lastAt_eq_some hlast).1 (hunique _ hat).symm

theorem Restored.exists_moves (hdone : ∀ e' ∈ done, e' ∈ table) :
    ∃ d₁ d', (restoreEntry staging e).run.run d = (.ok (), d') ∧ Moves c top e d d₁ d' := by
  have hplain := hstaged.isPlain e he
  have hextends := h.isExtended hstaged hrestorable hdone
  obtain ⟨key, hkeyc, -⟩ := hstaged.staged e he
  have hkey : d.at? (stagedAt top e) = some (.file key) := by
    rw [h.inside _ (prefix_stagedAt top e) hnew, hkeyc]
  have hwritable : (d.rightsAt (stagedAt top e).dropLast).writable = true := by
    rw [stagedAt, List.dropLast_concat, rightsAt, hextends.directory _ _ hstaged.directory]
  have hne : stagedAt top e ≠ placeOf e.2 := fun heq =>
    (hrestorable.outside e he).1 (heq ▸ prefix_stagedAt top e)
  obtain ⟨d₁, d', hgrown, hl, hrun, hfiles, hat⟩ := run_restoreEntry h.wellFormed
    (isPlainName_of_isPlain hplain) (hrestorable.isTarget e he)
    (h.isAccessible hstaged hrestorable hdone he) hplain.toIsEntryName
    (hstaged.place? hextends hplain hkey false) hkey hwritable
    (fun _ => h.ne_staged hstaged hrestorable he hnew hkeyc)
    (hrestorable.apart e he e he) hne
  have hwell := keeps_restoreEntry staging e d h.wellFormed
  rw [hrun] at hwell
  exact ⟨d₁, d', hrun, hwell, hgrown, hl, hfiles, fun m => by rw [hkeyc]; exact hat m⟩

end Next

namespace Moves

variable {d₁ : Disk} (hmoves : Moves c top e d d₁ d')
include hmoves

theorem at?_outside {m : Location} (hm : ¬ top <+: m) (hne : m ≠ placeOf e.2) :
    d'.at? m = d₁.at? m := by
  have hne' : m ≠ stagedAt top e := fun heq => hm (heq ▸ prefix_stagedAt top e)
  rw [hmoves.at?, if_neg hne, if_neg hne']

variable (hrestorable : IsRestorable c top table) (he : e ∈ table)
include hrestorable he

/-- In the directory for unpacking the member has gone, and nothing was made. -/
theorem at?_inside {m : Location} (hm : top <+: m) :
    d'.at? m = if m = stagedAt top e then none else d.at? m := by
  have hplace := hrestorable.outside e he
  have hne : m ≠ placeOf e.2 := fun heq => hplace.1 (heq ▸ hm)
  rw [hmoves.at?, if_neg hne,
    (hmoves.grown.at?_cases m).resolve_right fun h => hplace.2 m h.2.2 hm]

/-- The member is in the way of no other entry. -/
theorem keeps_leveled {e' : String × Path} (he' : e' ∈ table) (h : d₁.Leveled [] (wayOf e'.2)) :
    d'.Leveled [] (wayOf e'.2) := by
  intro init hinit
  have hway : OnWay [] (wayOf e'.2) (lexical [] init) := ⟨init, hinit, rfl⟩
  obtain ⟨rights, hdir, hsearch⟩ := h init hinit
  refine ⟨rights, ?_, hsearch⟩
  rw [hmoves.at?_outside ((hrestorable.outside e' he').2 _ hway), hdir]
  exact fun heq => hrestorable.apart e he e' he' (heq ▸ hway)

variable (h : Restored c top table done d)
include h

theorem leveled_concat (hdone : ∀ e' ∈ done, e' ∈ table) {e' : String × Path}
    (he' : e' ∈ done ++ [e]) : d'.Leveled [] (wayOf e'.2) := by
  rcases List.mem_append.1 he' with he' | he'
  · exact hmoves.keeps_leveled hrestorable he (hdone e' he')
      (hmoves.grown.leveled (h.leveled e' he'))
  · rw [List.mem_singleton.1 he']
    exact hmoves.keeps_leveled hrestorable he he hmoves.leveled

omit he in
theorem restored_concat (hdone : ∀ e' ∈ done, e' ∈ table) (hstaged : IsStaged c staging top table)
    {m : Location} {e' : String × Path} (hlast : lastAt (done ++ [e]) m = some e') :
    d'.at? m = c.at? (stagedAt top e') := by
  rw [lastAt_concat] at hlast
  split at hlast
  · rename_i hm
    cases hlast
    rw [hmoves.at?, if_pos hm.symm]
  · rename_i hm
    have hold := h.restored m e' hlast
    obtain ⟨he', rfl⟩ := lastAt_eq_some hlast
    obtain ⟨key, hkey, -⟩ := hstaged.staged e' (hdone e' he')
    rw [hkey] at hold ⊢
    rw [hmoves.at?_outside (hrestorable.outside e' (hdone e' he')).1 (Ne.symm hm)]
    exact hmoves.grown.at?_of_some hold

theorem taken_concat {e' : String × Path} (he' : e' ∈ done ++ [e]) :
    d'.at? (stagedAt top e') = none := by
  rw [hmoves.at?_inside hrestorable he (prefix_stagedAt top e')]
  split
  · rfl
  · rename_i hne
    rcases List.mem_append.1 he' with he' | he'
    · exact h.taken e' he'
    · exact absurd (congrArg (stagedAt top) (List.mem_singleton.1 he')) hne

theorem inside_concat {m : Location} (hm : top <+: m)
    (hnot : ∀ e' ∈ done ++ [e], m ≠ stagedAt top e') : d'.at? m = c.at? m := by
  rw [hmoves.at?_inside hrestorable he hm,
    if_neg (hnot e (List.mem_append_right _ (List.mem_singleton_self e)))]
  exact h.inside m hm fun e' he' => hnot e' (List.mem_append_left _ he')

omit hrestorable in
theorem outside_concat {m : Location} (hm : ¬ top <+: m) (hlast : lastAt (done ++ [e]) m = none) :
    d'.at? m = c.at? m ∨
      c.at? m = none ∧ d'.at? m = some (.directory {}) ∧ OnWays table m := by
  rw [lastAt_concat] at hlast
  split at hlast
  · cases hlast
  · rename_i hne
    rw [hmoves.at?_outside hm (Ne.symm hne)]
    rcases hmoves.grown.at?_cases m with hsame | ⟨hnone, hnew, hway⟩
    · rw [hsame]
      exact h.outside m hm hlast
    · refine .inr ⟨?_, hnew, e, he, hway⟩
      rcases h.outside m hm hlast with hsame | ⟨hnone', -⟩
      · rw [← hsame, hnone]
      · exact hnone'

end Moves

/-- The next entry is restored. -/
theorem Restored.step {rest : Lookup} (hstaged : IsStaged c staging top table)
    (hrestorable : IsRestorable c top table) (htable : table = done ++ e :: rest)
    (h : Restored c top table done d) :
    ∃ d', (restoreEntry staging e).run.run d = (.ok (), d') ∧
      Restored c top table (done ++ [e]) d' := by
  have he : e ∈ table := htable ▸ List.mem_append_right _ (List.mem_cons_self ..)
  have hdone : ∀ e' ∈ done, e' ∈ table := fun e' he' => htable ▸ List.mem_append_left _ he'
  obtain ⟨d₁, d', hrun, hmoves⟩ :=
    h.exists_moves hstaged hrestorable he (hstaged.stagedAt_ne htable) hdone
  exact ⟨d', hrun, {
    wellFormed := hmoves.wellFormed
    sameFiles := (h.sameFiles.trans hmoves.grown.sameFiles).trans hmoves.sameFiles
    leveled := fun _ => hmoves.leveled_concat hrestorable he h hdone
    restored := fun _ _ => hmoves.restored_concat hrestorable h hdone hstaged
    taken := fun _ => hmoves.taken_concat hrestorable he h
    inside := fun _ => hmoves.inside_concat hrestorable he h
    outside := fun _ => hmoves.outside_concat he h }⟩

/-! ## All entries that are left -/

/-- All entries that are left are restored. -/
theorem run_restoreAll {rest : Lookup} (hstaged : IsStaged c staging top table)
    (hrestorable : IsRestorable c top table) (htable : table = done ++ rest)
    (h : Restored c top table done d) :
    ∃ d', (rest.forM (restoreEntry staging)).run.run d = (.ok (), d') ∧
      Restored c top table table d' := by
  induction rest generalizing done d with
  | nil =>
    rw [List.append_nil] at htable
    subst htable
    exact ⟨d, rfl, h⟩
  | cons e rest ih =>
    obtain ⟨d₁, hrun, h₁⟩ := h.step hstaged hrestorable htable
    obtain ⟨d', hrun', h'⟩ := ih (by rw [htable, List.append_assoc, List.singleton_append]) h₁
    refine ⟨d', ?_, h'⟩
    rw [List.forM, run_bind_of_ok hrun]
    exact hrun'

end Codemod.Backup
