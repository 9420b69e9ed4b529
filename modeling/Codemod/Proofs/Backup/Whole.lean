import Codemod.Proofs.Backup.Archive
import Codemod.Proofs.Disk.Again
import Codemod.Proofs.Uuid

set_option autoImplicit false

/-! # All of an archive or nothing

An archive that cannot be made leaves no trace but directories that were made for it, and one that
can be made is all that comes to the tree (`archive_whole`). The file in which it is put together is
gone in both cases: it is renamed or removed. The names of the members are different since a
generator draws them (`Draw.IsDrawn`), so that there is one member for each file. -/

namespace Codemod.Disk

variable {d x y : Disk} {p q : Path} {l m : Location} {n : Name} {new : Location → Prop}

/-- What has come only to places where nothing was has changed nothing. -/
theorem SameBut.isWithin (h : SameBut new (fun _ => False) x y)
    (hnew : ∀ m, new m → x.at? m = none) : x.Within y where
  workingDirectory := h.workingDirectory
  at? := by
    intro m entry hat
    refine (h.at? m fun hm => ?_).trans hat
    rw [hnew m hm] at hat
    cases hat
  contentOf := fun key hkey => h.contentOf key hkey id
  rightsOf := fun key hkey => h.rightsOf key hkey id
  nextKey_le := h.nextKey_le

/-- The place of a directory that a path names, or of one above it. -/
def MadeFor (d : Disk) (p : Path) (m : Location) : Prop := ∃ q, AtOrAbove p q ∧ d.place? q = .ok m

theorem keeps_madeFor (d : Disk) (hq : AtOrAbove p q) :
    Keeps (fun x => x.WellFormed ∧ d.Grown (x.MadeFor p) x) (makeDirectory q) := by
  rintro x ⟨hx, hgrown⟩
  rcases run_makeDirectory_cases q x with ⟨error, hrun⟩ | ⟨l, n, hfound, hrun⟩
  · rw [hrun]
    exact ⟨hx, hgrown⟩
  · rw [hrun]
    have hfree : x.IsFree l n := hx.isThere_of_locate hfound
    have hwithin := within_put hfree.at?_eq_none (.directory {})
    have hat : (x.put (l ++ [n]) (.directory {})).at? (l ++ [n]) = some (.directory {}) := by
      rw [at?_put, if_pos ⟨rfl, concat_ne_nil _ _⟩]
    have hplace := hwithin.isExtended.place?_of_vacant hx (fun _ => rfl) hfound hat (by simp) true
    refine ⟨hx.putNew hfree fun key hkey => (nomatch hkey), ?_⟩
    exact (hgrown.mono fun m ⟨q', hq', hm⟩ => ⟨q', hq', hwithin.place? hx hm⟩).trans
      (.put hfree.at?_eq_none ⟨q, hq, hplace⟩)

/-- Whether all directories can be made or not, those that are made are on the path. -/
theorem run_ensureDirectories_grown (hd : d.WellFormed) (p : Path) :
    ((ensureDirectories p).run.run d).2.WellFormed ∧
      d.Grown (((ensureDirectories p).run.run d).2.MadeFor p) ((ensureDirectories p).run.run d).2 :=
  keeps_ensureDirectories (fun _ hq => keeps_madeFor d hq) d ⟨hd, .refl ..⟩

/-- Where the name after a path is free, it is free in the directory that the path leads to. -/
theorem place?_of_join (hd : d.WellFormed) (hn : n.IsPart)
    (h : d.resolveName (p.join ⟨n⟩) = .ok (.vacant m n)) :
    p.bytes = [] ∧ m = d.workingDirectory ∨ d.place? p = .ok m := by
  by_cases hne : p.bytes = []
  · obtain ⟨-, -, -, hchase⟩ := locate_eq_ok_iff.1 h
    obtain ⟨init, left, hsegments, henter, -⟩ := exists_enter_of_vacant hchase
    rw [Path.segments_join p hn] at hsegments
    obtain ⟨rfl, -⟩ := List.append_inj' hsegments rfl
    have hnil : p.segments = [] := by
      rw [Path.segments, hne]
      rfl
    have hname : (p.join ⟨n⟩).isAbsolute = false := by
      rw [Path.join_part hn, if_pos hne, Path.not_isAbsolute_of_isPart hn]
    rw [hnil, enter, startOf, hname, if_neg Bool.false_ne_true] at henter
    cases henter
    exact .inl ⟨hne, rfl⟩
  · obtain ⟨l, hplace, -, hvacant⟩ := exists_directory_of_join hd hn hne h
    exact .inr (hvacant m n rfl ▸ hplace)

end Codemod.Disk

namespace Codemod.Backup

open Disk Archive

variable {d d' x y : Disk} {draw : Draw} {files : List Path}
  {directory archive unfinished final p : Path} {l m : Location} {u : Name} {new : Location → Prop}
  {table : Lookup} {failure : Failure}

/-! ## Names -/

/-- What chance gives to an archive of some files in a tree: the members are called what a generator
hands out; the drawn parts of names are no paths, and nothing has the name of the archive yet. -/
structure Draw.IsDrawn (draw : Draw) (d : Disk) (count : Nat) : Prop where
  member : ∃ source g rest, ({ dash := true } : Uuid.Generator).take? count source =
    some ((List.range count).map draw.member, g, rest)
  tag : '/' ∉ draw.tag.toList
  suffix : '/' ∉ draw.suffix.toList
  fresh : ∀ e ∈ d.entries, e.1.getLast? ≠ some (Name.ofString draw.archiveName)

/-- Drawn names are different texts of identifiers. -/
theorem Draw.IsDrawn.isFair {count : Nat} (h : draw.IsDrawn d count) : draw.IsFair d count := by
  obtain ⟨source, g, rest, htake⟩ := h.member
  obtain ⟨-, hnodup, hall⟩ := Uuid.Generator.nodup_of_take? htake
  exact {
    member := fun i hi =>
      (hall _ (List.mem_map_of_mem (List.mem_range.2 hi))).2
    distinct := fun i hi j hj heq =>
      List.inj_on_of_nodup_map hnodup (List.mem_range.2 hi) (List.mem_range.2 hj) heq
    tag := h.tag
    suffix := h.suffix
    fresh := h.fresh }

/-! ## What an archive leaves alone -/

/-- A tree that has all that another one had, as it was. What it has more is new, or a directory
that was made for archives; if that directory was there then nothing was made for it. -/
structure Prepared (d : Disk) (directory : Path) (new : Location → Prop) (d' : Disk) : Prop where
  wellFormed : d'.WellFormed
  sameBut : SameBut (fun m => new m ∨
    d.at? m = none ∧ d'.at? m = some (.directory {}) ∧ d'.MadeFor directory m) (fun _ => False) d d'
  there : d.isDirectory directory = true → SameBut new (fun _ => False) d d'

theorem prepared_refl (hd : d.WellFormed) (directory : Path) (new : Location → Prop) :
    Prepared d directory new d :=
  ⟨hd, .refl .., fun _ => .refl ..⟩

/-- What comes after the directories were made comes to free places only. -/
theorem prepared_of_sameBut (hd : d.WellFormed)
    (h : SameBut new (fun _ => False) ((ensureDirectories directory).run.run d).2 d')
    (hnew : ∀ m, new m → ((ensureDirectories directory).run.run d).2.at? m = none)
    (hwell : d'.WellFormed) : Prepared d directory new d' := by
  obtain ⟨hmade, hgrown⟩ := run_ensureDirectories_grown hd directory
  have hwithin := h.isWithin hnew
  refine ⟨hwell, ?_, fun hthere => ?_⟩
  · refine SameBut.trans ?_ (h.mono (fun _ hm => .inl hm) fun _ => id)
    refine .of_sameFiles hgrown.sameFiles fun m hm => ?_
    rcases hgrown.at?_cases m with hsame | ⟨hnone, hdir, q, hq, hplace⟩
    · exact hsame
    · exact absurd (.inr ⟨hnone, hwithin.at? m _ hdir, q, hq, hwithin.place? hmade hplace⟩) hm
  · rwa [run_ensureDirectories_of_isDirectory hthere] at h

/-! ## Failures -/

theorem run_fullPath_snd (p : Path) (d : Disk) : ((fullPath p).run.run d).2 = d := by
  rw [fullPath, run_bind, run_get]
  dsimp only
  split
  · rfl
  · split
    · rfl
    · rfl

/-- Making a table changes nothing. -/
theorem run_tableFrom_snd (draw : Draw) (n : Nat) (done : Lookup) (files : List Path) (d : Disk) :
    ((tableFrom draw n done files).run.run d).2 = d := by
  induction files generalizing n done with
  | nil => rfl
  | cons p rest ih =>
    have hsame := run_fullPath_snd p d
    rw [tableFrom, run_bind]
    rcases hrun : (fullPath p).run.run d with ⟨failure | full, d'⟩
    · rw [hrun] at hsame
      exact hsame
    · rw [hrun] at hsame
      dsimp only at hsame ⊢
      rw [hsame]
      exact ih ..

section Unfinished

variable (hd : d.WellFormed) (hfree : d.resolveName unfinished = .ok (.vacant l u))
  (hslash : unfinished.endsInSeparator = false)
include hd hfree hslash

/-- An archive that is not completed is still the unfinished file. -/
theorem complete_error (h : ((complete table unfinished final).run.run
      (d.addFile (l ++ [u]) (.bytes []))).1 = .error failure) :
    ∃ content, ((complete table unfinished final).run.run (d.addFile (l ++ [u]) (.bytes []))).2 =
      d.addFile (l ++ [u]) content := by
  have hisFree : d.IsFree l u := hd.isThere_of_locate hfree
  rw [complete, run_bind, run_get] at h ⊢
  dsimp only at h ⊢
  rcases hentries : entriesOf (d.addFile (l ++ [u]) (.bytes [])) table with failure' | entries
  · exact ⟨_, rfl⟩
  rw [hentries] at h
  dsimp only at h ⊢
  rw [run_bind, run_attempt] at h ⊢
  rcases run_write_cases unfinished (.sealed entries) (d.addFile (l ++ [u]) (.bytes [])) with
    ⟨error, hwrite⟩ | ⟨l', n', -, -, -, hwrite⟩ | ⟨l', key, -, -, -, hwrite⟩
  · rw [hwrite]
    exact ⟨_, rfl⟩
  all_goals
    rw [hwrite] at h ⊢
    dsimp only [mapError_ok] at h ⊢
    have hwritten := write_unfinished hd hfree hslash hwrite
    rw [hwritten] at h ⊢
    rw [run_attempt] at h ⊢
    have hstay := (sameBut_rename (hd.addFile hisFree (.sealed entries)) unfinished final
      fun _ => False).2
    rcases hrename : (rename unfinished final).run.run (d.addFile (l ++ [u]) (.sealed entries)) with
      ⟨error | ⟨⟩, x⟩
    · rw [hrename] at hstay
      exact ⟨_, hstay error rfl⟩
    · rw [hrename] at h
      cases h

/-- The unfinished file can be removed, and then nothing is left of it. -/
theorem run_removeFile_unfinished (hwritable : (d.rightsAt l).writable = true) (content : Content) :
    ((removeFile unfinished).run.run (d.addFile (l ++ [u]) content)).2.WellFormed ∧
      SameBut (fun _ => False) (fun _ => False) d
        ((removeFile unfinished).run.run (d.addFile (l ++ [u]) content)).2 := by
  have hisFree : d.IsFree l u := hd.isThere_of_locate hfree
  obtain ⟨hkey, hplace⟩ := place?_unfinished hd hfree hslash content false
  have habove : (d.addFile (l ++ [u]) content).rightsAt (l ++ [u]).dropLast = d.rightsAt l := by
    have hat : (d.addFile (l ++ [u]) content).at? l = d.at? l := by
      rw [at?_addFile, if_neg]
      rintro ⟨heq, -⟩
      have hlength := congrArg List.length heq
      rw [List.length_append, List.length_singleton] at hlength
      omega
    obtain ⟨rights, hdir⟩ := hasDirectory_iff.1 hisFree.hasDirectory
    rw [List.dropLast_concat, rightsAt, rightsAt, hat, hdir]
  have hwell := WellFormed.keeps_removeFile unfinished _ (hd.addFile hisFree content)
  have hrun : (removeFile unfinished).run.run (d.addFile (l ++ [u]) content) =
      (.ok (), (d.addFile (l ++ [u]) content).cut (l ++ [u])) := by
    rw [run_removeFile, hplace]
    simp only [hkey, habove, hwritable, if_true]
  refine ⟨hwell, ?_⟩
  rw [hrun]
  have hadd : SameBut (l ++ [u] <+: ·) (fun _ => False) d (d.addFile (l ++ [u]) content) :=
    (SameBut.refl ..).addFile List.prefix_rfl content
  refine { hadd.trans (sameBut_cut fun _ => id) with at? := fun k _ => ?_ }
  by_cases hk : l ++ [u] <+: k
  · have hne : k ≠ [] := by
      rintro rfl
      exact concat_ne_nil l u (List.prefix_nil.1 hk)
    have hnone : d.at? k = none := by
      by_cases heq : l ++ [u] = k
      · rw [← heq, hisFree.at?_eq_none]
      · exact hd.at?_below (by rw [hasDirectory, hisFree.at?_eq_none]; rfl) hk heq
    rw [at?_cut, if_pos ⟨hne, hk⟩, hnone]
  · exact (hadd.trans (sameBut_cut fun _ => id)).at? k hk

end Unfinished

/-- An archive that cannot be made leaves nothing but directories. -/
theorem prepared_of_error (hd : d.WellFormed) (hsuffix : '/' ∉ draw.suffix.toList)
    (h : (Backup.archive draw files directory).run.run d = (.error failure, d')) :
    Prepared d directory (fun _ => False) d' := by
  have hmade := (run_ensureDirectories_grown hd directory).1
  have hfailed : ∀ {x : Disk}, x.WellFormed →
      SameBut (fun _ => False) (fun _ => False) ((ensureDirectories directory).run.run d).2 x →
      Prepared d directory (fun _ => False) x := fun hx hsame =>
    prepared_of_sameBut hd hsame (fun _ => False.elim) hx
  have htable := run_tableFrom_snd draw 0 [] files d
  rw [Backup.archive, run_bind] at h
  rcases hrun : (tableFrom draw 0 [] files).run.run d with ⟨failure' | table, d₀⟩
  · rw [hrun] at h htable
    cases h
    obtain rfl : d' = d := htable
    exact prepared_refl hd ..
  rw [hrun] at h htable
  obtain rfl : d₀ = d := htable
  dsimp only at h
  rw [run_bind, run_attempt] at h
  rcases hensure : (ensureDirectories directory).run.run d₀ with ⟨error | ⟨⟩, dA⟩
  · rw [hensure] at h hmade hfailed
    cases h
    exact hfailed hmade (.refl ..)
  rw [hensure] at h hmade hfailed
  dsimp only [mapError_ok] at h
  rw [run_bind, run_attempt] at h
  rcases hnew : (writeNew (directory.join (.ofString draw.unfinishedName))
      (.bytes [])).run.run dA with ⟨error | ⟨⟩, dB⟩
  · rcases run_writeNew_cases (directory.join (.ofString draw.unfinishedName)) (.bytes []) dA with
      ⟨error', hsame⟩ | ⟨l, n, -, hsame⟩
    · rw [hnew] at h hsame
      cases hsame
      cases h
      exact hfailed hmade (.refl ..)
    · rw [hnew] at hsame
      cases hsame
  rw [hnew] at h
  dsimp only [mapError_ok] at h
  obtain ⟨l, u, hresolve, hwritable, rfl⟩ := writeNew_eq_ok hnew
  have hslash := Path.endsInSeparator_join directory (isPart_unfinishedName hsuffix)
  have hfree : dA.resolveName (directory.join (.ofString draw.unfinishedName)) =
      .ok (.vacant l u) := by
    rw [resolve, Path.ofString, hslash] at hresolve
    exact hresolve
  rw [run_bind, run_orRemove] at h
  rcases hcomplete : (complete table (directory.join (.ofString draw.unfinishedName))
      (directory.join (.ofString draw.archiveName))).run.run
      (dA.addFile (l ++ [u]) (.bytes [])) with ⟨failure' | ⟨⟩, dC⟩
  · obtain ⟨content, hleft⟩ := complete_error hmade hfree hslash (congrArg Prod.fst hcomplete)
    rw [hcomplete] at h hleft
    obtain rfl : dC = dA.addFile (l ++ [u]) content := hleft
    obtain ⟨hwell, hsame⟩ := run_removeFile_unfinished hmade hfree hslash hwritable content
    cases h
    exact hfailed hwell hsame
  · rw [hcomplete] at h
    cases h

/-! ## What an archive holds -/

/-- Each file of a table is copied under the name of its member. -/
theorem mapM_copyOf_eq_ok {copies : List (Path × Option Content)}
    (h : (table.mapM fun e => do return (Path.ofString e.1, ← copyOf d e.2)) = .ok copies) :
    copies.map (·.1) = table.map (fun e => Path.ofString e.1) ∧
      ∀ e ∈ table, ∃ c, (Path.ofString e.1, c) ∈ copies ∧ copyOf d e.2 = .ok c := by
  induction table generalizing copies with
  | nil =>
    cases h
    exact ⟨rfl, fun _ h => nomatch h⟩
  | cons e rest ih =>
    rw [List.mapM_cons] at h
    rcases hcopy : copyOf d e.2 with failure | c
    · rw [hcopy] at h
      cases h
    rcases hrest : (rest.mapM fun e => do return (Path.ofString e.1, ← copyOf d e.2)) with
      failure | copies'
    · rw [hcopy, hrest] at h
      cases h
    · rw [hcopy, hrest] at h
      cases h
      obtain ⟨hnames, hcopies⟩ := ih hrest
      refine ⟨by rw [List.map_cons, List.map_cons, hnames], ?_⟩
      refine List.forall_mem_cons.2 ⟨⟨c, List.mem_cons_self, hcopy⟩, fun e' he' => ?_⟩
      obtain ⟨c', hmem, hcopy'⟩ := hcopies e' he'
      exact ⟨c', List.mem_cons_of_mem _ hmem, hcopy'⟩

/-- What is read from a file before is what is copied later, if nothing was taken away. -/
theorem copyOf_of_read {content : Content} {c : Option Content} (hd : d.WellFormed)
    (hwithin : d.Within y) (hread : d.read p = .ok content) (hcopy : copyOf y p = .ok c) :
    c = some content := by
  obtain ⟨l, key, hplace, hkey, -⟩ := read_eq_ok_iff.1 hread
  have hfile : y.isDirectory p = false := by
    rw [isDirectory, status?, hwithin.place? hd hplace]
    simp only [Except.toOption, Option.bind_some, hwithin.at? l _ hkey]
    rfl
  rw [copyOf, hfile, if_neg Bool.false_ne_true, hwithin.read hd hread] at hcopy
  exact (Except.ok.inj hcopy).symm

/-- A file at a place is an archive of some files, as they were in another tree: it has one member
for each of them, and last a table that has the absolute path of each under the name of its member.
-/
structure Holds (draw : Draw) (files : List Path) (d d' : Disk) (m : Location) (table : Lookup)
    (copies : List (Path × Option Content)) (bytes : List UInt8) : Prop where
  file : d'.at? m = some (.file d.nextKey)
  content : d'.contentOf d.nextKey =
    .sealed (copies ++ [(.ofString Lookup.fileName, some (.bytes bytes))])
  decode : Lookup.decode bytes = some table
  perm : table.Perm (entriesFor draw d 0 files)
  names : copies.map Prod.fst = table.map fun e => Path.ofString e.1
  length : copies.length = files.length
  nodup : (copies.map Prod.fst ++ [Path.ofString Lookup.fileName]).Nodup
  copy : ∀ e ∈ table, ∃ c, (Path.ofString e.1, c) ∈ copies ∧
    ∀ content, d.read e.2 = .ok content → c = some content

theorem path_ofString_injective : Function.Injective Path.ofString := fun _ _ h =>
  Name.ofString_injective (congrArg Path.bytes h)

/-- The entries of an archive of some files. -/
theorem holds_of_entriesOf {entries : List (Path × Option Content)} {m : Location}
    (hd : d.WellFormed) (hfair : draw.IsFair d files.length) (hwithin : d.Within y)
    (hentries : entriesOf y (Lookup.ofList (entriesFor draw d 0 files)) = .ok entries)
    (hfile : d'.at? m = some (.file d.nextKey))
    (hcontent : d'.contentOf d.nextKey = .sealed entries) :
    ∃ table copies bytes, Holds draw files d d' m table copies bytes := by
  have hnodup := nodup_entriesFor hfair
  have hperm := Lookup.perm_ofList hnodup
  rw [entriesOf] at hentries
  rcases hcopies : ((Lookup.ofList (entriesFor draw d 0 files)).mapM fun e => do
      return (Path.ofString e.1, ← copyOf y e.2)) with failure | copies
  · rw [hcopies] at hentries
    cases hentries
  rw [hcopies] at hentries
  obtain ⟨hnames, hcopy⟩ := mapM_copyOf_eq_ok hcopies
  rcases hencode : (Lookup.ofList (entriesFor draw d 0 files)).encode with _ | bytes
  · simp only [hencode] at hentries
    cases hentries
  simp only [hencode] at hentries
  cases hentries
  refine ⟨_, copies, bytes, {
    file := hfile
    content := hcontent
    decode := Lookup.decode_of_encode (Lookup.sorted_ofList _) hencode
    perm := hperm
    names := hnames
    length := ?_
    nodup := ?_
    copy := fun e he => ?_ }⟩
  · have hlength := congrArg List.length hnames
    rw [List.length_map, List.length_map, hperm.length_eq, entriesFor, List.length_map,
      List.length_zipIdx] at hlength
    exact hlength
  · rw [hnames]
    refine List.Nodup.append ?_ (List.nodup_singleton _) ?_
    · have htable := ((hperm.map (·.1)).nodup_iff.2 hnodup).map path_ofString_injective
      rwa [List.map_map] at htable
    · rw [List.disjoint_singleton]
      intro hmem
      obtain ⟨e, he, hname⟩ := List.mem_map.1 hmem
      obtain ⟨i, p, -, rfl⟩ := mem_entriesFor.1 (hperm.mem_iff.1 he)
      exact memberName_ne_fileName draw _ (path_ofString_injective hname)
  · obtain ⟨c, hmem, hc⟩ := hcopy e he
    exact ⟨c, hmem, fun content hread => copyOf_of_read hd hwithin hread hc⟩

/-- What leads somewhere while the archive is not finished leads there when it is. -/
theorem Placed.extends_addFile {content : Content} (h : Placed d final m content d')
    (content' : Content) : (d.addFile l content').Extends d' := by
  have hwithin := h.sameBut.isWithin (by rintro _ rfl; exact h.free)
  have hstay : ∀ k entry, (∀ key, entry ≠ .file key) →
      (d.addFile l content').at? k = some entry → d'.at? k = some entry := by
    intro k entry hentry hat
    rw [at?_addFile] at hat
    split at hat
    · exact absurd (Option.some.inj hat).symm (hentry _)
    · exact hwithin.at? k entry hat
  exact {
    workingDirectory := hwithin.workingDirectory
    directory := fun k _ => hstay k _ fun _ h => nomatch h
    link := fun k _ => hstay k _ fun _ h => nomatch h }

/-! ## The whole -/

/-- If an archive cannot be made, for whatever reason, then the tree has what it had, every file
with its content, and beside that only directories which were made on the path for archives. If it
can be made then exactly one file has come as well, into the directory for archives: an archive with
one member for each file that is listed, even if it is listed twice, and a table that maps the names
of these members, which are all different, to the absolute paths of the files. -/
theorem archive_whole (hd : d.WellFormed) (hdrawn : draw.IsDrawn d files.length) :
    (∀ failure d', (Backup.archive draw files directory).run.run d = (.error failure, d') →
      Prepared d directory (fun _ => False) d') ∧
    ∀ archive d', (Backup.archive draw files directory).run.run d = (.ok archive, d') →
      ∃ l table copies bytes, archive = directory.join (.ofString draw.archiveName) ∧
        (directory.bytes = [] ∧ l = d.workingDirectory ∨ d'.place? directory = .ok l) ∧
        d'.place? archive = .ok (l ++ [Name.ofString draw.archiveName]) ∧
        d.at? (l ++ [Name.ofString draw.archiveName]) = none ∧
        Prepared d directory (· = l ++ [Name.ofString draw.archiveName]) d' ∧
        Holds draw files d d' (l ++ [Name.ofString draw.archiveName]) table copies bytes := by
  refine ⟨fun failure d' h => prepared_of_error hd hdrawn.suffix h, fun archive d' h => ?_⟩
  have hfair := hdrawn.isFair
  obtain ⟨dA, l, u, m, entries, harchive, hensure, hdA, hgrown, hfree, hentries, hvacant,
    hplaced⟩ := archive_placed hd hfair h
  have hkey : dA.nextKey = d.nextKey := hgrown.sameFiles.nextKey
  have hwithin : d.Within (dA.addFile (l ++ [u]) (.bytes [])) :=
    hgrown.isWithin.trans (within_addFile hfree.at?_eq_none _)
  obtain ⟨table, copies, bytes, hholds⟩ := holds_of_entriesOf hd hfair hwithin hentries
    (hkey ▸ hplaced.file) (hkey ▸ hplaced.contentOf)
  have hnone : d.at? (m ++ [Name.ofString draw.archiveName]) = none := by
    rcases hat : d.at? (m ++ [Name.ofString draw.archiveName]) with _ | entry
    · rfl
    · have hthere := hplaced.free
      rw [hgrown.at?_of_some hat] at hthere
      cases hthere
  have hprepared : Prepared d directory (· = m ++ [Name.ofString draw.archiveName]) d' := by
    refine prepared_of_sameBut hd ?_ ?_ hplaced.wellFormed
    · rw [hensure]
      exact hplaced.sameBut
    · rw [hensure]
      rintro _ rfl
      exact hplaced.free
  refine ⟨m, table, copies, bytes, harchive, ?_, hplaced.place?, hnone, hprepared, hholds⟩
  have hunfinished := hdA.addFile hfree (.sealed entries)
  obtain ⟨rights, hdirectory⟩ :=
    hasDirectory_iff.1 (hunfinished.isThere_of_locate hvacant).hasDirectory
  rw [harchive] at hvacant
  rcases place?_of_join hunfinished (isPart_archiveName hdrawn.tag) hvacant with
    ⟨hempty, rfl⟩ | hplace
  · exact .inl ⟨hempty, hgrown.sameFiles.workingDirectory⟩
  · refine .inr ((hplaced.extends_addFile _).place? hunfinished (fun key hkey => ?_) hplace)
    rw [hdirectory] at hkey
    cases hkey

/-- A generator whose source delivers one identifier twice. -/
def twiceSource : List Uuid := [.ofRandom 0, .ofRandom 0, .ofRandom (1 <<< 124)]

/-- What chance gives to an archive of two files. -/
def twiceDraw : Draw where
  moment := ⟨2024, 5, 6, 7, 8, 9, 0, 0⟩
  tag := "0123456789abcdef"
  suffix := "AbCdEf"
  member n := ((Uuid.Generator.take? { dash := true } 2 twiceSource).map (·.1.getD n "")).getD ""

/-- The archive that comes of it. -/
def twiceArchive : Path := .ofString "/bak/archive-20240506070809-0123456789abcdef.tar.gz"

/-- A file and a directory for archives with an older archive in it. -/
def twiceDisk : Disk where
  entries := [([Name.ofString "f"], .file 0), ([Name.ofString "bak"], .directory {}),
    ([Name.ofString "bak", Name.ofString "archive"], .file 1)]
  contents := [(0, .bytes [0x70]), (1, .bytes [0x71])]
  nextKey := 2

theorem archive_whole_of_twice :
    twiceDisk.WellFormed ∧ twiceDraw.IsDrawn twiceDisk 2 ∧
      (∃ d', (Backup.archive twiceDraw [.ofString "f", .ofString "g"] (.ofString "/bak")).run.run
          twiceDisk = (.error (.cannotArchive (.ofString "/g")), d') ∧
        Prepared twiceDisk (.ofString "/bak") (fun _ => False) d') ∧
      ∃ archive d' l table copies bytes,
        (Backup.archive twiceDraw [.ofString "f", .ofString "f"] (.ofString "/bak")).run.run
          twiceDisk = (.ok archive, d') ∧
        Holds twiceDraw [.ofString "f", .ofString "f"] twiceDisk d' l table copies bytes := by
  have hwell : twiceDisk.WellFormed := by decide +kernel
  have hdrawn : twiceDraw.IsDrawn twiceDisk 2 :=
    ⟨⟨twiceSource, _, _, rfl⟩, by decide, by decide, by decide +kernel⟩
  refine ⟨hwell, hdrawn, ?_, ?_⟩
  · have h : (Backup.archive twiceDraw [.ofString "f", .ofString "g"] (.ofString "/bak")).run.run
        twiceDisk = (.error (.cannotArchive (.ofString "/g")), _) :=
      Prod.ext (by decide +kernel) rfl
    exact ⟨_, h, (archive_whole hwell hdrawn).1 _ _ h⟩
  · have h : (Backup.archive twiceDraw [.ofString "f", .ofString "f"] (.ofString "/bak")).run.run
        twiceDisk = (.ok twiceArchive, _) := Prod.ext (by decide +kernel) rfl
    obtain ⟨l, table, copies, bytes, -, -, -, -, -, hholds⟩ :=
      (archive_whole hwell hdrawn).2 _ _ h
    exact ⟨_, _, _, _, _, _, h, hholds⟩

end Codemod.Backup
