import Codemod.Proofs.Discovery.Below
import Codemod.Proofs.Discovery.Dedupe
import Mathlib.Data.Option.Basic

set_option autoImplicit false

/-! # What is found

The files that are found for some paths and patterns are the files among what these stand for, and
the files with an accepted extension in the directories that can be reached from there
(`IsSought`). Each is found once, under its own path. Files are missed only where the system
follows no path that long or through that many links (`detect_sound_complete`). -/

namespace Codemod

open Disk

variable {d : Disk} {filter : FileFilter} {above : List Location}
  {l b c top : Location} {p : Path} {name : Name}

/-! ## One path for each file -/

theorem Disk.identify_eq_file_iff {key : Nat} :
    d.identify p = .ok (.file key) ↔ d.fileKey? p = some key := by
  unfold identify fileKey? status?
  rcases d.place? p with e | place
  · simp [Except.toOption]
  · rcases hat : d.at? place with _ | ⟨rights⟩ | key | target <;> simp [Except.toOption, hat]

theorem Disk.exists_of_fileKey? {key : Nat} (h : d.fileKey? p = some key) :
    d.exists? p = true := by
  unfold fileKey? at h
  unfold exists?
  split at h
  · simp_all
  · cases h

/-- Each of some files stays, under one of its paths. -/
theorem dedupe_files {paths : List Path} (h : ∀ p ∈ paths, ∃ key, d.fileKey? p = some key) :
    ∃ unique, dedupe d (paths.filter d.exists?) = .ok unique ∧ unique ⊆ paths ∧
      (unique.map d.fileKey?).Nodup ∧
      ∀ key, some key ∈ unique.map d.fileKey? ↔ ∃ p ∈ paths, d.fileKey? p = some key := by
  have hexists : ∀ p ∈ paths, d.exists? p = true := by
    intro p hp
    obtain ⟨key, hkey⟩ := h p hp
    exact exists_of_fileKey? hkey
  obtain ⟨u, hu, hkeeps⟩ := Unique.exists_keeps hexists
  have hsub : u.paths ⊆ paths := fun p hp => (hkeeps.isLatest hp).mem
  refine ⟨u.paths, ?_, hsub, ?_, ?_⟩
  · rw [List.filter_eq_self.mpr hexists]
    exact dedupe_of_ofPaths hu
  · -- Files with the same number are the same thing, and things are listed once.
    apply (hkeeps.nodup.of_map d.identify).map_on
    intro p hp q hq heq
    obtain ⟨key, hkey⟩ := h q (hsub hq)
    rw [hkey] at heq
    apply List.inj_on_of_nodup_map hkeeps.nodup hp hq
    rw [identify_eq_file_iff.mpr heq, identify_eq_file_iff.mpr hkey]
  · intro key
    have hmem := hkeeps.mem_identities_iff (.ok (.file key))
    simpa only [List.mem_map, identify_eq_file_iff] using hmem

/-! ## Taking up what is found -/

theorem Disk.canonical?_eq_some_iff :
    d.canonical? p = some l ↔ d.place? p = .ok l ∧ isPassable l.path = true := by
  rw [canonical?, Option.filter_eq_some_iff]
  rcases d.place? p with e | m
  · simp [Except.toOption]
  · simp only [Except.toOption, Option.some.injEq, Except.ok.injEq]

namespace Search

/-- The path of the file that a candidate leads to. -/
def fileAt? (d : Disk) (p : Path) : Option Path :=
  ((d.canonical? p).filter fun l => !d.hasDirectory l).map Location.path

/-- The directory that a candidate leads to. -/
def directoryAt? (d : Disk) (p : Path) : Option Location := (d.canonical? p).filter d.hasDirectory

/-- What is kept of some candidates: the files, and the directories to be walked. -/
theorem foldl_addCandidate (d : Disk) (candidates : List Path) (search : Search) :
    (candidates.foldl (addCandidate d) search).files =
      search.files ++ candidates.filterMap (fileAt? d) ∧
    (candidates.foldl (addCandidate d) search).directories =
      search.directories ++ candidates.filterMap (directoryAt? d) := by
  induction candidates generalizing search with
  | nil => simp
  | cons p candidates ih =>
    rw [List.foldl_cons, (ih _).1, (ih _).2, List.filterMap_cons, List.filterMap_cons, fileAt?,
      directoryAt?, addCandidate]
    rcases d.canonical? p with _ | l
    · exact ⟨rfl, rfl⟩
    · cases hdir : d.hasDirectory l with
      | true => simp [hdir, Option.filter]
      | false => simp [hdir, Option.filter]

/-- The path of the file that a walk has come to, if its extension is accepted under either name. -/
def fileOf? (filter : FileFilter) : Visit → Option Path
  | .file p c =>
    if isPassable c.path && (filter.accepts p || filter.accepts c.path) then some c.path else none
  | .directory .. | .closed _ | .fault _ => none

theorem foldl_addVisit (filter : FileFilter) (visits : List Visit) (search : Search) :
    (visits.foldl (addVisit filter) search).files =
      search.files ++ visits.filterMap (fileOf? filter) := by
  induction visits generalizing search with
  | nil => simp
  | cons v visits ih =>
    rw [List.foldl_cons, ih, List.filterMap_cons]
    rcases v with ⟨p, c⟩ | ⟨p, c⟩ | p | fault
    · rw [addVisit, fileOf?]
      split
      · rw [List.append_assoc, List.singleton_append]
      · rfl
    · rfl
    · rfl
    · rfl

theorem fileOf?_eq_some_iff {v : Visit} {q : Path} :
    fileOf? filter v = some q ↔ ∃ p c, v = .file p c ∧ isPassable c.path = true ∧
      (filter.accepts p = true ∨ filter.accepts c.path = true) ∧ q = c.path := by
  rcases v with ⟨p, c⟩ | ⟨p, c⟩ | p | fault
  · simp only [fileOf?, Option.ite_none_right_eq_some, Bool.and_eq_true, Bool.or_eq_true,
      Option.some.injEq, Visit.file.injEq]
    constructor
    · rintro ⟨⟨hpass, haccepts⟩, rfl⟩
      exact ⟨p, c, ⟨rfl, rfl⟩, hpass, haccepts, rfl⟩
    · rintro ⟨_, _, ⟨rfl, rfl⟩, hpass, haccepts, rfl⟩
      exact ⟨⟨hpass, haccepts⟩, rfl⟩
  · simp [fileOf?]
  · simp [fileOf?]
  · simp [fileOf?]

/-! ## Walking through all directories -/

/-- One directory more is walked through. -/
def walkNext (d : Disk) (filter : FileFilter) (reached : Search × List Location) (l : Location) :
    Search × List Location :=
  ((d.walkOnce reached.2 l).1.foldl (addVisit filter) reached.1, (d.walkOnce reached.2 l).2)

theorem walkAll_eq (d : Disk) (filter : FileFilter) (search : Search) :
    search.walkAll d filter = (search.directories.foldl (walkNext d filter) (search, [])).1 := rfl

theorem accepts_join (hd : d.WellFormed) (h : d.Leads b name c) (p : Path) :
    filter.accepts (p.join ⟨name⟩) = filter.accepts ⟨name⟩ := by
  obtain ⟨⟨entry, hchild⟩, -⟩ := h
  have hname := hd.isEntryName_of_mem_children hchild
  have hsegments : Path.segments ⟨name⟩ = [] ++ [name] := Path.segments_of_isPart hname.isPart
  rw [FileFilter.accepts, FileFilter.accepts, Path.extension?, Path.extension?,
    Path.fileName?_of_segments (Path.segments_join p hname.isPart) hname.ne_here hname.ne_above,
    Path.fileName?_of_segments hsegments hname.ne_here hname.ne_above]

/-- What is kept of a walk is the path of a file within reach, which has an accepted extension. -/
def IsFound (d : Disk) (filter : FileFilter) (top : Location) (q : Path) : Prop :=
  ∃ b name c key, d.Reaches top b ∧ d.Leads b name c ∧ d.at? c = some (.file key) ∧
    (filter.accepts ⟨name⟩ = true ∨ filter.accepts c.path = true) ∧ isPassable c.path = true ∧
    q = c.path

theorem walkNext_sound (hd : d.WellFormed) (hread : d.Readable) (hl : d.hasDirectory l = true)
    (hpass : isPassable l.path = true) (reached : Search × List Location) {q : Path}
    (hq : q ∈ (walkNext d filter reached l).1.files) :
    q ∈ reached.1.files ∨ IsFound d filter l q := by
  rw [walkNext, foldl_addVisit, List.mem_append, List.mem_filterMap] at hq
  refine hq.imp_right ?_
  rintro ⟨v, hv, hfile⟩
  obtain ⟨p, c, rfl, hpassc, haccepts, rfl⟩ := fileOf?_eq_some_iff.1 hfile
  rw [walkOnce] at hv
  split at hv
  · cases hv
  · obtain ⟨p', b, name, hreaches, hleads, rfl, key, hkey⟩ :=
      isSound_of_mem_below hd (Trail.ofDirectory hd hread hl hpass)
        (List.cons_subset_cons l (List.nil_subset _)) _ hv
    rw [accepts_join hd hleads] at haccepts
    exact ⟨b, name, c, key, hreaches, hleads, hkey, haccepts, hpassc, rfl⟩

/-- What the entries of a directory lead to is among the files that were kept, if their extension is
accepted, and among the directories that were visited. -/
def Gathered (d : Disk) (filter : FileFilter) (reached : Search × List Location) (b : Location) :
    Prop :=
  ∀ name c, d.Leads b name c →
    ((∃ key, d.at? c = some (.file key)) →
      filter.accepts ⟨name⟩ = true ∨ filter.accepts c.path = true →
        isPassable c.path = true ∧ c.path ∈ reached.1.files) ∧
    (d.hasDirectory c = true → c ∈ reached.2)

theorem Gathered.mono {reached reached' : Search × List Location}
    (h : Gathered d filter reached b) (hfiles : reached.1.files ⊆ reached'.1.files)
    (hvisited : reached.2 ⊆ reached'.2) : Gathered d filter reached' b := by
  intro name c hc
  obtain ⟨hfile, hdir⟩ := h name c hc
  exact ⟨fun hkey haccepts => (hfile hkey haccepts).imp_right fun h => hfiles h,
    fun h => hvisited (hdir h)⟩

theorem gathered_of_explored (hd : d.WellFormed) (visits : List Visit)
    {reached : Search × List Location} (h : d.Explored visits reached.2 b)
    (hfiles : ∀ v ∈ visits, ∀ q, fileOf? filter v = some q → q ∈ reached.1.files) :
    Gathered d filter reached b := by
  intro name c hc
  obtain ⟨hfile, hdir⟩ := h name c hc
  refine ⟨fun hkey haccepts => ?_, hdir⟩
  obtain ⟨hpass, p, hmem⟩ := hfile hkey
  rw [← accepts_join hd hc p] at haccepts
  exact ⟨hpass, hfiles _ hmem _ (fileOf?_eq_some_iff.2 ⟨_, c, rfl, hpass, haccepts, rfl⟩)⟩

/-- After a walk all directories that were visited have been gathered in full, whether they were
visited in this walk or in an earlier one. -/
theorem walkNext_gathered (hd : d.WellFormed) (hread : d.Readable) (hl : d.hasDirectory l = true)
    (hpass : isPassable l.path = true) (hfree : d.Unhindered l)
    {reached : Search × List Location} (h : ∀ b ∈ reached.2, Gathered d filter reached b) :
    reached.1.files ⊆ (walkNext d filter reached l).1.files ∧
      reached.2 ⊆ (walkNext d filter reached l).2 ∧ l ∈ (walkNext d filter reached l).2 ∧
      ∀ b ∈ (walkNext d filter reached l).2, Gathered d filter (walkNext d filter reached l) b := by
  have hfiles : (walkNext d filter reached l).1.files =
      reached.1.files ++ (d.walkOnce reached.2 l).1.filterMap (fileOf? filter) :=
    foldl_addVisit ..
  have hmono : reached.1.files ⊆ (walkNext d filter reached l).1.files := by
    rw [hfiles]
    exact List.subset_append_left ..
  by_cases hold : l ∈ reached.2
  · have hvisited : (walkNext d filter reached l).2 = reached.2 := by
      rw [walkNext, walkOnce, if_pos (by simpa using hold)]
    rw [hvisited]
    refine ⟨hmono, List.Subset.refl _, hold, fun b hb => (h b hb).mono hmono ?_⟩
    rw [hvisited]
    exact List.Subset.refl _
  · have hwalk : d.walkOnce reached.2 l =
        d.below true d.depthLimit [l] (l :: reached.2) l.path l := by
      rw [walkOnce, if_neg (by simpa using hold)]
    have hvisited : (walkNext d filter reached l).2 =
        (d.below true d.depthLimit [l] (l :: reached.2) l.path l).2 := by
      rw [walkNext, hwalk]
    have hsub := subset_below d d.depthLimit [l] (l :: reached.2) l.path l
    rw [← hvisited] at hsub
    refine ⟨hmono, (List.cons_subset.1 hsub).2, (List.cons_subset.1 hsub).1, fun b hb => ?_⟩
    by_cases hb' : b ∈ reached.2
    · exact (h b hb').mono hmono (List.cons_subset.1 hsub).2
    · have hexplored := below_explored hd hread hfree (Trail.ofDirectory hd hread hl hpass)
        (List.cons_subset_cons l (List.nil_subset _))
        (unvisited_lt_depthLimit hl (List.mem_cons_self ..)) b (hvisited ▸ hb)
        (by by_cases hbl : b = l <;> simp [hbl, hb'])
      refine gathered_of_explored hd (d.walkOnce reached.2 l).1 ?_ fun v hv q hq => ?_
      · rw [hvisited, hwalk]
        exact hexplored
      · rw [hfiles]
        exact List.mem_append_right _ (List.mem_filterMap.2 ⟨v, hv, hq⟩)

theorem walkAll_sound (hd : d.WellFormed) (hread : d.Readable) (search : Search)
    (hdirectories : ∀ l ∈ search.directories, d.hasDirectory l = true ∧ isPassable l.path = true)
    {q : Path} (hq : q ∈ (search.walkAll d filter).files) :
    q ∈ search.files ∨ ∃ l ∈ search.directories, IsFound d filter l q := by
  rw [walkAll_eq] at hq
  refine List.foldlRecOn (motive := fun (reached : Search × List Location) =>
    ∀ q ∈ reached.1.files, q ∈ search.files ∨ ∃ l ∈ search.directories, IsFound d filter l q)
    search.directories (walkNext d filter) (fun q hq => .inl hq)
    (fun reached ih l hl q hq => ?_) q hq
  obtain ⟨hdir, hpass⟩ := hdirectories l hl
  rcases walkNext_sound hd hread hdir hpass reached hq with hq | hq
  · exact ih q hq
  · exact .inr ⟨l, hl, hq⟩

/-- Walks that share what they have visited gather all that can be reached from any of the
directories they start in. -/
theorem walkAll_complete (filter : FileFilter) (hd : d.WellFormed) (hread : d.Readable)
    (search : Search)
    (hdirectories : ∀ l ∈ search.directories, d.hasDirectory l = true ∧
      isPassable l.path = true ∧ d.Unhindered l) :
    search.files ⊆ (search.walkAll d filter).files ∧
      ∀ l ∈ search.directories, ∀ b, d.Reaches l b → ∀ name c, d.Leads b name c →
        (∃ key, d.at? c = some (.file key)) →
        filter.accepts ⟨name⟩ = true ∨ filter.accepts c.path = true →
        isPassable c.path = true ∧ c.path ∈ (search.walkAll d filter).files := by
  rw [walkAll_eq]
  have hfold : ∀ (ls : List Location) (reached : Search × List Location),
      (∀ l ∈ ls, d.hasDirectory l = true ∧ isPassable l.path = true ∧ d.Unhindered l) →
      (∀ b ∈ reached.2, Gathered d filter reached b) →
      reached.1.files ⊆ (ls.foldl (walkNext d filter) reached).1.files ∧
        reached.2 ⊆ (ls.foldl (walkNext d filter) reached).2 ∧
        (∀ l ∈ ls, l ∈ (ls.foldl (walkNext d filter) reached).2) ∧
        ∀ b ∈ (ls.foldl (walkNext d filter) reached).2,
          Gathered d filter (ls.foldl (walkNext d filter) reached) b := by
    intro ls
    induction ls with
    | nil =>
      exact fun reached _ h => ⟨List.Subset.refl _, List.Subset.refl _, List.forall_mem_nil _, h⟩
    | cons l ls ih =>
      intro reached hls h
      rw [List.forall_mem_cons] at hls
      obtain ⟨⟨hdir, hpass, hfree⟩, hls⟩ := hls
      obtain ⟨hfiles, hvisited, hmem, hgathered⟩ := walkNext_gathered hd hread hdir hpass hfree h
      obtain ⟨hfiles', hvisited', hmem', hgathered'⟩ := ih (walkNext d filter reached l) hls hgathered
      refine ⟨List.Subset.trans hfiles hfiles', List.Subset.trans hvisited hvisited', ?_,
        hgathered'⟩
      rw [List.forall_mem_cons]
      exact ⟨hvisited' hmem, hmem'⟩
  obtain ⟨hfiles, -, hmem, hgathered⟩ :=
    hfold search.directories (search, []) hdirectories (List.forall_mem_nil _)
  refine ⟨hfiles, fun l hl b hreaches => ?_⟩
  have hb : b ∈ (search.directories.foldl (walkNext d filter) (search, [])).2 := by
    induction hreaches with
    | refl => exact hmem l hl
    | tail _ hsub ih =>
      obtain ⟨hdir, name, hleads⟩ := hsub
      exact (hgathered _ ih name _ hleads).2 hdir
  exact fun name c hc => (hgathered b hb name c hc).1

end Search

/-! ## Files that are sought -/

/-- A file is sought if a candidate leads to it, or if it is in a directory that can be reached from
a candidate, under a name with an accepted extension or leading to a place with one. -/
inductive IsSought (d : Disk) (filter : FileFilter) (candidates : List Path) (key : Nat) : Prop
  | named {p : Path} {l : Location} (hp : p ∈ candidates) (hl : d.place? p = .ok l)
    (hkey : d.at? l = some (.file key))
  | inside {p : Path} {top b c : Location} {name : Name} (hp : p ∈ candidates)
    (htop : d.place? p = .ok top) (hdir : d.hasDirectory top = true) (hreaches : d.Reaches top b)
    (hleads : d.Leads b name c) (hkey : d.at? c = some (.file key))
    (haccepts : filter.accepts ⟨name⟩ = true ∨ filter.accepts c.path = true)

/-- No candidate, and nothing that can be reached from one, is out of reach for the system. -/
def WithinLimits (d : Disk) (candidates : List Path) : Prop :=
  ∀ p ∈ candidates, ∀ l, d.place? p = .ok l →
    isPassable l.path = true ∧ (d.hasDirectory l = true → d.Unhindered l)

/-- The path of a place leads to the file there. -/
theorem place?_of_at? (hd : d.WellFormed) (hread : d.Readable) {key : Nat}
    (hkey : d.at? l = some (.file key)) (hpass : isPassable l.path = true) :
    d.place? l.path = .ok l ∧ d.fileKey? l.path = some key := by
  have hplace := hd.place?_path hkey (by simp) hpass
    (fun m hm hne => (hread.rightsAt (hd.hasDirectory_above hkey hm hne)).2) true
  refine ⟨hplace, ?_⟩
  rw [fileKey?, status?, hplace]
  simp [Except.toOption, hkey]

namespace Search

/-- What a search for candidates comes to. -/
def ofCandidates (d : Disk) (filter : FileFilter) (candidates : List Path) : Search :=
  (candidates.foldl (addCandidate d) {}).walkAll d filter

theorem mem_directories_iff {candidates : List Path} :
    l ∈ (candidates.foldl (addCandidate d) {}).directories ↔
      ∃ p ∈ candidates, d.place? p = .ok l ∧ isPassable l.path = true ∧
        d.hasDirectory l = true := by
  rw [(foldl_addCandidate d candidates {}).2, List.nil_append, List.mem_filterMap]
  simp only [directoryAt?, Option.filter_eq_some_iff, canonical?_eq_some_iff, and_assoc]

theorem mem_files_iff {candidates : List Path} {q : Path} :
    q ∈ (candidates.foldl (addCandidate d) {}).files ↔
      ∃ p ∈ candidates, ∃ l, d.place? p = .ok l ∧ isPassable l.path = true ∧
        d.hasDirectory l = false ∧ l.path = q := by
  rw [(foldl_addCandidate d candidates {}).1, List.nil_append, List.mem_filterMap]
  simp only [fileAt?, Option.map_eq_some_iff, Option.filter_eq_some_iff, canonical?_eq_some_iff,
    Bool.not_eq_true', and_assoc]

/-- Whatever a search comes to is the path of a file that is sought. -/
theorem isSought_of_mem (hd : d.WellFormed) (hread : d.Readable) {candidates : List Path}
    {q : Path} (hq : q ∈ (ofCandidates d filter candidates).files) :
    ∃ l key, q = l.path ∧ d.place? q = .ok l ∧ d.at? l = some (.file key) ∧
      d.fileKey? q = some key ∧ IsSought d filter candidates key := by
  have hdirectories : ∀ l ∈ (candidates.foldl (addCandidate d) {}).directories,
      d.hasDirectory l = true ∧ isPassable l.path = true := fun l hl => by
    obtain ⟨-, -, -, hpass, hdir⟩ := mem_directories_iff.1 hl
    exact ⟨hdir, hpass⟩
  rcases walkAll_sound hd hread _ hdirectories hq with hq | ⟨top, htop, hq⟩
  · obtain ⟨p, hp, l, hl, hpass, hdir, rfl⟩ := mem_files_iff.1 hq
    obtain ⟨key, hkey⟩ := (hd.file_or_directory hl).resolve_right (by simp [hdir])
    obtain ⟨hplace, hfile⟩ := place?_of_at? hd hread hkey hpass
    exact ⟨l, key, rfl, hplace, hkey, hfile, .named hp hl hkey⟩
  · obtain ⟨p, hp, hplace, -, hdir⟩ := mem_directories_iff.1 htop
    obtain ⟨b, name, c, key, hreaches, hleads, hkey, haccepts, hpass, rfl⟩ := hq
    obtain ⟨hplace', hfile⟩ := place?_of_at? hd hread hkey hpass
    exact ⟨c, key, rfl, hplace', hkey, hfile,
      .inside hp hplace hdir hreaches hleads hkey haccepts⟩

/-- Within the limits of the system a search comes to all files that are sought. -/
theorem mem_of_isSought (hd : d.WellFormed) (hread : d.Readable) {candidates : List Path}
    (hlimits : WithinLimits d candidates) {key : Nat} (h : IsSought d filter candidates key) :
    ∃ q ∈ (ofCandidates d filter candidates).files, d.fileKey? q = some key := by
  obtain ⟨hnamed, hinside⟩ := walkAll_complete filter hd hread
    (candidates.foldl (addCandidate d) {}) fun l hl => by
      obtain ⟨p, hp, hplace, hpass, hdir⟩ := mem_directories_iff.1 hl
      exact ⟨hdir, hpass, (hlimits p hp l hplace).2 hdir⟩
  cases h with
  | @named p l hp hl hkey =>
    have hpass := (hlimits p hp l hl).1
    refine ⟨l.path, hnamed (mem_files_iff.2 ⟨p, hp, l, hl, hpass, ?_, rfl⟩),
      (place?_of_at? hd hread hkey hpass).2⟩
    simp [hasDirectory, hkey, isDirectoryEntry]
  | @inside p top b c name hp htop hdir hreaches hleads hkey haccepts =>
    obtain ⟨hpass, hfree⟩ := hlimits p hp top htop
    obtain ⟨hpassc, hmem⟩ := hinside top (mem_directories_iff.2 ⟨p, hp, htop, hpass, hdir⟩) b
      hreaches name c hleads ⟨key, hkey⟩ haccepts
    exact ⟨c.path, hmem, (place?_of_at? hd hread hkey hpassc).2⟩

end Search

/-- Finding source files is sound, and complete up to the limits of the system. Patterns that
cannot be read are refused; for all others every file that is found is sought and stands under its
own path, no file is found twice, and every file that is sought is found if the system can follow
all paths on the way. -/
theorem FileFilter.detect_sound_complete (filter : FileFilter) {d : Disk} (hd : d.WellFormed)
    (hread : d.Readable) (patterns : List String) :
    match Glob.expandAll d patterns with
    | .error e => filter.detect d patterns = .error e
    | .ok candidates => ∃ found log, filter.detect d patterns = .ok (found, log) ∧
      (∀ p ∈ found, ∃ l key, p = l.path ∧ d.place? p = .ok l ∧ d.at? l = some (.file key)) ∧
      (found.map d.fileKey?).Nodup ∧
      (∀ key, some key ∈ found.map d.fileKey? → IsSought d filter candidates key) ∧
      (WithinLimits d candidates →
        ∀ key, IsSought d filter candidates key → some key ∈ found.map d.fileKey?) := by
  rcases hexpand : Glob.expandAll d patterns with e | candidates
  · simp only [detect, hexpand]
    rfl
  · have hfiles : ∀ p ∈ (Search.ofCandidates d filter candidates).files,
        ∃ key, d.fileKey? p = some key := by
      intro p hp
      obtain ⟨l, key, -, -, -, hfile, -⟩ := Search.isSought_of_mem hd hread hp
      exact ⟨key, hfile⟩
    obtain ⟨found, hfound, hmem, hnodup, hkeys⟩ := dedupe_files hfiles
    refine ⟨found, (Search.ofCandidates d filter candidates).log, ?_, fun p hp => ?_, hnodup,
      fun key hkey => ?_, fun hlimits key hsought => ?_⟩
    · simp only [Search.ofCandidates] at hfound
      simp [detect, hexpand, hfound, Except.toOption, Search.ofCandidates]
    · obtain ⟨l, key, hp, hplace, hkey, -⟩ := Search.isSought_of_mem hd hread (hmem hp)
      exact ⟨l, key, hp, hplace, hkey⟩
    · obtain ⟨p, hp, hfile⟩ := (hkeys key).1 hkey
      obtain ⟨l, key', -, -, -, hfile', hsought⟩ := Search.isSought_of_mem hd hread hp
      rw [Option.some.inj (hfile.symm.trans hfile')]
      exact hsought
    · exact (hkeys key).2 (Search.mem_of_isSought hd hread hlimits hsought)

/-! ## A link that leads back -/

/-- A directory with a source file, which has another name there too, and with a link to itself. -/
def loopTree : Disk where
  entries :=
    [([.ofString "d"], .directory {}), ([.ofString "d", .ofString "f.py"], .file 0),
      ([.ofString "d", .ofString "g.txt"], .file 0),
      ([.ofString "d", .ofString "up"], .link (.ofString "../d"))]
  nextKey := 1

/-- Where the entries of the directory lead. -/
def loopTree.target (name : Name) : Location :=
  if name = .ofString "up" then [.ofString "d"] else [.ofString "d", name]

theorem loopTree_children : ∀ e ∈ loopTree.children [.ofString "d"],
    loopTree.place? ((Location.path [.ofString "d"]).join ⟨e.1⟩) = .ok (loopTree.target e.1) ∧
      loopTree.chase true linkLimit false [.ofString "d"] [e.1] =
        .ok (.entry (loopTree.target e.1)) ∧
      isPassable (loopTree.target e.1).path = true ∧
      (loopTree.target e.1 = [.ofString "d"] ∨
        loopTree.hasDirectory (loopTree.target e.1) = false) := by
  decide +kernel

/-- The link is not followed a second time. -/
theorem loopTree_trail (h : loopTree.Trail [.ofString "d"] above p b) :
    above = [[.ofString "d"]] ∧ p = Location.path [.ofString "d"] ∧ b = [.ofString "d"] := by
  induction h with
  | start => exact ⟨rfl, rfl, rfl⟩
  | step _ hchild hplace hdir hnew ih =>
    obtain ⟨rfl, rfl, rfl⟩ := ih
    obtain ⟨hplace', -, -, htarget⟩ := loopTree_children _ hchild
    cases hplace'.symm.trans hplace
    rcases htarget with htarget | htarget
    · exact absurd (htarget ▸ List.mem_singleton_self _) hnew
    · rw [htarget] at hdir
      cases hdir

theorem loopTree_withinLimits : WithinLimits loopTree [.ofString "d"] := by
  have hplace : loopTree.place? (.ofString "d") = .ok [.ofString "d"] := by decide +kernel
  intro p hp l hl
  rw [List.mem_singleton.1 hp] at hl
  cases hplace.symm.trans hl
  refine ⟨by decide +kernel, fun _ above p b name c htrail hleads => ?_⟩
  obtain ⟨rfl, rfl, rfl⟩ := loopTree_trail htrail
  obtain ⟨⟨entry, hchild⟩, hchase⟩ := hleads
  obtain ⟨hplace', hchase', hpass, -⟩ := loopTree_children _ hchild
  cases hchase'.symm.trans hchase
  exact ⟨hplace', hpass⟩

/-- In that tree the source file is found. -/
theorem FileFilter.detect_loopTree :
    loopTree.WellFormed ∧ loopTree.Readable ∧ WithinLimits loopTree [.ofString "d"] ∧
      ∃ found log, standard.detect loopTree ["d"] = .ok (found, log) ∧
        some 0 ∈ found.map loopTree.fileKey? := by
  have hd : loopTree.WellFormed := by decide +kernel
  have hread : loopTree.Readable := .of_entries (by simp [loopTree])
  have h := detect_sound_complete standard hd hread ["d"]
  rw [show Glob.expandAll loopTree ["d"] = .ok [.ofString "d"] by decide +kernel] at h
  obtain ⟨found, log, hdetect, -, -, -, hcomplete⟩ := h
  refine ⟨hd, hread, loopTree_withinLimits, found, log, hdetect,
    hcomplete loopTree_withinLimits 0 ?_⟩
  have hchild : (.ofString "f.py", .file 0) ∈ loopTree.children [.ofString "d"] := by
    decide +kernel
  have hleads : loopTree.Leads [.ofString "d"] (.ofString "f.py")
      [.ofString "d", .ofString "f.py"] := ⟨⟨_, hchild⟩, (loopTree_children _ hchild).2.1⟩
  exact .inside (List.mem_singleton_self _) (by decide +kernel) (by decide +kernel) .refl hleads
    (by decide +kernel) (.inl (by decide +kernel))

/-! ## A way that is too long -/

/-- A link to a name beside the directory it is in, twenty times through a link to where that is. -/
def detour (name : String) : Entry :=
  .link (.ofString ("../" ++ "l/l/l/l/l/l/l/l/l/l/l/l/l/l/l/l/l/l/l/l/" ++ name))

/-- A directory with a link to a second one, which has a link to a third one with a source file. -/
def detourTree : Disk where
  entries :=
    [([.ofString "d"], .directory {}), ([.ofString "e"], .directory {}),
      ([.ofString "f"], .directory {}), ([.ofString "f", .ofString "x.py"], .file 0),
      ([.ofString "l"], .link (.ofString ".")), ([.ofString "d", .ofString "n"], detour "e"),
      ([.ofString "e", .ofString "m"], detour "f")]
  nextKey := 1

/-- The source file can be reached, but the way to it has more links than the system follows on one
path, so it is not found. -/
theorem FileFilter.detect_detourTree :
    detourTree.WellFormed ∧ detourTree.Readable ∧
      Glob.expandAll detourTree ["d"] = .ok [.ofString "d"] ∧
      IsSought detourTree standard [.ofString "d"] 0 ∧
      (standard.detect detourTree ["d"]).toOption.map (·.1) = some [] := by
  have hfirst : detourTree.Leads [.ofString "d"] (.ofString "n") [.ofString "e"] :=
    ⟨⟨detour "e", by decide +kernel⟩, by decide +kernel⟩
  have hsecond : detourTree.Leads [.ofString "e"] (.ofString "m") [.ofString "f"] :=
    ⟨⟨detour "f", by decide +kernel⟩, by decide +kernel⟩
  have hreaches : detourTree.Reaches [.ofString "d"] [.ofString "f"] :=
    (Relation.ReflTransGen.single ⟨by decide +kernel, _, hfirst⟩).tail
      ⟨by decide +kernel, _, hsecond⟩
  have hleads : detourTree.Leads [.ofString "f"] (.ofString "x.py")
      [.ofString "f", .ofString "x.py"] := ⟨⟨.file 0, by decide +kernel⟩, by decide +kernel⟩
  exact ⟨by decide +kernel, .of_entries (by simp [detourTree, detour]), by decide +kernel,
    .inside (List.mem_singleton_self _) (by decide +kernel) (by decide +kernel) hreaches hleads
      (by decide +kernel) (.inl (by decide +kernel)), by decide +kernel⟩

end Codemod
