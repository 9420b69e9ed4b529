import Codemod.Proofs.Backup.Lookup
import Codemod.Proofs.Backup.Restore

set_option autoImplicit false

/-! # A whole recovery

An archive whose members are plain files is unpacked into a directory of its own, its files are put
back, and the directory is removed again (`run_recover`). What is left of all this is the files at
their places and the directories that were missing above them (`Recovered`). -/

namespace Codemod.Backup

open Disk Archive

variable {b d : Disk} {staging q : Path} {top : Location} {table : Lookup} {e : String × Path}
  {held : List (Name × Content)} {bytes : List UInt8}

/-! ## The directory for unpacking -/

/-- A path at which a directory for unpacking can be made: the name is free, the directory above can
be written to and is reached from the root, and there is room for short names after the path. -/
structure IsStaging (b : Disk) (staging : Path) (top : Location) : Prop where
  free : ∃ l name, b.resolveName staging = .ok (.vacant l name) ∧ top = l ++ [name]
  writable : (b.rightsAt top.dropLast).writable = true
  searchable : ∀ m, m <+: top.dropLast → (b.rightsAt m).searchable = true
  slash : staging.endsInSeparator = false
  short : staging.bytes.length + plainLimit < pathLimit
  isPassable : isPassable top.path = true
  short_top : top.path.bytes.length + plainLimit < pathLimit

/-- The tree with the directory for unpacking. -/
def withStaging (b : Disk) (top : Location) : Disk := b.put top (.directory {})

namespace IsStaging

theorem run_makeDirectory (h : IsStaging b staging top) :
    (Disk.makeDirectory staging).run.run b = (.ok (), withStaging b top) := by
  obtain ⟨l, name, hfound, rfl⟩ := h.free
  have hwritable := h.writable
  rw [List.dropLast_concat] at hwritable
  rw [Disk.run_makeDirectory, hfound]
  simp only [hwritable, if_true]
  rfl

variable (hb : b.WellFormed) (h : IsStaging b staging top)
include hb h

theorem isFree : ∃ l name, top = l ++ [name] ∧ b.IsFree l name := by
  obtain ⟨l, name, hfound, htop⟩ := h.free
  exact ⟨l, name, htop, hb.isThere_of_locate hfound⟩

theorem at?_top : b.at? top = none := by
  obtain ⟨l, name, rfl, hfree⟩ := h.isFree hb
  exact hfree.at?_eq_none

/-- There is nothing in the directory either. -/
theorem at?_of_top_le {m : Location} (hm : top <+: m) : b.at? m = none := by
  have htop := h.at?_top hb
  by_cases heq : top = m
  · rw [← heq, htop]
  · exact hb.at?_below (by rw [hasDirectory, htop]; rfl) hm heq

theorem at?_withStaging (m : Location) :
    (withStaging b top).at? m = if m = top then some (.directory {}) else b.at? m := by
  obtain ⟨l, name, rfl, -⟩ := h.isFree hb
  rw [withStaging, at?_put]
  by_cases hm : m = l ++ [name]
  · simp [hm]
  · simp [hm]

theorem isWithin : b.Within (withStaging b top) where
  workingDirectory := rfl
  at? := by
    intro m entry hat
    rw [h.at?_withStaging hb, if_neg, hat]
    rintro rfl
    rw [h.at?_top hb] at hat
    cases hat
  contentOf := fun _ _ => rfl
  rightsOf := fun _ _ => rfl
  nextKey_le := Nat.le_refl _

theorem wellFormed : (withStaging b top).WellFormed := by
  have hkeeps := WellFormed.keeps_makeDirectory staging b hb
  rw [h.run_makeDirectory] at hkeeps
  exact hkeeps

/-- The path of the directory leads to it. -/
theorem place? (hextends : b.Extends d) (htop : d.at? top = some (.directory {})) (follow : Bool) :
    d.place? staging follow = .ok top := by
  obtain ⟨l, name, hfound, rfl⟩ := h.free
  exact hextends.place?_of_vacant hb (fun _ => rfl) hfound htop (by simp) follow

/-- Members can be put into the directory. -/
theorem isRoom : IsRoom (withStaging b top) top := by
  have htop : (withStaging b top).at? top = some (.directory {}) := by
    rw [h.at?_withStaging hb, if_pos rfl]
  have hnames : ∀ n ∈ top, IsEntryName n := fun n =>
    (h.wellFormed hb).isEntryName_of_at? htop
  refine ⟨hnames, fun init hinit => ?_, ?_, h.isPassable, h.short_top⟩
  · rw [lexical_of_ne_above [] fun n hn => (hnames n (hinit.subset hn)).ne_above, List.nil_append]
    by_cases heq : init = top
    · rw [heq]
      exact ⟨{}, htop, rfl⟩
    · have hdir := (h.wellFormed hb).hasDirectory_above htop hinit heq
      obtain ⟨rights, hat⟩ := hasDirectory_iff.1 hdir
      refine ⟨rights, hat, ?_⟩
      have hsearch := h.searchable init (prefix_dropLast hinit heq)
      rw [h.at?_withStaging hb, if_neg heq] at hat
      rwa [rightsAt, hat] at hsearch
  · rw [rightsAt, htop]

end IsStaging

/-! ## Unpacking an archive of plain files -/

/-- The entries of an archive with plain files and a table. -/
def plainEntries (held : List (Name × Content)) (bytes : List UInt8) :
    List (Path × Option Content) :=
  held.map (fun h => (⟨h.1⟩, some h.2)) ++ [(.ofString Lookup.fileName, some (.bytes bytes))]

/-- What an archive with plain files holds: files under different names, and a table with paths for
some of them. -/
structure IsPlainArchive (held : List (Name × Content)) (bytes : List UInt8) (table : Lookup) :
    Prop where
  isPlain : ∀ h ∈ held, IsPlain h.1
  nodup : (held.map (·.1)).Nodup
  ne_fileName : ∀ h ∈ held, h.1 ≠ Name.ofString Lookup.fileName
  decode : Lookup.decode bytes = some table
  table_nodup : (table.map fun e => Name.ofString e.1).Nodup
  exists_content : ∀ e ∈ table, ∃ content, (Name.ofString e.1, content) ∈ held

/-- All files of the archive, the one with the table being the last. -/
def allHeld (held : List (Name × Content)) (bytes : List UInt8) : List (Name × Content) :=
  held ++ [(Name.ofString Lookup.fileName, .bytes bytes)]

theorem membersOf_plainEntries (held : List (Name × Content)) (bytes : List UInt8) :
    membersOf (.sealed (plainEntries held bytes)) = some (plainMembers (allHeld held bytes)) := by
  simp [membersOf, plainEntries, plainMembers, allHeld, sealedMember, plainMember, Path.ofString]

theorem isPlain_fileName : IsPlain (Name.ofString Lookup.fileName) :=
  ⟨by decide, by decide, by decide⟩

namespace IsPlainArchive

variable (h : IsPlainArchive held bytes table)
include h

theorem isPlain_allHeld : ∀ x ∈ allHeld held bytes, IsPlain x.1 := by
  intro x hx
  rcases List.mem_append.1 hx with hx | hx
  · exact h.isPlain x hx
  · rw [List.mem_singleton.1 hx]
    exact isPlain_fileName

theorem nodup_allHeld : ((allHeld held bytes).map (·.1)).Nodup := by
  rw [allHeld, List.map_append, List.nodup_append]
  refine ⟨h.nodup, List.nodup_singleton _, fun a ha b hb => ?_⟩
  obtain ⟨x, hx, rfl⟩ := List.mem_map.1 ha
  rw [List.map_singleton, List.mem_singleton] at hb
  rw [hb]
  exact h.ne_fileName x hx

end IsPlainArchive

/-- New files may be used in every way. -/
theorem rightsOf_of_le {c : Disk} (hb : b.WellFormed) (hrights : c.fileRights = b.fileRights)
    {key : Nat} (hkey : b.nextKey ≤ key) : c.rightsOf key = {} := by
  rw [Disk.rightsOf, hrights]
  exact hb.rightsOf_of_le hkey

/-- Nothing that is unpacked is there already. -/
theorem IsStaging.at?_concat (hb : b.WellFormed) (h : IsStaging b staging top) (n : Name) :
    (withStaging b top).at? (top ++ [n]) = none := by
  rw [h.at?_withStaging hb, if_neg (by simp), h.at?_of_top_le hb (List.prefix_append ..)]

section Unpacked

variable {c : Disk} (hb : b.WellFormed) (h : IsStaging b staging top)
  (hfilled : Filled (withStaging b top) top (allHeld held bytes) c)
include hb h hfilled

theorem withStaging_within : (withStaging b top).Within c :=
  hfilled.isWithin fun x _ => h.at?_concat hb x.1

/-- Outside of the directory nothing has changed. -/
theorem at?_outside {m : Location} (hm : ¬ top <+: m) : c.at? m = b.at? m := by
  rw [hfilled.at?_of_ne, h.at?_withStaging hb, if_neg]
  · rintro rfl
    exact hm List.prefix_rfl
  · rintro x - rfl
    exact hm (List.prefix_append ..)

/-- In the directory there are files alone. -/
theorem hasDirectory_inside {m : Location} (hm : top <+: m) (hne : m ≠ top) :
    c.hasDirectory m = false := by
  by_cases hheld : ∃ x ∈ allHeld held bytes, m = top ++ [x.1]
  · obtain ⟨x, hx, rfl⟩ := hheld
    obtain ⟨key, hkey, -⟩ := hfilled.at?_of_mem x hx
    rw [hasDirectory, hkey]
    rfl
  · rw [hasDirectory, hfilled.at?_of_ne m fun x hx heq => hheld ⟨x, hx, heq⟩,
      h.at?_withStaging hb, if_neg hne, h.at?_of_top_le hb hm]
    rfl

theorem isExtended : b.Extends c :=
  (h.isWithin hb).isExtended.trans (withStaging_within hb h hfilled).isExtended

theorem at?_top : c.at? top = some (.directory {}) :=
  (withStaging_within hb h hfilled).at? top _ (by rw [h.at?_withStaging hb, if_pos rfl])

/-- The unpacked archive. -/
theorem isStaged (harchive : IsPlainArchive held bytes table) :
    IsStaged c staging top table := by
  have hdir := at?_top hb h hfilled
  obtain ⟨hne, hpass, hstart, hchase⟩ :=
    place?_eq_ok_iff.1 (h.place? hb (isExtended hb h hfilled) hdir true)
  exact {
    wellFormed := hfilled.wellFormed
    directory := hdir
    ne_nil := hne
    start := hstart
    leads := enter_of_chase hchase (hasDirectory_of_at? hdir)
    isPassable := hpass
    short := h.short
    isPlain := by
      intro e he
      obtain ⟨content, hmem⟩ := harchive.exists_content e he
      exact harchive.isPlain _ hmem
    nodup := harchive.table_nodup
    staged := by
      intro e he
      obtain ⟨content, hmem⟩ := harchive.exists_content e he
      obtain ⟨key, hkey, hle, -⟩ := hfilled.at?_of_mem _ (List.mem_append_left _ hmem)
      exact ⟨key, hkey, fun m hm => hfilled.unique key hle m _ hm hkey⟩ }

/-- Paths that have nothing to do with the directory are as accessible as before. -/
theorem isRestorable (hrestorable : IsRestorable b top table) : IsRestorable c top table where
  isTarget := hrestorable.isTarget
  apart := hrestorable.apart
  outside := hrestorable.outside
  isAccessible := by
    intro e he
    obtain ⟨hplace, hway⟩ := hrestorable.outside e he
    have hsame : ∀ init, init <+: wayOf e.2 → c.at? (lexical [] init) = b.at? (lexical [] init) :=
      fun init hinit => at?_outside hb h hfilled (hway _ ⟨init, hinit, rfl⟩)
    obtain ⟨hopen, hwritable, hfile⟩ := hrestorable.isAccessible e he
    refine ⟨fun init hinit entry hat => ?_, fun rights hat => ?_, fun entry hat => ?_⟩
    · obtain ⟨rights, heq, hsearch, hwrite⟩ := hopen init hinit entry (hsame init hinit ▸ hat)
      exact ⟨rights, heq, hsearch, fun n hn hnone => hwrite n hn (hsame _ hn ▸ hnone)⟩
    · exact hwritable rights (hsame _ List.prefix_rfl ▸ hat)
    · exact hfile entry (at?_outside hb h hfilled hplace ▸ hat)

end Unpacked

/-! ## Unpacking and putting back -/

theorem membersAt_eq_ok {content : Content} {members : List Member} (hread : d.read q = .ok content)
    (hmembers : membersOf content = some members) : membersAt d q = .ok members := by
  obtain ⟨l, key, hplace, -⟩ := read_eq_ok_iff.1 hread
  simp only [membersAt, hplace, hread, hmembers]

theorem tableAt_eq_ok
    (hread : d.read (staging.join (.ofString Lookup.fileName)) = .ok (.bytes bytes))
    (hdecode : Lookup.decode bytes = some table) : tableAt d staging q = .ok table := by
  simp only [tableAt, hread, hdecode]

theorem run_check_of_ok {α : Type} {found : Except Failure α} {a : α} (h : found = .ok a)
    (d : Disk) : (check found).run.run d = (.ok a, d) := by
  rw [h]
  rfl

/-- The table is read from among the unpacked members. -/
theorem read_table {c : Disk} (hb : b.WellFormed) (h : IsStaging b staging top)
    (hfilled : Filled (withStaging b top) top (allHeld held bytes) c)
    (harchive : IsPlainArchive held bytes table) :
    c.read (staging.join (.ofString Lookup.fileName)) = .ok (.bytes bytes) := by
  obtain ⟨key, hkey, hle, hcontent⟩ :=
    hfilled.at?_of_mem (Name.ofString Lookup.fileName, .bytes bytes)
    (List.mem_append_right _ (List.mem_singleton_self _))
  have hplace := (isStaged hb h hfilled harchive).place? (.refl c) isPlain_fileName hkey true
  exact read_eq_ok_iff.2 ⟨_, key, hplace, hkey,
    by rw [rightsOf_of_le hb hfilled.fileRights hle], hcontent⟩

/-- The archive is unpacked and all its files are put back. -/
theorem run_restore (hb : b.WellFormed) (h : IsStaging b staging top)
    (hread : b.read q = .ok (.sealed (plainEntries held bytes)))
    (harchive : IsPlainArchive held bytes table) (hrestorable : IsRestorable b top table) :
    ∃ c d, Filled (withStaging b top) top (allHeld held bytes) c ∧ Restored c top table table d ∧
      (restore staging q).run.run (withStaging b top) = (.ok table.length, d) := by
  have hwithin := h.isWithin hb
  have hmembers : membersAt (withStaging b top) q = .ok (plainMembers (allHeld held bytes)) :=
    membersAt_eq_ok (hwithin.read hb hread) (membersOf_plainEntries held bytes)
  have hplace : (withStaging b top).place? staging = .ok top :=
    h.place? hb hwithin.isExtended (by rw [h.at?_withStaging hb, if_pos rfl]) true
  obtain ⟨c, hunpack, hfilled⟩ := run_unpack (h.wellFormed hb) (h.isRoom hb)
    harchive.isPlain_allHeld harchive.nodup_allHeld fun x _ => h.at?_concat hb x.1
  have htable : tableAt c staging q = .ok table :=
    tableAt_eq_ok (read_table hb h hfilled harchive) harchive.decode
  have hstaged := isStaged hb h hfilled harchive
  obtain ⟨d, hrun, hrestored⟩ := run_restoreAll hstaged (isRestorable hb h hfilled hrestorable)
    (List.nil_append table).symm hstaged.restored_nil
  have hlook : (attempt Failure.io (Disk.look (·.place? staging))).run.run (withStaging b top) =
      (.ok top, withStaging b top) := by
    rw [run_attempt_eq_ok_iff, run_look, hplace]
  refine ⟨c, d, hfilled, hrestored, ?_⟩
  rw [restore, run_bind_of_ok (run_get _), run_bind_of_ok (run_check_of_ok hmembers _),
    run_bind_of_ok hlook, run_bind_of_ok (run_attempt_eq_ok_iff.2 hunpack),
    run_bind_of_ok (run_get _), run_bind_of_ok (run_check_of_ok htable _), run_bind_of_ok hrun]
  rfl

/-! ## Removing the directory -/

section Removed

variable {c : Disk} (hb : b.WellFormed) (h : IsStaging b staging top)
  (hfilled : Filled (withStaging b top) top (allHeld held bytes) c)
  (hrestored : Restored c top table table d)
include hb h hfilled hrestored

/-- Nothing in the directory stands in the way of its removal. -/
theorem isSealedOff_inside {m : Location} (hm : top <+: m)
    (htop : d.at? top = some (.directory {})) :
    d.isSealedOff m = false := by
  by_cases hne : m = top
  · rw [hne, isSealedOff, rightsAt, htop]
    simp
  · have hdir : d.hasDirectory m = false := by
      by_cases hstaged : ∃ e ∈ table, m = stagedAt top e
      · obtain ⟨e, he, rfl⟩ := hstaged
        rw [hasDirectory, hrestored.taken e he]
        rfl
      · rw [hasDirectory_congr (hrestored.inside m hm fun e he heq => hstaged ⟨e, he, heq⟩)]
        exact hasDirectory_inside hb h hfilled hm hne
    rw [isSealedOff, hdir]
    rfl

end Removed

theorem IsStaging.endsSpecially (h : IsStaging b staging top) : endsSpecially staging = false := by
  obtain ⟨l, name, hfound, -⟩ := h.free
  obtain ⟨-, -, -, hchase⟩ := locate_eq_ok_iff.1 hfound
  obtain ⟨init, left, hsegments, -, hturn⟩ := exists_enter_of_vacant hchase
  obtain ⟨-, hname, -⟩ := at?_of_turn.1 hturn
  simp [Disk.endsSpecially, hsegments, hname.ne_here, hname.ne_above]

/-- The directory is removed with what is left in it. -/
theorem IsStaging.run_removeTree (hb : b.WellFormed) (h : IsStaging b staging top)
    (hextends : b.Extends d) (htop : d.at? top = some (.directory {}))
    (hsealed : ∀ m, top <+: m → d.isSealedOff m = false) :
    (Disk.removeTree staging).run.run d = (.ok (), (d.cutBelow top).cut top) := by
  have hany : (d.entries.any fun e => top.isPrefixOf e.1 && d.isSealedOff e.1) = false := by
    rw [List.any_eq_false]
    intro e _
    rw [Bool.and_eq_true, List.isPrefixOf_iff_prefix]
    rintro ⟨hm, hoff⟩
    rw [hsealed e.1 hm] at hoff
    cases hoff
  have hnames : (d.cutBelow top).namesDirectory staging = true := by
    rw [namesDirectory]
    split
    · rw [h.slash]
      rfl
    · rw [h.endsSpecially]
      rfl
  have hwritable : ((d.cutBelow top).rightsAt top.dropLast).writable = true := by
    obtain ⟨l, name, rfl, hfree⟩ := h.isFree hb
    have hwritable := h.writable
    rw [List.dropLast_concat] at hwritable ⊢
    have hsame : (d.cutBelow (l ++ [name])).at? l = d.at? l := by
      rw [at?_cutBelow, if_neg]
      rintro ⟨habove, -⟩
      have hlength := habove.length_le
      rw [List.length_append, List.length_singleton] at hlength
      omega
    obtain ⟨rights, hat⟩ := hasDirectory_iff.1 hfree.hasDirectory
    rw [rightsAt, hat] at hwritable
    rw [rightsAt, hsame, hextends.directory _ _ hat]
    exact hwritable
  rw [Disk.run_removeTree, h.place? hb hextends htop false]
  simp only [htop, hany, hnames, hwritable, Bool.not_true, Bool.false_eq_true, if_false, if_true]

/-! ## The whole recovery -/

/-- A tree after the files of an archive have been recovered. -/
structure Recovered (b : Disk) (held : List (Name × Content)) (table : Lookup) (d : Disk) :
    Prop where
  wellFormed : d.WellFormed
  workingDirectory : d.workingDirectory = b.workingDirectory
  leveled : ∀ e ∈ table, d.Leveled [] (wayOf e.2)
  /-- The member of the last entry for a place is there, as a file of its own. -/
  restored : ∀ m e, lastAt table m = some e → ∃ key content,
    (Name.ofString e.1, content) ∈ held ∧ d.at? m = some (.file key) ∧ d.rightsOf key = {} ∧
      d.contentOf key = content
  /-- Elsewhere nothing has changed, but for directories that were missing. -/
  unchanged : ∀ m, lastAt table m = none → d.at? m = b.at? m ∨
    b.at? m = none ∧ d.at? m = some (.directory {}) ∧ OnWays table m
  contentOf : ∀ key < b.nextKey, d.contentOf key = b.contentOf key
  rightsOf : ∀ key < b.nextKey, d.rightsOf key = b.rightsOf key

/-- What is left when the directory is gone. -/
theorem recovered_of_restored {c : Disk} (hb : b.WellFormed) (h : IsStaging b staging top)
    (hfilled : Filled (withStaging b top) top (allHeld held bytes) c)
    (harchive : IsPlainArchive held bytes table) (hrestorable : IsRestorable b top table)
    (hrestored : Restored c top table table d) :
    Recovered b held table ((d.cutBelow top).cut top) := by
  obtain ⟨l, name, htop, -⟩ := h.isFree hb
  have hne : top ≠ [] := by
    rw [htop]
    exact concat_ne_nil l name
  have hat : ∀ m, ((d.cutBelow top).cut top).at? m = if top <+: m then none else d.at? m := by
    intro m
    rw [at?_cut, at?_cutBelow]
    by_cases hm : top <+: m
    · have hm' : m ≠ [] := by
        rintro rfl
        exact hne (List.prefix_nil.1 hm)
      rw [if_pos ⟨hm', hm⟩, if_pos hm]
    · rw [if_neg fun h => hm h.2, if_neg fun h => hm h.1, if_neg hm]
  have hrights : ∀ key, ((d.cutBelow top).cut top).rightsOf key = b.rightsOf key := by
    intro key
    have hfiles : d.rightsOf key = c.rightsOf key := hrestored.sameFiles.rightsOf key
    have hunpacked : c.rightsOf key = b.rightsOf key := by
      rw [Disk.rightsOf, Disk.rightsOf, hfilled.fileRights]
      rfl
    exact hfiles.trans hunpacked
  have hcontents : ∀ key, ((d.cutBelow top).cut top).contentOf key = c.contentOf key :=
    hrestored.sameFiles.contentOf
  exact {
    wellFormed := (hrestored.wellFormed.cutBelow top).cut top
    workingDirectory := hrestored.sameFiles.workingDirectory.trans hfilled.workingDirectory
    leveled := by
      intro e he init hinit
      obtain ⟨rights, hdir, hsearch⟩ := hrestored.leveled e he init hinit
      refine ⟨rights, ?_, hsearch⟩
      rw [hat, if_neg ((hrestorable.outside e he).2 _ ⟨init, hinit, rfl⟩), hdir]
    restored := by
      intro m e hlast
      obtain ⟨he, rfl⟩ := lastAt_eq_some hlast
      obtain ⟨content, hmem⟩ := harchive.exists_content e he
      obtain ⟨key, hkey, hle, hcontent⟩ := hfilled.at?_of_mem _ (List.mem_append_left _ hmem)
      refine ⟨key, content, hmem, ?_, ?_, (hcontents key).trans hcontent⟩
      · rw [hat, if_neg (hrestorable.outside e he).1, hrestored.restored _ e hlast]
        exact hkey
      · rw [hrights]
        exact rightsOf_of_le hb rfl hle
    unchanged := by
      intro m hlast
      rw [hat]
      by_cases hm : top <+: m
      · rw [if_pos hm, h.at?_of_top_le hb hm]
        exact .inl rfl
      · rw [if_neg hm, ← at?_outside hb h hfilled hm]
        exact hrestored.outside m hm hlast
    contentOf := fun key hkey => (hcontents key).trans (hfilled.contentOf_of_lt key hkey)
    rightsOf := fun key _ => hrights key }

namespace Recovered

/-- Directories and links are what they were. -/
theorem isExtended (h : Recovered b held table d) (hrestorable : IsRestorable b top table) :
    b.Extends d := by
  refine .of_stays h.workingDirectory fun m entry hentry hat => ?_
  rcases hlast : lastAt table m with _ | e
  · rcases h.unchanged m hlast with hsame | ⟨hnone, -⟩
    · rw [hsame, hat]
    · rw [hat] at hnone
      cases hnone
  · obtain ⟨he, rfl⟩ := lastAt_eq_some hlast
    obtain ⟨key, rfl⟩ := (hrestorable.isAccessible e he).file entry hat
    exact absurd rfl (hentry key)

/-- The path of each entry leads to what the last entry for its place holds. -/
theorem read (h : Recovered b held table d) (hrestorable : IsRestorable b top table)
    (he : e ∈ table) :
    ∃ e' content, lastAt table (placeOf e.2) = some e' ∧
      (Name.ofString e'.1, content) ∈ held ∧ d.place? e.2 = .ok (placeOf e.2) ∧
      d.read e.2 = .ok content := by
  obtain ⟨e', hlast⟩ := exists_lastAt he
  obtain ⟨key, content, hmem, hkey, hrights, hcontent⟩ := h.restored _ e' hlast
  have ht := hrestorable.isTarget e he
  obtain ⟨found, hfound, -, hthere⟩ := ht.locate (h.leveled e he)
    (fun entry hat => ⟨key, Option.some.inj (hat.symm.trans hkey)⟩) true
  have hplace : d.place? e.2 = .ok (placeOf e.2) := by
    rw [Disk.place?, Disk.resolve, ht.slash, hfound, hthere.2 (by rw [hkey]; simp)]
  exact ⟨e', content, hlast, hmem, hplace,
    read_eq_ok_iff.2 ⟨_, key, hplace, hkey, by rw [hrights], hcontent⟩⟩

/-- What lies where no path of the table leads to is read as before. -/
theorem read_of_lastAt {m : Location} {content : Content} (h : Recovered b held table d)
    (hb : b.WellFormed) (hrestorable : IsRestorable b top table) (hplace : b.place? q = .ok m)
    (hlast : lastAt table m = none) (hread : b.read q = .ok content) :
    d.place? q = .ok m ∧ d.read q = .ok content := by
  obtain ⟨m', key, hplace', hkey, hreadable, hcontent⟩ := read_eq_ok_iff.1 hread
  cases hplace.symm.trans hplace'
  have hkey' : d.at? m = some (.file key) := by
    rcases h.unchanged m hlast with hsame | ⟨hnone, -⟩
    · rw [hsame, hkey]
    · rw [hkey] at hnone
      cases hnone
  have hlt := hb.key_lt hkey
  have hstill : d.place? q = .ok m := by
    refine (h.isExtended hrestorable).place? hb (fun key' hkey'' => ⟨key, ?_⟩) hplace
    rw [hkey']
  exact ⟨hstill, read_eq_ok_iff.2 ⟨m, key, hstill, hkey', by rw [h.rightsOf key hlt, hreadable],
    by rw [h.contentOf key hlt, hcontent]⟩⟩

end Recovered

/-- An archive of plain files is recovered wherever the tree allows it. -/
theorem run_recover (hb : b.WellFormed) (h : IsStaging b staging top)
    (hread : b.read q = .ok (.sealed (plainEntries held bytes)))
    (harchive : IsPlainArchive held bytes table) (hrestorable : IsRestorable b top table) :
    ∃ d, recover staging q .keep b = ((.ok (), [recovered table.length q]), d) ∧
      Recovered b held table d := by
  obtain ⟨c, d, hfilled, hrestored, hrun⟩ := run_restore hb h hread harchive hrestorable
  have hstaged := isStaged hb h hfilled harchive
  have hextends := hrestored.isExtended hstaged (isRestorable hb h hfilled hrestorable)
    fun _ he => he
  have htop := hextends.directory _ _ hstaged.directory
  have hremove := h.run_removeTree hb ((isExtended hb h hfilled).trans hextends) htop
    fun m hm => isSealedOff_inside hb h hfilled hrestored hm htop
  refine ⟨_, ?_, recovered_of_restored hb h hfilled harchive hrestorable hrestored⟩
  have hmake : (attempt Failure.io (Disk.makeDirectory staging)).run.run b =
      (.ok (), withStaging b top) := run_attempt_eq_ok_iff.2 h.run_makeDirectory
  have hwith : withDirectory staging (restore staging q) b =
      (.ok table.length, (d.cutBelow top).cut top) := by
    have hbody : (withDirectory staging (restore staging q)).run.run b =
        ((restore staging q).run.run (withStaging b top)).map id
          fun d => ((Disk.removeTree staging).run.run d).2 := by
      rw [withDirectory, run_bind_of_ok hmake]
      rfl
    rw [hrun, Prod.map_apply, hremove] at hbody
    exact hbody
  simp only [recover, archiveAt, hwith]
  rfl

end Codemod.Backup
