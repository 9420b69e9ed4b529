import Codemod.Proofs.Archive.Twin
import Codemod.Proofs.Backup.Reach
import Codemod.Proofs.Backup.Recover

set_option autoImplicit false

/-! # Unpacking an archive again

An archive of files that is unpacked a second time, in another tree and into another directory,
comes to lie there as it did the first time, with the same table; and if it could not be unpacked
then it cannot be unpacked now (`gather_again`, `gather_error_iff`). -/

namespace Codemod.Backup

open Disk Archive

variable {d d' x c : Disk} {staging staging' p archive : Path} {top top' m : Location} {n : Name}
  {table : Lookup}

/-! ## Two directories -/

/-- Directories for unpacking in two trees, with paths of the same length. -/
structure IsPair (d d' : Disk) (staging staging' : Path) (top top' : Location) : Prop where
  first : IsStaging d staging top
  second : IsStaging d' staging' top'
  length : staging'.bytes.length = staging.bytes.length
  length_top : top'.path.bytes.length = top.path.bytes.length

theorem IsPair.symm (h : IsPair d d' staging staging' top top') :
    IsPair d' d staging' staging top' top :=
  ⟨h.second, h.first, h.length.symm, h.length_top.symm⟩

theorem IsStaging.bytes_join (h : IsStaging d staging top) (hn : n.IsPart) :
    Disk.isPassable staging = true ∧
      (staging.join ⟨n⟩).bytes = staging.bytes ++ Path.separator :: n := by
  obtain ⟨l, name, hfound, -⟩ := h.free
  obtain ⟨hne, hpass, -⟩ := locate_eq_ok_iff.1 hfound
  rw [Path.join_part hn, if_neg hne, h.slash, if_neg (by simp)]
  exact ⟨hpass, rfl⟩

/-- What fits into one of the directories fits into the other one. -/
theorem IsPair.fits (h : IsPair d d' staging staging' top top') (hfits : Fits staging n) :
    Fits staging' n := by
  refine ⟨hfits.toIsEntryName, ?_⟩
  obtain ⟨hpass, hbytes⟩ := h.first.bytes_join hfits.isPart
  obtain ⟨hpass', hbytes'⟩ := h.second.bytes_join hfits.isPart
  have hjoin := hfits.isPassable
  simp only [Disk.isPassable, Bool.and_eq_true, Bool.not_eq_true', List.contains_eq_mem,
    decide_eq_false_iff_not, decide_eq_true_eq] at hjoin hpass hpass' ⊢
  rw [hbytes, List.mem_append, not_or, List.length_append] at hjoin
  rw [hbytes', List.mem_append, not_or, List.length_append, h.length]
  exact ⟨⟨hpass'.1, hjoin.1.2⟩, hjoin.2⟩

section Pair

variable (hd : d.WellFormed) (hd' : d'.WellFormed) (h : IsPair d d' staging staging' top top')
include hd hd' h

theorem IsPair.passAlike : PassAlike top top' := by
  have hroom := h.first.isRoom hd
  have hroom' := h.second.isRoom hd'
  have hne : ∀ {d : Disk} {staging : Path} {top : Location},
      IsStaging d staging top → top ≠ [] := by
    rintro d staging top hstaging rfl
    obtain ⟨l, name, -, hnil⟩ := hstaging.free
    exact concat_ne_nil l name hnil.symm
  exact passAlike_of_length (fun n hn => (hroom.isEntryName n hn).isPart)
    (fun n hn => (hroom'.isEntryName n hn).isPart) (hne h.first) (hne h.second) h.first.isPassable
    h.second.isPassable h.length_top

/-- At first there is nothing in either directory. -/
theorem IsPair.twin :
    Twin top top' d.nextKey d'.nextKey (withStaging d top) (withStaging d' top') where
  wellFormed := h.first.wellFormed hd
  wellFormed' := h.second.wellFormed hd'
  room := h.first.isRoom hd
  room' := h.second.isRoom hd'
  nextKey := ⟨0, rfl, rfl⟩
  at? := by
    intro ns
    rw [h.first.at?_withStaging hd, h.second.at?_withStaging hd']
    by_cases hns : ns = []
    · rw [hns, List.append_nil, List.append_nil, if_pos rfl, if_pos rfl]
      exact .directory
    · rw [if_neg (by simpa using hns), if_neg (by simpa using hns),
        h.first.at?_of_top_le hd (List.prefix_append ..),
        h.second.at?_of_top_le hd' (List.prefix_append ..)]
      exact .none
  contentOf := fun i hi => absurd hi (Nat.not_lt.2 (Nat.le_add_right ..))
  rightsOf := fun i hi => absurd hi (Nat.not_lt.2 (Nat.le_add_right ..))

end Pair

/-! ## Unpacking -/

/-- An archive is unpacked if it has members, if these can be put into the directory and if there is
a table among them then. -/
theorem gather_eq_ok_iff (hd : d.WellFormed) (h : IsStaging d staging top) {top₁ : Location} :
    (gather staging archive).run.run d = (.ok (top₁, table), c) ↔
      top₁ = top ∧ ∃ members, membersAt (withStaging d top) archive = .ok members ∧
        (Archive.unpack top members).run.run (withStaging d top) = (.ok (), c) ∧
        tableAt c staging archive = .ok table := by
  have hmake : (attempt Failure.io (Disk.makeDirectory staging)).run.run d =
      (.ok (), withStaging d top) := run_attempt_eq_ok_iff.2 h.run_makeDirectory
  have hplace : (attempt Failure.io (Disk.look (·.place? staging))).run.run (withStaging d top) =
      (.ok top, withStaging d top) := by
    have htop : (withStaging d top).at? top = some (.directory {}) := by
      rw [h.at?_withStaging hd, if_pos rfl]
    rw [run_attempt_eq_ok_iff, run_look, h.place? hd (h.isWithin hd).isExtended htop]
  rw [gather, run_bind_of_ok hmake, readOut]
  constructor
  · intro hrun
    simp only [run_bind_eq_ok_iff, run_check] at hrun
    obtain ⟨b, x, hget, members, y, hcheck, t, z, hlook, ⟨⟩, c', hunpack, a, w, hget', table', v,
      hcheck', hpure⟩ := hrun
    cases hget
    cases hget'
    cases hpure
    obtain ⟨hmembers, rfl⟩ := Prod.mk.inj hcheck
    obtain ⟨htable, rfl⟩ := Prod.mk.inj hcheck'
    cases hplace.symm.trans hlook
    exact ⟨rfl, members, hmembers, run_attempt_eq_ok_iff.1 hunpack, htable⟩
  · rintro ⟨rfl, members, hmembers, hunpack, htable⟩
    rw [run_bind_of_ok (run_get _), run_bind_of_ok (run_check_of_ok hmembers _),
      run_bind_of_ok hplace, run_bind_of_ok (run_attempt_eq_ok_iff.2 hunpack),
      run_bind_of_ok (run_get _), run_bind_of_ok (run_check_of_ok htable _)]
    rfl

theorem membersAt_eq_ok_iff {members : List Member} :
    membersAt d archive = .ok members ↔
      ∃ content, d.read archive = .ok content ∧ membersOf content = some members := by
  constructor
  · intro h
    rw [membersAt] at h
    split at h
    · cases h
    · split at h
      · cases h
      · cases h
      · rename_i content hread
        split at h
        · rename_i members' hmembers
          cases h
          exact ⟨content, hread, hmembers⟩
        · cases h
  · rintro ⟨content, hread, hmembers⟩
    exact membersAt_eq_ok hread hmembers

/-- A sealed archive without directories has files as its members. -/
theorem isFile_sealedMember {entries : List (Path × Option Content)}
    (h : ∀ entry ∈ entries, entry.2.isSome) :
    ∀ member ∈ entries.map sealedMember, member.IsFile := by
  rw [List.forall_mem_map]
  rintro ⟨path, content⟩ hentry
  obtain ⟨content, rfl⟩ := Option.isSome_iff_exists.1 (h _ hentry)
  exact ⟨content, none, rfl⟩

theorem tableAt_eq_ok_iff :
    tableAt d staging archive = .ok table ↔
      ∃ bytes, d.read (staging.join (.ofString Lookup.fileName)) = .ok (.bytes bytes) ∧
        Lookup.decode bytes = some table := by
  constructor
  · intro h
    rw [tableAt] at h
    split at h
    · cases h
    · cases h
    · rename_i bytes hread
      split at h
      · rename_i table' hdecode
        cases h
        exact ⟨bytes, hread, hdecode⟩
      · cases h
  · rintro ⟨bytes, hread, hdecode⟩
    exact tableAt_eq_ok hread hdecode

/-- In a directory into which files were unpacked there are no links. -/
theorem not_link_of_twin {first first' : Nat} (h : Twin top top' first first' d d')
    (ns : List Name) (target : Path) : d.at? (top ++ ns) ≠ some (.link target) := by
  intro hat
  have hsame := h.at? ns
  rw [hat] at hsame
  cases hsame

theorem isProper_fileName : IsProper (Name.ofString Lookup.fileName) :=
  ⟨⟨by decide, by decide⟩, by decide, by decide⟩

/-- A file is read from both directories alike. -/
theorem read_join_of_twin {first first' : Nat} {content : Content}
    (hpair : IsPair d d' staging staging' top top') {c c' : Disk}
    (h : Twin top top' first first' c c') (hleads : LeadsTo c staging top)
    (hleads' : LeadsTo c' staging' top') (htop : c.at? top = some (.directory {}))
    (htop' : c'.at? top' = some (.directory {})) (hn : IsProper n)
    (hread : c.read (staging.join ⟨n⟩) = .ok content) :
    c'.read (staging'.join ⟨n⟩) = .ok content := by
  obtain ⟨m, key, hplace, hkey, hreadable, hcontent⟩ := read_eq_ok_iff.1 hread
  obtain ⟨hfits, hat, rfl⟩ :=
    (hleads.place?_join_iff htop hn (not_link_of_twin h [n])).1 hplace
  obtain ⟨i, -, hkey', hcontent', hrights'⟩ := h.exists_file hkey
  have hplace' := (hleads'.hasFile htop' (hpair.fits hfits) hkey').place? true
  exact read_eq_ok_iff.2 ⟨_, _, hplace', hkey', by rw [hrights', hreadable],
    by rw [hcontent', hcontent]⟩

/-- A table is read from both directories alike. -/
theorem tableAt_of_twin {first first' : Nat} (hpair : IsPair d d' staging staging' top top')
    {c c' : Disk} (h : Twin top top' first first' c c') (hleads : LeadsTo c staging top)
    (hleads' : LeadsTo c' staging' top') (htop : c.at? top = some (.directory {}))
    (htop' : c'.at? top' = some (.directory {})) (htable : tableAt c staging archive = .ok table) :
    tableAt c' staging' archive = .ok table := by
  obtain ⟨bytes, hread, hdecode⟩ := tableAt_eq_ok_iff.1 htable
  exact tableAt_eq_ok
    (read_join_of_twin hpair h hleads hleads' htop htop' isProper_fileName hread) hdecode

/-- What was unpacked lies in the directory for it, to which the path leads. -/
theorem IsStaging.leadsTo_of_unpack (hd : d.WellFormed) (h : IsStaging d staging top)
    {members : List Member}
    (hrun : (Archive.unpack top members).run.run (withStaging d top) = (.ok (), c)) :
    Inside (withStaging d top) top c ∧ LeadsTo c staging top ∧
      c.at? top = some (.directory {}) := by
  obtain ⟨l, name, hfound, rfl⟩ := h.free
  have htop : (withStaging d (l ++ [name])).at? (l ++ [name]) = some (.directory {}) := by
    rw [h.at?_withStaging hd, if_pos rfl]
  have hself : Inside (withStaging d (l ++ [name])) (l ++ [name])
      (withStaging d (l ++ [name])) := by
    refine inside_self (h.wellFormed hd) fun m key hm hat => ?_
    rw [h.at?_withStaging hd] at hat
    split at hat
    · cases hat
    · cases (h.at?_of_top_le hd hm).symm.trans hat
  have hinside := keeps_unpack (fun m => (h.wellFormed hd).isEntryName_of_at? htop) members _ hself
  rw [hrun] at hinside
  exact ⟨hinside, leadsTo_of_inside hd hfound hinside,
    (hinside.outside _ fun hbelow => hbelow.2 rfl).trans htop⟩

section Again

variable (hd : d.WellFormed) (hd' : d'.WellFormed) (hpair : IsPair d d' staging staging' top top')
  (hread : (withStaging d' top').read archive = (withStaging d top).read archive)
  (hfiles : ∀ members, membersAt (withStaging d top) archive = .ok members →
    ∀ member ∈ members, member.IsFile)
include hd hd' hpair hread hfiles

/-- An archive of files that is unpacked in one tree is unpacked in another one. -/
theorem gather_again {top₁ : Location}
    (h : (gather staging archive).run.run d = (.ok (top₁, table), c)) :
    top₁ = top ∧ ∃ c', (gather staging' archive).run.run d' = (.ok (top', table), c') ∧
      Twin top top' d.nextKey d'.nextKey c c' := by
  obtain ⟨rfl, members, hmembers, hunpack, htable⟩ := (gather_eq_ok_iff hd hpair.first).1 h
  refine ⟨rfl, ?_⟩
  have hmembers' : membersAt (withStaging d' top') archive = .ok members := by
    rw [membersAt_eq_ok_iff] at hmembers ⊢
    rwa [hread]
  obtain ⟨hsame, htwin⟩ := agree_unpack (hpair.passAlike hd hd') (hfiles members hmembers) _ _
    (hpair.twin hd hd')
  rw [hunpack] at hsame htwin
  rcases hunpack' : (Archive.unpack top' members).run.run (withStaging d' top') with ⟨e | ⟨⟩, c'⟩
  · rw [hunpack'] at hsame
    cases hsame
  rw [hunpack'] at htwin
  obtain ⟨-, hleads, htop⟩ := hpair.first.leadsTo_of_unpack hd hunpack
  obtain ⟨-, hleads', htop'⟩ := hpair.second.leadsTo_of_unpack hd' hunpack'
  exact ⟨c', (gather_eq_ok_iff hd' hpair.second).2 ⟨rfl, members, hmembers', hunpack',
    tableAt_of_twin hpair htwin hleads hleads' htop htop' htable⟩, htwin⟩

/-- An archive of files is unpacked in both trees, or in none of them. -/
theorem gather_error_iff :
    (∃ failure, ((gather staging archive).run.run d).1 = .error failure) ↔
      ∃ failure, ((gather staging' archive).run.run d').1 = .error failure := by
  have hfiles' : ∀ members, membersAt (withStaging d' top') archive = .ok members →
      ∀ member ∈ members, member.IsFile := by
    intro members hmembers
    refine hfiles members ?_
    rw [membersAt_eq_ok_iff] at hmembers ⊢
    rwa [← hread]
  constructor
  · rintro ⟨failure, hfailure⟩
    rcases hrun : (gather staging' archive).run.run d' with ⟨failure' | ⟨top₁, table⟩, c'⟩
    · exact ⟨failure', rfl⟩
    · obtain ⟨-, c, hagain, -⟩ := gather_again hd' hd hpair.symm hread.symm hfiles' hrun
      rw [hagain] at hfailure
      cases hfailure
  · rintro ⟨failure, hfailure⟩
    rcases hrun : (gather staging archive).run.run d with ⟨failure' | ⟨top₁, table⟩, c⟩
    · exact ⟨failure', rfl⟩
    · obtain ⟨-, c', hagain, -⟩ := gather_again hd hd' hpair hread hfiles hrun
      rw [hagain] at hfailure
      cases hfailure

end Again

end Codemod.Backup
