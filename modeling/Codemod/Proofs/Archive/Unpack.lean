import Codemod.Archive.Unpack
import Codemod.Proofs.Disk.Extends

set_option autoImplicit false

/-! # Unpacking plain files

Members that are files and lie directly in an archive are put into the directory, each under its own
name, and nothing else changes (`run_unpack`). -/

namespace Codemod.Archive

open Disk

variable {d d' : Disk} {top : Location} {n : Name} {content : Content}

/-- How long the names of plain members are at most. -/
def plainLimit : Nat := 40

/-- A name for a member that lies directly in an archive, not a long one. -/
structure IsPlain (n : Name) : Prop extends IsEntryName n where
  zero_notMem : 0 ∉ n
  length_le_limit : n.length ≤ plainLimit

/-- The path of a short name after a path that is not too long. -/
theorem isPassable_join {p : Path} (hp : isPassable p = true) (hn : IsPlain n)
    (hshort : p.bytes.length + plainLimit < pathLimit) : isPassable (p.join ⟨n⟩) = true := by
  rw [isPassable, Bool.and_eq_true, Bool.not_eq_true', decide_eq_true_iff, List.contains_eq_mem,
    decide_eq_false_iff_not] at hp ⊢
  have hlimit := hn.length_le_limit
  have hzero := hn.zero_notMem
  rw [Path.join_part hn.isPart]
  split
  · exact ⟨hzero, show n.length ≤ pathLimit by omega⟩
  · split
    · rw [List.mem_append, List.length_append]
      exact ⟨by tauto, by omega⟩
    · rw [List.mem_append, List.mem_cons, List.length_append, List.length_cons]
      exact ⟨by simp [hp.1, hzero, Path.separator], by omega⟩

/-- A directory that members can be put into. -/
structure IsRoom (d : Disk) (top : Location) : Prop where
  isEntryName : ∀ n ∈ top, IsEntryName n
  leveled : d.Leveled [] top
  writable : (d.rightsAt top).writable = true
  isPassable : isPassable top.path = true
  short : top.path.bytes.length + plainLimit < pathLimit

namespace IsRoom

theorem isWay (hroom : IsRoom d top) : IsWay top := fun n hn => .inr (hroom.isEntryName n hn)

theorem lexical_eq (hroom : IsRoom d top) : lexical [] top = top :=
  lexical_of_ne_above [] fun n hn => (hroom.isEntryName n hn).ne_above

theorem path_concat (top : Location) (n : Name) :
    Location.path (top ++ [n]) = top.path.join ⟨n⟩ := by
  rw [Location.path_eq_under, Location.path_eq_under, Path.under_append]
  rfl

theorem isWay_concat (hroom : IsRoom d top) (hn : IsPlain n) : IsWay (top ++ [n]) := by
  intro m hm
  rcases List.mem_append.1 hm with hm | hm
  · exact hroom.isWay m hm
  · rw [List.mem_singleton.1 hm]
    exact .inr hn.toIsEntryName

theorem place?_top (hroom : IsRoom d top) : d.place? top.path = .ok top := by
  have hpass := hroom.isPassable
  rw [Location.path_eq_under] at hpass ⊢
  rw [place?, resolve, locate_under hroom.isWay hpass,
    chase_of_enter (enter_of_leveled linkLimit hroom.isWay hroom.leveled), hroom.lexical_eq]

/-- A name that is free in the directory is found to be free. -/
theorem resolve_concat (hroom : IsRoom d top) (hn : IsPlain n)
    (hfree : d.at? (top ++ [n]) = none) (follow : Bool) :
    d.resolve (Location.path (top ++ [n])) follow = .ok (.vacant top n) := by
  have hpass : Disk.isPassable (Location.path (top ++ [n])) = true := by
    rw [path_concat]
    exact isPassable_join hroom.isPassable hn hroom.short
  have hsearch := hroom.leveled.searchable
  rw [hroom.lexical_eq] at hsearch
  rw [Location.path_eq_under] at hpass ⊢
  rw [resolve, locate_under (hroom.isWay_concat hn) hpass,
    chase_append _ _ _ _ _ _ (List.cons_ne_nil _ _),
    enter_of_leveled linkLimit hroom.isWay hroom.leveled, hroom.lexical_eq]
  dsimp only
  rw [chase_singleton, turn_of_isOrdinary hsearch hn.toIsOrdinary, hfree]

theorem of_extends (hroom : IsRoom d top) (h : d.Extends d') : IsRoom d' top where
  isEntryName := hroom.isEntryName
  leveled := h.leveled hroom.leveled
  writable := by
    have hdir := hroom.leveled.hasDirectory
    rw [hroom.lexical_eq] at hdir
    rw [h.rightsAt hdir]
    exact hroom.writable
  isPassable := hroom.isPassable
  short := hroom.short

end IsRoom

/-! ## One member -/

/-- A file that lies directly in an archive. -/
def plainMember (n : Name) (content : Content) : Member := ⟨⟨n⟩, .file content none⟩

theorem namesOf_plain (hn : IsPlain n) : namesOf ⟨n⟩ = some [n] := by
  have hcomponents : Path.components ⟨n⟩ = [.normal n] := by
    have hcomponent : Path.componentOf? n = some (.normal n) := by
      rw [Path.componentOf?, if_neg hn.ne_here, if_neg hn.ne_above]
    rw [Path.components, Path.segments_of_isPart hn.isPart, Path.not_isAbsolute_of_isPart hn.isPart]
    simp [hcomponent, hn.ne_here]
  rw [namesOf, hcomponents]
  rfl

theorem run_requireInside {p : Path} {l : Location} (hplace : d.place? p = .ok l)
    (hinside : top <+: l) : (requireInside top p).run.run d = (.ok (), d) := by
  rw [requireInside, run_look_bind, hplace]
  dsimp only
  rw [if_pos (List.isPrefixOf_iff_prefix.2 hinside)]
  rfl

theorem run_replacing (p : Path) (make : Disk.Action Unit) (d : Disk) :
    (replacing p make).run.run d =
      match make.run.run d with
      | (.error .alreadyExists, d) => (do Disk.removeFile p; make : Disk.Action Unit).run.run d
      | done => done :=
  rfl

theorem run_replacing_of_ok {p : Path} {make : Disk.Action Unit}
    (h : make.run.run d = (.ok (), d')) : (replacing p make).run.run d = (.ok (), d') := by
  rw [run_replacing, h]

/-- A directory that is there already is taken. -/
theorem makeDirectory_run (p : Path) (d : Disk) :
    (Archive.makeDirectory p).run.run d =
      match (Disk.makeDirectory p).run.run d with
      | (.error .alreadyExists, d) =>
        (if (d.ownStatus? p).any isDirectoryEntry then .ok () else .error .alreadyExists, d)
      | done => done :=
  rfl

/-- A plain file under a new name is put into the directory. -/
theorem run_unpackMember (hroom : IsRoom d top) (hn : IsPlain n)
    (hfree : d.at? (top ++ [n]) = none) (content : Content) :
    (unpackMember top (plainMember n content)).run.run d =
      (.ok (), d.addFile (top ++ [n]) content) := by
  have hwrite : (writeNew (Location.path (top ++ [n])) content).run.run d =
      (.ok (), d.addFile (top ++ [n]) content) := by
    have hslash : (Location.path (top ++ [n])).endsInSeparator = false := by
      rw [IsRoom.path_concat]
      exact Path.endsInSeparator_join _ hn.isPart
    rw [run_writeNew, hroom.resolve_concat hn hfree]
    simp only [hslash, Bool.false_eq_true, if_false, hroom.writable, if_true]
  have hinside : (requireInside top (Location.path (top ++ [n].dropLast))).run.run d =
      (.ok (), d) := by
    rw [List.dropLast_singleton, List.append_nil]
    exact run_requireInside hroom.place?_top List.prefix_rfl
  have hplace : (place top (Location.path (top ++ [n])) (.file content none)).run.run d =
      (.ok (), d.addFile (top ++ [n]) content) := by
    rw [place, run_bind, run_replacing_of_ok hwrite]
    rfl
  have hparents : (makeParents top [] [n].dropLast).run.run d = (.ok (), d) := rfl
  simp only [unpackMember, plainMember, namesOf_plain hn]
  rw [run_bind_of_ok hparents, run_bind_of_ok hinside]
  exact hplace

/-! ## All members -/

/-- The members for some names with contents. -/
def plainMembers (held : List (Name × Content)) : List Member :=
  held.map fun h => plainMember h.1 h.2

/-- Plain files are made in the order in which they come. -/
theorem inOrder_plainMembers (held : List (Name × Content)) :
    inOrder (plainMembers held) = plainMembers held := by
  have hlate : ∀ m ∈ plainMembers held, m.isLate = false := by
    intro m hm
    obtain ⟨h, -, rfl⟩ := List.mem_map.1 hm
    rfl
  have hfirst : (plainMembers held).filter (!·.isLate) = plainMembers held :=
    List.filter_eq_self.2 fun m hm => by rw [hlate m hm]; rfl
  have hlast : (plainMembers held).filter (·.isLate) = [] :=
    List.filter_eq_nil_iff.2 fun m hm => by rw [hlate m hm]; simp
  rw [inOrder, hfirst, hlast, List.mergeSort_nil, List.append_nil]

/-- A tree with new files that lie directly in a directory. -/
structure Filled (d : Disk) (top : Location) (held : List (Name × Content)) (d' : Disk) :
    Prop where
  wellFormed : d'.WellFormed
  fileRights : d'.fileRights = d.fileRights
  workingDirectory : d'.workingDirectory = d.workingDirectory
  nextKey_le : d.nextKey ≤ d'.nextKey
  at?_of_ne : ∀ m, (∀ h ∈ held, m ≠ top ++ [h.1]) → d'.at? m = d.at? m
  contentOf_of_lt : ∀ key < d.nextKey, d'.contentOf key = d.contentOf key
  at?_of_mem : ∀ h ∈ held, ∃ key, d'.at? (top ++ [h.1]) = some (.file key) ∧
    d.nextKey ≤ key ∧ d'.contentOf key = h.2
  /-- New files are in one place each. -/
  unique : ∀ key, d.nextKey ≤ key → ∀ m m', d'.at? m = some (.file key) →
    d'.at? m' = some (.file key) → m = m'

theorem filled_nil (hd : d.WellFormed) : Filled d top [] d where
  wellFormed := hd
  fileRights := rfl
  workingDirectory := rfl
  nextKey_le := Nat.le_refl _
  at?_of_ne := fun _ _ => rfl
  contentOf_of_lt := fun _ _ => rfl
  at?_of_mem := fun _ h => nomatch h
  unique := fun _ hkey _ _ hm => absurd (hd.key_lt hm) (Nat.not_lt.2 hkey)

theorem Filled.isWithin {held : List (Name × Content)} (h : Filled d top held d')
    (hfree : ∀ x ∈ held, d.at? (top ++ [x.1]) = none) : d.Within d' where
  workingDirectory := h.workingDirectory
  at? := by
    intro m entry hat
    rw [h.at?_of_ne m, hat]
    rintro x hx rfl
    rw [hfree x hx] at hat
    cases hat
  contentOf := h.contentOf_of_lt
  rightsOf := fun key _ => by rw [Disk.rightsOf, Disk.rightsOf, h.fileRights]
  nextKey_le := h.nextKey_le

theorem filled_cons {held : List (Name × Content)} (hd : d.WellFormed)
    (hnew : ∀ h ∈ held, h.1 ≠ n)
    (hrest : Filled (d.addFile (top ++ [n]) content) top held d') :
    Filled d top ((n, content) :: held) d' := by
  have hnext : (d.addFile (top ++ [n]) content).nextKey = d.nextKey + 1 := rfl
  have hat : ∀ m, (d.addFile (top ++ [n]) content).at? m =
      if m = top ++ [n] then some (.file d.nextKey) else d.at? m := by
    intro m
    rw [at?_addFile]
    by_cases hm : m = top ++ [n]
    · simp [hm]
    · simp [hm]
  have hthere : d'.at? (top ++ [n]) = some (.file d.nextKey) := by
    rw [hrest.at?_of_ne _ fun h hh heq => hnew h hh ?_, hat, if_pos rfl]
    exact (List.cons.inj (List.append_cancel_left heq)).1.symm
  exact {
    wellFormed := hrest.wellFormed
    fileRights := hrest.fileRights
    workingDirectory := hrest.workingDirectory
    nextKey_le := by have := hrest.nextKey_le; omega
    at?_of_ne := by
      intro m hm
      rw [List.forall_mem_cons] at hm
      rw [hrest.at?_of_ne m hm.2, hat, if_neg hm.1]
    contentOf_of_lt := by
      intro key hkey
      rw [hrest.contentOf_of_lt key (by omega), contentOf_addFile, if_neg (by omega)]
    at?_of_mem := by
      intro h hh
      rcases List.mem_cons.1 hh with rfl | hh
      · refine ⟨d.nextKey, hthere, Nat.le_refl _, ?_⟩
        rw [hrest.contentOf_of_lt _ (by omega), contentOf_addFile, if_pos rfl]
      · obtain ⟨key, hkey, hle, hcontent⟩ := hrest.at?_of_mem h hh
        exact ⟨key, hkey, by omega, hcontent⟩
    unique := by
      -- The first of the new numbers is only where the first file was put.
      have hfirst : ∀ m, d'.at? m = some (.file d.nextKey) → m = top ++ [n] := by
        intro m hm
        by_cases hheld : ∃ h ∈ held, m = top ++ [h.1]
        · obtain ⟨h, hh, rfl⟩ := hheld
          obtain ⟨key, hkey, hle, -⟩ := hrest.at?_of_mem h hh
          cases hkey.symm.trans hm
          omega
        · rw [hrest.at?_of_ne m fun h hh heq => hheld ⟨h, hh, heq⟩, hat] at hm
          split at hm
          · assumption
          · exact absurd (hd.key_lt hm) (Nat.lt_irrefl _)
      intro key hkey m m' hm hm'
      by_cases heq : key = d.nextKey
      · rw [hfirst m (heq ▸ hm), hfirst m' (heq ▸ hm')]
      · exact hrest.unique key (by omega) m m' hm hm' }

/-- Plain files under different names, none of which is taken, are put into the directory. -/
theorem run_unpack {held : List (Name × Content)} (hd : d.WellFormed) (hroom : IsRoom d top)
    (hplain : ∀ h ∈ held, IsPlain h.1) (hnodup : (held.map (·.1)).Nodup)
    (hfree : ∀ h ∈ held, d.at? (top ++ [h.1]) = none) :
    ∃ d', (unpack top (plainMembers held)).run.run d = (.ok (), d') ∧ Filled d top held d' := by
  rw [unpack, inOrder_plainMembers]
  induction held generalizing d with
  | nil => exact ⟨d, rfl, filled_nil hd⟩
  | cons h held ih =>
    rw [List.forall_mem_cons] at hplain hfree
    rw [List.map_cons, List.nodup_cons] at hnodup
    have hnew : ∀ h' ∈ held, h'.1 ≠ h.1 := fun h' hh' heq =>
      hnodup.1 (heq ▸ List.mem_map_of_mem hh')
    have hfree' : d.IsFree top h.1 := by
      have hdir := hroom.leveled.hasDirectory
      rw [hroom.lexical_eq] at hdir
      exact ⟨hdir, hplain.1.toIsEntryName, hfree.1⟩
    have hroom' := hroom.of_extends (within_addFile hfree.1 h.2).isExtended
    have hrest : ∀ h' ∈ held, (d.addFile (top ++ [h.1]) h.2).at? (top ++ [h'.1]) = none := by
      intro h' hh'
      rw [at?_addFile, if_neg, hfree.2 h' hh']
      rintro ⟨heq, -⟩
      exact hnew h' hh' (List.cons.inj (List.append_cancel_left heq)).1
    obtain ⟨d', hrun, hfilled⟩ := ih (hd.addFile hfree' h.2) hroom' hplain.2 hnodup.2 hrest
    refine ⟨d', ?_, filled_cons hd hnew hfilled⟩
    rw [plainMembers, List.map_cons, List.forM,
      run_bind_of_ok (run_unpackMember hroom hplain.1 hfree.1 h.2)]
    exact hrun

end Codemod.Archive
