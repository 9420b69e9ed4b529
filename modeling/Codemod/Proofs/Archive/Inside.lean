import Codemod.Proofs.Archive.Unpack

set_option autoImplicit false

/-! # Unpacking stays inside

Whatever the members of an archive are, directories, files and links of all kinds, unpacking them
changes nothing but what lies below the directory they are put into, however far it gets
(`keeps_unpack`). Links that lead out of the directory are in the tree then, but nothing was written
through them. -/

namespace Codemod.Archive

open Disk

variable {b d d' : Disk} {top l m : Location} {ns : List Name} {n : Name} {p : Path}

/-! ## Trees that differ below a place -/

/-- A place in a directory or deeper. -/
def IsBelow (top m : Location) : Prop := top <+: m ∧ top ≠ m

theorem isBelow_concat (h : top <+: l) (n : Name) : IsBelow top (l ++ [n]) := by
  refine ⟨h.trans (List.prefix_append ..), ?_⟩
  rintro rfl
  have hlength := h.length_le
  rw [List.length_append, List.length_singleton] at hlength
  omega

/-- A tree that differs from another one only below a place, all files there being new. -/
structure Inside (b : Disk) (top : Location) (d : Disk) : Prop where
  wellFormed : d.WellFormed
  workingDirectory : d.workingDirectory = b.workingDirectory
  outside : ∀ m, ¬ IsBelow top m → d.at? m = b.at? m
  nextKey_le : b.nextKey ≤ d.nextKey
  isNew : ∀ m key, top <+: m → d.at? m = some (.file key) → b.nextKey ≤ key
  contentOf : ∀ key < b.nextKey, d.contentOf key = b.contentOf key
  rightsOf : ∀ key < b.nextKey, d.rightsOf key = b.rightsOf key

namespace Inside

variable (h : Inside b top d)
include h

/-- Another entry below the place; if it is a file then it is a new one. -/
theorem put {entry : Entry} (hm : IsBelow top m) (hwell : (d.put m entry).WellFormed)
    (hkey : ∀ key, entry = .file key → b.nextKey ≤ key) : Inside b top (d.put m entry) where
  wellFormed := hwell
  workingDirectory := h.workingDirectory
  outside := by
    intro m' hm'
    rw [at?_put, if_neg, h.outside m' hm']
    rintro ⟨rfl, -⟩
    exact hm' hm
  nextKey_le := h.nextKey_le
  isNew := by
    intro m' key hbelow hat
    rw [at?_put] at hat
    split at hat
    · exact hkey key (Option.some.inj hat)
    · exact h.isNew m' key hbelow hat
  contentOf := h.contentOf
  rightsOf := h.rightsOf

theorem addFile (hl : top <+: l) (hfree : d.IsFree l n) (content : Content) :
    Inside b top (d.addFile (l ++ [n]) content) where
  wellFormed := h.wellFormed.addFile hfree content
  workingDirectory := h.workingDirectory
  outside := by
    intro m' hm'
    rw [at?_addFile, if_neg, h.outside m' hm']
    rintro ⟨rfl, -⟩
    exact hm' (isBelow_concat hl n)
  nextKey_le := Nat.le_succ_of_le h.nextKey_le
  isNew := by
    intro m' key hbelow hat
    rw [at?_addFile] at hat
    split at hat
    · cases hat
      exact h.nextKey_le
    · exact h.isNew m' key hbelow hat
  contentOf := by
    intro key hkey
    rw [contentOf_addFile, if_neg (Nat.lt_of_lt_of_le hkey h.nextKey_le).ne, h.contentOf key hkey]
  rightsOf := h.rightsOf

theorem cut (hm : IsBelow top m) : Inside b top (d.cut m) where
  wellFormed := h.wellFormed.cut m
  workingDirectory := h.workingDirectory
  outside := by
    intro m' hm'
    rw [at?_cut, if_neg, h.outside m' hm']
    rintro ⟨-, hbelow⟩
    refine hm' ⟨hm.1.trans hbelow, ?_⟩
    rintro rfl
    exact hm.2 (hm.1.eq_of_length_le hbelow.length_le)
  nextKey_le := h.nextKey_le
  isNew := by
    intro m' key hbelow hat
    rw [at?_cut] at hat
    split at hat
    · cases hat
    · exact h.isNew m' key hbelow hat
  contentOf := h.contentOf
  rightsOf := h.rightsOf

/-- Other rights for a new file. -/
theorem setRights {key : Nat} (hkey : b.nextKey ≤ key) (rights : Rights)
    (hwell : ({ d with
      fileRights := (key, rights) :: d.fileRights.filter fun r => r.1 != key } : Disk).WellFormed) :
    Inside b top { d with
      fileRights := (key, rights) :: d.fileRights.filter fun r => r.1 != key } where
  wellFormed := hwell
  workingDirectory := h.workingDirectory
  outside := h.outside
  nextKey_le := h.nextKey_le
  isNew := h.isNew
  contentOf := h.contentOf
  rightsOf := by
    intro other hother
    rw [rightsOf_of_ne d rights (by omega), h.rightsOf other hother]

end Inside

/-! ## Names below the directory -/

/-- A name that means an entry, although it may be too long for one. -/
structure IsProper (n : Name) : Prop where
  isPart : n.IsPart
  ne_here : n ≠ Path.here
  ne_above : n ≠ Path.above

theorem isProper_of_mem_components (h : .normal n ∈ p.components) : IsProper n := by
  rw [Path.components, List.mem_append] at h
  rcases h with h | h
  · split at h
    · simp at h
    · split at h
      · simp at h
      · simp at h
  · obtain ⟨s, hs, hcomponent⟩ := List.mem_filterMap.1 h
    rw [Path.componentOf?] at hcomponent
    split at hcomponent
    · cases hcomponent
    · rename_i hhere
      split at hcomponent
      · cases hcomponent
      · rename_i habove
        cases hcomponent
        exact ⟨Path.isPart_of_mem_segments hs, hhere, habove⟩

theorem isProper_of_namesOf (h : namesOf p = some ns) : ∀ n ∈ ns, IsProper n := by
  intro n hn
  rw [namesOf] at h
  split at h
  · cases h
  · cases h
    obtain ⟨c, hc, hname⟩ := List.mem_filterMap.1 hn
    have hnormal : c = .normal n := by
      split at hname
      · cases hname
        rfl
      · cases hname
    exact isProper_of_mem_components (hnormal ▸ hc)

/-- Where the path of names leads, the names lead. -/
theorem locate_path_eq_ok_iff {follow slash : Bool} {found : Found}
    (hns : ∀ n ∈ ns, Name.IsPart n) :
    d.locate (Location.path ns) follow slash = .ok found ↔
      isPassable (Location.path ns) = true ∧
        d.chase follow linkLimit slash [] ns = .ok found := by
  rw [Location.path_eq_under]
  have hstart : d.startOf (Path.root.under ns) = [] := if_pos (Path.isAbsolute_under rfl hns)
  rw [locate_eq_ok_iff, hstart, Path.segments_under _ hns, Path.segments_root, List.nil_append]
  exact ⟨fun h => ⟨h.2.1, h.2.2.2⟩, fun h => ⟨Path.bytes_under_ne_nil (List.cons_ne_nil _ _) hns,
    h.1, hasDirectory_root d, h.2⟩⟩

/-- Names that lead, if they do, into a directory or deeper. -/
def Confined (d : Disk) (top : Location) (ns : List Name) : Prop :=
  ∀ left l, d.enter linkLimit [] ns = .ok (left, l) → top <+: l

/-- With fewer directories and links names lead nowhere else. -/
theorem Confined.of_extends (hd' : d'.WellFormed) (h : d'.Extends d) (hconfined : Confined d top ns) :
    Confined d' top ns :=
  fun left l henter => hconfined left l (h.enter hd' (hasDirectory_root d') henter)

/-- What has been asked of the names above a member: they lead into the directory. -/
theorem run_requireInside_cases (d : Disk) (top : Location) (p : Path) :
    (∃ l, d.place? p = .ok l ∧ top <+: l ∧ (requireInside top p).run.run d = (.ok (), d)) ∨
      ∃ e, (requireInside top p).run.run d = (.error e, d) := by
  rw [requireInside, run_look_bind]
  rcases hplace : d.place? p with e | l
  · exact .inr ⟨e, rfl⟩
  · dsimp only
    by_cases hinside : top <+: l
    · rw [if_pos (List.isPrefixOf_iff_prefix.2 hinside)]
      exact .inl ⟨l, rfl, hinside, rfl⟩
    · rw [if_neg (mt List.isPrefixOf_iff_prefix.1 hinside)]
      exact .inr ⟨_, rfl⟩

theorem confined_of_place? (hns : ∀ n ∈ ns, Name.IsPart n)
    (hplace : d.place? (Location.path ns) = .ok l) (hinside : top <+: l) :
    Confined d top ns := by
  intro left k henter
  obtain ⟨-, hchase⟩ := (locate_path_eq_ok_iff hns).1 (place?_eq_ok_iff_resolve.1 hplace)
  rw [chase_of_enter henter] at hchase
  cases hchase
  exact hinside

/-- What is found under a name below confined ones is below the directory. -/
theorem Confined.found (hconfined : Confined d top ns) (hn : IsProper n) {found : Found}
    (h : d.chase false linkLimit false [] (ns ++ [n]) = .ok found) :
    ∃ left l, d.enter linkLimit [] ns = .ok (left, l) ∧ top <+: l ∧ found.place = l ++ [n] := by
  rw [chase_append _ _ _ _ _ _ (List.cons_ne_nil _ _)] at h
  rcases henter : d.enter linkLimit [] ns with e | ⟨left, l⟩
  · rw [henter] at h
    cases h
  · rw [henter] at h
    dsimp only at h
    refine ⟨left, l, rfl, hconfined left l henter, ?_⟩
    rcases turn_cases d l n with ⟨hsearch, ⟨hhere, -⟩ | ⟨habove, -⟩ | hname⟩ | hno | hno
    · exact absurd hhere hn.ne_here
    · exact absurd habove hn.ne_above
    · rw [chase_singleton, turn_of_isOrdinary hsearch hname] at h
      rcases hat : d.at? (l ++ [n]) with _ | rights | key | target
      all_goals
        rw [hat] at h
        cases h
        rfl
    · rw [chase_singleton, hno] at h
      cases h
    · rw [chase_singleton, hno] at h
      cases h

theorem isPart_concat (hns : ∀ n ∈ ns, Name.IsPart n) (hn : n.IsPart) :
    ∀ m ∈ ns ++ [n], Name.IsPart m := by
  intro m hm
  rcases List.mem_append.1 hm with hm | hm
  · exact hns m hm
  · rw [List.mem_singleton.1 hm]
    exact hn

theorem resolve_path (hns : ∀ n ∈ ns, Name.IsPart n) (hn : n.IsPart) (follow : Bool) :
    d.resolve (Location.path (ns ++ [n])) follow =
      d.locate (Location.path (ns ++ [n])) follow false := by
  have hends : (Location.path (ns ++ [n])).endsInSeparator = false := by
    rw [Location.path_eq_under]
    exact Path.endsInSeparator_under _ (isPart_concat hns hn) (by simp)
  rw [resolve, hends]

/-! ## Putting members there -/

section Member

variable (hns : ∀ n ∈ ns, Name.IsPart n) (hn : IsProper n)
include hns hn

theorem Confined.found_path (hconfined : Confined d top ns) {found : Found}
    (h : d.resolveName (Location.path (ns ++ [n])) = .ok found) :
    ∃ left l, d.enter linkLimit [] ns = .ok (left, l) ∧ top <+: l ∧ found.place = l ++ [n] := by
  exact hconfined.found hn ((locate_path_eq_ok_iff (isPart_concat hns hn.isPart)).1 h).2

/-- A name that is free below the directory. -/
theorem Confined.vacant (hd : d.WellFormed) (hconfined : Confined d top ns) {name : Name}
    (h : d.resolveName (Location.path (ns ++ [n])) = .ok (.vacant l name)) :
    name = n ∧ top <+: l ∧ d.IsFree l n ∧ ∃ left, d.enter linkLimit [] ns = .ok (left, l) := by
  obtain ⟨left, l', henter, hinside, hplace⟩ := hconfined.found_path hns hn h
  obtain ⟨rfl, hname⟩ := List.append_inj' hplace rfl
  cases hname
  exact ⟨rfl, hinside, hd.isThere_of_locate h, left, henter⟩

/-- If the directory above is there then a name in it is there or free. -/
theorem resolveName_ne_notFound (hplace : d.place? (Location.path ns) = .ok l) :
    d.resolveName (Location.path (ns ++ [n])) ≠ .error .notFound := by
  have hparts := isPart_concat hns hn.isPart
  obtain ⟨-, hchase⟩ := (locate_path_eq_ok_iff hns).1 (place?_eq_ok_iff_resolve.1 hplace)
  have habove := enter_ne_notFound_of_chase hchase
  have hstart : d.startOf (Path.root.under (ns ++ [n])) = [] :=
    if_pos (Path.isAbsolute_under rfl hparts)
  have hne : (Path.root.under (ns ++ [n])).bytes.isEmpty = false := by
    rw [List.isEmpty_eq_false_iff]
    exact Path.bytes_under_ne_nil (List.cons_ne_nil _ _) hparts
  rw [resolveName, Location.path_eq_under, locate_eq, hne, hstart, hasDirectory_root,
    Path.segments_under _ hparts, Path.segments_root, List.nil_append,
    chase_append _ _ _ _ _ _ (List.cons_ne_nil _ _)]
  cases isPassable (Path.root.under (ns ++ [n]))
  · simp
  · simp only [Bool.false_eq_true, Bool.not_true, if_false]
    rcases henter : d.enter linkLimit [] ns with e | ⟨left, k⟩
    · rw [henter] at habove
      simpa using habove
    · dsimp only
      rw [chase_singleton]
      rcases d.turn k n with e | m | target
      · cases e
        all_goals simp
      · simp
      · simp

/-- What is below the directory under a name. -/
theorem Confined.place (hconfined : Confined d top ns)
    (h : d.place? (Location.path (ns ++ [n])) false = .ok m) :
    IsBelow top m ∧ ∃ left l, d.enter linkLimit [] ns = .ok (left, l) ∧ m = l ++ [n] := by
  rw [place?_eq_ok_iff_resolve, resolve_path hns hn.isPart] at h
  obtain ⟨left, l, henter, hinside, rfl⟩ := hconfined.found_path hns hn h
  exact ⟨isBelow_concat hinside n, left, l, henter, rfl⟩

/-- The name does not mean a link. -/
def MeansNoLink (d : Disk) (ns : List Name) (n : Name) : Prop :=
  ∀ left l, d.enter linkLimit [] ns = .ok (left, l) →
    ∀ target, d.at? (l ++ [n]) ≠ some (.link target)

omit hns hn in
/-- Where the names above lead they still lead when something was added. -/
theorem confined_of_enter (hd : d.WellFormed) (h : d.Extends d') {left : Nat}
    (henter : d.enter linkLimit [] ns = .ok (left, l)) (hinside : top <+: l) :
    Confined d' top ns ∧
      ((∀ target, d'.at? (l ++ [n]) ≠ some (.link target)) → MeansNoLink d' ns n) := by
  have henter' := h.enter hd (hasDirectory_root d) henter
  constructor
  · intro left' l' h'
    cases henter'.symm.trans h'
    exact hinside
  · intro hlink left' l' h'
    cases henter'.symm.trans h'
    exact hlink

/-- It leads to the same whether links are followed or not. -/
theorem MeansNoLink.place? (hlink : MeansNoLink d ns n)
    (h : d.place? (Location.path (ns ++ [n])) = .ok m) :
    d.place? (Location.path (ns ++ [n])) false = .ok m := by
  have hparts := isPart_concat hns hn.isPart
  rw [place?_eq_ok_iff_resolve, resolve_path hns hn.isPart, locate_path_eq_ok_iff hparts] at h ⊢
  refine ⟨h.1, ?_⟩
  have hchase := h.2
  rw [chase_append _ _ _ _ _ _ (List.cons_ne_nil _ _)] at hchase ⊢
  rcases henter : d.enter linkLimit [] ns with e | ⟨left, l⟩
  · rw [henter] at hchase
    cases hchase
  · rw [henter] at hchase
    dsimp only at hchase ⊢
    rw [chase_singleton] at hchase ⊢
    rcases hturn : d.turn l n with e | k | target
    · rw [hturn] at hchase
      cases e
      all_goals exact hchase
    · rw [hturn] at hchase
      exact hchase
    · exact absurd (at?_of_turn.2.2 target hturn).2 (hlink left l henter target)

/-- A mode can be given to what is no link. -/
theorem Inside.setMode (h : Inside b top d) (hconfined : Confined d top ns)
    (hlink : MeansNoLink d ns n) (mode : Option Nat) :
    Inside b top ((setMode (Location.path (ns ++ [n])) mode).run.run d).2 := by
  rcases mode with _ | mode
  · exact h
  have hwell := WellFormed.keeps_setRights (Location.path (ns ++ [n])) (Archive.rightsOf mode) d
    h.wellFormed
  change Inside b top ((Disk.setRights (Location.path (ns ++ [n])) (Archive.rightsOf mode)).run.run d).2
  rw [run_setRights] at hwell ⊢
  rcases hplace : d.place? (Location.path (ns ++ [n])) with e | m
  · exact h
  have hnolink : d.place? (Location.path (ns ++ [n])) false = .ok m :=
    hlink.place? hns hn hplace
  obtain ⟨hbelow, -⟩ := hconfined.place hns hn hnolink
  rw [hplace] at hwell
  dsimp only at hwell ⊢
  rcases hat : d.at? m with _ | rights | key | target
  · rw [hat] at hwell
    exact h.put hbelow hwell (by simp)
  · rw [hat] at hwell
    exact h.put hbelow hwell (by simp)
  · rw [hat] at hwell
    exact h.setRights (h.isNew m key hbelow.1 hat) _ hwell
  · rw [hat] at hwell
    exact h.put hbelow hwell (by simp)

/-- What gives way to a member lay below the directory. -/
theorem Inside.run_replacing (h : Inside b top d) (hconfined : Confined d top ns)
    {make : Disk.Action Unit} (hmake : ∀ d e d', make.run.run d = (.error e, d') → d' = d) :
    ∃ d', Inside b top d' ∧ Confined d' top ns ∧
      ((replacing (Location.path (ns ++ [n])) make).run.run d = make.run.run d' ∨
        ∃ e, (replacing (Location.path (ns ++ [n])) make).run.run d = (.error e, d')) := by
  by_cases hexists : ∃ d', make.run.run d = (.error .alreadyExists, d')
  · obtain ⟨d', hagain⟩ := hexists
    cases hmake _ _ _ hagain
    rw [Archive.run_replacing, hagain]
    dsimp only
    rw [run_bind]
    rcases run_removeFile_cases (Location.path (ns ++ [n])) d with ⟨e, hremove⟩ | ⟨m, hplace, -, hremove⟩
    · rw [hremove]
      exact ⟨d, h, hconfined, .inr ⟨e, rfl⟩⟩
    · obtain ⟨hbelow, -⟩ := hconfined.place hns hn hplace
      have hwithout := h.cut hbelow
      rw [hremove]
      exact ⟨d.cut m, hwithout, hconfined.of_extends hwithout.wellFormed (.of_cut d m), .inl rfl⟩
  · refine ⟨d, h, hconfined, .inl ?_⟩
    rw [Archive.run_replacing]
    split
    · rename_i d' hagain
      exact absurd ⟨d', hagain⟩ hexists
    · rfl

/-- A file in the place of what is there. -/
theorem Inside.run_placeFile (h : Inside b top d) (hconfined : Confined d top ns) (content : Content)
    (mode : Option Nat) :
    Inside b top ((Archive.place top (Location.path (ns ++ [n])) (.file content mode)).run.run d).2 := by
  have hmake : ∀ (d : Disk) e d', (Disk.writeNew (Location.path (ns ++ [n])) content).run.run d =
      (.error e, d') → d' = d := by
    intro d e d' hrun
    rcases run_writeNew_cases (Location.path (ns ++ [n])) content d with ⟨e', h⟩ | ⟨l, m, -, h⟩
    · cases h.symm.trans hrun
      rfl
    · cases h.symm.trans hrun
  obtain ⟨d₁, h₁, hconfined₁, hrun⟩ := h.run_replacing hns hn hconfined hmake
  rw [Archive.place, run_bind]
  rcases hrun with hrun | ⟨e, hrun⟩
  · rw [hrun]
    rcases run_writeNew_cases (Location.path (ns ++ [n])) content d₁ with
      ⟨e, hwrite⟩ | ⟨l, name, hfound, hwrite⟩
    · rw [hwrite]
      exact h₁
    · rw [resolve_path hns hn.isPart] at hfound
      obtain ⟨rfl, hinside, hfree, left, henter⟩ := hconfined₁.vacant hns hn h₁.wellFormed hfound
      obtain ⟨hconfined₂, hlink⟩ := confined_of_enter (n := name) h₁.wellFormed
        (within_addFile hfree.at?_eq_none content).isExtended henter hinside
      rw [hwrite]
      refine (h₁.addFile hinside hfree content).setMode hns hn hconfined₂ (hlink fun target => ?_) mode
      rw [at?_addFile, if_pos ⟨rfl, concat_ne_nil _ _⟩]
      simp
  · rw [hrun]
    exact h₁

/-- A directory, unless there is one. -/
theorem Inside.run_placeDirectory (h : Inside b top d) (hconfined : Confined d top ns)
    (late : Bool) (mode : Option Nat) :
    Inside b top
      ((Archive.place top (Location.path (ns ++ [n])) (.directory late mode)).run.run d).2 := by
  rw [Archive.place, run_bind, makeDirectory_run]
  rcases run_makeDirectory_cases (Location.path (ns ++ [n])) d with
    ⟨e, hmake⟩ | ⟨l, name, hfound, hmake⟩
  · rw [hmake]
    cases e
    case alreadyExists =>
      cases hdir : (d.ownStatus? (Location.path (ns ++ [n]))).any isDirectoryEntry
      · simp only [hdir, Bool.false_eq_true, if_false]
        exact h
      · -- A link to a directory would not have been taken for one.
        simp only [hdir, if_true]
        refine h.setMode hns hn hconfined (fun left l henter target hat => ?_) mode
        rw [ownStatus?] at hdir
        rcases hplace : d.place? (Location.path (ns ++ [n])) false with e | m
        · rw [hplace] at hdir
          cases hdir
        · obtain ⟨-, left', l', henter', rfl⟩ := hconfined.place hns hn hplace
          cases henter.symm.trans henter'
          rw [hplace, Except.toOption, Option.bind_some, hat] at hdir
          cases hdir
    all_goals exact h
  · rw [hmake]
    obtain ⟨rfl, hinside, hfree, left, henter⟩ := hconfined.vacant hns hn h.wellFormed hfound
    obtain ⟨hconfined', hlink⟩ := confined_of_enter (n := name) h.wellFormed
      (within_put hfree.at?_eq_none (.directory {})).isExtended henter hinside
    have hmade : (d.put (l ++ [name]) (.directory {})).WellFormed :=
      h.wellFormed.putNew hfree (by simp)
    have hput := h.put (isBelow_concat hinside name) hmade (by simp)
    refine hput.setMode hns hn hconfined' (hlink fun target => ?_) mode
    rw [at?_put, if_pos ⟨rfl, concat_ne_nil _ _⟩]
    simp

/-- A link in the place of what is there. -/
theorem Inside.run_placeLink (h : Inside b top d) (hconfined : Confined d top ns) (target : Path) :
    Inside b top ((Archive.place top (Location.path (ns ++ [n])) (.link target)).run.run d).2 := by
  have hmake : ∀ (d : Disk) e d', (Disk.makeLink target (Location.path (ns ++ [n]))).run.run d =
      (.error e, d') → d' = d := by
    intro d e d' hrun
    rcases run_makeLink_cases target (Location.path (ns ++ [n])) d with ⟨e', h⟩ | ⟨l, m, -, h⟩
    · cases h.symm.trans hrun
      rfl
    · cases h.symm.trans hrun
  obtain ⟨d₁, h₁, hconfined₁, hrun⟩ := h.run_replacing hns hn hconfined hmake
  rw [Archive.place]
  rcases hrun with hrun | ⟨e, hrun⟩
  · rw [hrun]
    rcases run_makeLink_cases target (Location.path (ns ++ [n])) d₁ with
      ⟨e, hmade⟩ | ⟨l, name, hfound, hmade⟩
    · rw [hmade]
      exact h₁
    · obtain ⟨rfl, hinside, hfree, -⟩ := hconfined₁.vacant hns hn h₁.wellFormed hfound
      rw [hmade]
      exact h₁.put (isBelow_concat hinside name)
        (h₁.wellFormed.putNew hfree (by simp)) (by simp)
  · rw [hrun]
    exact h₁

/-- One more name for another member, which is in the directory as well. -/
theorem Inside.run_placeSameAs (h : Inside b top d) (hconfined : Confined d top ns) (target : Path) :
    Inside b top ((Archive.place top (Location.path (ns ++ [n])) (.sameAs target)).run.run d).2 := by
  rw [Archive.place]
  split
  · exact h
  · dsimp only
    rw [run_bind]
    rcases run_requireInside_cases d top ((Location.path top).join target) with
      ⟨k, hplace, hk, hrun⟩ | ⟨e, hrun⟩
    · rw [hrun]
      dsimp only
      rcases run_makeHardLink_cases ((Location.path top).join target) (Location.path (ns ++ [n])) d
        with ⟨e, hmade⟩ | ⟨m, entry, l, name, hsource, hat, hfound, hmade⟩
      · rw [hmade]
        exact h
      · obtain ⟨rfl, hinside, hfree, -⟩ := hconfined.vacant hns hn h.wellFormed hfound
        rw [hmade]
        refine h.put (isBelow_concat hinside name) (h.wellFormed.putNew hfree fun key hkey => ?_)
          fun key hkey => ?_
        · rw [hkey] at hat
          exact h.wellFormed.key_lt hat
        · rw [hkey] at hat
          have hsame := place?_of_not_link hsource fun target => by simp [hat]
          cases hplace.symm.trans hsame
          exact h.isNew _ key hk hat
    · rw [hrun]
      exact h

theorem Inside.run_place (h : Inside b top d) (hconfined : Confined d top ns) (kind : Kind) :
    Inside b top ((Archive.place top (Location.path (ns ++ [n])) kind).run.run d).2 := by
  cases kind with
  | file content mode => exact h.run_placeFile hns hn hconfined content mode
  | directory late mode => exact h.run_placeDirectory hns hn hconfined late mode
  | link target => exact h.run_placeLink hns hn hconfined target
  | sameAs target => exact h.run_placeSameAs hns hn hconfined target
  | remark => exact h

end Member

/-! ## All members -/

/-- A tree in which the directory lies, under a name that a path can give to it. -/
theorem inside_self (hb : b.WellFormed) (hnew : ∀ m key, top <+: m → b.at? m ≠ some (.file key)) :
    Inside b top b where
  wellFormed := hb
  workingDirectory := rfl
  outside := fun _ _ => rfl
  nextKey_le := Nat.le_refl _
  isNew := fun m key hm hat => absurd hat (hnew m key hm)
  contentOf := fun _ _ => rfl
  rightsOf := fun _ _ => rfl

section Unpack

variable (htop : ∀ n ∈ top, IsEntryName n)
include htop

theorem isPart_below {names : List Name} (hnames : ∀ n ∈ names, IsProper n) :
    ∀ n ∈ top ++ names, Name.IsPart n := by
  intro n hn
  rcases List.mem_append.1 hn with hn | hn
  · exact (htop n hn).isPart
  · exact (hnames n hn).isPart

/-- A directory below the directory, unless there is one. -/
theorem Inside.ensureDirectories (h : Inside b top d) {made : List Name}
    (hmade : ∀ n ∈ made, IsProper n) (hn : IsProper n) :
    Inside b top ((do
      requireInside top (Location.path (top ++ made))
      Disk.ensureDirectories (Location.path (top ++ made ++ [n])) :
        Disk.Action Unit).run.run d).2 := by
  have hns := isPart_below htop hmade
  rw [run_bind]
  rcases run_requireInside_cases d top (Location.path (top ++ made)) with
    ⟨k, hplace, hk, hrun⟩ | ⟨e, hrun⟩
  · have hconfined := confined_of_place? hns hplace hk
    rw [hrun]
    dsimp only
    have hne : (Location.path (top ++ made ++ [n])).bytes.isEmpty = false := by
      rw [List.isEmpty_eq_false_iff, Location.path_eq_under]
      exact Path.bytes_under_ne_nil (List.cons_ne_nil _ _) (isPart_concat hns hn.isPart)
    rw [Disk.ensureDirectories, hne]
    simp only [Bool.false_eq_true, if_false]
    rw [run_ensureDirectory_of_ne (resolveName_ne_notFound hns hn hplace), run_makeOrFind]
    rcases run_makeDirectory_cases (Location.path (top ++ made ++ [n])) d with
      ⟨e, hmake⟩ | ⟨l, name, hfound, hmake⟩
    · rw [hmake]
      exact h
    · obtain ⟨rfl, hinside, hfree, -⟩ := hconfined.vacant hns hn h.wellFormed hfound
      rw [hmake]
      exact h.put (isBelow_concat hinside name)
        (h.wellFormed.putNew hfree (by simp)) (by simp)
  · rw [hrun]
    exact h

theorem keeps_makeParents {made rest : List Name} (hmade : ∀ n ∈ made, IsProper n)
    (hrest : ∀ n ∈ rest, IsProper n) : Keeps (Inside b top) (makeParents top made rest) := by
  induction rest generalizing made with
  | nil => exact .pure ()
  | cons n rest ih =>
    rw [List.forall_mem_cons] at hrest
    have hnext : ∀ m ∈ made ++ [n], IsProper m := by
      intro m hm
      rcases List.mem_append.1 hm with hm | hm
      · exact hmade m hm
      · rw [List.mem_singleton.1 hm]
        exact hrest.1
    rw [makeParents]
    refine .bind .get fun now => ?_
    split
    · rw [← bind_assoc]
      exact .bind (fun d h => h.ensureDirectories htop hmade hrest.1) fun _ => ih hnext hrest.2
    · exact ih hnext hrest.2

theorem keeps_unpackMember (member : Member) : Keeps (Inside b top) (unpackMember top member) := by
  rw [unpackMember]
  split
  · exact .pure ()
  · exact .pure ()
  · rename_i names hne hnames
    have hproper := isProper_of_namesOf hnames
    have hparents : ∀ n ∈ names.dropLast, IsProper n := fun n hn =>
      hproper n (List.dropLast_subset _ hn)
    refine .bind (keeps_makeParents htop (by simp) hparents) fun _ d h => ?_
    rw [run_bind]
    rcases run_requireInside_cases d top (Location.path (top ++ names.dropLast)) with
      ⟨k, hplace, hk, hrun⟩ | ⟨e, hrun⟩
    · rcases List.eq_nil_or_concat names with hnil | ⟨parents, n, hnames'⟩
      · exact absurd hnil hne
      · rw [List.concat_eq_append] at hnames'
        subst hnames'
        rw [List.dropLast_concat] at hplace hparents hrun ⊢
        have hns := isPart_below htop hparents
        rw [hrun, ← List.append_assoc]
        exact h.run_place hns (hproper n (by simp)) (confined_of_place? hns hplace hk) member.kind
    · rw [hrun]
      exact h

/-- However far it gets, unpacking changes nothing but what lies below the directory. -/
theorem keeps_unpack (members : List Member) : Keeps (Inside b top) (unpack top members) := by
  rw [unpack]
  induction inOrder members with
  | nil => exact .pure ()
  | cons member rest ih => exact .bind (keeps_unpackMember htop member) fun _ => ih

end Unpack

end Codemod.Archive
