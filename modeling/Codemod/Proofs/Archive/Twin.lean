import Codemod.Proofs.Archive.Inside
import Codemod.Proofs.Disk.Slot

set_option autoImplicit false

/-! # Unpacking twice

Files that are unpacked into two directories, in one tree and in another one, come to lie there in
the same way (`agree_unpack`). The numbers by which they are known need not be the same. -/

namespace Codemod.Archive

open Disk

variable {d d' : Disk} {top top' : Location} {first first' : Nat} {ns : List Name} {n : Name}

/-! ## Directories that look alike -/

/-- The same thing is at two places; files are counted from the first one of each tree. -/
inductive SameEntry (first first' : Nat) : Option Entry → Option Entry → Prop
  | none : SameEntry first first' none none
  | directory : SameEntry first first' (some (.directory {})) (some (.directory {}))
  | file (i : Nat) : SameEntry first first' (some (.file (first + i))) (some (.file (first' + i)))

/-- Two directories with the same in them: directories that may be used in every way, and files. -/
structure Twin (top top' : Location) (first first' : Nat) (d d' : Disk) : Prop where
  wellFormed : d.WellFormed
  wellFormed' : d'.WellFormed
  room : IsRoom d top
  room' : IsRoom d' top'
  nextKey : ∃ count, d.nextKey = first + count ∧ d'.nextKey = first' + count
  at? : ∀ ns, SameEntry first first' (d.at? (top ++ ns)) (d'.at? (top' ++ ns))
  contentOf : ∀ i, first + i < d.nextKey → d'.contentOf (first' + i) = d.contentOf (first + i)
  rightsOf : ∀ i, first + i < d.nextKey → d'.rightsOf (first' + i) = d.rightsOf (first + i)

/-- A file is under the same names in the other directory, as the same one counted from the first.
-/
theorem Twin.exists_file {key : Nat} (h : Twin top top' first first' d d')
    (hkey : d.at? (top ++ ns) = some (.file key)) :
    ∃ i, key = first + i ∧ d'.at? (top' ++ ns) = some (.file (first' + i)) ∧
      d'.contentOf (first' + i) = d.contentOf key ∧ d'.rightsOf (first' + i) = d.rightsOf key := by
  have hsame := h.at? ns
  have hlt := h.wellFormed.key_lt hkey
  rw [hkey] at hsame
  generalize d'.at? (top' ++ ns) = entry' at hsame
  cases hsame with
  | file i => exact ⟨i, rfl, rfl, h.contentOf i hlt, h.rightsOf i hlt⟩

/-- The same was found in two directories, by the same names. -/
inductive SameFound (top top' : Location) (ns : List Name) :
    Except PathError Found → Except PathError Found → Prop
  | error (e : PathError) : SameFound top top' ns (.error e) (.error e)
  | entry : SameFound top top' ns (.ok (.entry (top ++ ns))) (.ok (.entry (top' ++ ns)))
  | vacant (init : List Name) (n : Name) (h : ns = init ++ [n]) :
    SameFound top top' ns (.ok (.vacant (top ++ init) n)) (.ok (.vacant (top' ++ init) n))

namespace Twin

theorem directory (h : Twin top top' first first' d d') (hdir : d.hasDirectory (top ++ ns) = true) :
    d.at? (top ++ ns) = some (.directory {}) ∧ d'.at? (top' ++ ns) = some (.directory {}) := by
  have hsame := h.at? ns
  rw [Disk.hasDirectory] at hdir
  generalize d.at? (top ++ ns) = entry at hsame hdir ⊢
  generalize d'.at? (top' ++ ns) = entry' at hsame ⊢
  cases hsame with
  | none => cases hdir
  | directory => exact ⟨rfl, rfl⟩
  | file i => cases hdir

/-- Names lead to the same in both directories: there are no links. -/
theorem chase (h : Twin top top' first first' d d') (follow slash : Bool) (links : Nat)
    (init : List Name) (hns : ∀ n ∈ ns, IsProper n) (hinit : d.hasDirectory (top ++ init) = true) :
    SameFound top top' (init ++ ns) (d.chase follow links slash (top ++ init) ns)
      (d'.chase follow links slash (top' ++ init) ns) := by
  induction ns generalizing init with
  | nil =>
    rw [chase_nil, chase_nil, List.append_nil]
    exact .entry
  | cons n ns ih =>
    rw [List.forall_mem_cons] at hns
    obtain ⟨hdir, hdir'⟩ := h.directory hinit
    have hsearch : (d.rightsAt (top ++ init)).searchable = true := by rw [rightsAt, hdir]
    have hsearch' : (d'.rightsAt (top' ++ init)).searchable = true := by rw [rightsAt, hdir']
    by_cases hlength : n.length ≤ nameLimit
    · have hn : IsOrdinary n := ⟨hns.1.ne_here, hns.1.ne_above, hlength⟩
      have hturn := turn_of_isOrdinary hsearch hn
      have hturn' := turn_of_isOrdinary hsearch' hn
      have hsame := h.at? (init ++ [n])
      have hnext := ih (init ++ [n]) hns.2
      rw [← List.append_assoc, ← List.append_assoc] at hsame
      rw [← List.append_assoc, ← List.append_assoc, List.append_assoc init,
        List.singleton_append] at hnext
      rw [Disk.hasDirectory] at hnext
      generalize d.at? (top ++ init ++ [n]) = entry at hturn hsame hnext
      generalize d'.at? (top' ++ init ++ [n]) = entry' at hturn' hsame
      cases hsame with
      | none =>
        rcases ns with _ | ⟨m, ns⟩
        · rw [chase_singleton, chase_singleton, hturn, hturn']
          exact .vacant init n rfl
        · rw [chase_cons _ _ _ _ _ _ (List.cons_ne_nil _ _),
            chase_cons _ _ _ _ _ _ (List.cons_ne_nil _ _), hturn, hturn']
          exact .error _
      | directory =>
        rw [chase_of_place hturn, chase_of_place hturn']
        exact hnext rfl
      | file i =>
        rcases ns with _ | ⟨m, ns⟩
        · rw [chase_singleton, chase_singleton, hturn, hturn']
          cases slash
          · have hentry := @SameFound.entry top top' (init ++ [n])
            rw [← List.append_assoc, ← List.append_assoc] at hentry
            exact hentry
          · exact .error _
        · rw [chase_cons _ _ _ _ _ _ (List.cons_ne_nil _ _),
            chase_cons _ _ _ _ _ _ (List.cons_ne_nil _ _), hturn, hturn']
          exact .error _
    · have hlong : ∀ {d : Disk} {l : Location}, (d.rightsAt l).searchable = true →
          d.turn l n = .error .notPossible := by
        intro d l hsearch
        rw [turn, if_neg (by simp [hsearch]), if_neg hns.1.ne_here, if_neg hns.1.ne_above,
          if_pos (Nat.lt_of_not_le hlength)]
      rcases ns with _ | ⟨m, ns⟩
      · rw [chase_singleton, chase_singleton, hlong hsearch, hlong hsearch']
        exact .error _
      · rw [chase_cons _ _ _ _ _ _ (List.cons_ne_nil _ _),
          chase_cons _ _ _ _ _ _ (List.cons_ne_nil _ _), hlong hsearch, hlong hsearch']
        exact .error _

end Twin

/-! ## Paths into both directories -/

/-- The paths of the same names below two places can be handed to the system alike. -/
def PassAlike (top top' : Location) : Prop :=
  ∀ ns, (∀ n ∈ ns, Name.IsPart n) →
    isPassable (Location.path (top' ++ ns)) = isPassable (Location.path (top ++ ns))

/-- Places with paths of one length are alike in this. -/
theorem passAlike_of_length (htop : ∀ n ∈ top, Name.IsPart n) (htop' : ∀ n ∈ top', Name.IsPart n)
    (hne : top ≠ []) (hne' : top' ≠ []) (hpass : isPassable top.path = true)
    (hpass' : isPassable top'.path = true)
    (hlength : top'.path.bytes.length = top.path.bytes.length) :
    PassAlike top top' := by
  intro ns hns
  have hbytes : ∀ top : Location, (∀ n ∈ top, Name.IsPart n) → top ≠ [] →
      (Location.path (top ++ ns)).bytes = top.path.bytes ++ ns.flatMap (Path.separator :: ·) := by
    intro top htop hne
    have hboth : ∀ n ∈ top ++ ns, Name.IsPart n := by
      intro n hn
      rcases List.mem_append.1 hn with hn | hn
      · exact htop n hn
      · exact hns n hn
    rw [Location.path_eq_under, Location.path_eq_under,
      Path.bytes_under_root hboth (List.append_ne_nil_of_left_ne_nil hne _),
      Path.bytes_under_root htop hne, List.flatMap_append]
  have hzero : ∀ p : Path, isPassable p = true → (0 : UInt8) ∉ p.bytes := by
    intro p hp
    rw [isPassable, Bool.and_eq_true, Bool.not_eq_true', List.contains_eq_mem,
      decide_eq_false_iff_not] at hp
    exact hp.1
  rw [isPassable, isPassable, hbytes top htop hne, hbytes top' htop' hne', List.length_append,
    List.length_append, hlength]
  congr 2
  simp [hzero _ hpass, hzero _ hpass']

theorem locate_path {follow slash : Bool} (hns : ∀ n ∈ ns, Name.IsPart n) :
    d.locate (Location.path ns) follow slash =
      if isPassable (Location.path ns) then d.chase follow linkLimit slash [] ns
      else .error .notPossible := by
  rw [Location.path_eq_under]
  have hne : (Path.root.under ns).bytes.isEmpty = false := by
    rw [List.isEmpty_eq_false_iff]
    exact Path.bytes_under_ne_nil (List.cons_ne_nil _ _) hns
  have hstart : d.startOf (Path.root.under ns) = [] := if_pos (Path.isAbsolute_under rfl hns)
  rw [locate_eq, hne, hstart, hasDirectory_root, Path.segments_under _ hns, Path.segments_root,
    List.nil_append]
  cases isPassable (Path.root.under ns)
  · rfl
  · rfl

namespace Twin

section Paths

variable (h : Twin top top' first first' d d') (hpass : PassAlike top top')
  (hns : ∀ n ∈ ns, IsProper n)
include h hpass hns

omit hpass in
theorem isPart_append :
    (∀ n ∈ top ++ ns, Name.IsPart n) ∧ ∀ n ∈ top' ++ ns, Name.IsPart n := by
  constructor
  · intro n hn
    rcases List.mem_append.1 hn with hn | hn
    · exact (h.room.isEntryName n hn).isPart
    · exact (hns n hn).isPart
  · intro n hn
    rcases List.mem_append.1 hn with hn | hn
    · exact (h.room'.isEntryName n hn).isPart
    · exact (hns n hn).isPart

theorem locate (hne : ns ≠ []) (follow slash : Bool) :
    SameFound top top' ns (d.locate (Location.path (top ++ ns)) follow slash)
      (d'.locate (Location.path (top' ++ ns)) follow slash) := by
  obtain ⟨hparts, hparts'⟩ := h.isPart_append hns
  rw [locate_path hparts, locate_path hparts', hpass ns fun n hn => (hns n hn).isPart]
  split
  · rw [chase_append _ _ _ _ _ _ hne, chase_append _ _ _ _ _ _ hne,
      enter_of_leveled linkLimit h.room.isWay h.room.leveled,
      enter_of_leveled linkLimit h.room'.isWay h.room'.leveled, h.room.lexical_eq,
      h.room'.lexical_eq]
    have hdir := h.room.leveled.hasDirectory
    rw [h.room.lexical_eq] at hdir
    have hchase := h.chase follow slash linkLimit [] hns (by rw [List.append_nil]; exact hdir)
    rw [List.append_nil, List.append_nil, List.nil_append] at hchase
    exact hchase
  · exact .error _

theorem resolve (hne : ns ≠ []) (follow : Bool) :
    SameFound top top' ns (d.resolve (Location.path (top ++ ns)) follow)
      (d'.resolve (Location.path (top' ++ ns)) follow) := by
  obtain ⟨hparts, hparts'⟩ := h.isPart_append hns
  have hends : ∀ top : Location, (∀ n ∈ top ++ ns, Name.IsPart n) →
      (Location.path (top ++ ns)).endsInSeparator = false := by
    intro top hparts
    rw [Location.path_eq_under]
    exact Path.endsInSeparator_under _ hparts (List.append_ne_nil_of_right_ne_nil _ hne)
  rw [Disk.resolve, Disk.resolve, hends top hparts, hends top' hparts']
  exact h.locate hpass hns hne follow false

/-- The same names lead to something in both directories, or to nothing. -/
theorem place?_cases (follow : Bool) (hfollow : follow = true ∨ ns ≠ []) :
    (∃ e, d.place? (Location.path (top ++ ns)) follow = .error e ∧
        d'.place? (Location.path (top' ++ ns)) follow = .error e) ∨
      d.place? (Location.path (top ++ ns)) follow = .ok (top ++ ns) ∧
        d'.place? (Location.path (top' ++ ns)) follow = .ok (top' ++ ns) := by
  by_cases hne : ns = []
  · subst hne
    rw [hfollow.resolve_right (absurd rfl), List.append_nil, List.append_nil]
    exact .inr ⟨h.room.place?_top, h.room'.place?_top⟩
  · have hsame := h.resolve hpass hns hne follow
    rw [Disk.place?, Disk.place?]
    generalize d.resolve (Location.path (top ++ ns)) follow = found at hsame ⊢
    generalize d'.resolve (Location.path (top' ++ ns)) follow = found' at hsame ⊢
    cases hsame with
    | error e => exact .inl ⟨e, rfl, rfl⟩
    | entry => exact .inr ⟨rfl, rfl⟩
    | vacant init n => exact .inl ⟨_, rfl, rfl⟩

end Paths

/-! ## What comes and goes in both directories -/

section Change

variable (h : Twin top top' first first' d d')
include h

/-- A directory comes under the same names. -/
theorem putDirectory (hfree : d.IsFree (top ++ ns) n) (hfree' : d'.IsFree (top' ++ ns) n) :
    Twin top top' first first' (d.put (top ++ ns ++ [n]) (.directory {}))
      (d'.put (top' ++ ns ++ [n]) (.directory {})) where
  wellFormed := h.wellFormed.putNew hfree (by simp)
  wellFormed' := h.wellFormed'.putNew hfree' (by simp)
  room := h.room.of_extends (within_put hfree.at?_eq_none _).isExtended
  room' := h.room'.of_extends (within_put hfree'.at?_eq_none _).isExtended
  nextKey := h.nextKey
  at? := by
    intro ms
    rw [at?_put, at?_put, List.append_assoc, List.append_assoc]
    by_cases hms : ms = ns ++ [n]
    · rw [hms, if_pos ⟨rfl, by simp⟩, if_pos ⟨rfl, by simp⟩]
      exact .directory
    · rw [if_neg fun heq => hms (List.append_cancel_left heq.1),
        if_neg fun heq => hms (List.append_cancel_left heq.1)]
      exact h.at? ms
  contentOf := h.contentOf
  rightsOf := h.rightsOf

/-- A new file comes under the same names. -/
theorem addFile (hfree : d.IsFree (top ++ ns) n) (hfree' : d'.IsFree (top' ++ ns) n)
    (content : Content) :
    Twin top top' first first' (d.addFile (top ++ ns ++ [n]) content)
      (d'.addFile (top' ++ ns ++ [n]) content) := by
  obtain ⟨count, hcount, hcount'⟩ := h.nextKey
  exact {
    wellFormed := h.wellFormed.addFile hfree content
    wellFormed' := h.wellFormed'.addFile hfree' content
    room := h.room.of_extends (within_addFile hfree.at?_eq_none content).isExtended
    room' := h.room'.of_extends (within_addFile hfree'.at?_eq_none content).isExtended
    nextKey := ⟨count + 1, congrArg (· + 1) hcount, congrArg (· + 1) hcount'⟩
    at? := by
      intro ms
      rw [at?_addFile, at?_addFile, List.append_assoc, List.append_assoc]
      by_cases hms : ms = ns ++ [n]
      · rw [hms, if_pos ⟨rfl, by simp⟩, if_pos ⟨rfl, by simp⟩, hcount, hcount']
        exact .file count
      · rw [if_neg fun heq => hms (List.append_cancel_left heq.1),
          if_neg fun heq => hms (List.append_cancel_left heq.1)]
        exact h.at? ms
    contentOf := by
      intro i hi
      have hi : first + i < d.nextKey + 1 := hi
      rw [contentOf_addFile, contentOf_addFile]
      by_cases hlast : i = count
      · rw [if_pos (by omega), if_pos (by omega)]
      · rw [if_neg (by omega), if_neg (by omega)]
        exact h.contentOf i (by omega)
    rightsOf := by
      intro i hi
      have hi : first + i < d.nextKey + 1 := hi
      by_cases hlast : i = count
      · have hnew := h.wellFormed.rightsOf_of_le (Nat.le_refl _)
        have hnew' := h.wellFormed'.rightsOf_of_le (Nat.le_refl _)
        rw [hcount, ← hlast] at hnew
        rw [hcount', ← hlast] at hnew'
        exact hnew'.trans hnew.symm
      · exact h.rightsOf i (by omega) }

theorem file_iff :
    (∃ key, d.at? (top ++ ns) = some (.file key)) ↔
      ∃ key, d'.at? (top' ++ ns) = some (.file key) := by
  have hsame := h.at? ns
  generalize d.at? (top ++ ns) = entry at hsame
  generalize d'.at? (top' ++ ns) = entry' at hsame
  cases hsame with
  | none => simp
  | directory => simp
  | file i => simp

/-- A file goes under the same names. -/
theorem cutFile {key : Nat} (hkey : d.at? (top ++ ns) = some (.file key)) :
    Twin top top' first first' (d.cut (top ++ ns)) (d'.cut (top' ++ ns)) := by
  obtain ⟨key', hkey'⟩ := h.file_iff.1 ⟨key, hkey⟩
  have hne : ∀ {d : Disk} {l : Location} {key : Nat} {ms : List Name},
      d.at? (l ++ ns) = some (.file key) → l ++ ns <+: l ++ ms → l ++ ms ≠ [] := by
    intro d l key ms hat hle hnil
    rw [hnil, List.prefix_nil] at hle
    rw [hle] at hat
    cases hat
  exact {
    wellFormed := h.wellFormed.cut _
    wellFormed' := h.wellFormed'.cut _
    room := h.room.of_extends (extends_cut_of_file h.wellFormed hkey)
    room' := h.room'.of_extends (extends_cut_of_file h.wellFormed' hkey')
    nextKey := h.nextKey
    at? := by
      intro ms
      rw [at?_cut, at?_cut]
      by_cases hms : ns <+: ms
      · have hpre := (List.prefix_append_right_inj top).2 hms
        have hpre' := (List.prefix_append_right_inj top').2 hms
        rw [if_pos ⟨hne hkey hpre, hpre⟩, if_pos ⟨hne hkey' hpre', hpre'⟩]
        exact .none
      · rw [if_neg fun hcut => hms ((List.prefix_append_right_inj top).1 hcut.2),
          if_neg fun hcut => hms ((List.prefix_append_right_inj top').1 hcut.2)]
        exact h.at? ms
    contentOf := h.contentOf
    rightsOf := h.rightsOf }

/-- Other rights for a file under the same names. -/
theorem setRights (i : Nat) (rights : Rights)
    (hwell : ({ d with fileRights := (first + i, rights) ::
      d.fileRights.filter fun r => r.1 != first + i } : Disk).WellFormed)
    (hwell' : ({ d' with fileRights := (first' + i, rights) ::
      d'.fileRights.filter fun r => r.1 != first' + i } : Disk).WellFormed) :
    Twin top top' first first'
      { d with fileRights := (first + i, rights) :: d.fileRights.filter fun r => r.1 != first + i }
      { d' with fileRights := (first' + i, rights) ::
        d'.fileRights.filter fun r => r.1 != first' + i } where
  wellFormed := hwell
  wellFormed' := hwell'
  room := h.room.of_extends (.of_at?_eq rfl fun _ => rfl)
  room' := h.room'.of_extends (.of_at?_eq rfl fun _ => rfl)
  nextKey := h.nextKey
  at? := h.at?
  contentOf := h.contentOf
  rightsOf := by
    intro j hj
    by_cases heq : j = i
    · rw [heq, rightsOf_self, rightsOf_self]
    · rw [rightsOf_of_ne d rights (by omega), rightsOf_of_ne d' rights (by omega)]
      exact h.rightsOf j hj

end Change

/-! ## What is done in both directories -/

section Action

variable (hpass : PassAlike top top') (hns : ∀ n ∈ ns, IsProper n) (hn : IsProper n)
include hpass hns

theorem agree_requireInside : Agree (Twin top top' first first')
    (requireInside top (Location.path (top ++ ns)))
    (requireInside top' (Location.path (top' ++ ns))) := by
  intro d d' h
  rcases h.place?_cases hpass hns true (.inl rfl) with ⟨e, he, he'⟩ | ⟨hok, hok'⟩
  · rw [requireInside, requireInside, run_look_bind, run_look_bind, he, he']
    exact ⟨rfl, h⟩
  · rw [run_requireInside hok (List.prefix_append ..),
      run_requireInside hok' (List.prefix_append ..)]
    exact ⟨rfl, h⟩

include hn

omit hpass in
theorem isProper_concat : ∀ m ∈ ns ++ [n], IsProper m := by
  intro m hm
  rcases List.mem_append.1 hm with hm | hm
  · exact hns m hm
  · rw [List.mem_singleton.1 hm]
    exact hn

theorem place?_cases_concat (h : Twin top top' first first' d d') (follow : Bool) :
    (∃ e, d.place? (Location.path (top ++ ns ++ [n])) follow = .error e ∧
        d'.place? (Location.path (top' ++ ns ++ [n])) follow = .error e) ∨
      d.place? (Location.path (top ++ ns ++ [n])) follow = .ok (top ++ ns ++ [n]) ∧
        d'.place? (Location.path (top' ++ ns ++ [n])) follow = .ok (top' ++ ns ++ [n]) := by
  rw [List.append_assoc, List.append_assoc]
  exact h.place?_cases hpass (isProper_concat hns hn) follow (.inr (by simp))

omit hpass hns hn in
theorem at?_concat (h : Twin top top' first first' d d') (ns : List Name) (n : Name) :
    SameEntry first first' (d.at? (top ++ ns ++ [n])) (d'.at? (top' ++ ns ++ [n])) := by
  rw [List.append_assoc, List.append_assoc]
  exact h.at? (ns ++ [n])

/-- What is under the same names is of the same kind. -/
theorem isDirectory_eq (h : Twin top top' first first' d d') :
    d.isDirectory (Location.path (top ++ ns ++ [n])) =
      d'.isDirectory (Location.path (top' ++ ns ++ [n])) := by
  rw [isDirectory, isDirectory, status?, status?]
  rcases h.place?_cases_concat hpass hns hn true with ⟨e, he, he'⟩ | ⟨hok, hok'⟩
  · rw [he, he']
    rfl
  · have hsame := h.at?_concat ns n
    rw [hok, hok']
    dsimp only [Except.toOption, Option.bind_some]
    generalize d.at? (top ++ ns ++ [n]) = entry at hsame ⊢
    generalize d'.at? (top' ++ ns ++ [n]) = entry' at hsame ⊢
    cases hsame with
    | none => rfl
    | directory => rfl
    | file i => rfl

/-- A name is free in both directories, or in none of them. -/
theorem resolve_cases (h : Twin top top' first first' d d') :
    (∃ e, d.resolveName (Location.path (top ++ ns ++ [n])) = .error e ∧
        d'.resolveName (Location.path (top' ++ ns ++ [n])) = .error e) ∨
      (∃ m m', d.resolveName (Location.path (top ++ ns ++ [n])) = .ok (.entry m) ∧
        d'.resolveName (Location.path (top' ++ ns ++ [n])) = .ok (.entry m')) ∨
      d.resolveName (Location.path (top ++ ns ++ [n])) = .ok (.vacant (top ++ ns) n) ∧
        d'.resolveName (Location.path (top' ++ ns ++ [n])) = .ok (.vacant (top' ++ ns) n) := by
  have hsame := h.locate hpass (isProper_concat hns hn) (by simp) false false
  rw [← List.append_assoc, ← List.append_assoc] at hsame
  rw [resolveName, resolveName]
  generalize d.locate (Location.path (top ++ ns ++ [n])) false false = found at hsame ⊢
  generalize d'.locate (Location.path (top' ++ ns ++ [n])) false false = found' at hsame ⊢
  cases hsame with
  | error e => exact .inl ⟨e, rfl, rfl⟩
  | entry => exact .inr (.inl ⟨_, _, rfl, rfl⟩)
  | vacant init m hinit =>
    obtain ⟨rfl, hm⟩ := List.append_inj' hinit rfl
    cases hm
    exact .inr (.inr ⟨rfl, rfl⟩)

omit hpass hns hn in
/-- Directories with free names in them can be written to. -/
theorem writable (h : Twin top top' first first' d d') (hdir : d.hasDirectory (top ++ ns) = true) :
    (d.rightsAt (top ++ ns)).writable = true ∧ (d'.rightsAt (top' ++ ns)).writable = true := by
  obtain ⟨hat, hat'⟩ := h.directory hdir
  rw [rightsAt, rightsAt, hat, hat']
  exact ⟨rfl, rfl⟩

/-- A directory is made in both directories, unless it is there in both. -/
theorem agree_ensureDirectories : Agree (Twin top top' first first')
    (do requireInside top (Location.path (top ++ ns))
        Disk.ensureDirectories (Location.path (top ++ ns ++ [n])))
    (do requireInside top' (Location.path (top' ++ ns))
        Disk.ensureDirectories (Location.path (top' ++ ns ++ [n]))) := by
  intro d d' h
  rw [run_bind, run_bind]
  rcases h.place?_cases hpass hns true (.inl rfl) with ⟨e, he, he'⟩ | ⟨hok, hok'⟩
  · rw [requireInside, requireInside, run_look_bind, run_look_bind, he, he']
    exact ⟨rfl, h⟩
  rw [run_requireInside hok (List.prefix_append ..), run_requireInside hok' (List.prefix_append ..)]
  dsimp only
  obtain ⟨hparts, hparts'⟩ := h.isPart_append hns
  have hdir := h.isDirectory_eq hpass hns hn
  have hne : ∀ l : Location, (∀ n ∈ l, Name.IsPart n) →
      (Location.path (l ++ [n])).bytes.isEmpty = false := by
    intro l hl
    rw [List.isEmpty_eq_false_iff, Location.path_eq_under]
    exact Path.bytes_under_ne_nil (List.cons_ne_nil _ _) (isPart_concat hl hn.isPart)
  rw [ensureDirectories, ensureDirectories, hne _ hparts, hne _ hparts']
  simp only [Bool.false_eq_true, if_false]
  rw [run_ensureDirectory_of_ne (resolveName_ne_notFound hparts hn hok),
    run_ensureDirectory_of_ne (resolveName_ne_notFound hparts' hn hok'), run_makeOrFind,
    run_makeOrFind, run_makeDirectory, run_makeDirectory]
  rcases h.resolve_cases hpass hns hn with ⟨e, he, he'⟩ | ⟨m, m', hm, hm'⟩ | ⟨hfree, hfree'⟩
  · rw [he, he']
    dsimp only
    rw [hdir]
    exact ⟨rfl, h⟩
  · rw [hm, hm']
    dsimp only
    rw [hdir]
    exact ⟨rfl, h⟩
  · have hvacant : d.IsFree (top ++ ns) n := h.wellFormed.isThere_of_locate hfree
    have hvacant' : d'.IsFree (top' ++ ns) n := h.wellFormed'.isThere_of_locate hfree'
    obtain ⟨hwrite, hwrite'⟩ := h.writable hvacant.hasDirectory
    rw [hfree, hfree']
    simp only [hwrite, hwrite', if_true]
    exact ⟨trivial, h.putDirectory hvacant hvacant'⟩

/-- A file is written in both directories, or in none of them. -/
theorem writeNew_cases (h : Twin top top' first first' d d') (content : Content) :
    (∃ e, (Disk.writeNew (Location.path (top ++ ns ++ [n])) content).run.run d = (.error e, d) ∧
        (Disk.writeNew (Location.path (top' ++ ns ++ [n])) content).run.run d' = (.error e, d')) ∨
      ∃ x x', (Disk.writeNew (Location.path (top ++ ns ++ [n])) content).run.run d = (.ok (), x) ∧
        (Disk.writeNew (Location.path (top' ++ ns ++ [n])) content).run.run d' = (.ok (), x') ∧
        Twin top top' first first' x x' ∧ ∃ key, x.at? (top ++ ns ++ [n]) = some (.file key) := by
  obtain ⟨hparts, hparts'⟩ := h.isPart_append hns
  have hends : ∀ l : Location, (∀ n ∈ l, Name.IsPart n) →
      (Location.path (l ++ [n])).endsInSeparator = false := by
    intro l hl
    rw [Location.path_eq_under]
    exact Path.endsInSeparator_under _ (isPart_concat hl hn.isPart) (by simp)
  rw [run_writeNew, run_writeNew, resolve_path hparts hn.isPart, resolve_path hparts' hn.isPart,
    hends _ hparts, hends _ hparts']
  rcases h.resolve_cases hpass hns hn with ⟨e, he, he'⟩ | ⟨m, m', hm, hm'⟩ | ⟨hfree, hfree'⟩
  · rw [resolveName] at he he'
    rw [he, he']
    exact .inl ⟨e, rfl, rfl⟩
  · rw [resolveName] at hm hm'
    rw [hm, hm']
    exact .inl ⟨_, rfl, rfl⟩
  · have hvacant : d.IsFree (top ++ ns) n := h.wellFormed.isThere_of_locate hfree
    have hvacant' : d'.IsFree (top' ++ ns) n := h.wellFormed'.isThere_of_locate hfree'
    obtain ⟨hwrite, hwrite'⟩ := h.writable hvacant.hasDirectory
    rw [resolveName] at hfree hfree'
    rw [hfree, hfree']
    simp only [hwrite, hwrite', Bool.false_eq_true, if_false, if_true]
    refine .inr ⟨_, _, rfl, rfl, h.addFile hvacant hvacant' content, d.nextKey, ?_⟩
    rw [at?_addFile, if_pos ⟨rfl, concat_ne_nil _ _⟩]

/-- A file is removed from both directories, or from none of them. -/
theorem removeFile_cases (h : Twin top top' first first' d d') :
    (∃ e, (Disk.removeFile (Location.path (top ++ ns ++ [n]))).run.run d = (.error e, d) ∧
        (Disk.removeFile (Location.path (top' ++ ns ++ [n]))).run.run d' = (.error e, d')) ∨
      ∃ x x', (Disk.removeFile (Location.path (top ++ ns ++ [n]))).run.run d = (.ok (), x) ∧
        (Disk.removeFile (Location.path (top' ++ ns ++ [n]))).run.run d' = (.ok (), x') ∧
        Twin top top' first first' x x' := by
  rw [run_removeFile, run_removeFile]
  rcases h.place?_cases_concat hpass hns hn false with ⟨e, he, he'⟩ | ⟨hok, hok'⟩
  · rw [he, he']
    exact .inl ⟨e, rfl, rfl⟩
  · have hsame := h.at?_concat ns n
    have hdirectory : d.at? (top ++ ns ++ [n]) ≠ none → d.hasDirectory (top ++ ns) = true := by
      intro hat
      obtain ⟨entry, hentry⟩ := Option.ne_none_iff_exists'.1 hat
      have hdir := h.wellFormed.hasDirectory_dropLast hentry
      rwa [List.dropLast_concat] at hdir
    have hcut : ∀ {key}, d.at? (top ++ ns ++ [n]) = some (.file key) → Twin top top' first first'
        (d.cut (top ++ ns ++ [n])) (d'.cut (top' ++ ns ++ [n])) := by
      rw [List.append_assoc, List.append_assoc]
      exact h.cutFile
    rw [hok, hok']
    dsimp only
    rw [List.dropLast_concat, List.dropLast_concat]
    generalize d.at? (top ++ ns ++ [n]) = entry at hsame hdirectory hcut ⊢
    generalize d'.at? (top' ++ ns ++ [n]) = entry' at hsame ⊢
    cases hsame with
    | none => exact .inl ⟨_, rfl, rfl⟩
    | directory => exact .inl ⟨_, rfl, rfl⟩
    | file i =>
      obtain ⟨hwrite, hwrite'⟩ := h.writable (hdirectory (by simp))
      simp only [hwrite, hwrite', if_true]
      exact .inr ⟨_, _, rfl, rfl, hcut rfl⟩

/-- A file comes into both directories and takes the place of what is there, or the same error
happens. -/
theorem replacing_cases (h : Twin top top' first first' d d') (content : Content) :
    ∃ answer x x',
      (replacing (Location.path (top ++ ns ++ [n]))
        (Disk.writeNew (Location.path (top ++ ns ++ [n])) content)).run.run d = (answer, x) ∧
      (replacing (Location.path (top' ++ ns ++ [n]))
        (Disk.writeNew (Location.path (top' ++ ns ++ [n])) content)).run.run d' = (answer, x') ∧
      Twin top top' first first' x x' ∧
      (answer = .ok () → ∃ key, x.at? (top ++ ns ++ [n]) = some (.file key)) := by
  rw [run_replacing, run_replacing]
  rcases h.writeNew_cases hpass hns hn content with ⟨e, he, he'⟩ | ⟨x, x', hx, hx', htwin, hfile⟩
  · rw [he, he']
    cases e
    case alreadyExists =>
      dsimp only
      rw [run_bind, run_bind]
      rcases h.removeFile_cases hpass hns hn with ⟨e, he, he'⟩ | ⟨y, y', hy, hy', hcut⟩
      · rw [he, he']
        exact ⟨_, _, _, rfl, rfl, h, by simp⟩
      · rw [hy, hy']
        dsimp only
        rcases hcut.writeNew_cases hpass hns hn content with
          ⟨e, he, he'⟩ | ⟨x, x', hx, hx', htwin, hfile⟩
        · rw [he, he']
          exact ⟨_, _, _, rfl, rfl, hcut, by simp⟩
        · rw [hx, hx']
          exact ⟨_, _, _, rfl, rfl, htwin, fun _ => hfile⟩
    all_goals exact ⟨_, _, _, rfl, rfl, h, by simp⟩
  · rw [hx, hx']
    exact ⟨_, _, _, rfl, rfl, htwin, fun _ => hfile⟩

/-- A mode is given to a file in both directories. -/
theorem run_setMode (h : Twin top top' first first' d d')
    (hfile : ∃ key, d.at? (top ++ ns ++ [n]) = some (.file key)) (mode : Option Nat) :
    ((setMode (Location.path (top ++ ns ++ [n])) mode).run.run d).1 =
        ((setMode (Location.path (top' ++ ns ++ [n])) mode).run.run d').1 ∧
      Twin top top' first first' ((setMode (Location.path (top ++ ns ++ [n])) mode).run.run d).2
        ((setMode (Location.path (top' ++ ns ++ [n])) mode).run.run d').2 := by
  rcases mode with _ | mode
  · exact ⟨rfl, h⟩
  have hset : ∀ p, setMode p (some mode) = Disk.setRights p (Archive.rightsOf mode) := fun _ => rfl
  have hwell := WellFormed.keeps_setRights (Location.path (top ++ ns ++ [n]))
    (Archive.rightsOf mode) d h.wellFormed
  have hwell' := WellFormed.keeps_setRights (Location.path (top' ++ ns ++ [n]))
    (Archive.rightsOf mode) d' h.wellFormed'
  rw [hset, hset]
  rw [run_setRights] at hwell hwell' ⊢
  rw [run_setRights]
  rcases h.place?_cases_concat hpass hns hn true with ⟨e, he, he'⟩ | ⟨hok, hok'⟩
  · rw [he, he']
    exact ⟨rfl, h⟩
  · obtain ⟨key, hkey⟩ := hfile
    have hsame := h.at?_concat ns n
    rw [hok] at hwell
    rw [hok'] at hwell'
    rw [hok, hok']
    dsimp only at hwell hwell' ⊢
    rw [hkey] at hsame
    generalize d'.at? (top' ++ ns ++ [n]) = entry' at hsame hwell' ⊢
    cases hsame with
    | file i =>
      rw [hkey] at hwell ⊢
      exact ⟨rfl, h.setRights i _ hwell hwell'⟩

theorem agree_placeFile (content : Content) (mode : Option Nat) :
    Agree (Twin top top' first first')
      (place top (Location.path (top ++ ns ++ [n])) (.file content mode))
      (place top' (Location.path (top' ++ ns ++ [n])) (.file content mode)) := by
  intro d d' h
  obtain ⟨answer, x, x', hrun, hrun', htwin, hfile⟩ := h.replacing_cases hpass hns hn content
  rw [place, place, run_bind, run_bind, hrun, hrun']
  rcases answer with e | ⟨⟩
  · exact ⟨rfl, htwin⟩
  · exact htwin.run_setMode hpass hns hn (hfile rfl) mode

/-- Something is under the same names in both directories, or in none of them. -/
theorem isNone_ownStatus?_eq (h : Twin top top' first first' d d') :
    (d.ownStatus? (Location.path (top ++ ns ++ [n]))).isNone =
      (d'.ownStatus? (Location.path (top' ++ ns ++ [n]))).isNone := by
  rw [ownStatus?, ownStatus?]
  rcases h.place?_cases_concat hpass hns hn false with ⟨e, he, he'⟩ | ⟨hok, hok'⟩
  · rw [he, he']
    rfl
  · have hsame := h.at?_concat ns n
    rw [hok, hok']
    dsimp only [Except.toOption, Option.bind_some]
    generalize d.at? (top ++ ns ++ [n]) = entry at hsame ⊢
    generalize d'.at? (top' ++ ns ++ [n]) = entry' at hsame ⊢
    cases hsame with
    | none => rfl
    | directory => rfl
    | file i => rfl

end Action

theorem agree_makeParents (hpass : PassAlike top top') {made rest : List Name}
    (hmade : ∀ n ∈ made, IsProper n) (hrest : ∀ n ∈ rest, IsProper n) :
    Agree (Twin top top' first first') (makeParents top made rest)
      (makeParents top' made rest) := by
  induction rest generalizing made with
  | nil => exact .pure ()
  | cons n rest ih =>
    rw [List.forall_mem_cons] at hrest
    have hnext := @ih (made ++ [n]) (isProper_concat hmade hrest.1) hrest.2
    have hmake := (agree_ensureDirectories hpass hmade hrest.1).bind (fun _ => hnext)
    rw [makeParents, makeParents]
    intro d d' h
    rw [run_bind, run_bind, run_get, run_get]
    dsimp only
    rw [h.isNone_ownStatus?_eq hpass hmade hrest.1]
    split
    · rw [bind_assoc, bind_assoc] at hmake
      exact hmake d d' h
    · exact hnext d d' h

theorem agree_unpackMember (hpass : PassAlike top top') {member : Member} {content : Content}
    {mode : Option Nat} (hkind : member.kind = .file content mode) :
    Agree (Twin top top' first first') (unpackMember top member) (unpackMember top' member) := by
  rw [unpackMember, unpackMember]
  split
  · exact .pure ()
  · exact .pure ()
  · rename_i names hne hnames
    have hproper := isProper_of_namesOf hnames
    rcases List.eq_nil_or_concat names with hnil | ⟨parents, n, hconcat⟩
    · exact absurd hnil hne
    · rw [List.concat_eq_append] at hconcat
      subst hconcat
      have hparents : ∀ n ∈ parents, IsProper n := fun n hn =>
        hproper n (List.mem_append_left _ hn)
      rw [List.dropLast_concat, hkind, ← List.append_assoc, ← List.append_assoc]
      exact .bind (agree_makeParents hpass (by simp) hparents) fun _ =>
        .bind (agree_requireInside hpass hparents) fun _ =>
          agree_placeFile hpass hparents (hproper n (by simp)) content mode

end Twin

/-- A member that is a file. -/
def Member.IsFile (member : Member) : Prop := ∃ content mode, member.kind = .file content mode

/-- Unpacking files comes to the same in both directories. -/
theorem agree_unpack {members : List Member} (hpass : PassAlike top top')
    (hfiles : ∀ member ∈ members, member.IsFile) :
    Agree (Twin top top' first first') (unpack top members) (unpack top' members) := by
  have hmem : ∀ member ∈ inOrder members, member.IsFile := by
    intro member hmember
    rw [inOrder, List.mem_append, List.mem_mergeSort] at hmember
    rcases hmember with hmember | hmember
    · exact hfiles member (List.mem_of_mem_filter hmember)
    · exact hfiles member (List.mem_of_mem_filter hmember)
  rw [unpack, unpack]
  generalize inOrder members = ordered at hmem
  induction ordered with
  | nil => exact .pure ()
  | cons member rest ih =>
    rw [List.forall_mem_cons] at hmem
    obtain ⟨content, mode, hkind⟩ := hmem.1
    exact .bind (Twin.agree_unpackMember hpass hkind) fun _ => ih hmem.2

end Codemod.Archive
