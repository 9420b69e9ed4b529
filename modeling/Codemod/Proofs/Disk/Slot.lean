import Codemod.Proofs.Disk.Extends

set_option autoImplicit false

/-! # Where a file can be put

A file can be put under the name at the end of a path if the directory for it is there and can be
written to, and if the name is not that of a directory (`IsSlot`). A path keeps its slot as long as
directories and links stay what they are (`IsSlot.of_extends`). -/

namespace Codemod.Disk

variable {d d' x : Disk} {p source target : Path} {l m k : Location} {n : Name} {found : Found}
  {key : Nat}

/-! ## The name at the end of a path -/

/-- A path leads into a directory and ends with a name for an entry there. -/
structure Names (d : Disk) (p : Path) (l : Location) (n : Name) : Prop where
  ne_nil : p.bytes ≠ []
  isPassable : isPassable p = true
  start : d.hasDirectory (d.startOf p) = true
  way : ∃ init left, p.segments = init ++ [n] ∧
    d.enter linkLimit (d.startOf p) init = .ok (left, l)
  searchable : (d.rightsAt l).searchable = true
  isOrdinary : IsOrdinary n

namespace Names

theorem hasDirectory (hd : d.WellFormed) (h : d.Names p l n) : d.hasDirectory l = true := by
  obtain ⟨init, left, -, henter⟩ := h.way
  exact hd.hasDirectory_of_enter h.start henter

theorem endsSpecially (h : d.Names p l n) : endsSpecially p = false := by
  obtain ⟨init, left, hsegments, -⟩ := h.way
  simp [Disk.endsSpecially, hsegments, h.isOrdinary.ne_here, h.isOrdinary.ne_above]

/-- What the path names is what has the name. -/
theorem resolveName (h : d.Names p l n) :
    d.resolveName p =
      .ok (if d.at? (l ++ [n]) = none then .vacant l n else .entry (l ++ [n])) := by
  obtain ⟨init, left, hsegments, henter⟩ := h.way
  rw [Disk.resolveName, locate_eq_ok_iff, hsegments,
    chase_append _ _ _ _ _ _ (List.cons_ne_nil _ _), henter]
  refine ⟨h.ne_nil, h.isPassable, h.start, ?_⟩
  dsimp only
  rw [chase_singleton, turn_of_isOrdinary h.searchable h.isOrdinary]
  rcases d.at? (l ++ [n]) with _ | rights | key | target
  · rfl
  · rfl
  · rfl
  · rfl

theorem of_extends (hd : d.WellFormed) (hextends : d.Extends d') (h : d.Names p l n) :
    d'.Names p l n where
  ne_nil := h.ne_nil
  isPassable := h.isPassable
  start := by
    rw [hextends.startOf]
    exact hextends.hasDirectory h.start
  way := by
    obtain ⟨init, left, hsegments, henter⟩ := h.way
    rw [hextends.startOf]
    exact ⟨init, left, hsegments, hextends.enter hd h.start henter⟩
  searchable := by
    rw [hextends.rightsAt (h.hasDirectory hd)]
    exact h.searchable
  isOrdinary := h.isOrdinary

end Names

/-- What a path names has the name at its end, unless it is a directory: that can be named by dots
as well. -/
theorem WellFormed.exists_names (hd : d.WellFormed) (hfound : d.resolveName p = .ok found)
    (hplace : d.hasDirectory found.place = false) :
    ∃ l n, found.place = l ++ [n] ∧ d.Names p l n := by
  obtain ⟨hne, hpass, hstart, hchase⟩ := locate_eq_ok_iff.1 hfound
  rcases List.eq_nil_or_concat p.segments with hnil | ⟨init, n, hsegments⟩
  · rw [hnil, chase_nil] at hchase
    cases hchase
    rw [Found.place, hstart] at hplace
    cases hplace
  rw [List.concat_eq_append] at hsegments
  rw [hsegments, chase_append _ _ _ _ _ _ (List.cons_ne_nil _ _)] at hchase
  rcases henter : d.enter linkLimit (d.startOf p) init with e | ⟨left, l⟩
  · rw [henter] at hchase
    cases hchase
  rw [henter] at hchase
  dsimp only at hchase
  have hl := hd.hasDirectory_of_enter hstart henter
  rw [chase_singleton] at hchase
  rcases turn_cases d l n with ⟨hsearch, ⟨-, hturn⟩ | ⟨-, hturn⟩ | hname⟩ | hturn | hturn
  · rw [hturn] at hchase
    cases hchase
    rw [Found.place, hl] at hplace
    cases hplace
  · obtain ⟨rights, hat⟩ := hasDirectory_iff.1 hl
    rw [hturn] at hchase
    cases hchase
    rw [Found.place, hd.hasDirectory_dropLast hat] at hplace
    cases hplace
  · refine ⟨l, n, ?_, hne, hpass, hstart, ⟨init, left, hsegments, henter⟩, hsearch, hname⟩
    rw [turn_of_isOrdinary hsearch hname] at hchase
    rcases hat : d.at? (l ++ [n]) with _ | rights | key | target
    all_goals
      rw [hat] at hchase
      cases hchase
      rfl
  · rw [hturn] at hchase
    cases hchase
  · rw [hturn] at hchase
    cases hchase

/-! ## The directory above a path -/

/-- A directory that is there need not be made. -/
theorem run_ensureDirectories_of_isDirectory (h : d.isDirectory p = true) :
    (ensureDirectories p).run.run d = (.ok (), d) := by
  rw [ensureDirectories]
  split
  · rfl
  · exact run_ensureDirectory_of_isDirectory h _

/-- The directory above a path is there, unless the path is a mere name. -/
def HasParent (d : Disk) (p : Path) : Prop :=
  ∀ parent, p.parent? = some parent → parent.bytes = [] ∨ d.isDirectory parent = true

instance (d : Disk) (p : Path) : Decidable (d.HasParent p) :=
  inferInstanceAs (Decidable (∀ parent ∈ p.parent?, _))

theorem Extends.isDirectory (h : d.Extends d') (hd : d.WellFormed) (hp : d.isDirectory p = true) :
    d'.isDirectory p = true := by
  obtain ⟨l, hplace, hl⟩ := isDirectory_iff.1 hp
  refine isDirectory_iff.2 ⟨l, h.place? hd (fun key hkey => ?_) hplace, h.hasDirectory hl⟩
  rw [Disk.hasDirectory, hkey] at hl
  cases hl

/-- What is neither a directory nor a link is on the way to nothing. -/
theorem extends_cut (hd : d.WellFormed) (hk : d.hasDirectory k = false)
    (hlink : ∀ target, d.at? k ≠ some (.link target)) : d.Extends (d.cut k) := by
  refine .of_stays rfl fun m entry hentry hat => ?_
  have hne : k ≠ m := by
    rintro rfl
    cases entry with
    | directory rights => rw [hasDirectory_of_at? hat] at hk; cases hk
    | link target => exact hlink target hat
    | file key => exact hentry key rfl
  rw [at?_cut, if_neg, hat]
  rintro ⟨-, hbelow⟩
  rw [hd.at?_below hk hbelow hne] at hat
  cases hat

theorem extends_cut_of_file (hd : d.WellFormed) (hk : d.at? k = some (.file key)) :
    d.Extends (d.cut k) :=
  extends_cut hd (by rw [hasDirectory, hk]; rfl) (by simp [hk])

/-! ## Slots -/

/-- A file can be put under the name at the end of a path. If it is taken, then by a file or a link,
which gives way. -/
structure IsSlot (d : Disk) (p : Path) (m : Location) : Prop where
  found : ∃ found, d.resolveName p = .ok found ∧ found.place = m
  notDirectory : d.hasDirectory m = false
  hasParent : d.HasParent p
  slash : p.endsInSeparator = false
  writable : (d.rightsAt m.dropLast).writable = true

theorem isSlot_iff :
    d.IsSlot p m ↔ (d.resolveName p).toOption.map Found.place = some m ∧
      d.hasDirectory m = false ∧ d.HasParent p ∧ p.endsInSeparator = false ∧
      (d.rightsAt m.dropLast).writable = true := by
  have hfound : (∃ found, d.resolveName p = .ok found ∧ found.place = m) ↔
      (d.resolveName p).toOption.map Found.place = some m := by
    rcases d.resolveName p with e | found
    · simp [Except.toOption]
    · simp [Except.toOption]
  rw [← hfound]
  constructor
  · intro h
    exact ⟨h.found, h.notDirectory, h.hasParent, h.slash, h.writable⟩
  · rintro ⟨hfound, hdirectory, hparent, hslash, hwritable⟩
    exact ⟨hfound, hdirectory, hparent, hslash, hwritable⟩

instance (d : Disk) (p : Path) (m : Location) : Decidable (d.IsSlot p m) :=
  decidable_of_iff _ isSlot_iff.symm

namespace IsSlot

theorem ne_nil (h : d.IsSlot p m) : m ≠ [] := by
  rintro rfl
  cases h.notDirectory

theorem exists_names (hd : d.WellFormed) (h : d.IsSlot p m) :
    ∃ l n, m = l ++ [n] ∧ d.Names p l n := by
  obtain ⟨found, hfound, rfl⟩ := h.found
  exact hd.exists_names hfound h.notDirectory

/-- A path has one slot at most. -/
theorem unique {m' : Location} (h : d.IsSlot p m) (h' : d.IsSlot p m') : m = m' := by
  obtain ⟨found, hfound, rfl⟩ := h.found
  obtain ⟨found', hfound', rfl⟩ := h'.found
  cases hfound.symm.trans hfound'
  rfl

/-- The path of a slot that is taken names what is there. -/
theorem resolveName (hd : d.WellFormed) (h : d.IsSlot p m) (hm : d.at? m ≠ none) :
    d.resolveName p = .ok (.entry m) := by
  obtain ⟨l, n, rfl, hnames⟩ := h.exists_names hd
  rw [hnames.resolveName, if_neg hm]

/-- The slot is in a directory. -/
theorem hasDirectory_dropLast (hd : d.WellFormed) (h : d.IsSlot p m) :
    d.hasDirectory m.dropLast = true := by
  obtain ⟨l, n, rfl, hnames⟩ := h.exists_names hd
  rw [List.dropLast_concat]
  exact hnames.hasDirectory hd

theorem of_extends (hd : d.WellFormed) (hextends : d.Extends d') (h : d.IsSlot p m)
    (hm : d'.hasDirectory m = false) : d'.IsSlot p m where
  found := by
    obtain ⟨l, n, rfl, hnames⟩ := h.exists_names hd
    refine ⟨_, (hnames.of_extends hd hextends).resolveName, ?_⟩
    split
    · rfl
    · rfl
  notDirectory := hm
  hasParent := fun parent hparent =>
    (h.hasParent parent hparent).imp_right (hextends.isDirectory hd)
  slash := h.slash
  writable := by
    rw [hextends.rightsAt (h.hasDirectory_dropLast hd)]
    exact h.writable

/-- The slots of paths stay where they are when something goes that is on the way to nothing. -/
theorem cut (hd : d.WellFormed) (h : d.IsSlot p m) (hextends : d.Extends (d.cut k)) :
    (d.cut k).IsSlot p m := by
  refine h.of_extends hd hextends ?_
  rw [hasDirectory, at?_cut]
  split
  · rfl
  · exact h.notDirectory

end IsSlot

/-! ## Files that can be taken -/

/-- A path names a file that can be taken out of its directory. -/
structure HasFile (d : Disk) (source : Path) (k : Location) (key : Nat) : Prop where
  place? : ∀ follow, d.place? source follow = .ok k
  at? : d.at? k = some (.file key)
  endsSpecially : endsSpecially source = false
  writable : (d.rightsAt k.dropLast).writable = true

theorem HasFile.of_extends (h : d.HasFile source k key) (hd : d.WellFormed) (hextends : d.Extends x)
    (hat : x.at? k = some (.file key)) : x.HasFile source k key where
  place? := fun follow => hextends.place? hd (fun _ _ => ⟨key, hat⟩) (h.place? follow)
  at? := hat
  endsSpecially := h.endsSpecially
  writable := by
    rw [hextends.rightsAt (hd.hasDirectory_dropLast h.at?)]
    exact h.writable

/-- A file comes into a slot under the name of the path, and what was there gives way. It stays
under its old name only if it was in the slot before. -/
theorem run_rename_to_slot (hd : d.WellFormed) {old : Location} (hfile : d.HasFile source old key)
    (hslot : d.IsSlot target m) :
    ∃ d', (rename source target).run.run d = (.ok (), d') ∧ d.SameFiles d' ∧
      d'.at? m = some (.file key) ∧
      ∀ k, k ≠ m → d'.at? k = d.at? k ∨ k = old ∧ d'.at? k = none := by
  obtain ⟨l, n, -, hnames⟩ := hslot.exists_names hd
  obtain ⟨found, hfound, rfl⟩ := hslot.found
  have hkey := hfile.at?
  have hcarry : old ≠ found.place → ∃ d', (move old found.place).run.run d = (.ok (), d') ∧
      d.SameFiles d' ∧ d'.at? found.place = some (.file key) ∧
      ∀ k, k ≠ found.place → d'.at? k = d.at? k ∨ k = old ∧ d'.at? k = none := by
    intro hne
    have hat := hd.at?_carry_file hkey hslot.notDirectory (hslot.hasDirectory_dropLast hd) hne
    refine ⟨_, run_move_file hkey hfile.writable hslot.writable, rfl, ?_, fun k hk => ?_⟩
    · rw [hat, if_pos rfl]
    · rw [hat, if_neg hk]
      split
      · rename_i hold'
        exact .inr ⟨hold', rfl⟩
      · exact .inl rfl
  rw [run_rename_of_file (hfile.place? false) hfound hkey, hfile.endsSpecially,
    hnames.endsSpecially, hslot.slash]
  simp only [Bool.or_self, Bool.false_eq_true, if_false]
  rcases hat : d.at? found.place with _ | rights | other | link
  · exact hcarry fun heq => by rw [← heq, hkey] at hat; cases hat
  · have hfree := hslot.notDirectory
    rw [hasDirectory_of_at? hat] at hfree
    cases hfree
  · dsimp only
    split
    · rename_i hsame
      refine ⟨d, rfl, .refl d, ?_, fun k _ => .inl rfl⟩
      rw [Bool.or_eq_true, decide_eq_true_eq, sameFile, beq_iff_eq] at hsame
      rcases hsame with hsame | rfl
      · rw [hsame, hkey]
      · exact hat
    · rename_i hother
      exact hcarry fun heq => hother (by rw [heq]; simp)
  · dsimp only
    split
    · rename_i hsame
      rw [Bool.or_eq_true, decide_eq_true_eq] at hsame
      rcases hsame with hsame | hsame
      · rw [hsame, hkey] at hat
        cases hat
      · cases hsame
    · exact hcarry fun heq => by rw [← heq, hkey] at hat; cases hat

end Codemod.Disk
