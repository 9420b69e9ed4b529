import Codemod.Proofs.Disk.Slot

set_option autoImplicit false

/-! # What actions on a tree leave alone

Two trees that differ at some places and in some files at most (`SameBut`), and for the actions that
move and remove things the places and the files that they may change. A file is moved by one way or
the other: what it comes over, and what is copied over, are both among the places and files that
`sameBut_moveFile` names. -/

namespace Codemod.Disk

variable {d d₁ d₂ x y : Disk} {l m : Location} {n : Name} {key : Nat} {source target p : Path}
  {places places' : Location → Prop} {keys keys' : Nat → Prop}

/-- A tree that differs from another one at some places and in some of its files at most. Files that
came later may be anything. -/
structure SameBut (places : Location → Prop) (keys : Nat → Prop) (d d' : Disk) : Prop where
  workingDirectory : d'.workingDirectory = d.workingDirectory
  at? : ∀ m, ¬ places m → d'.at? m = d.at? m
  contentOf : ∀ key < d.nextKey, ¬ keys key → d'.contentOf key = d.contentOf key
  rightsOf : ∀ key < d.nextKey, ¬ keys key → d'.rightsOf key = d.rightsOf key
  nextKey_le : d.nextKey ≤ d'.nextKey

namespace SameBut

theorem refl (places : Location → Prop) (keys : Nat → Prop) (d : Disk) : SameBut places keys d d :=
  ⟨rfl, fun _ _ => rfl, fun _ _ _ => rfl, fun _ _ _ => rfl, Nat.le_refl _⟩

theorem trans (h₁ : SameBut places keys d d₁) (h₂ : SameBut places keys d₁ d₂) :
    SameBut places keys d d₂ where
  workingDirectory := h₂.workingDirectory.trans h₁.workingDirectory
  at? := fun m hm => (h₂.at? m hm).trans (h₁.at? m hm)
  contentOf := fun key hlt hkey =>
    (h₂.contentOf key (hlt.trans_le h₁.nextKey_le) hkey).trans (h₁.contentOf key hlt hkey)
  rightsOf := fun key hlt hkey =>
    (h₂.rightsOf key (hlt.trans_le h₁.nextKey_le) hkey).trans (h₁.rightsOf key hlt hkey)
  nextKey_le := h₁.nextKey_le.trans h₂.nextKey_le

theorem mono (h : SameBut places keys d d₁) (hplaces : ∀ m, places m → places' m)
    (hkeys : ∀ key, keys key → keys' key) : SameBut places' keys' d d₁ where
  workingDirectory := h.workingDirectory
  at? := fun m hm => h.at? m fun hp => hm (hplaces m hp)
  contentOf := fun key hlt hkey => h.contentOf key hlt fun hk => hkey (hkeys key hk)
  rightsOf := fun key hlt hkey => h.rightsOf key hlt fun hk => hkey (hkeys key hk)
  nextKey_le := h.nextKey_le

/-- Where only entries change, files stay what they are. -/
theorem of_sameFiles (h : d.SameFiles d₁) (hat : ∀ m, ¬ places m → d₁.at? m = d.at? m) :
    SameBut places keys d d₁ where
  workingDirectory := h.workingDirectory
  at? := hat
  contentOf := fun key _ _ => h.contentOf key
  rightsOf := fun key _ _ => h.rightsOf key
  nextKey_le := h.nextKey.ge

theorem put (h : SameBut places keys d x) (hm : places m) (entry : Entry) :
    SameBut places keys d (x.put m entry) :=
  h.trans <| of_sameFiles rfl fun m' hm' => by
    rw [at?_put, if_neg]
    rintro ⟨rfl, -⟩
    exact hm' hm

theorem addFile (h : SameBut places keys d x) (hm : places m) (content : Content) :
    SameBut places keys d (x.addFile m content) where
  workingDirectory := h.workingDirectory
  at? := by
    intro m' hm'
    rw [at?_addFile, if_neg, h.at? m' hm']
    rintro ⟨rfl, -⟩
    exact hm' hm
  contentOf := by
    intro key hlt hkey
    rw [contentOf_addFile, if_neg (hlt.trans_le h.nextKey_le).ne, h.contentOf key hlt hkey]
  rightsOf := h.rightsOf
  nextKey_le := Nat.le_succ_of_le h.nextKey_le

/-- Another content for a file that may change, or for one that came later. -/
theorem setContent (h : SameBut places keys d x) (hkey : keys key ∨ d.nextKey ≤ key)
    (content : Content) : SameBut places keys d (x.setContent key content) where
  workingDirectory := h.workingDirectory
  at? := h.at?
  contentOf := by
    intro other hlt hother
    rw [contentOf_setContent, if_neg, h.contentOf other hlt hother]
    rintro rfl
    exact hkey.elim hother fun hle => absurd hlt (Nat.not_lt.2 hle)
  rightsOf := h.rightsOf
  nextKey_le := h.nextKey_le

/-- Other rights for a file that may change, or for one that came later. -/
theorem setRights (h : SameBut places keys d x) (hkey : keys key ∨ d.nextKey ≤ key)
    (rights : Rights) : SameBut places keys d { x with
      fileRights := (key, rights) :: x.fileRights.filter fun r => r.1 != key } where
  workingDirectory := h.workingDirectory
  at? := h.at?
  contentOf := h.contentOf
  rightsOf := by
    intro other hlt hother
    rw [rightsOf_of_ne x rights, h.rightsOf other hlt hother]
    rintro rfl
    exact hkey.elim hother fun hle => absurd hlt (Nat.not_lt.2 hle)
  nextKey_le := h.nextKey_le

end SameBut

/-! ## Taking away -/

theorem sameBut_cut (h : ∀ m, l <+: m → places m) : SameBut places keys d (d.cut l) :=
  .of_sameFiles rfl fun m hm => by rw [at?_cut, if_neg fun hbelow => hm (h m hbelow.2)]

theorem sameBut_cutBelow (h : ∀ m, l <+: m → places m) : SameBut places keys d (d.cutBelow l) :=
  .of_sameFiles rfl fun m hm => by rw [at?_cutBelow, if_neg fun hbelow => hm (h m hbelow.1)]

/-- Removing a file takes away what its path names. -/
theorem sameBut_removeFile (p : Path) (keys : Nat → Prop) (d : Disk) :
    SameBut (fun m => ∃ l, d.place? p false = .ok l ∧ l <+: m) keys d
      ((removeFile p).run.run d).2 := by
  rcases run_removeFile_cases p d with ⟨e, hrun⟩ | ⟨l, hplace, -, hrun⟩
  · rw [hrun]
    exact .refl ..
  · rw [hrun]
    exact sameBut_cut fun m hm => ⟨l, hplace, hm⟩

/-- Removing a tree takes away what its path names with all below it, or some of that. -/
theorem sameBut_removeTree (p : Path) (keys : Nat → Prop) (d : Disk) :
    SameBut (fun m => ∃ l, d.place? p false = .ok l ∧ l <+: m) keys d
      ((removeTree p).run.run d).2 := by
  suffices h : ∀ places : Location → Prop,
      (∀ l, d.place? p false = .ok l → ∀ m, l <+: m → places m) →
      SameBut places keys d ((removeTree p).run.run d).2 from
    h _ fun l hl m hm => ⟨l, hl, hm⟩
  intro places hplaces
  rw [run_removeTree]
  rcases hplace : d.place? p false with e | l
  · exact .refl ..
  have hunder := hplaces l hplace
  have hcut : ∀ x, SameBut places keys x (x.cut l) := fun _ => sameBut_cut hunder
  have hbelow : SameBut places keys d (d.cutBelow l) := sameBut_cutBelow hunder
  dsimp only
  split
  · split
    · exact .refl ..
    · split
      · exact hbelow
      · split
        · exact hbelow.trans (hcut _)
        · exact hbelow
  · split
    · exact hcut d
    · exact .refl ..
  · exact .refl ..

/-! ## Renaming -/

/-- Nothing is below a place. -/
def IsBare (d : Disk) (l : Location) : Prop := ∀ m, l <+: m → l ≠ m → d.at? m = none

/-- Where something may change when what a path names is moved to another path. -/
inductive MoveReaches (d : Disk) (source target : Path) (m : Location) : Prop where
  /-- It is taken away from there. -/
  | taken {l : Location} (named : d.place? source false = .ok l) (below : l <+: m)
  /-- It comes there, and what was there gives way. -/
  | given {found : Found} (named : d.resolveName target = .ok found) (below : found.place <+: m)
      (bare : d.IsBare found.place)
  /-- A copy is made there. -/
  | copied {l : Location} {n : Name} (vacant : d.resolve target true = .ok (.vacant l n))
      (here : m = l ++ [n])

/-- A path leads to a file. -/
def IsFileAt (d : Disk) (p : Path) (key : Nat) : Prop :=
  ∃ l, d.place? p = .ok l ∧ d.at? l = some (.file key)

theorem sameBut_rename (hd : d.WellFormed) (source target : Path) (keys : Nat → Prop) :
    SameBut (d.MoveReaches source target) keys d ((rename source target).run.run d).2 ∧
      ∀ e, ((rename source target).run.run d).1 = .error e →
        ((rename source target).run.run d).2 = d := by
  rcases hold : d.place? source false with e | old
  · rw [rename, run_look_bind, hold]
    exact ⟨.refl .., fun _ _ => rfl⟩
  rcases hnew : d.resolveName target with e | new
  · rw [rename, run_look_bind, hold]
    dsimp only
    rw [run_look_bind, hnew]
    exact ⟨.refl .., fun _ _ => rfl⟩
  rcases run_rename_cases hold hnew with hsame | ⟨hmay, hrun⟩
  · rw [hsame]
    exact ⟨.refl .., fun _ _ => rfl⟩
  rw [hrun]
  obtain ⟨entry, hat⟩ := hd.at?_of_place? hold
  obtain ⟨-, hparent⟩ := hd.of_isThere (hd.isThere_of_locate hnew)
  obtain ⟨hst, hts⟩ := hd.not_prefix_of_mayMove hat hparent hmay
  have hbare : d.IsBare new.place := fun m => hd.at?_below_of_mayMove hmay
  refine ⟨.of_sameFiles rfl fun m hm => ?_, by simp⟩
  rw [at?_carry d hst hts, if_neg fun hbelow => hm (.given hnew hbelow hbare),
    if_neg fun hbelow => hm (.taken hold hbelow)]

/-! ## Copying -/

/-- A tree in which a path leads to the same file as in another one or, if it led to nothing there,
to a file that came later. -/
structure Aimed (d : Disk) (target : Path) (x : Disk) : Prop where
  wellFormed : x.WellFormed
  isExtended : d.Extends x
  sameBut : SameBut (fun m => ∃ l n, d.resolve target true = .ok (.vacant l n) ∧ m = l ++ [n])
    (d.IsFileAt target) d x
  aim : ∀ found, x.resolve target true = .ok found → ∃ m key, found = .entry m ∧
    x.at? m = some (.file key) ∧ (d.IsFileAt target key ∨ d.nextKey ≤ key)

/-- What was written can be found. -/
theorem run_write_aimed (hd : d.WellFormed) (target : Path) (content : Content) :
    (∃ e, (write target content).run.run d = (.error e, d)) ∨
      ∃ x, (write target content).run.run d = (.ok (), x) ∧ Aimed d target x := by
  rcases run_write_cases target content d with
    ⟨e, hrun⟩ | ⟨l, n, hfound, -, -, hrun⟩ | ⟨l, key, hplace, hkey, -, hrun⟩
  · exact .inl ⟨e, hrun⟩
  · have hfree : d.IsFree l n := hd.isThere_of_locate hfound
    have hextends := (within_addFile hfree.at?_eq_none content).isExtended
    have hnew : (d.addFile (l ++ [n]) content).at? (l ++ [n]) = some (.file d.nextKey) := by
      rw [at?_addFile, if_pos ⟨rfl, concat_ne_nil _ _⟩]
    exact .inr ⟨_, hrun, {
      wellFormed := hd.addFile hfree content
      isExtended := hextends
      sameBut := (SameBut.refl ..).addFile ⟨l, n, hfound, rfl⟩ content
      aim := fun found h => ⟨l ++ [n], d.nextKey, hextends.resolve_of_vacant_file hd hfound hnew h,
        hnew, .inr (Nat.le_refl _)⟩ }⟩
  · have hextends : d.Extends (d.setContent key content) := .of_at?_eq rfl fun _ => rfl
    refine .inr ⟨_, hrun, {
      wellFormed := hd.setContent key content
      isExtended := hextends
      sameBut := (SameBut.refl ..).setContent (.inl ⟨l, hplace, hkey⟩) content
      aim := fun found h => ⟨l, key, ?_, hkey, .inl ⟨l, hplace, hkey⟩⟩ }⟩
    have hthere := place?_eq_ok_iff_resolve.1
      (hextends.place? hd (fun key hkey => ⟨key, hkey⟩) hplace)
    exact Except.ok.inj (h.symm.trans hthere)

namespace Aimed

theorem run_write (h : Aimed d target x) (content : Content) :
    (∃ e, (write target content).run.run x = (.error e, x)) ∨
      ∃ y, (write target content).run.run x = (.ok (), y) ∧ Aimed d target y := by
  rcases run_write_cases target content x with
    ⟨e, hrun⟩ | ⟨l, n, hfound, -, -, hrun⟩ | ⟨l, key, hplace, hkey, -, hrun⟩
  · exact .inl ⟨e, hrun⟩
  · obtain ⟨m, key, hentry, -⟩ := h.aim _ hfound
    cases hentry
  · obtain ⟨m, other, hentry, hother, hmay⟩ := h.aim _ (place?_eq_ok_iff_resolve.1 hplace)
    cases hentry
    cases hkey.symm.trans hother
    have hextends : x.Extends (x.setContent key content) := .of_at?_eq rfl fun _ => rfl
    refine .inr ⟨_, hrun, {
      wellFormed := h.wellFormed.setContent key content
      isExtended := h.isExtended.trans hextends
      sameBut := h.sameBut.setContent hmay content
      aim := fun found hfound => ⟨l, key, ?_, hkey, hmay⟩ }⟩
    have hthere := place?_eq_ok_iff_resolve.1
      (hextends.place? h.wellFormed (fun key hkey => ⟨key, hkey⟩) hplace)
    exact Except.ok.inj (hfound.symm.trans hthere)

/-- The rights of the copy are those of the file that the path leads to. -/
theorem setRights (h : Aimed d target x) (rights : Rights) :
    d.Extends ((Disk.setRights target rights).run.run x).2 ∧
      SameBut (fun m => ∃ l n, d.resolve target true = .ok (.vacant l n) ∧ m = l ++ [n])
        (d.IsFileAt target) d ((Disk.setRights target rights).run.run x).2 := by
  rw [run_setRights]
  rcases hplace : x.place? target with e | l
  · exact ⟨h.isExtended, h.sameBut⟩
  obtain ⟨m, key, hentry, hkey, hmay⟩ := h.aim _ (place?_eq_ok_iff_resolve.1 hplace)
  cases hentry
  simp only [hkey]
  exact ⟨h.isExtended.trans (.of_at?_eq rfl fun _ => rfl), h.sameBut.setRights hmay rights⟩

end Aimed

/-- A copy that is not even started. -/
theorem run_copyFile_of_stuck (h : (∃ e, d.read source = .error e) ∨
    ∃ e, (write target (.bytes [])).run.run d = (.error e, d)) :
    ∃ e, (copyFile source target).run.run d = (.error e, d) := by
  rw [copyFile, run_look_bind]
  rcases d.place? source with e | l
  · exact ⟨e, rfl⟩
  dsimp only
  rw [run_bind, run_get]
  dsimp only
  rw [run_look_bind]
  rcases hread : d.read source with e | content
  · exact ⟨e, rfl⟩
  rcases h with ⟨e, herror⟩ | ⟨e, hwrite⟩
  · rw [hread] at herror
    cases herror
  · dsimp only
    rw [run_bind, hwrite]
    exact ⟨e, rfl⟩

/-- What is left to do of a copy once the target is open. -/
theorem run_copyFile_of_write {l : Location} (hplace : d.place? source = .ok l) {content : Content}
    (hread : d.read source = .ok content)
    (hwrite : (write target (.bytes [])).run.run d = (.ok (), x)) :
    (copyFile source target).run.run d =
      match x.read source with
      | .error e => (.error e, x)
      | .ok content =>
        match (write target content).run.run x with
        | (.error e, y) => (.error e, y)
        | (.ok _, y) => (setRights target (d.rightsAt l)).run.run y := by
  rw [copyFile, run_look_bind, hplace]
  dsimp only
  rw [run_bind, run_get]
  dsimp only
  rw [run_look_bind, hread]
  dsimp only
  rw [run_bind, hwrite]
  dsimp only
  rw [run_look_bind]
  rcases x.read source with e | content
  · rfl
  · dsimp only
    rw [run_bind]
    rcases (write target content).run.run x with ⟨e | ⟨⟩, y⟩
    · rfl
    · rfl

/-- A copy comes over the file that a path leads to, or to where the path is free. It needs
something to be copied. -/
theorem sameBut_copyFile (hd : d.WellFormed) (source target : Path) :
    d.Extends ((copyFile source target).run.run d).2 ∧
      SameBut (fun m => ∃ l n, d.resolve target true = .ok (.vacant l n) ∧ m = l ++ [n])
        (d.IsFileAt target) d ((copyFile source target).run.run d).2 ∧
      (((copyFile source target).run.run d).1 = .ok () → ∃ l, d.place? source = .ok l) := by
  by_cases hstuck : (∃ e, d.read source = .error e) ∨
      ∃ e, (write target (.bytes [])).run.run d = (.error e, d)
  · obtain ⟨e, hrun⟩ := run_copyFile_of_stuck hstuck
    rw [hrun]
    exact ⟨.refl d, .refl .., by simp⟩
  obtain ⟨hread, hwrite⟩ := not_or.1 hstuck
  obtain ⟨content, hcontent⟩ : ∃ content, d.read source = .ok content := by
    rcases h : d.read source with e | content
    · exact absurd ⟨e, h⟩ hread
    · exact ⟨content, rfl⟩
  obtain ⟨l, -, hplace, -⟩ := read_eq_ok_iff.1 hcontent
  obtain ⟨x, hrun, hx⟩ := (run_write_aimed hd target (.bytes [])).resolve_left hwrite
  rw [run_copyFile_of_write hplace hcontent hrun]
  rcases x.read source with e | content'
  · exact ⟨hx.isExtended, hx.sameBut, fun _ => ⟨l, hplace⟩⟩
  dsimp only
  rcases hx.run_write content' with ⟨e, hrun'⟩ | ⟨y, hrun', hy⟩
  · rw [hrun']
    exact ⟨hx.isExtended, hx.sameBut, fun _ => ⟨l, hplace⟩⟩
  rw [hrun']
  obtain ⟨hextends, hsame⟩ := hy.setRights (d.rightsAt l)
  exact ⟨hextends, hsame, fun _ => ⟨l, hplace⟩⟩

/-! ## Moving files -/

/-- A path without a slash at its end names something if it leads to something. -/
theorem exists_place?_false (hslash : p.endsInSeparator = false) (h : d.place? p = .ok l) :
    ∃ k, d.place? p false = .ok k := by
  obtain ⟨k, hk⟩ := exists_resolveName_of_place? h
  refine ⟨k, place?_eq_ok_iff_resolve.2 ?_⟩
  rwa [resolve, hslash]

/-- What a move may change; if it fails then nothing was taken away. -/
theorem sameBut_moveFile (hd : d.WellFormed) (hslash : source.endsInSeparator = false)
    (target : Path) :
    SameBut (d.MoveReaches source target) (d.IsFileAt target) d
        ((moveFile source target).run.run d).2 ∧
      ∀ e, ((moveFile source target).run.run d).1 = .error e →
        d.Extends ((moveFile source target).run.run d).2 := by
  obtain ⟨hrename, hstay⟩ := sameBut_rename hd source target (d.IsFileAt target)
  rw [moveFile, run_tryCatch]
  rcases hrun : (rename source target).run.run d with ⟨e | ⟨⟩, x⟩
  · rw [hrun] at hstay
    have hx : x = d := hstay e rfl
    subst hx
    dsimp only
    obtain ⟨hextends, hcopy, hthere⟩ := sameBut_copyFile hd source target
    have hreach : SameBut (x.MoveReaches source target) (x.IsFileAt target) x
        ((copyFile source target).run.run x).2 :=
      hcopy.mono (fun m ⟨l, n, hvacant, hm⟩ => .copied hvacant hm) fun _ => id
    rw [run_bind]
    rcases hrun' : (copyFile source target).run.run x with ⟨e' | ⟨⟩, y⟩
    · rw [hrun'] at hextends hreach
      exact ⟨hreach, fun _ _ => hextends⟩
    rw [hrun'] at hextends hcopy hthere hreach
    dsimp only at hextends hcopy hthere hreach ⊢
    -- The copy has taken nothing away, so the path still names what it named.
    obtain ⟨l, hl⟩ := hthere rfl
    obtain ⟨k, hk⟩ := exists_place?_false hslash hl
    have hfile : ∀ key, x.at? k = some (.file key) → ∃ key', y.at? k = some (.file key') := by
      intro key hkey
      refine ⟨key, (hcopy.at? k ?_).trans hkey⟩
      rintro ⟨l, n, hvacant, rfl⟩
      have hfree : x.IsFree l n := hd.isThere_of_locate hvacant
      rw [hfree.at?_eq_none] at hkey
      cases hkey
    have hk' : y.place? source false = .ok k := hextends.place? hd hfile hk
    have hremove := sameBut_removeFile source (x.IsFileAt target) y
    refine ⟨hreach.trans (hremove.mono (fun m hm => ?_) fun _ => id), fun e he => ?_⟩
    · obtain ⟨k', hplace, hbelow⟩ := hm
      cases hk'.symm.trans hplace
      exact .taken hk hbelow
    · rcases run_removeFile_cases source y with ⟨e', hrun''⟩ | ⟨k', -, -, hrun''⟩
      · rw [hrun'']
        exact hextends
      · rw [hrun''] at he
        cases he
  · rw [hrun] at hrename
    exact ⟨hrename, by simp⟩

end Codemod.Disk
