import Codemod.Proofs.Action
import Codemod.Proofs.Disk.WellFormed

set_option autoImplicit false

/-! # Changes keep the form

Each way in which entries change keeps a tree in good form, and so does every action made of them
(`WellFormed.keeps_rename` and the others). -/

namespace Codemod.Disk

variable {d : Disk} {l m : Location} {name : Name} {entry : Entry}

/-! ## Entries -/

theorem hasDirectory_congr {d' : Disk} (h : d'.at? l = d.at? l) :
    d'.hasDirectory l = d.hasDirectory l := by
  rw [hasDirectory, hasDirectory, h]

theorem concat_ne_nil (l : Location) (name : Name) : l ++ [name] ≠ [] :=
  List.append_ne_nil_of_right_ne_nil _ (List.cons_ne_nil _ _)

theorem hasDirectory_put (hkeep : d.hasDirectory l = true → isDirectoryEntry entry = true)
    (hm : d.hasDirectory m = true) : (d.put l entry).hasDirectory m = true := by
  rw [hasDirectory, at?_put]
  split
  · rename_i h
    exact hkeep (h.1 ▸ hm)
  · exact hm

namespace WellFormed

/-- An entry at a place in a directory. A directory can only give way to another one, since there
may be something in it. -/
theorem put (hd : d.WellFormed) (hname : ∀ n ∈ l, IsEntryName n)
    (hparent : d.hasDirectory l.dropLast = true)
    (hkey : ∀ key, entry = .file key → key < d.nextKey)
    (hkeep : d.hasDirectory l = true → isDirectoryEntry entry = true) :
    (d.put l entry).WellFormed where
  nodup := by
    rw [Disk.put, List.map_append, List.map_singleton]
    refine List.nodup_append.2 ⟨hd.nodup.sublist (List.filter_sublist.map _),
      List.nodup_singleton _, ?_⟩
    rintro a ha b hb rfl
    rw [List.mem_singleton.1 hb] at ha
    obtain ⟨e, he, heq⟩ := List.mem_map.1 ha
    simpa [heq] using (List.mem_filter.1 he).2
  isEntryName := by
    intro e he
    rcases List.mem_append.1 he with he | he
    · exact hd.isEntryName e (List.mem_of_mem_filter he)
    · rw [List.mem_singleton.1 he]
      exact hname
  parent := by
    intro e he
    rcases List.mem_append.1 he with he | he
    · exact hasDirectory_put hkeep (hd.parent e (List.mem_of_mem_filter he))
    · rw [List.mem_singleton.1 he]
      exact hasDirectory_put hkeep hparent
  fresh := by
    intro e he key heq
    rcases List.mem_append.1 he with he | he
    · exact hd.fresh e (List.mem_of_mem_filter he) key heq
    · rw [List.mem_singleton.1 he] at heq
      exact hkey key heq
  rights_fresh := hd.rights_fresh

theorem isEntryName_concat (hd : d.WellFormed) (hfree : d.IsFree l name) :
    ∀ n ∈ l ++ [name], IsEntryName n := by
  intro n hn
  rcases List.mem_append.1 hn with hn | hn
  · obtain ⟨rights, hat⟩ := hasDirectory_iff.1 hfree.hasDirectory
    exact hd.isEntryName_of_at? hat hn
  · rw [List.mem_singleton.1 hn]
    exact hfree.isEntryName

/-- A new entry under a free name. -/
theorem putNew (hd : d.WellFormed) (hfree : d.IsFree l name)
    (hkey : ∀ key, entry = .file key → key < d.nextKey) :
    (d.put (l ++ [name]) entry).WellFormed := by
  refine hd.put (hd.isEntryName_concat hfree) ?_ hkey fun hdir => ?_
  · rw [List.dropLast_concat]
    exact hfree.hasDirectory
  · rw [Disk.hasDirectory, hfree.at?_eq_none] at hdir
    cases hdir

/-- Other rights for a directory. -/
theorem putDirectory (hd : d.WellFormed) (hl : d.hasDirectory l = true) (rights : Rights) :
    (d.put l (.directory rights)).WellFormed := by
  obtain ⟨rights, hat⟩ := hasDirectory_iff.1 hl
  exact hd.put (fun n => hd.isEntryName_of_at? hat) (hd.hasDirectory_dropLast hat)
    (fun key h => by cases h) fun _ => rfl

/-- With other numbers free, and other rights of files. -/
theorem renumber (hd : d.WellFormed) {next : Nat} (hnext : d.nextKey ≤ next)
    {rights : List (Nat × Rights)} (hrights : ∀ r ∈ rights, r.1 < next)
    (contents : List (Nat × Content)) (workingDirectory : Location) :
    (⟨d.entries, contents, rights, next, workingDirectory⟩ : Disk).WellFormed where
  nodup := hd.nodup
  isEntryName := hd.isEntryName
  parent := hd.parent
  fresh := fun e he key heq => Nat.lt_of_lt_of_le (hd.fresh e he key heq) hnext
  rights_fresh := hrights

theorem setContent (hd : d.WellFormed) (key : Nat) (content : Content) :
    (d.setContent key content).WellFormed :=
  hd.renumber (Nat.le_refl _) hd.rights_fresh ..

/-- A new file under a free name. -/
theorem addFile (hd : d.WellFormed) (hfree : d.IsFree l name) (content : Content) :
    (d.addFile (l ++ [name]) content).WellFormed := by
  have hnext : ({ d with nextKey := d.nextKey + 1 } : Disk).WellFormed :=
    hd.renumber (Nat.le_succ _) (fun r hr => Nat.lt_succ_of_lt (hd.rights_fresh r hr)) ..
  have hfree' : ({ d with nextKey := d.nextKey + 1 } : Disk).IsFree l name :=
    ⟨hfree.hasDirectory, hfree.isEntryName, hfree.at?_eq_none⟩
  have hkey : ∀ key, Entry.file d.nextKey = .file key → key < d.nextKey + 1 := by
    rintro key ⟨⟩
    exact Nat.lt_succ_self _
  have hput := hnext.putNew hfree' hkey
  exact hput.renumber (Nat.le_refl _) hput.rights_fresh ..

/-- Without some entries; below what goes nothing stays. -/
theorem filter (hd : d.WellFormed) (kept : Location → Bool)
    (hkept : ∀ l, kept l = true → kept l.dropLast = true ∨ l.dropLast = []) :
    ({ d with entries := d.entries.filter fun e => kept e.1 } : Disk).WellFormed where
  nodup := hd.nodup.sublist (List.filter_sublist.map _)
  isEntryName := fun e he => hd.isEntryName e (List.mem_of_mem_filter he)
  parent := by
    intro e he
    rw [hasDirectory_congr (d := d), hd.parent e (List.mem_of_mem_filter he)]
    rw [at?_filter, if_pos ((hkept e.1 (List.mem_filter.1 he).2).symm)]
  fresh := fun e he => hd.fresh e (List.mem_of_mem_filter he)
  rights_fresh := hd.rights_fresh

theorem cut (hd : d.WellFormed) (l : Location) : (d.cut l).WellFormed := by
  refine hd.filter (fun place => !l.isPrefixOf place) fun m hm => .inl ?_
  rw [Bool.not_eq_true', ← Bool.not_eq_true, List.isPrefixOf_iff_prefix] at hm ⊢
  exact fun h => hm (h.trans (List.dropLast_prefix m))

theorem cutBelow (hd : d.WellFormed) (l : Location) : (d.cutBelow l).WellFormed := by
  refine hd.filter (fun place => !(l.isPrefixOf place && l != place)) fun m hm => .inl ?_
  rw [Bool.not_eq_true', ← Bool.not_eq_true, Bool.and_eq_true, List.isPrefixOf_iff_prefix,
    bne_iff_ne] at hm ⊢
  rintro ⟨h, hne⟩
  refine hm ⟨h.trans (List.dropLast_prefix m), ?_⟩
  rintro rfl
  exact hne (List.dropLast_prefix l |>.eq_of_length_le h.length_le).symm

theorem mem_entries_cut {l : Location} {e : Location × Entry} :
    e ∈ (d.cut l).entries ↔ e ∈ d.entries ∧ ¬ l <+: e.1 := by
  rw [Disk.cut, List.mem_filter, Bool.not_eq_true', ← Bool.not_eq_true, List.isPrefixOf_iff_prefix]

/-- A directory that does not give way is one where it is carried to. -/
theorem hasDirectory_carried {source target m : Location} (hst : ¬ source <+: target)
    (hts : ¬ target <+: source) (hm : d.hasDirectory m = true) (htm : ¬ target <+: m) :
    (d.carry source target).hasDirectory (carried source target m) = true := by
  rw [Disk.hasDirectory, at?_carry_carried d hst hts htm]
  exact hm

/-- With what is at one place, and below it, at another place. -/
theorem carry (hd : d.WellFormed) {source target : Location} (hst : ¬ source <+: target)
    (hts : ¬ target <+: source) (hname : ∀ n ∈ target, IsEntryName n)
    (hparent : d.hasDirectory target.dropLast = true) : (d.carry source target).WellFormed := by
  have htarget : target ≠ [] := by
    rintro rfl
    exact hts List.nil_prefix
  have hentries : (d.carry source target).entries =
      (d.cut target).entries.map fun e => (carried source target e.1, e.2) := rfl
  have hkept := fun e (he : e ∈ (d.cut target).entries) => mem_entries_cut.1 he
  exact {
    nodup := by
      have hplaces : (d.carry source target).entries.map (·.1) =
          ((d.cut target).entries.map (·.1)).map (carried source target) := by
        rw [hentries, List.map_map, List.map_map]
        rfl
      rw [hplaces]
      refine List.Nodup.map_on (fun l hl l' hl' h => ?_) (hd.cut target).nodup
      obtain ⟨e, he, rfl⟩ := List.mem_map.1 hl
      obtain ⟨e', he', rfl⟩ := List.mem_map.1 hl'
      exact carried_injective (hkept e he).2 (hkept e' he').2 h
    isEntryName := by
      intro e' he' n hn
      obtain ⟨e, he, rfl⟩ := List.mem_map.1 (hentries ▸ he')
      have hold := hd.isEntryName e (hkept e he).1
      dsimp only [carried] at hn
      split at hn
      · rcases List.mem_append.1 hn with hn | hn
        · exact hname n hn
        · exact hold n (List.mem_of_mem_drop hn)
      · exact hold n hn
    parent := by
      intro e' he'
      obtain ⟨e, he, rfl⟩ := List.mem_map.1 (hentries ▸ he')
      obtain ⟨hmem, hte⟩ := hkept e he
      by_cases hes : e.1 = source
      · -- The source comes into the directory of the target, which stays where it is.
        have hstay : carried source target target.dropLast = target.dropLast :=
          carried_of_not_under target fun h => hst (h.trans (List.dropLast_prefix target))
        have hnot : ¬ target <+: target.dropLast := fun h => by
          have hlength := h.length_le
          rw [List.length_dropLast] at hlength
          have hpos := List.length_pos_iff.2 htarget
          omega
        have hcarried := carried_append source target []
        rw [List.append_nil, List.append_nil] at hcarried
        dsimp only
        rw [hes, hcarried, ← hstay]
        exact hasDirectory_carried hst hts hparent hnot
      · dsimp only
        rw [dropLast_carried target hes]
        exact hasDirectory_carried hst hts (hd.parent e hmem) fun h =>
          hte (h.trans (List.dropLast_prefix e.1))
    fresh := by
      intro e' he' key heq
      obtain ⟨e, he, rfl⟩ := List.mem_map.1 (hentries ▸ he')
      exact hd.fresh e (hkept e he).1 key heq
    rights_fresh := hd.rights_fresh }

/-- A file that takes the place of nothing or of another file. -/
theorem at?_carry_file (hd : d.WellFormed) {source target : Location} {key : Nat}
    (hsource : d.at? source = some (.file key)) (htarget : d.hasDirectory target = false)
    (hparent : d.hasDirectory target.dropLast = true) (hne : source ≠ target) (m : Location) :
    (d.carry source target).at? m =
      if m = target then some (.file key) else if m = source then none else d.at? m := by
  have hfile : d.hasDirectory source = false := by
    rw [Disk.hasDirectory, hsource]
    rfl
  have hst : ¬ source <+: target := fun h => by
    rw [hd.hasDirectory_above_of_dropLast hparent h hne] at hfile
    cases hfile
  have hts : ¬ target <+: source := fun h => by
    rw [hd.hasDirectory_above hsource h (Ne.symm hne)] at htarget
    cases htarget
  rw [at?_carry d hst hts]
  by_cases hm : m = target
  · rw [if_pos (hm ▸ List.prefix_rfl), if_pos hm, hm, List.drop_length, List.append_nil, hsource]
  · rw [if_neg hm]
    split
    · -- There is nothing below the one nor below the other.
      rename_i hbelow
      have hne' : source ≠ m := fun h => hts (h ▸ hbelow)
      rw [if_neg (Ne.symm hne'), hd.at?_below htarget hbelow (Ne.symm hm)]
      obtain ⟨rest, rfl⟩ := hbelow
      rw [List.drop_left]
      refine hd.at?_below hfile (List.prefix_append ..) fun h => hm ?_
      rw [List.self_eq_append_right.1 h, List.append_nil]
    · split
      · rename_i hbelow
        split
        · rfl
        · rename_i hne'
          exact (hd.at?_below hfile hbelow (Ne.symm hne')).symm
      · rename_i hbelow
        rw [if_neg]
        rintro rfl
        exact hbelow List.prefix_rfl

/-- A file that gets a name which is free. -/
theorem at?_carry_new (hd : d.WellFormed) {source : Location} {key : Nat}
    (hsource : d.at? source = some (.file key)) (htarget : d.IsFree l name) (m : Location) :
    (d.carry source (l ++ [name])).at? m =
      if m = l ++ [name] then some (.file key) else if m = source then none else d.at? m := by
  have hfree : d.hasDirectory (l ++ [name]) = false := by
    rw [Disk.hasDirectory, htarget.at?_eq_none]
    rfl
  have hparent : d.hasDirectory (l ++ [name]).dropLast = true := by
    rw [List.dropLast_concat]
    exact htarget.hasDirectory
  refine hd.at?_carry_file hsource hfree hparent ?_ m
  rintro rfl
  rw [htarget.at?_eq_none] at hsource
  cases hsource

end WellFormed

end Codemod.Disk
