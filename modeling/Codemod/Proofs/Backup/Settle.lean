import Codemod.Proofs.Backup.Restore
import Codemod.Proofs.Backup.Spare
import Codemod.Proofs.Disk.Slot

set_option autoImplicit false

/-! # What a recovery settles

If nothing is in the way of an entry in its turn (`IsClear`) then its member comes into the slot of
its path and stays there, unless a later entry has the same slot (`Settled`). So a recovery in which
nothing is in the way of any entry succeeds, and in the end each path of the table names what it was
meant to name (`inPlace_of_recover`). -/

namespace Codemod.Backup

open Disk Archive

variable {c d x y : Disk} {staging p archive : Path} {cleanup : Cleanup} {top m k : Location}
  {key : Nat} {e : String × Path} {table rest : Lookup} {made : Location → Prop}
  {done : List ((String × Path) × Location)}

/-! ## Turns with nothing in the way -/

/-- What is at a place can give way to a member: it is not a link through which the directory for
unpacking or a slot of the table is reached. -/
structure Yields (staging : Path) (top : Location) (table : Lookup) (x : Disk) (m : Location) :
    Prop where
  leads : LeadsTo (x.cut m) staging top
  slots : ∀ e ∈ table, ∀ k, (x.cut top).IsSlot e.2 k → ((x.cut top).cut m).IsSlot e.2 k

/-- Only a link may be unable to give way. -/
theorem yields_of_not_link (hx : x.WellFormed) (hleads : LeadsTo x staging top) (hout : ¬ top <+: m)
    (hm : x.hasDirectory m = false) (hlink : ∀ target, x.at? m ≠ some (.link target)) :
    Yields staging top table x m := by
  have hsame : (x.cut top).at? m = x.at? m := by
    rw [at?_cut, if_neg fun hcut => hout hcut.2]
  refine ⟨hleads.of_extends hx (extends_cut hx hm hlink), fun e _ k hk => hk.cut (hx.cut top) ?_⟩
  refine extends_cut (hx.cut top) ?_ fun target => hsame ▸ hlink target
  rwa [hasDirectory, hsame]

theorem yields_iff :
    Yields staging top table x m ↔ LeadsTo (x.cut m) staging top ∧ ∀ e ∈ table,
      ∀ found ∈ ((x.cut top).resolveName e.2).toOption, (x.cut top).IsSlot e.2 found.place →
        ((x.cut top).cut m).IsSlot e.2 found.place := by
  constructor
  · exact fun h => ⟨h.leads, fun e he found _ => h.slots e he found.place⟩
  · refine fun ⟨hleads, hslots⟩ => ⟨hleads, fun e he k hk => ?_⟩
    obtain ⟨found, hfound, rfl⟩ := hk.found
    exact hslots e he found (by simp [hfound, Except.toOption]) hk

instance (staging : Path) (top : Location) (table : Lookup) (x : Disk) (m : Location) :
    Decidable (Yields staging top table x m) :=
  decidable_of_iff _ yields_iff.symm

/-- An entry in its turn finds its member, which is a file, and a slot for it outside of the
directory for unpacking. -/
structure IsClear (staging : Path) (top : Location) (table : Lookup) (e : String × Path)
    (x : Disk) : Prop where
  isPlain : Lookup.isPlainName e.1 = true
  makes : ((makeAbove e).run.run x).1 = .ok ()
  member : ∃ key, (above x e).ownStatus? (staging.join (.ofString e.1)) = some (.file key)
  slot : ∃ m, ¬ top <+: m ∧ ((above x e).cut top).IsSlot e.2 m ∧
    Yields staging top table (above x e) m

theorem isClear_iff :
    IsClear staging top table e x ↔ Lookup.isPlainName e.1 = true ∧
      ((makeAbove e).run.run x).1 = .ok () ∧
      (∃ entry ∈ (above x e).ownStatus? (staging.join (.ofString e.1)), (keyOf? entry).isSome) ∧
      ∃ found ∈ (((above x e).cut top).resolveName e.2).toOption, ¬ top <+: found.place ∧
        ((above x e).cut top).IsSlot e.2 found.place ∧
        Yields staging top table (above x e) found.place := by
  constructor
  · rintro ⟨hplain, hmakes, ⟨key, hkey⟩, m, hout, hslot, hyields⟩
    obtain ⟨found, hfound, rfl⟩ := hslot.found
    exact ⟨hplain, hmakes, ⟨_, hkey, rfl⟩, found, by simp [hfound, Except.toOption], hout, hslot,
      hyields⟩
  · rintro ⟨hplain, hmakes, ⟨entry, hentry, hfile⟩, found, -, hclear⟩
    obtain ⟨key, hkey⟩ := Option.isSome_iff_exists.1 hfile
    exact ⟨hplain, hmakes, ⟨key, keyOf?_eq_some_iff.1 hkey ▸ hentry⟩, found.place, hclear⟩

instance (staging : Path) (top : Location) (table : Lookup) (e : String × Path) (x : Disk) :
    Decidable (IsClear staging top table e x) :=
  decidable_of_iff _ isClear_iff.symm

theorem at?_cut_outside (h : ¬ top <+: m) : (x.cut top).at? m = x.at? m := by
  rw [at?_cut, if_neg fun hm => h hm.2]

/-- The member of an entry is a file that can be taken out of the directory for unpacking. -/
theorem IsClear.exists_member (hx : x.WellFormed) (htop : x.at? top = some (.directory {}))
    (hclear : IsClear staging top table e x) :
    Fits staging (Name.ofString e.1) ∧ ∃ key, x.at? (stagedAt top e) = some (.file key) ∧
      (above x e).HasFile (staging.join (.ofString e.1)) (stagedAt top e) key := by
  obtain ⟨hwell, hgrown⟩ := grown_above hx e
  obtain ⟨m, -, -, hyields⟩ := hclear.slot
  obtain ⟨key, hmember⟩ := hclear.member
  have hn := isProper_of_isPlainName hclear.isPlain
  have hleads : LeadsTo (above x e) staging top :=
    hyields.leads.of_extends (hwell.cut m) (.of_cut _ _)
  have htop' := hgrown.at?_of_some htop
  rw [ownStatus?] at hmember
  rcases hold : (above x e).place? (staging.join (.ofString e.1)) false with error | old
  · rw [hold] at hmember
    cases hmember
  rw [hold] at hmember
  have hkey : (above x e).at? old = some (.file key) := hmember
  obtain rfl := hleads.place?_join hn hold
  have hfits := ((hleads.place?_join_iff htop' hn (by rw [hkey]; simp)).1 hold).1
  refine ⟨hfits, key, ?_, hleads.hasFile htop' hfits hkey⟩
  rcases hgrown.at?_cases (stagedAt top e) with hsame | ⟨-, hdir, -⟩
  · rw [← hsame]
    exact hkey
  · cases hdir.symm.trans hkey

/-- The member of an entry has come into a slot of its path, and what was there gave way. The
directories above were made before. -/
structure Arrived (staging : Path) (top : Location) (table : Lookup) (e : String × Path) (x : Disk)
    (m : Location) (key : Nat) (y : Disk) : Prop where
  wellFormed : y.WellFormed
  outside : ¬ top <+: m
  slot : ((above x e).cut top).IsSlot e.2 m
  yields : Yields staging top table (above x e) m
  sameFiles : (above x e).SameFiles y
  staged : (above x e).at? (stagedAt top e) = some (.file key)
  at? : y.at? m = some (.file key)
  elsewhere : ∀ k, k ≠ m → y.at? k = (above x e).at? k ∨ k = stagedAt top e ∧ y.at? k = none

/-- If nothing is in its way then a member comes into the slot of its path. -/
theorem run_restoreEntry_of_isClear (hx : x.WellFormed) (htop : x.at? top = some (.directory {}))
    (hclear : IsClear staging top table e x) :
    ∃ m y key, (restoreEntry staging e).run.run x = (.ok (), y) ∧
      x.at? (stagedAt top e) = some (.file key) ∧ Arrived staging top table e x m key y := by
  obtain ⟨hwell, hgrown⟩ := grown_above hx e
  obtain ⟨m, hout, hslot, hyields⟩ := hclear.slot
  obtain ⟨-, key, hstaged, hfile⟩ := hclear.exists_member hx htop
  have hmake : (makeAbove e).run.run x = (.ok (), above x e) := Prod.ext hclear.makes rfl
  have hfree : (above x e).hasDirectory m = false := by
    have h := hslot.notDirectory
    rwa [hasDirectory, at?_cut_outside hout] at h
  obtain ⟨y, hrename, hfiles, hat, helse⟩ := run_rename_to_slot hwell hfile
    (hslot.of_extends (hwell.cut top) (.of_cut _ _) hfree)
  have hrun : (restoreEntry staging e).run.run x = (.ok (), y) := by
    rw [restoreEntry_of_plain staging hclear.isPlain, run_bind_of_ok hmake, run_attempt_eq_ok_iff,
      moveFile, run_tryCatch, hrename]
  have hy := keeps_restoreEntry staging e x hx
  rw [hrun] at hy
  exact ⟨m, y, key, hrun, hstaged, hy, hout, hslot, hyields, hfiles,
    hgrown.at?_of_some hstaged, hat, helse⟩

namespace Arrived

variable (h : Arrived staging top table e x m key y)
include h

/-- Outside of the directory for unpacking nothing else has changed. -/
theorem at?_outside (hk : ¬ top <+: k) (hne : k ≠ m) : y.at? k = (above x e).at? k := by
  rcases h.elsewhere k hne with hsame | ⟨rfl, -⟩
  · exact hsame
  · exact absurd (List.prefix_append ..) hk

/-- What is no file is where it was, unless it gave way. -/
theorem at?_of_entry {entry : Entry} (hentry : ∀ key, entry ≠ .file key) (hne : k ≠ m)
    (hat : (above x e).at? k = some entry) : y.at? k = some entry := by
  rcases h.elsewhere k hne with hsame | ⟨rfl, -⟩
  · rw [hsame, hat]
  · rw [h.staged] at hat
    exact absurd (Option.some.inj hat).symm (hentry key)

/-- What did not give way to the member leads where it led. -/
theorem extends_cut : ((above x e).cut m).Extends y := by
  refine .of_stays h.sameFiles.workingDirectory fun k entry hentry hat => ?_
  rw [at?_cut] at hat
  split at hat
  · cases hat
  · rename_i hk
    refine h.at?_of_entry hentry ?_ hat
    rintro rfl
    exact hk ⟨h.slot.ne_nil, List.prefix_rfl⟩

/-- That is so without the directory for unpacking, too. -/
theorem extends_cut_cut : (((above x e).cut top).cut m).Extends (y.cut top) := by
  refine .of_stays h.sameFiles.workingDirectory fun k entry hentry hat => ?_
  rw [at?_cut] at hat
  split at hat
  · cases hat
  rename_i hk
  rw [at?_cut] at hat ⊢
  split at hat
  · cases hat
  rename_i hk'
  rw [if_neg hk']
  refine h.at?_of_entry hentry ?_ hat
  rintro rfl
  exact hk ⟨h.slot.ne_nil, List.prefix_rfl⟩

/-- The slots of the table are still there, if there is a file in them. -/
theorem isSlot {e' : String × Path} (hx : x.WellFormed) (he' : e' ∈ table) (hk : ¬ top <+: k)
    (hslot : ((above x e).cut top).IsSlot e'.2 k) (hkey : ∃ key, y.at? k = some (.file key)) :
    (y.cut top).IsSlot e'.2 k := by
  obtain ⟨key', hkey'⟩ := hkey
  refine (h.yields.slots e' he' k hslot).of_extends (((grown_above hx e).1.cut top).cut m)
    h.extends_cut_cut ?_
  rw [hasDirectory, at?_cut_outside hk, hkey']
  rfl

end Arrived

/-! ## All turns -/

/-- The last of the entries that came to a place. -/
def lastTo (done : List ((String × Path) × Location)) (m : Location) :
    Option ((String × Path) × Location) :=
  done.reverse.find? fun t => t.2 == m

theorem lastTo_concat (done : List ((String × Path) × Location)) (e : String × Path)
    (k m : Location) :
    lastTo (done ++ [(e, k)]) m = if k = m then some (e, k) else lastTo done m := by
  rw [lastTo, List.reverse_append, List.reverse_singleton, List.singleton_append, List.find?_cons]
  by_cases h : k = m
  · simp [h]
  · have hne : (k == m) = false := by simpa using h
    simp only [hne, if_neg h]
    rfl

theorem exists_lastTo {t : (String × Path) × Location} (h : t ∈ done) :
    ∃ t', lastTo done t.2 = some t' := by
  rw [← Option.isSome_iff_exists, lastTo, List.find?_isSome]
  exact ⟨t, List.mem_reverse.2 h, by simp⟩

theorem lastTo_eq_some {t : (String × Path) × Location} (h : lastTo done m = some t) :
    t ∈ done ∧ t.2 = m :=
  ⟨List.mem_reverse.1 (List.mem_of_find?_eq_some h), by simpa using List.find?_some h⟩

theorem forall_mem_concat {α : Type} {P : α → Prop} {as : List α} {a : α} :
    (∀ b ∈ as ++ [a], P b) ↔ (∀ b ∈ as, P b) ∧ P a := by
  rw [List.forall_mem_append, List.forall_mem_singleton]

/-- The member of an entry is a file that was unpacked under a name which fits. -/
structure HasMember (c : Disk) (staging : Path) (top : Location) (e : String × Path) : Prop where
  isPlain : Lookup.isPlainName e.1 = true
  fits : Fits staging (Name.ofString e.1)
  file : ∃ key, c.at? (stagedAt top e) = some (.file key)

/-- A tree in which the members of some entries came into their slots, since an archive was
unpacked. Elsewhere directories were made, at some places at most. -/
structure Settled (c : Disk) (staging : Path) (top : Location) (table : Lookup)
    (made : Location → Prop) (done : List ((String × Path) × Location)) (x : Disk) : Prop where
  wellFormed : x.WellFormed
  sameFiles : c.SameFiles x
  leads : LeadsTo x staging top
  at?_top : x.at? top = some (.directory {})
  mem : ∀ t ∈ done, t.1 ∈ table
  outside : ∀ t ∈ done, ¬ top <+: t.2
  slot : ∀ t ∈ done, (x.cut top).IsSlot t.1.2 t.2
  member : ∀ t ∈ done, HasMember c staging top t.1
  /-- The member of the last entry for a slot is there. -/
  settled : ∀ m t, lastTo done m = some t → ∃ key,
    c.at? (stagedAt top t.1) = some (.file key) ∧ x.at? m = some (.file key)
  unchanged : ∀ m, ¬ top <+: m → (∀ t ∈ done, m ≠ t.2) →
    x.at? m = c.at? m ∨ c.at? m = none ∧ x.at? m = some (.directory {}) ∧ made m
  inside : ∀ m, top <+: m → x.at? m = c.at? m ∨
    (x.at? m = none ∧ ∃ t ∈ done, m = stagedAt top t.1) ∨ x.at? m = some (.directory {}) ∧ made m

namespace Settled

theorem at?_of_mem (h : Settled c staging top table made done x) {t : (String × Path) × Location}
    (ht : t ∈ done) : ∃ key, x.at? t.2 = some (.file key) := by
  obtain ⟨t', hlast⟩ := exists_lastTo ht
  obtain ⟨key, -, hkey⟩ := h.settled _ t' hlast
  exact ⟨key, hkey⟩

/-- The member of an entry lies where it was unpacked if it lies there as a file. -/
theorem at?_unpacked (h : Settled c staging top table made done x)
    (hstaged : x.at? (stagedAt top e) = some (.file key)) :
    c.at? (stagedAt top e) = some (.file key) := by
  rcases h.inside (stagedAt top e) (List.prefix_append ..) with hsame | ⟨hnone, -⟩ | ⟨hdir, -⟩
  · rw [← hsame, hstaged]
  · cases hstaged.symm.trans hnone
  · cases hstaged.symm.trans hdir

section Arrived

variable (h : Settled c staging top table made done x) (hgrown : x.Grown made (above x e))
  (harrived : Arrived staging top table e x m key y)
include h hgrown harrived

/-- The slots that are taken stay, and so does what is in them unless the member came there. -/
theorem isSlot_of_arrived {t : (String × Path) × Location} (ht : t ∈ done) :
    (y.cut top).IsSlot t.1.2 t.2 := by
  obtain ⟨key', hkey'⟩ := h.at?_of_mem ht
  have hthere := hgrown.at?_of_some hkey'
  have hout := h.outside t ht
  refine harrived.isSlot h.wellFormed (h.mem t ht) hout ?_ ?_
  · refine (h.slot t ht).of_extends (h.wellFormed.cut top) (hgrown.isExtended.cut top) ?_
    rw [hasDirectory, at?_cut_outside hout, hthere]
    rfl
  · by_cases hm : t.2 = m
    · exact ⟨key, hm ▸ harrived.at?⟩
    · exact ⟨key', (harrived.at?_outside hout hm).trans hthere⟩

theorem settled_of_arrived {t : (String × Path) × Location}
    (hstaged : c.at? (stagedAt top e) = some (.file key))
    (hlast : lastTo (done ++ [(e, m)]) k = some t) :
    ∃ key, c.at? (stagedAt top t.1) = some (.file key) ∧ y.at? k = some (.file key) := by
  rw [lastTo_concat] at hlast
  split at hlast
  · rename_i hk
    cases hlast
    exact ⟨key, hstaged, hk ▸ harrived.at?⟩
  · rename_i hk
    obtain ⟨key', hkey', hthere⟩ := h.settled k t hlast
    obtain ⟨ht, rfl⟩ := lastTo_eq_some hlast
    exact ⟨key', hkey', (harrived.at?_outside (h.outside t ht) (Ne.symm hk)).trans
      (hgrown.at?_of_some hthere)⟩

theorem unchanged_of_arrived (hk : ¬ top <+: k) (hne : ∀ t ∈ done, k ≠ t.2) (hm : k ≠ m) :
    y.at? k = c.at? k ∨ c.at? k = none ∧ y.at? k = some (.directory {}) ∧ made k := by
  rw [harrived.at?_outside hk hm]
  have hbefore := h.unchanged k hk hne
  rcases hgrown.at?_cases k with hsame | ⟨hnone, hnew, hmade⟩
  · rw [hsame]
    exact hbefore
  · refine .inr ⟨?_, hnew, hmade⟩
    rcases hbefore with hsame | ⟨hnone', -⟩
    · rw [← hsame, hnone]
    · exact hnone'

theorem inside_of_arrived (hk : top <+: k) : y.at? k = c.at? k ∨
    (y.at? k = none ∧ ∃ t ∈ done ++ [(e, m)], k = stagedAt top t.1) ∨
      y.at? k = some (.directory {}) ∧ made k := by
  have hm : k ≠ m := by
    rintro rfl
    exact harrived.outside hk
  rcases harrived.elsewhere k hm with hsame | ⟨rfl, hnone⟩
  · rw [hsame]
    rcases hgrown.at?_cases k with hsame' | ⟨-, hnew, hmade⟩
    · rw [hsame']
      refine (h.inside k hk).imp_right (.imp_left ?_)
      rintro ⟨hnone, t, ht, rfl⟩
      exact ⟨hnone, t, List.mem_append_left _ ht, rfl⟩
    · exact .inr (.inr ⟨hnew, hmade⟩)
  · exact .inr (.inl ⟨hnone, (e, m), by simp, rfl⟩)

end Arrived

/-- The next member comes into its slot. -/
theorem step (h : Settled c staging top table made done x) (he : e ∈ table)
    (hclear : IsClear staging top table e x) (hgrown : x.Grown made (above x e)) :
    ∃ m y, (restoreEntry staging e).run.run x = (.ok (), y) ∧
      ((above x e).cut top).IsSlot e.2 m ∧
      Settled c staging top table made (done ++ [(e, m)]) y := by
  obtain ⟨m, y, key, hrun, hstaged, harrived⟩ :=
    run_restoreEntry_of_isClear h.wellFormed h.at?_top hclear
  have hunpacked := h.at?_unpacked hstaged
  have hfits := (hclear.exists_member h.wellFormed h.at?_top).1
  have hlast := harrived.isSlot h.wellFormed he harrived.outside harrived.slot ⟨key, harrived.at?⟩
  have hne : top ≠ m := by
    rintro rfl
    exact harrived.outside List.prefix_rfl
  exact ⟨m, y, hrun, harrived.slot, {
    wellFormed := harrived.wellFormed
    sameFiles := (h.sameFiles.trans hgrown.sameFiles).trans harrived.sameFiles
    leads := harrived.yields.leads.of_extends ((grown_above h.wellFormed e).1.cut m)
      harrived.extends_cut
    at?_top := harrived.at?_of_entry (by simp) hne (hgrown.at?_of_some h.at?_top)
    mem := forall_mem_concat.2 ⟨h.mem, he⟩
    outside := forall_mem_concat.2 ⟨h.outside, harrived.outside⟩
    slot := forall_mem_concat.2 ⟨fun _ => h.isSlot_of_arrived hgrown harrived, hlast⟩
    member := forall_mem_concat.2 ⟨h.member, hclear.isPlain, hfits, key, hunpacked⟩
    settled := fun _ _ => h.settled_of_arrived hgrown harrived hunpacked
    unchanged := fun k hk hnot =>
      have hnot := forall_mem_concat.1 hnot
      h.unchanged_of_arrived hgrown harrived hk hnot.1 hnot.2
    inside := fun _ => h.inside_of_arrived hgrown harrived }⟩

/-- However many entries are left, all members come into their slots. -/
theorem run_restoreAll (h : Settled c staging top table made done x) (hrest : ∀ e ∈ rest, e ∈ table)
    (hclear : ∀ turn ∈ turns staging rest x, ∀ done, Settled c staging top table made done turn.2 →
      IsClear staging top table turn.1 turn.2 ∧ turn.2.Grown made (above turn.2 turn.1)) :
    ∃ done' y, (rest.forM (restoreEntry staging)).run.run x = (.ok (), y) ∧
      done'.map (·.1) = done.map (·.1) ++ rest ∧ Settled c staging top table made done' y := by
  induction rest generalizing done x with
  | nil => exact ⟨done, x, rfl, (List.append_nil _).symm, h⟩
  | cons e rest ih =>
    rw [List.forall_mem_cons] at hrest
    rw [turns_cons, List.forall_mem_cons] at hclear
    obtain ⟨hfirst, hgrown⟩ := hclear.1 done h
    obtain ⟨m, y, hrun, -, hy⟩ := h.step hrest.1 hfirst hgrown
    rw [hrun] at hclear
    obtain ⟨done', z, hrun', hdone, hz⟩ := ih hy hrest.2 hclear.2
    refine ⟨done', z, ?_, ?_, hz⟩
    · rw [run_restoreAll_cons, hrun]
      exact hrun'
    · rw [hdone, List.map_append, List.map_singleton, List.append_assoc, List.singleton_append]

end Settled

/-! ## The directory for unpacking -/

/-- Before the first turn nothing has been settled. -/
theorem settled_of_gather {entries : Lookup} (hd : d.WellFormed)
    (h : (gather staging archive).run.run d = (.ok (top, table), c)) (made : Location → Prop) :
    Settled c staging top entries made [] c := by
  obtain ⟨l, n, rfl, hfound, -, -, hinside⟩ := gather_eq_ok hd h
  exact {
    wellFormed := hinside.wellFormed
    sameFiles := .refl c
    leads := leadsTo_of_inside hd hfound hinside
    at?_top := by
      rw [hinside.outside _ fun hbelow => hbelow.2 rfl, at?_put, if_pos ⟨rfl, concat_ne_nil _ _⟩]
    mem := fun _ h => nomatch h
    outside := fun _ h => nomatch h
    slot := fun _ h => nomatch h
    member := fun _ h => nomatch h
    settled := fun _ _ h => nomatch h
    unchanged := fun _ _ _ => .inl rfl
    inside := fun _ _ => .inl rfl }

/-- When all entries had their turns the directory for unpacking goes, and then what the cleanup
removes. -/
theorem recover_of_turns
    (hgather : (gather staging archive).run.run d = (.ok (top, table), c))
    (hturns : (table.forM (restoreEntry staging)).run.run c = (.ok (), x))
    (harchive : archiveAt d cleanup p = .ok archive) :
    recover staging p cleanup d =
      ((((clean cleanup p archive).run.run ((removeTree staging).run.run x).2).1,
          [recovered table.length archive]),
        ((clean cleanup p archive).run.run ((removeTree staging).run.run x).2).2) := by
  rw [recover_of_gather harchive hgather, hturns]

/-- When the directory for unpacking goes, or some of it, everything else stays. -/
theorem removeTree_outside (hleads : LeadsTo x staging top) :
    x.SameFiles ((removeTree staging).run.run x).2 ∧
      ∀ m, ¬ top <+: m → ((removeTree staging).run.run x).2.at? m = x.at? m := by
  obtain ⟨rights, hat⟩ := hasDirectory_iff.1 hleads.2
  have hbelow : ∀ m, ¬ top <+: m → (x.cutBelow top).at? m = x.at? m := fun m hm => by
    rw [at?_cutBelow, if_neg fun h => hm h.1]
  rw [run_removeTree, hleads.1]
  simp only [hat]
  split
  · exact ⟨.refl x, fun _ _ => rfl⟩
  · split
    · exact ⟨rfl, hbelow⟩
    · split
      · exact ⟨rfl, fun m hm => (at?_cut_outside hm).trans (hbelow m hm)⟩
      · exact ⟨rfl, hbelow⟩

/-! ## Entries in place -/

/-- The last of the entries whose path names a place. -/
def lastNaming (d : Disk) (table : Lookup) (m : Location) : Option (String × Path) :=
  table.reverse.find? fun e => d.resolveName e.2 = .ok (.entry m)

/-- The path of an entry names a file with the content of its member or, if the paths of several
entries name that file, of the member of the last one. What the members hold is read off the
unpacked archive. -/
structure InPlace (c : Disk) (top : Location) (table : Lookup) (d : Disk) (e : String × Path)
    (m : Location) : Prop where
  slot : d.IsSlot e.2 m
  holds : ∃ last key member, lastNaming d table m = some last ∧ d.at? m = some (.file key) ∧
    c.at? (stagedAt top last) = some (.file member) ∧ d.contentOf key = c.contentOf member

/-- Which entry came to a place last is seen from what their paths name. -/
theorem lastNaming_eq (hnames : ∀ t ∈ done, d.resolveName t.1.2 = .ok (.entry t.2)) (m : Location) :
    lastNaming d (done.map (·.1)) m = (lastTo done m).map (·.1) := by
  rw [lastNaming, lastTo, ← List.map_reverse, List.find?_map]
  refine congrArg _ (List.find?_congr fun t ht => ?_)
  simp [hnames t (List.mem_reverse.1 ht), beq_eq_decide]

/-- When everything has been settled and the directory for unpacking is gone, the entries are in
place. -/
theorem Settled.inPlace (h : Settled c staging top (done.map (·.1)) made done x)
    (he : e ∈ done.map (·.1)) :
    ∃ m, InPlace c top (done.map (·.1)) ((removeTree staging).run.run x).2 e m := by
  obtain ⟨hfiles, hat⟩ := removeTree_outside h.leads
  have hwell : ((removeTree staging).run.run x).2.WellFormed :=
    WellFormed.keeps_removeTree staging x h.wellFormed
  generalize ((removeTree staging).run.run x).2 = z at hfiles hat hwell ⊢
  have hextends : (x.cut top).Extends z := by
    refine .of_stays hfiles.workingDirectory fun k entry _ hk => ?_
    rw [at?_cut] at hk
    split at hk
    · cases hk
    · rename_i hnot
      by_cases hnil : k = []
      · rw [hnil] at hk ⊢
        exact hk
      · rw [hat k fun hbelow => hnot ⟨hnil, hbelow⟩, hk]
  have hfile : ∀ t ∈ done, ∃ key, z.at? t.2 = some (.file key) := by
    intro t ht
    rw [hat _ (h.outside t ht)]
    exact h.at?_of_mem ht
  have hslot : ∀ t ∈ done, z.IsSlot t.1.2 t.2 := by
    intro t ht
    refine (h.slot t ht).of_extends (h.wellFormed.cut top) hextends ?_
    obtain ⟨key, hkey⟩ := hfile t ht
    rw [hasDirectory, hkey]
    rfl
  have hnames : ∀ t ∈ done, z.resolveName t.1.2 = .ok (.entry t.2) := by
    intro t ht
    obtain ⟨key, hkey⟩ := hfile t ht
    exact (hslot t ht).resolveName hwell (by simp [hkey])
  obtain ⟨t, ht, rfl⟩ := List.mem_map.1 he
  obtain ⟨t', hlast⟩ := exists_lastTo ht
  obtain ⟨key, hmember, hkey⟩ := h.settled _ t' hlast
  refine ⟨t.2, hslot t ht, t'.1, key, key, ?_, ?_, hmember, ?_⟩
  · rw [lastNaming_eq hnames, hlast]
    rfl
  · rw [hat _ (h.outside t ht), hkey]
  · rw [hfiles.contentOf, h.sameFiles.contentOf]

/-- A recovery in which nothing is in the way of any entry succeeds, up to the cleanup, and then all
entries are in place. -/
theorem inPlace_of_recover (hd : d.WellFormed) (harchive : archiveAt d cleanup p = .ok archive)
    (hgather : (gather staging archive).run.run d = (.ok (top, table), c))
    (hclear : ∀ turn ∈ turns staging table c, IsClear staging top table turn.1 turn.2) :
    ∃ d', recover staging archive .keep d = ((.ok (), [recovered table.length archive]), d') ∧
      recover staging p cleanup d =
        ((((clean cleanup p archive).run.run d').1, [recovered table.length archive]),
          ((clean cleanup p archive).run.run d').2) ∧
      ∀ e ∈ table, ∃ m, InPlace c top table d' e m := by
  obtain ⟨done, x, hturns, hdone, hsettled⟩ :=
    (settled_of_gather hd hgather fun _ => True).run_restoreAll (fun _ he => he)
      fun turn hturn _ h => ⟨hclear turn hturn, (grown_above h.wellFormed turn.1).2⟩
  rw [List.map_nil, List.nil_append] at hdone
  subst hdone
  exact ⟨_, recover_of_turns hgather hturns rfl, recover_of_turns hgather hturns harchive,
    fun e he => hsettled.inPlace he⟩

end Codemod.Backup
