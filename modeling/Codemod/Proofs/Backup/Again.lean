import Codemod.Proofs.Backup.Draw
import Codemod.Proofs.Backup.Fail
import Codemod.Proofs.Backup.Gather
import Codemod.Proofs.Backup.Reject

set_option autoImplicit false

/-! # Taking the turns again

When an archive of files is unpacked again, after its entries have taken their turns, they can take
them again: the members come into the same slots, until an entry fails that has failed before
(`Stopped.again`). Nothing is in their way that was not there, since all that stood between them and
the slots was made or gave way the first time. -/

namespace Codemod.Backup

open Disk Archive

variable {c c' d d' d₁ x x' y : Disk} {staging staging' p archive : Path} {cleanup : Cleanup}
  {top top' m : Location} {tops : List Location} {first first' : Nat} {e : String × Path}
  {table before : Lookup} {made : Location → Prop} {done done' : List ((String × Path) × Location)}

/-! ## Trees that do not know the directories -/

/-- What a tree ignores is ignored when only that has changed. -/
theorem Ignores.of_sameBut {places : Location → Prop} {keys : Nat → Prop} (h : d.Ignores tops)
    (hsame : SameBut places keys d x) (hplaces : ∀ m, places m → IsIn tops m) : x.Ignores tops := by
  refine ⟨?_, fun m target hm hat => h.link m target hm ?_⟩
  · rw [hsame.workingDirectory]
    exact h.outside
  · rw [← hat, hsame.at? m fun hplace => hm (hplaces m hplace)]

theorem Settled.ignores (h : Settled c staging top table made done x) (htops : top ∈ tops)
    (hc : c.Ignores tops) : x.Ignores tops := by
  refine ⟨?_, fun m target hm hat => ?_⟩
  · rw [h.sameFiles.workingDirectory]
    exact hc.outside
  · have hslots : ∀ t ∈ done, m ≠ t.2 := by
      rintro t ht rfl
      obtain ⟨key, hkey⟩ := h.at?_of_mem ht
      cases hkey.symm.trans hat
    rcases h.unchanged m (fun hle => hm ⟨top, htops, hle⟩) hslots with hsame | ⟨-, hdir, -⟩
    · exact hc.link m target hm (hsame ▸ hat)
    · cases hdir.symm.trans hat

/-! ## The same turns again -/

/-- A tree in which an archive was unpacked again, into another directory, after members had come
into their slots. Outside of the first directory everything is still there. -/
structure Resumes (c x c' : Disk) (staging staging' : Path) (top top' : Location)
    (first first' : Nat) : Prop where
  twin : Twin top top' first first' c c'
  fits : ∀ n, Fits staging n ↔ Fits staging' n
  workingDirectory : c'.workingDirectory = x.workingDirectory
  at? : ∀ m entry, ¬ top <+: m → x.at? m = some entry → c'.at? m = some entry ∧ ¬ top' <+: m

/-- In a table with different names an entry has a name that those before it do not have. -/
theorem ofString_ne_of_nodup {after : Lookup} {e' : String × Path}
    (h : ((before ++ e :: after).map fun e => Name.ofString e.1).Nodup) (he' : e' ∈ before) :
    Name.ofString e'.1 ≠ Name.ofString e.1 := by
  rw [List.map_append, List.map_cons] at h
  exact (List.nodup_append.1 h).2.2 _ (List.mem_map_of_mem he') _ List.mem_cons_self

namespace Settled

/-- The member of an entry that has not had its turn is where it was unpacked. -/
theorem at?_stagedAt (h : Settled c staging top table made done x)
    (hmade : ∀ m, top <+: m → ¬ made m)
    (hnew : ∀ t ∈ done, Name.ofString t.1.1 ≠ Name.ofString e.1) :
    x.at? (stagedAt top e) = c.at? (stagedAt top e) := by
  have hunder : top <+: stagedAt top e := List.prefix_append ..
  rcases h.inside _ hunder with hsame | ⟨-, t, ht, heq⟩ | ⟨-, hm⟩
  · exact hsame
  · rw [stagedAt, stagedAt, List.append_cancel_left_eq, List.singleton_inj] at heq
    exact absurd heq.symm (hnew t ht)
  · exact absurd hm (hmade _ hunder)

section Again

variable (h : Settled c staging top table made done x)
  (hresumes : Resumes c x c' staging staging' top top' first first')
  (h' : Settled c' staging' top' before (fun _ => False) done' x') (hdone : ∀ t ∈ done', t ∈ done)
include h hresumes h' hdone

omit h hdone in
/-- Outside of the directories nothing is missing. -/
theorem at?_again {entry : Entry} (hm : ¬ top <+: m) (hat : x.at? m = some entry) :
    ¬ top' <+: m ∧ (x'.at? m = some entry ∨ ∃ t ∈ done', m = t.2) := by
  obtain ⟨hold, hout⟩ := hresumes.at? m entry hm hat
  refine ⟨hout, ?_⟩
  by_cases hslot : ∃ t ∈ done', m = t.2
  · exact .inr hslot
  · rcases h'.unchanged m hout fun t ht heq => hslot ⟨t, ht, heq⟩ with hsame | ⟨-, -, hfalse⟩
    · exact .inl (hsame.trans hold)
    · exact hfalse.elim

omit hdone in
/-- The slots hold files, as before. -/
theorem exists_file_again {t : (String × Path) × Location} (ht : t ∈ done) :
    ¬ top' <+: t.2 ∧ ∃ key, x'.at? t.2 = some (.file key) := by
  obtain ⟨key, hkey⟩ := h.at?_of_mem ht
  obtain ⟨hout, hsame | ⟨t', ht', heq⟩⟩ :=
    h'.at?_again hresumes (h.outside t ht) hkey
  · exact ⟨hout, key, hsame⟩
  · rw [heq] at hout ⊢
    exact ⟨hout, h'.at?_of_mem ht'⟩

/-- Directories and links are what they were. -/
theorem extends_again : (x.cut top).Extends (x'.cut top') := by
  have hdirectory := h'.sameFiles.workingDirectory.trans hresumes.workingDirectory
  refine .of_stays hdirectory fun m entry hentry hat => ?_
  by_cases hnil : m = []
  · subst hnil
    exact hat
  · rw [at?_cut] at hat
    split at hat
    · cases hat
    rename_i hcut
    have hm : ¬ top <+: m := fun hle => hcut ⟨hnil, hle⟩
    obtain ⟨hout, hsame | ⟨t, ht, rfl⟩⟩ := h'.at?_again hresumes hm hat
    · rw [at?_cut_outside hout, hsame]
    · obtain ⟨key, hkey⟩ := h.at?_of_mem (hdone t ht)
      rw [hkey] at hat
      exact absurd (Option.some.inj hat).symm (hentry key)

/-- The slot of an entry is where it was. -/
theorem isSlot_again {t : (String × Path) × Location} (ht : t ∈ done) :
    (x'.cut top').IsSlot t.1.2 t.2 := by
  obtain ⟨hout, key, hkey⟩ := h.exists_file_again hresumes h' ht
  refine (h.slot t ht).of_extends (h.wellFormed.cut top) (h.extends_again hresumes h' hdone) ?_
  rw [hasDirectory, at?_cut_outside hout, hkey]
  rfl

/-- Nothing is in the way of an entry that has had its turn before. -/
theorem isClear_again {t : (String × Path) × Location} (ht : t ∈ done)
    (hnew : ∀ t' ∈ done', Name.ofString t'.1.1 ≠ Name.ofString t.1.1) :
    IsClear staging' top' before t.1 x' ∧ above x' t.1 = x' := by
  have hslot := h.isSlot_again hresumes h' hdone ht
  have hparent : x'.HasParent t.1.2 :=
    Extends.hasParent (.of_cut x' top') (h'.wellFormed.cut top') hslot.hasParent
  have hmake := run_makeAbove_of_hasParent hparent
  have habove : above x' t.1 = x' := by rw [above, hmake]
  obtain ⟨hout, key, hkey⟩ := h.exists_file_again hresumes h' ht
  obtain ⟨key', hkey'⟩ := (h.member t ht).file
  obtain ⟨i, -, hmember, -⟩ := hresumes.twin.exists_file hkey'
  have hstaged := (h'.at?_stagedAt (fun _ _ => id) hnew).trans hmember
  have hfile := h'.leads.hasFile h'.at?_top ((hresumes.fits _).1 (h.member t ht).fits) hstaged
  refine ⟨⟨(h.member t ht).isPlain, by rw [hmake], ⟨first' + i, ?_⟩, t.2, hout, ?_, ?_, ?_⟩, habove⟩
  · rw [habove, ownStatus?, Path.ofString, hfile.place? false]
    exact hfile.at?
  · rw [habove]
    exact hslot
  · rw [habove]
    exact h'.leads.of_extends h'.wellFormed (extends_cut_of_file h'.wellFormed hkey)
  · intro e' _ k hk
    rw [habove] at hk ⊢
    exact hk.cut (h'.wellFormed.cut top')
      (extends_cut_of_file (h'.wellFormed.cut top') ((at?_cut_outside hout).trans hkey))

end Again

/-- The members come into their slots again, one after another. -/
theorem run_again (h : Settled c staging top table made done x)
    (hresumes : Resumes c x c' staging staging' top top' first first')
    (hnodup : ((done.map (·.1)).map fun e => Name.ofString e.1).Nodup)
    {rest : List ((String × Path) × Location)} (hdone : done = done' ++ rest)
    (h' : Settled c' staging' top' (done.map (·.1)) (fun _ => False) done' x') :
    ∃ y, ((rest.map (·.1)).forM (restoreEntry staging')).run.run x' = (.ok (), y) ∧
      Settled c' staging' top' (done.map (·.1)) (fun _ => False) done y := by
  induction rest generalizing done' x' with
  | nil =>
    rw [List.append_nil] at hdone
    subst hdone
    exact ⟨x', rfl, h'⟩
  | cons t rest ih =>
    have hsub : ∀ t ∈ done', t ∈ done := fun t ht => hdone ▸ List.mem_append_left _ ht
    have ht : t ∈ done := by simp [hdone]
    have hnew : ∀ t' ∈ done', Name.ofString t'.1.1 ≠ Name.ofString t.1.1 := by
      rw [hdone, List.map_append, List.map_cons] at hnodup
      exact fun t' ht' => ofString_ne_of_nodup hnodup (List.mem_map_of_mem ht')
    obtain ⟨hclear, habove⟩ := h.isClear_again hresumes h' hsub ht hnew
    obtain ⟨m, y, hrun, hslot, hy⟩ := h'.step (List.mem_map_of_mem ht) hclear
      (by rw [habove]; exact .refl ..)
    have hm : m = t.2 := by
      rw [habove] at hslot
      exact hslot.unique (h.isSlot_again hresumes h' hsub ht)
    subst hm
    obtain ⟨z, hrest, hz⟩ := ih (by rw [hdone, List.append_assoc, List.singleton_append]) hy
    refine ⟨z, ?_, hz⟩
    rw [List.map_cons, run_restoreAll_cons, hrun]
    exact hrest

/-! ## The same in the end -/

section Alike

variable (h : Settled c staging top table made done x)
  (hresumes : Resumes c x c' staging staging' top top' first first')
  (h' : Settled c' staging' top' before (fun _ => False) done x')
  (hwithin : x.Within y) (hy : y.WellFormed) (hsame : SameBut (IsIn tops) (fun _ => False) y c')
  (htops' : top' ∈ tops)
include h hresumes h' hwithin hy hsame htops'

/-- A place outside of the directories holds the same member in both trees, or what it held when the
archive was unpacked again. -/
theorem at?_cases_again (hm : ¬ IsIn tops m) :
    (∃ i, y.at? m = some (.file (first + i)) ∧ x'.at? m = some (.file (first' + i)) ∧
        x'.contentOf (first' + i) = y.contentOf (first + i) ∧
        x'.rightsOf (first' + i) = y.rightsOf (first + i)) ∨
      x'.at? m = y.at? m ∧ ∀ key, y.at? m = some (.file key) →
        x'.contentOf key = y.contentOf key ∧ x'.rightsOf key = y.rightsOf key := by
  have hout' : ¬ top' <+: m := fun hle => hm ⟨top', htops', hle⟩
  by_cases hslot : ∃ t ∈ done, m = t.2
  · obtain ⟨t, ht, rfl⟩ := hslot
    obtain ⟨t', hlast⟩ := exists_lastTo ht
    obtain ⟨key, hmember, hkey⟩ := h.settled _ t' hlast
    obtain ⟨key', hmember', hkey'⟩ := h'.settled _ t' hlast
    obtain ⟨i, rfl, hi, hcontent, hrights⟩ := hresumes.twin.exists_file hmember
    cases hmember'.symm.trans hi
    have hlt := h.wellFormed.key_lt hkey
    refine .inl ⟨i, hwithin.at? _ _ hkey, hkey', ?_, ?_⟩
    · rw [h'.sameFiles.contentOf, hcontent, hwithin.contentOf _ hlt, h.sameFiles.contentOf]
    · rw [h'.sameFiles.rightsOf, hrights, hwithin.rightsOf _ hlt, h.sameFiles.rightsOf]
  · right
    have hsame' : x'.at? m = c'.at? m := by
      rcases h'.unchanged m hout' fun t ht heq => hslot ⟨t, ht, heq⟩ with hsame' | ⟨-, -, hfalse⟩
      · exact hsame'
      · exact hfalse.elim
    refine ⟨hsame'.trans (hsame.at? m hm), fun key hkey => ?_⟩
    have hlt := hy.key_lt hkey
    rw [h'.sameFiles.contentOf, h'.sameFiles.rightsOf]
    exact ⟨hsame.contentOf key hlt id, hsame.rightsOf key hlt id⟩

theorem alike_again (hignores : y.Ignores tops) : Alike tops y x' := by
  refine ⟨hignores, h'.sameFiles.workingDirectory.trans hsame.workingDirectory, fun m hm => ?_⟩
  rcases h.at?_cases_again hresumes h' hwithin hy hsame htops' hm with
    ⟨i, hat, hat', hcontent, hrights⟩ | ⟨hat, hfiles⟩
  · rw [hat, hat']
    exact .file hcontent hrights
  · exact .of_eq hat (fun key hkey => (hfiles key hkey).1) fun key hkey => (hfiles key hkey).2

/-- If a place holds the member of an entry now then it held the same member before. -/
theorem eq_of_member (hle : y.nextKey ≤ first') {i other other' : Nat} (hm : ¬ IsIn tops m)
    (hat : y.at? m = some (.file other)) (hat' : x'.at? m = some (.file other'))
    (heq : other' = first' + i) : other = first + i := by
  rcases h.at?_cases_again hresumes h' hwithin hy hsame htops' hm with
    ⟨j, hj, hj', -⟩ | ⟨hold, -⟩
  · cases hat.symm.trans hj
    cases hat'.symm.trans hj'
    omega
  · cases (hat'.symm.trans hold).trans hat
    have hlt := hy.key_lt hat
    omega

end Alike

end Settled

/-! ## Where the turns stop -/

/-- The names of the entries of a table are different as names of files. -/
theorem nodup_of_gather (h : (gather staging archive).run.run d = (.ok (top, table), c)) :
    (table.map fun e => Name.ofString e.1).Nodup := by
  have hnodup := (sorted_of_tableAt (tableAt_of_gather h)).nodup.map Name.ofString_injective
  rwa [List.map_map] at hnodup

/-- What is left of the turns of a recovery: some members are in their slots, and if an entry has
failed then it would fail again. -/
structure Stopped (c : Disk) (staging : Path) (top : Location) (tops : List Location)
    (table : Lookup) (answer : Except Failure Unit) (y : Disk)
    (done : List ((String × Path) × Location)) (x : Disk) : Prop where
  settled : Settled c staging top table (fun m => ¬ IsIn tops m) done x
  wellFormed : y.WellFormed
  isWithin : x.Within y
  ignores : y.Ignores tops
  last : table = done.map (·.1) ∧ answer = .ok () ∨ ∃ e after failure,
    table = done.map (·.1) ++ e :: after ∧ answer = .error failure ∧ FailsAt staging top e x y ∧
      x.at? (stagedAt top e) = c.at? (stagedAt top e)

/-- However far the entries get, they come to a stop like this. -/
theorem exists_stopped {answer : Except Failure Unit} (hd : d.WellFormed)
    (hignores : d.Ignores tops) (htops : top ∈ tops)
    (hgather : (gather staging archive).run.run d = (.ok (top, table), c))
    (hpaths : ∀ e ∈ table, Omits tops e.2)
    (hmembers : ∀ e ∈ table, c.at? (stagedAt top e) = none ∨
      ∃ key, c.at? (stagedAt top e) = some (.file key))
    (hclear : ∀ turn ∈ turns staging table c,
      ((restoreEntry staging turn.1).run.run turn.2).1 = .ok () →
        IsClear staging top table turn.1 turn.2)
    (hrun : (table.forM (restoreEntry staging)).run.run c = (answer, y)) :
    ∃ done x, Stopped c staging top tops table answer y done x := by
  have hc : c.Ignores tops :=
    Ignores.of_sameBut hignores (sameBut_gather hd hgather fun _ => False).2.2
      fun m hm => ⟨top, htops, hm⟩
  obtain ⟨before, rest, x, htable, hbefore, -, hturns, hlast⟩ := exists_of_turns hrun
  have hstart : Settled c staging top table (fun m => ¬ IsIn tops m) [] c :=
    settled_of_gather hd hgather _
  have hsub : ∀ e ∈ before, e ∈ table := fun e he => htable ▸ List.mem_append_left _ he
  obtain ⟨done, x', hrun', hdone, hx⟩ := hstart.run_restoreAll hsub fun turn hturn _ hsettled => by
    obtain ⟨hmem, hok⟩ := hturns turn hturn
    exact ⟨hclear turn hmem hok, (grown_above_outside hsettled.wellFormed
      (hsettled.ignores htops hc) (hpaths _ (mem_of_turns hmem))).2⟩
  cases hbefore.symm.trans hrun'
  rw [List.map_nil, List.nil_append] at hdone
  subst hdone
  have hxi := hx.ignores htops hc
  rcases hlast with ⟨rfl, rfl, rfl⟩ | ⟨e, after, failure, rfl, rfl, hfailed⟩
  · rw [List.append_nil] at htable
    exact ⟨done, y, hx, hx.wellFormed, .refl y, hxi, .inl ⟨htable, rfl⟩⟩
  · have he : e ∈ table := htable ▸ List.mem_append_right _ List.mem_cons_self
    have hnodup := nodup_of_gather hgather
    rw [htable] at hnodup
    have hsame : x.at? (stagedAt top e) = c.at? (stagedAt top e) :=
      hx.at?_stagedAt (fun m hm hout => hout ⟨top, htops, hm⟩)
        fun t ht => ofString_ne_of_nodup hnodup (List.mem_map_of_mem ht)
    obtain ⟨hy, hwithin, hlinks, hfails⟩ := failsAt_of_restoreEntry hx.wellFormed hxi htops
      (hpaths e he) hx.leads hx.at?_top (hsame ▸ hmembers e he) hfailed
    refine ⟨done, x, hx, hy, hwithin, ⟨?_, fun m link hm hat => ?_⟩,
      .inr ⟨e, after, failure, htable, rfl, hfails, hsame⟩⟩
    · rw [hwithin.workingDirectory]
      exact hxi.outside
    · exact hxi.link m link hm (hlinks m link hat)

/-- The entries come to the same stop when they have their turns again. -/
theorem Stopped.again {answer : Except Failure Unit}
    (h : Stopped c staging top tops table answer y done x) (htops' : top' ∈ tops)
    (hpaths : ∀ e ∈ table, Omits tops e.2) (hnodup : (table.map fun e => Name.ofString e.1).Nodup)
    (hresumes : Resumes c x c' staging staging' top top' first first')
    (hsame : SameBut (IsIn tops) (fun _ => False) y c') (hle : y.nextKey ≤ first')
    (hstart : Settled c' staging' top' (done.map (·.1)) (fun _ => False) [] c') :
    ∃ answer' z, (table.forM (restoreEntry staging')).run.run c' = (answer', z) ∧ z.WellFormed ∧
      LeadsTo z staging' top' ∧ Alike tops y z ∧ (answer' = .ok () ↔ answer = .ok ()) := by
  have hsub : ((done.map (·.1)).map fun e => Name.ofString e.1).Nodup := by
    have hinit : done.map (·.1) <+: table := by
      rcases h.last with ⟨rfl, -⟩ | ⟨e, after, failure, rfl, -⟩
      · exact List.prefix_rfl
      · exact List.prefix_append ..
    exact (hinit.map _).sublist.nodup hnodup
  obtain ⟨x', hrun, hx'⟩ := h.settled.run_again hresumes hsub (List.nil_append _).symm hstart
  have halike := h.settled.alike_again hresumes hx' h.isWithin h.wellFormed hsame htops' h.ignores
  rcases h.last with ⟨rfl, rfl⟩ | ⟨e, after, failure, htable, rfl, hfails, hstaged⟩
  · exact ⟨_, x', hrun, hx'.wellFormed, hx'.leads, halike, Iff.rfl⟩
  have he : e ∈ table := htable ▸ List.mem_append_right _ List.mem_cons_self
  have hstaged' : x'.at? (stagedAt top' e) = c'.at? (stagedAt top' e) := by
    rw [htable] at hnodup
    exact hx'.at?_stagedAt (fun _ _ => id)
      fun t ht => ofString_ne_of_nodup hnodup (List.mem_map_of_mem ht)
  have hmissing : x.at? (stagedAt top e) = none → x'.at? (stagedAt top' e) = none := by
    intro hnone
    have htwin := hresumes.twin.at? [Name.ofString e.1]
    change SameEntry first first' (c.at? (stagedAt top e)) (c'.at? (stagedAt top' e)) at htwin
    rw [hstaged] at hnone
    rw [hstaged']
    rw [hnone] at htwin
    generalize c'.at? (stagedAt top' e) = entry at htwin ⊢
    cases htwin
    rfl
  have hfile : ∀ key, x.at? (stagedAt top e) = some (.file key) → ∃ key',
      x'.at? (stagedAt top' e) = some (.file key') ∧ x'.rightsOf key' = y.rightsOf key ∧
        ∀ m other other', ¬ IsIn tops m → y.at? m = some (.file other) →
          x'.at? m = some (.file other') → other' = key' → other = key := by
    intro key hkey
    obtain ⟨i, rfl, hi, -, hrights⟩ := hresumes.twin.exists_file (hstaged.symm.trans hkey)
    refine ⟨first' + i, hstaged'.trans hi, ?_, fun m other other' hm hat hat' heq => ?_⟩
    · rw [hx'.sameFiles.rightsOf, hrights, h.isWithin.rightsOf _ (h.settled.wellFormed.key_lt hkey),
        h.settled.sameFiles.rightsOf]
    · exact h.settled.eq_of_member hresumes hx' h.isWithin h.wellFormed hsame htops' hle hm hat hat'
        heq
  obtain ⟨failure', z, hfailed, hz⟩ := hfails.again halike (hpaths e he) htops' hx'.leads
    hx'.at?_top (hresumes.fits _) hmissing hfile
  have hextends := (sameBut_restoreEntry hx'.wellFormed staging' e).2 failure' (by rw [hfailed])
  have hwell := keeps_restoreEntry staging' e x' hx'.wellFormed
  rw [hfailed] at hextends hwell
  refine ⟨.error failure', z, ?_, hwell, hx'.leads.of_extends hx'.wellFormed hextends, hz, by simp⟩
  rw [htable, run_restoreAll_append hrun, run_restoreAll_cons, hfailed]

end Codemod.Backup
