import Codemod.Proofs.Archive.Inside
import Codemod.Proofs.Backup.Turn
import Codemod.Proofs.Disk.SameBut

set_option autoImplicit false

/-! # How far a recovery reaches

Unpacking changes nothing outside of the directory for it (`readOut_inside`). After that an entry in
its turn reaches the directories above its path, what its member is moved from and what it is moved
over (`Touches`), and nothing else (`sameBut_restoreAll`). -/

namespace Codemod.Backup

open Disk Archive

variable {d c x x' : Disk} {staging p archive : Path} {cleanup : Cleanup} {top m l : Location}
  {n : Name} {e : String × Path} {table : Lookup}

/-! ## The directory for unpacking -/

/-- A path leads to a directory, without a link at its end. -/
def LeadsTo (d : Disk) (p : Path) (l : Location) : Prop :=
  d.place? p false = .ok l ∧ d.hasDirectory l = true

instance (d : Disk) (p : Path) (l : Location) : Decidable (LeadsTo d p l) :=
  inferInstanceAs (Decidable (_ ∧ _))

/-- A name that an entry can have can be put after the path of a directory. -/
structure Fits (staging : Path) (n : Name) : Prop extends IsEntryName n where
  isPassable : isPassable (staging.join ⟨n⟩) = true

namespace LeadsTo

theorem of_extends (hx : x.WellFormed) (hextends : x.Extends x') (h : LeadsTo x staging top) :
    LeadsTo x' staging top := by
  refine ⟨hextends.place? hx (fun key hkey => ?_) h.1, hextends.hasDirectory h.2⟩
  have hdir := h.2
  rw [hasDirectory, hkey] at hdir
  cases hdir

/-- A name after the path leads to what has the name in the directory. -/
theorem place?_join (h : LeadsTo x staging top) (hn : IsProper n)
    (hplace : x.place? (staging.join ⟨n⟩) false = .ok m) : m = top ++ [n] := by
  obtain ⟨hne, -, -, hchase⟩ := place?_eq_ok_iff.1 h.1
  obtain ⟨left, henter⟩ := enter_of_chase hchase h.2
  obtain ⟨-, -, -, hlast⟩ := place?_eq_ok_iff.1 hplace
  have hstart : x.startOf (staging.join ⟨n⟩) = x.startOf staging := by
    rw [startOf, startOf, Path.isAbsolute_join hne hn.isPart]
  rw [hstart, Path.segments_join _ hn.isPart, Path.endsInSeparator_join _ hn.isPart,
    chase_append _ _ _ _ _ _ (List.cons_ne_nil _ _), henter] at hlast
  dsimp only at hlast
  rw [chase_singleton] at hlast
  rcases turn_cases x top n with ⟨hsearch, ⟨hhere, -⟩ | ⟨habove, -⟩ | hname⟩ | hno | hno
  · exact absurd hhere hn.ne_here
  · exact absurd habove hn.ne_above
  · rw [turn_of_isOrdinary hsearch hname] at hlast
    rcases hat : x.at? (top ++ [n]) with _ | rights | key | link
    all_goals
      rw [hat] at hlast
      cases hlast
    all_goals rfl
  · rw [hno] at hlast
    cases hlast
  · rw [hno] at hlast
    cases hlast

/-- A name after the path leads to what has the name in the directory, if it fits there. -/
theorem place?_join_iff (h : LeadsTo x staging top)
    (htop : x.at? top = some (.directory {})) (hn : IsProper n)
    (hlink : ∀ target, x.at? (top ++ [n]) ≠ some (.link target)) {follow : Bool} :
    x.place? (staging.join ⟨n⟩) follow = .ok m ↔
      Fits staging n ∧ x.at? (top ++ [n]) ≠ none ∧ m = top ++ [n] := by
  obtain ⟨hne, -, hstart, hchase⟩ := place?_eq_ok_iff.1 h.1
  obtain ⟨left, henter⟩ := enter_of_chase hchase h.2
  have hsame : x.startOf (staging.join ⟨n⟩) = x.startOf staging := by
    rw [startOf, startOf, Path.isAbsolute_join hne hn.isPart]
  have hsearch : (x.rightsAt top).searchable = true := by rw [rightsAt, htop]
  rw [place?_eq_ok_iff, hsame, Path.segments_join _ hn.isPart,
    Path.endsInSeparator_join _ hn.isPart,
    chase_append _ _ _ _ _ _ (List.cons_ne_nil _ _), henter]
  dsimp only
  rw [chase_singleton]
  constructor
  · rintro ⟨-, hpass, -, hlast⟩
    rcases turn_cases x top n with ⟨-, ⟨hhere, -⟩ | ⟨habove, -⟩ | hname⟩ | hno | hno
    · exact absurd hhere hn.ne_here
    · exact absurd habove hn.ne_above
    · rw [turn_of_isOrdinary hsearch hname] at hlast
      refine ⟨⟨⟨hname, hn.isPart⟩, hpass⟩, ?_⟩
      rcases hat : x.at? (top ++ [n]) with _ | rights | key | target
      · rw [hat] at hlast
        cases hlast
      · rw [hat] at hlast
        cases hlast
        exact ⟨by simp, rfl⟩
      · rw [hat] at hlast
        cases hlast
        exact ⟨by simp, rfl⟩
      · exact absurd hat (hlink target)
    · rw [hno] at hlast
      cases hlast
    · rw [hno] at hlast
      cases hlast
  · rintro ⟨hfits, hat, rfl⟩
    refine ⟨Path.bytes_join_ne_nil _ hn.isPart, hfits.isPassable, hstart, ?_⟩
    rw [turn_of_isOrdinary hsearch hfits.toIsOrdinary]
    rcases hentry : x.at? (top ++ [n]) with _ | rights | key | target
    · exact absurd hentry hat
    · rfl
    · rfl
    · exact absurd hentry (hlink target)

/-- A file in the directory is one that can be taken, if its name fits. -/
theorem hasFile {key : Nat} (h : LeadsTo x staging top) (htop : x.at? top = some (.directory {}))
    (hfits : Fits staging n) (hkey : x.at? (top ++ [n]) = some (.file key)) :
    x.HasFile (staging.join ⟨n⟩) (top ++ [n]) key where
  place? := fun _ => (h.place?_join_iff htop ⟨hfits.isPart, hfits.ne_here, hfits.ne_above⟩
    (by rw [hkey]; simp)).2 ⟨hfits, by rw [hkey]; simp, rfl⟩
  at? := hkey
  endsSpecially := by
    simp [endsSpecially, Path.segments_join staging hfits.isPart, hfits.ne_here, hfits.ne_above]
  writable := by rw [List.dropLast_concat, rightsAt, htop]

/-- When the directory goes, or some of it, nothing else is touched. -/
theorem sameBut_removeTree (h : LeadsTo x staging top) (keys : Nat → Prop) :
    SameBut (top <+: ·) keys x ((removeTree staging).run.run x).2 := by
  refine (Disk.sameBut_removeTree staging keys x).mono ?_ fun _ => id
  rintro m ⟨l, hplace, hm⟩
  cases h.1.symm.trans hplace
  exact hm

end LeadsTo

/-! ## Unpacking -/

/-- Unpacking happens in the directory for it, however far it gets, and that is where it was made.
-/
theorem readOut_inside (hd : d.WellFormed) (hfound : d.resolveName staging = .ok (.vacant l n))
    (archive : Path) :
    Inside (d.put (l ++ [n]) (.directory {})) (l ++ [n])
        ((readOut staging archive).run.run (d.put (l ++ [n]) (.directory {}))).2 ∧
      ∀ top table, ((readOut staging archive).run.run (d.put (l ++ [n]) (.directory {}))).1 =
        .ok (top, table) → top = l ++ [n] := by
  have hfree : d.IsFree l n := hd.isThere_of_locate hfound
  have hwell : (d.put (l ++ [n]) (.directory {})).WellFormed :=
    hd.putNew hfree (by simp)
  have htop : (d.put (l ++ [n]) (.directory {})).at? (l ++ [n]) = some (.directory {}) := by
    rw [at?_put, if_pos ⟨rfl, concat_ne_nil _ _⟩]
  have hself : Inside (d.put (l ++ [n]) (.directory {})) (l ++ [n])
      (d.put (l ++ [n]) (.directory {})) := by
    refine inside_self hwell fun m key hm hat => ?_
    by_cases heq : m = l ++ [n]
    · rw [heq, htop] at hat
      cases hat
    · rw [at?_put, if_neg fun h => heq h.1] at hat
      have hnone : d.at? m = none := by
        refine hd.at?_below (by rw [hasDirectory, hfree.at?_eq_none]; rfl) hm (Ne.symm heq)
      rw [hnone] at hat
      cases hat
  have hplace : (d.put (l ++ [n]) (.directory {})).place? staging = .ok (l ++ [n]) :=
    (within_put hfree.at?_eq_none _).isExtended.place?_of_vacant hd (fun _ => rfl) hfound htop
      (by simp) true
  rw [readOut, run_bind, run_get]
  dsimp only
  rw [run_bind, run_check]
  rcases membersAt (d.put (l ++ [n]) (.directory {})) archive with failure | members
  · exact ⟨hself, by simp⟩
  dsimp only
  rw [run_bind, run_attempt, run_look, hplace]
  dsimp only [mapError_ok]
  have hunpack := keeps_unpack (fun m => hwell.isEntryName_of_at? htop) members _ hself
  rw [run_bind, run_attempt]
  rcases hrun : (Archive.unpack (l ++ [n]) members).run.run (d.put (l ++ [n]) (.directory {})) with
    ⟨failure | ⟨⟩, c⟩
  · rw [hrun] at hunpack
    exact ⟨hunpack, by rintro _ _ ⟨⟩⟩
  rw [hrun] at hunpack
  dsimp only [mapError_ok]
  rw [run_bind, run_get]
  dsimp only
  rw [run_bind, run_check]
  rcases tableAt c staging archive with failure | table
  · exact ⟨hunpack, by simp⟩
  · refine ⟨hunpack, fun top table h => ?_⟩
    cases h
    rfl

/-- The directory for unpacking is where it was made, whatever was unpacked into it. -/
theorem leadsTo_of_inside (hd : d.WellFormed) (hfound : d.resolveName staging = .ok (.vacant l n))
    (h : Inside (d.put (l ++ [n]) (.directory {})) (l ++ [n]) x) :
    LeadsTo x staging (l ++ [n]) := by
  have hfree : d.IsFree l n := hd.isThere_of_locate hfound
  have hnone : ∀ m, l ++ [n] <+: m → d.at? m = none := by
    intro m hm
    by_cases heq : l ++ [n] = m
    · rw [← heq, hfree.at?_eq_none]
    · exact hd.at?_below (by rw [hasDirectory, hfree.at?_eq_none]; rfl) hm heq
  have hstay : ∀ m entry, d.at? m = some entry → x.at? m = some entry := by
    intro m entry hat
    rw [h.outside m, (within_put hfree.at?_eq_none _).at? m entry hat]
    rintro ⟨hm, -⟩
    rw [hnone m hm] at hat
    cases hat
  have htop : x.at? (l ++ [n]) = some (.directory {}) := by
    rw [h.outside _ fun hbelow => hbelow.2 rfl, at?_put, if_pos ⟨rfl, concat_ne_nil _ _⟩]
  have hextends : d.Extends x :=
    ⟨h.workingDirectory, fun m _ => hstay m _, fun m _ => hstay m _⟩
  exact ⟨hextends.place?_of_vacant hd (fun _ => rfl) hfound htop (by simp) false,
    hasDirectory_of_at? htop⟩

/-- An archive is unpacked into a new directory, and nothing else changes. -/
theorem gather_eq_ok (hd : d.WellFormed)
    (h : (gather staging archive).run.run d = (.ok (top, table), c)) :
    ∃ l n, top = l ++ [n] ∧ d.resolveName staging = .ok (.vacant l n) ∧
      (Disk.makeDirectory staging).run.run d = (.ok (), d.put top (.directory {})) ∧
      (readOut staging archive).run.run (d.put top (.directory {})) = (.ok (top, table), c) ∧
      Inside (d.put top (.directory {})) top c := by
  rw [gather] at h
  obtain ⟨⟨⟩, b, hmake, hread⟩ := run_bind_eq_ok_iff.1 h
  rw [run_attempt_eq_ok_iff] at hmake
  rcases run_makeDirectory_cases staging d with ⟨error, hrun⟩ | ⟨l, n, hfound, hrun⟩
  · cases hrun.symm.trans hmake
  · cases hrun.symm.trans hmake
    obtain ⟨hinside, htop⟩ := readOut_inside hd hfound archive
    rw [hread] at hinside htop
    obtain rfl := htop top table rfl
    exact ⟨l, n, rfl, hfound, hrun, hread, hinside⟩

/-- Where something was unpacked, nothing else has changed. -/
theorem sameBut_of_inside (h : Inside x top c) (keys : Nat → Prop) :
    SameBut (top <+: ·) keys x c where
  workingDirectory := h.workingDirectory
  at? := fun m hm => h.outside m fun hbelow => hm hbelow.1
  contentOf := fun key hlt _ => h.contentOf key hlt
  rightsOf := fun key hlt _ => h.rightsOf key hlt
  nextKey_le := h.nextKey_le

/-- Unpacking an archive changes nothing outside of the new directory, to which the path for it
leads then. -/
theorem sameBut_gather (hd : d.WellFormed)
    (h : (gather staging archive).run.run d = (.ok (top, table), c)) (keys : Nat → Prop) :
    c.WellFormed ∧ LeadsTo c staging top ∧ SameBut (top <+: ·) keys d c := by
  obtain ⟨l, n, rfl, hfound, -, -, hinside⟩ := gather_eq_ok hd h
  have hput : SameBut (l ++ [n] <+: ·) keys d (d.put (l ++ [n]) (.directory {})) :=
    (SameBut.refl ..).put List.prefix_rfl _
  exact ⟨hinside.wellFormed, leadsTo_of_inside hd hfound hinside,
    hput.trans (sameBut_of_inside hinside keys)⟩

/-- Where an archive cannot be unpacked nothing changes outside of the directory for it. -/
theorem recover_of_gather_failed {failure : Failure} (hd : d.WellFormed)
    (harchive : archiveAt d cleanup p = .ok archive)
    (hgather : ((gather staging archive).run.run d).1 = .error failure) (keys : Nat → Prop) :
    ∃ d', recover staging p cleanup d = ((.error failure, []), d') ∧ d'.WellFormed ∧
      SameBut (fun m => ∃ l n, d.resolveName staging = .ok (.vacant l n) ∧ l ++ [n] <+: m) keys
        d d' := by
  rcases recover_of_gather_error harchive hgather with hfailed | ⟨l, n, c, hfound, rfl, hfailed⟩
  · exact ⟨d, hfailed, hd, .refl ..⟩
  · obtain ⟨hinside, -⟩ := readOut_inside hd hfound archive
    refine ⟨_, hfailed, WellFormed.keeps_removeTree staging _ hinside.wellFormed, ?_⟩
    have hput : SameBut (l ++ [n] <+: ·) keys d (d.put (l ++ [n]) (.directory {})) :=
      (SameBut.refl ..).put List.prefix_rfl _
    have hremoved := (leadsTo_of_inside hd hfound hinside).sameBut_removeTree keys
    exact ((hput.trans (sameBut_of_inside hinside keys)).trans hremoved).mono
      (fun m hm => ⟨l, n, hfound, hm⟩) fun _ => id

/-! ## One entry -/

theorem isProper_of_isPlainName {name : String} (h : Lookup.isPlainName name = true) :
    IsProper (Name.ofString name) := by
  rw [Lookup.isPlainName, beq_iff_eq, Path.fileName?] at h
  split at h
  · rename_i hlast
    cases h
    exact isProper_of_mem_components (List.mem_of_getLast? hlast)
  · cases h

/-- What making each directory keeps, making those above the path of an entry keeps. -/
theorem keeps_makeAbove {P : Disk → Prop} (hmake : ∀ p, Keeps P (Disk.makeDirectory p))
    (e : String × Path) : Keeps P (makeAbove e) := by
  rw [makeAbove]
  split
  · intro x hx
    rw [run_attempt]
    exact keeps_ensureDirectories (fun q _ => hmake q) x hx
  · exact .pure ()

/-- What comes of making directories: some more of them. -/
theorem grown_above (hx : x.WellFormed) (e : String × Path) :
    (above x e).WellFormed ∧ x.Grown (fun _ => True) (above x e) :=
  keeps_makeAbove (keeps_grown x) e x ⟨hx, .refl ..⟩

/-- Where an entry in its turn can change something. -/
inductive Touches (staging : Path) (e : String × Path) (x : Disk) (m : Location) : Prop where
  /-- A directory above its path is made. -/
  | made (free : x.at? m = none) (directory : (above x e).at? m = some (.directory {}))
  /-- Its member goes from there or comes there. -/
  | moved (reaches : (above x e).MoveReaches (staging.join (.ofString e.1)) e.2 m)

theorem sameBut_above (hx : x.WellFormed) (e : String × Path) (keys : Nat → Prop) :
    SameBut (fun m => x.at? m = none ∧ (above x e).at? m = some (.directory {})) keys x
      (above x e) := by
  obtain ⟨-, hgrown⟩ := grown_above hx e
  refine .of_sameFiles hgrown.sameFiles fun m hm => ?_
  rcases hgrown.at?_cases m with hsame | ⟨hnone, hdir, -⟩
  · exact hsame
  · exact absurd ⟨hnone, hdir⟩ hm

/-- An entry in its turn changes what it touches, and the file that its path leads to. If it fails
then it has taken nothing away. -/
theorem sameBut_restoreEntry (hx : x.WellFormed) (staging : Path) (e : String × Path) :
    SameBut (Touches staging e x) ((above x e).IsFileAt e.2) x
        ((restoreEntry staging e).run.run x).2 ∧
      ∀ failure, ((restoreEntry staging e).run.run x).1 = .error failure →
        x.Extends ((restoreEntry staging e).run.run x).2 := by
  cases hplain : Lookup.isPlainName e.1
  · rw [restoreEntry_of_not_plain staging hplain]
    exact ⟨.refl .., fun _ _ => .refl x⟩
  have hn := isProper_of_isPlainName hplain
  obtain ⟨hwell, hgrown⟩ := grown_above hx e
  have hmake : SameBut (Touches staging e x) ((above x e).IsFileAt e.2) x (above x e) :=
    (sameBut_above hx e _).mono (fun m hm => .made hm.1 hm.2) fun _ => id
  have hslash : (staging.join (.ofString e.1)).endsInSeparator = false :=
    Path.endsInSeparator_join staging hn.isPart
  obtain ⟨hmove, hfailed⟩ := sameBut_moveFile hwell hslash e.2
  rw [restoreEntry_of_plain staging hplain, run_bind]
  rcases hrun : (makeAbove e).run.run x with ⟨failure | ⟨⟩, y⟩
  · obtain rfl : above x e = y := by rw [above, hrun]
    exact ⟨hmake, fun _ _ => hgrown.isExtended⟩
  · obtain rfl : above x e = y := by rw [above, hrun]
    dsimp only
    rw [run_attempt]
    refine ⟨hmake.trans (hmove.mono (fun m hm => .moved hm) fun _ => id),
      fun failure hfailure => ?_⟩
    rcases hout : ((moveFile (staging.join (.ofString e.1)) e.2).run.run (above x e)).1 with
      error | ⟨⟩
    · exact hgrown.isExtended.trans (hfailed error hout)
    · rw [hout] at hfailure
      cases hfailure

/-! ## All entries -/

/-- However many entries take their turns, all that changes is touched by one of them. -/
theorem sameBut_restoreAll (hx : x.WellFormed) (staging : Path) (table : Lookup) :
    SameBut (fun m => ∃ turn ∈ turns staging table x, Touches staging turn.1 turn.2 m)
      (fun key => ∃ turn ∈ turns staging table x, (above turn.2 turn.1).IsFileAt turn.1.2 key) x
      ((table.forM (restoreEntry staging)).run.run x).2 := by
  induction table generalizing x with
  | nil => exact .refl ..
  | cons e rest ih =>
    have hfirst := (sameBut_restoreEntry hx staging e).1
    have hwell := keeps_restoreEntry staging e x hx
    rw [run_restoreAll_cons, turns_cons]
    simp only [List.exists_mem_cons_iff]
    rcases hrun : (restoreEntry staging e).run.run x with ⟨failure | ⟨⟩, y⟩
    · rw [hrun] at hfirst
      exact hfirst.mono (fun m hm => .inl hm) fun key hkey => .inl hkey
    · rw [hrun] at hfirst hwell
      exact (hfirst.mono (fun m hm => .inl hm) fun key hkey => .inl hkey).trans
        ((ih hwell).mono (fun m hm => .inr hm) fun key hkey => .inr hkey)

end Codemod.Backup
