import Codemod.Proofs.Backup.Settle
import Codemod.Proofs.Disk.Again
import Codemod.Proofs.Disk.Stuck

set_option autoImplicit false

/-! # Entries that fail again

An entry that fails in its turn has changed the tree so that it fails again, without changing
anything more (`failsAt_of_restoreEntry`). It fails in another tree as well in which the same is
outside of the directories for unpacking (`FailsAt.again`). -/

namespace Codemod.Backup

open Disk Archive

variable {x x' y : Disk} {staging staging' : Path} {top top' : Location} {tops : List Location}
  {e : String × Path} {failure : Failure}

/-! ## Directories above a path -/

theorem agree_attempt {α : Type} {R : Disk → Disk → Prop} {action other : Disk.Action α}
    (h : Agree R action other) (named : PathError → Failure) :
    Agree R (attempt named action) (attempt named other) := by
  intro x x' hx
  obtain ⟨hsame, hleft⟩ := h x x' hx
  rw [run_attempt, run_attempt, hsame]
  exact ⟨rfl, hleft⟩

theorem settles_attempt {action : Disk.Action Unit} (h : Settles action)
    (named : PathError → Failure) : Settles (attempt named action) := by
  intro x hx answer y hrun
  rcases hfirst : action.run.run x with ⟨found, z⟩
  rw [run_attempt, hfirst] at hrun
  cases hrun
  obtain ⟨found', hagain, hsame⟩ := h x hx found z hfirst
  refine ⟨found'.mapError named, by rw [run_attempt, hagain], ?_⟩
  rcases found with error | ⟨⟩
  · rcases found' with error' | ⟨⟩
    · simp [Except.mapError]
    · exact absurd (hsame.1 rfl) (by simp)
  · rw [hsame.2 rfl]

theorem omits_parent {parent : Path} (he : Omits tops e.2) (hparent : e.2.parent? = some parent) :
    Omits tops parent := by
  obtain ⟨cs, hcs, rfl⟩ := Path.exists_of_parent? hparent
  exact he.of_atOrAbove (.inr ⟨cs, hcs, rfl⟩)

/-- The directories above the path of an entry are made in both trees, or in none of them. -/
theorem agree_makeAbove (he : Omits tops e.2) :
    Agree (Alike tops) (makeAbove e) (makeAbove e) := by
  rw [makeAbove]
  split
  · rename_i parent hparent
    exact agree_attempt (agree_ensureDirectories (omits_parent he hparent)) _
  · exact .pure ()

/-- Making the directories above a path settles them. -/
theorem settles_makeAbove (e : String × Path) : Settles (makeAbove e) := by
  rw [makeAbove]
  split
  · rename_i parent hparent
    obtain ⟨cs, hcs, rfl⟩ := Path.exists_of_parent? hparent
    exact settles_attempt (ensureDirectories_again hcs) _
  · exact settles_of_run_eq fun _ => rfl

/-- The directories above a path do not come into directories that the path does not know. -/
theorem grown_above_outside (hx : x.WellFormed) (hignores : x.Ignores tops) (he : Omits tops e.2) :
    (above x e).Ignores tops ∧ x.Grown (fun m => ¬ IsIn tops m) (above x e) := by
  have hkeeps : Keeps (fun z => z.WellFormed ∧ z.Ignores tops ∧ x.Grown (fun m => ¬ IsIn tops m) z)
      (makeAbove e) := by
    rw [makeAbove]
    split
    · rename_i parent hparent
      exact keeps_attempt (keeps_ensureDirectories_outside (omits_parent he hparent) x) _
    · exact .pure ()
  exact (hkeeps x ⟨hx, hignores, .refl ..⟩).2

/-- Once they are made the directories above a path are there. -/
theorem hasParent_above (hx : x.WellFormed) (h : ((makeAbove e).run.run x).1 = .ok ()) :
    (above x e).HasParent e.2 := by
  intro parent hparent
  have hrun : (makeAbove e).run.run x = (.ok (), above x e) := Prod.ext h rfl
  rw [makeAbove, hparent] at hrun
  exact isDirectory_of_ensureDirectories hx (run_attempt_eq_ok_iff.1 hrun)

/-- Directories that are there are not made. -/
theorem run_makeAbove_of_hasParent (h : x.HasParent e.2) :
    (makeAbove e).run.run x = (.ok (), x) := by
  rw [makeAbove]
  split
  · rename_i parent hparent
    rw [run_attempt_eq_ok_iff]
    rcases h parent hparent with hnil | hdir
    · rw [ensureDirectories, if_pos (List.isEmpty_iff.2 hnil)]
      rfl
    · exact run_ensureDirectories_of_isDirectory hdir
  · rfl

theorem Extends.hasParent {p : Path} (hextends : x.Extends x') (hx : x.WellFormed)
    (h : x.HasParent p) : x'.HasParent p := fun parent hparent =>
  (h parent hparent).imp_right (hextends.isDirectory hx)

/-! ## Entries that fail -/

/-- An entry that failed in a tree fails in what the tree is then, and nothing more changes. -/
inductive FailsAt (staging : Path) (top : Location) (e : String × Path) (x y : Disk) : Prop
  | name (h : Lookup.isPlainName e.1 = false)
  | above (hplain : Lookup.isPlainName e.1 = true) {failure : Failure}
    (h : (makeAbove e).run.run y = (.error failure, y))
  | missing (hplain : Lookup.isPlainName e.1 = true) (hparent : y.HasParent e.2)
    (h : x.at? (stagedAt top e) = none ∨ ¬ Fits staging (Name.ofString e.1) ∧
      ∃ key, x.at? (stagedAt top e) = some (.file key))
  | stuck (hplain : Lookup.isPlainName e.1 = true) (hparent : y.HasParent e.2) {key : Nat}
    (hfits : Fits staging (Name.ofString e.1)) (hat : x.at? (stagedAt top e) = some (.file key))
    (hfile : y.HasFile (staging.join (.ofString e.1)) (stagedAt top e) key)
    (hstuck : IsStuck y (staging.join (.ofString e.1)) e.2)

/-- A file that is not there is not moved. -/
theorem run_moveFile_of_missing {source : Path} (h : ∀ follow m, x.place? source follow ≠ .ok m)
    (target : Path) : ∃ error, (moveFile source target).run.run x = (.error error, x) := by
  have hrename : ∃ error, (rename source target).run.run x = (.error error, x) := by
    rw [Disk.rename, run_look_bind]
    rcases hplace : x.place? source false with error | m
    · exact ⟨error, rfl⟩
    · exact absurd hplace (h false m)
  have hcopy : ∃ error, (copyFile source target).run.run x = (.error error, x) := by
    rw [copyFile, run_look_bind]
    rcases hplace : x.place? source with error | m
    · exact ⟨error, rfl⟩
    · exact absurd hplace (h true m)
  obtain ⟨error, hrename⟩ := hrename
  obtain ⟨error', hcopy⟩ := hcopy
  rw [moveFile, run_tryCatch, hrename]
  dsimp only
  rw [run_bind, hcopy]
  exact ⟨error', rfl⟩

/-- A member that is not there, or that has no name for a file, is not found by its path. -/
theorem LeadsTo.place?_member (h : LeadsTo y staging top) (htop : y.at? top = some (.directory {}))
    (hplain : Lookup.isPlainName e.1 = true)
    (hstaged : y.at? (stagedAt top e) = none ∨ ¬ Fits staging (Name.ofString e.1) ∧
      ∃ key, y.at? (stagedAt top e) = some (.file key)) (follow : Bool) (m : Location) :
    y.place? (staging.join (.ofString e.1)) follow ≠ .ok m := by
  intro hplace
  have hlink : ∀ target, y.at? (top ++ [Name.ofString e.1]) ≠ some (.link target) := by
    intro target hat
    rcases hstaged with hnone | ⟨-, key, hkey⟩
    · cases hnone.symm.trans hat
    · cases hkey.symm.trans hat
  obtain ⟨hfits, hat, -⟩ := (h.place?_join_iff htop (isProper_of_isPlainName hplain) hlink).1 hplace
  rcases hstaged with hnone | ⟨hnot, -⟩
  · exact hat hnone
  · exact hnot hfits

/-- A member that is a file, or that is missing, fails to be moved in a tree that has everything of
the one before. -/
theorem failsAt_of_moveFile {error : PathError} (hy : y.WellFormed) (hleads : LeadsTo y staging top)
    (htop : y.at? top = some (.directory {})) (hplain : Lookup.isPlainName e.1 = true)
    (hparent : y.HasParent e.2) (hsame : y.at? (stagedAt top e) = x.at? (stagedAt top e))
    (hstaged : x.at? (stagedAt top e) = none ∨ ∃ key, x.at? (stagedAt top e) = some (.file key))
    (h : (moveFile (staging.join (.ofString e.1)) e.2).run.run y = (.error error, x')) :
    x'.WellFormed ∧ y.Within x' ∧
      (∀ m link, x'.at? m = some (.link link) → y.at? m = some (.link link)) ∧
      FailsAt staging top e x x' := by
  by_cases hfile : Fits staging (Name.ofString e.1) ∧
      ∃ key, x.at? (stagedAt top e) = some (.file key)
  · obtain ⟨hfits, key, hkey⟩ := hfile
    have hsource := hleads.hasFile htop hfits (hsame.trans hkey)
    obtain ⟨hx', hwithin, hold, hstill, hstuck⟩ := isStuck_of_moveFile hy hsource h
    exact ⟨hx', hwithin, hold, .stuck hplain (Extends.hasParent hwithin.isExtended hy hparent) hfits
      hkey hstill hstuck⟩
  · have hmissing : x.at? (stagedAt top e) = none ∨ ¬ Fits staging (Name.ofString e.1) ∧
        ∃ key, x.at? (stagedAt top e) = some (.file key) :=
      hstaged.imp_right fun hkey => ⟨fun hfits => hfile ⟨hfits, hkey⟩, hkey⟩
    obtain ⟨error', hstay⟩ := run_moveFile_of_missing
      (hleads.place?_member htop hplain (hsame.symm ▸ hmissing)) e.2
    cases hstay.symm.trans h
    exact ⟨hy, .refl _, fun _ _ => id, .missing hplain hparent hmissing⟩

/-- An entry with a member that is a file, or with none, fails in a tree that has everything of the
one before. -/
theorem failsAt_of_restoreEntry (hx : x.WellFormed) (hignores : x.Ignores tops) (htops : top ∈ tops)
    (he : Omits tops e.2) (hleads : LeadsTo x staging top)
    (htop : x.at? top = some (.directory {}))
    (hstaged : x.at? (stagedAt top e) = none ∨ ∃ key, x.at? (stagedAt top e) = some (.file key))
    (h : (restoreEntry staging e).run.run x = (.error failure, y)) :
    y.WellFormed ∧ x.Within y ∧
      (∀ m link, y.at? m = some (.link link) → x.at? m = some (.link link)) ∧
      FailsAt staging top e x y := by
  cases hplain : Lookup.isPlainName e.1
  · rw [restoreEntry_of_not_plain staging hplain] at h
    cases h
    exact ⟨hx, .refl _, fun _ _ => id, .name hplain⟩
  obtain ⟨hwell, -⟩ := grown_above hx e
  obtain ⟨-, hgrown⟩ := grown_above_outside hx hignores he
  have hlinks : ∀ m link, (above x e).at? m = some (.link link) → x.at? m = some (.link link) := by
    intro m link hat
    rcases hgrown.at?_cases m with hsame | ⟨-, hdir, -⟩
    · rw [← hsame, hat]
    · cases hdir.symm.trans hat
  rw [restoreEntry_of_plain staging hplain, run_bind] at h
  rcases hmake : (makeAbove e).run.run x with ⟨failure' | ⟨⟩, z⟩
  · obtain rfl : above x e = z := by rw [above, hmake]
    rw [hmake] at h
    cases h
    obtain ⟨answer, hagain, hsame⟩ := settles_makeAbove e x hx _ _ hmake
    rcases answer with failure' | ⟨⟩
    · exact ⟨hwell, hgrown.isWithin, hlinks, .above hplain hagain⟩
    · exact absurd (hsame.1 rfl) (by simp)
  · obtain rfl : above x e = z := by rw [above, hmake]
    rw [hmake] at h
    dsimp only at h
    rw [run_attempt] at h
    obtain ⟨hfailed, rfl⟩ := Prod.mk.inj h
    rcases hmove : (moveFile (staging.join (.ofString e.1)) e.2).run.run (above x e) with
      ⟨error | ⟨⟩, y⟩
    swap
    · rw [hmove] at hfailed
      cases hfailed
    have hsame : (above x e).at? (stagedAt top e) = x.at? (stagedAt top e) :=
      (hgrown.at?_cases _).resolve_right fun hmade =>
        hmade.2.2 ⟨top, htops, List.prefix_append ..⟩
    obtain ⟨hy, hwithin, hold, hfails⟩ := failsAt_of_moveFile hwell
      (hleads.of_extends hx hgrown.isExtended) (hgrown.at?_of_some htop) hplain
      (hasParent_above hx (by rw [hmake])) hsame hstaged hmove
    exact ⟨hy, hgrown.isWithin.trans hwithin, fun m link hat => hlinks m link (hold m link hat),
      hfails⟩

/-- The entry fails in another tree with the same outside of the directories for unpacking, and with
the member in its own one. -/
theorem FailsAt.again (h : FailsAt staging top e x y) (halike : Alike tops y x')
    (he : Omits tops e.2) (htops : top' ∈ tops) (hleads : LeadsTo x' staging' top')
    (htop : x'.at? top' = some (.directory {}))
    (hfits : Fits staging (Name.ofString e.1) ↔ Fits staging' (Name.ofString e.1))
    (hmissing : x.at? (stagedAt top e) = none → x'.at? (stagedAt top' e) = none)
    (hfile : ∀ key, x.at? (stagedAt top e) = some (.file key) → ∃ key',
      x'.at? (stagedAt top' e) = some (.file key') ∧ x'.rightsOf key' = y.rightsOf key ∧
        ∀ m other other', ¬ IsIn tops m → y.at? m = some (.file other) →
          x'.at? m = some (.file other') → other' = key' → other = key) :
    ∃ failure y', (restoreEntry staging' e).run.run x' = (.error failure, y') ∧
      Alike tops y y' := by
  have hthere : Lookup.isPlainName e.1 = true → y.HasParent e.2 →
      (∃ error, (moveFile (staging'.join (.ofString e.1)) e.2).run.run x' = (.error error, x')) →
        ∃ failure y', (restoreEntry staging' e).run.run x' = (.error failure, y') ∧
          Alike tops y y' := by
    rintro hplain hparent ⟨error, hmove⟩
    have hparent' : x'.HasParent e.2 := fun parent hp => by
      rw [halike.isDirectory (omits_parent he hp)]
      exact hparent parent hp
    refine ⟨.cannotRestore e.2, x', ?_, halike⟩
    rw [restoreEntry_of_plain staging' hplain, run_bind_of_ok (run_makeAbove_of_hasParent hparent'),
      run_attempt, hmove]
    rfl
  cases h with
  | name hplain =>
    rw [restoreEntry_of_not_plain staging' hplain]
    exact ⟨_, _, rfl, halike⟩
  | above hplain hmake =>
    obtain ⟨hsame, hleft⟩ := agree_makeAbove he y x' halike
    rw [hmake] at hsame hleft
    rw [restoreEntry_of_plain staging' hplain, run_bind]
    rcases hmake' : (makeAbove e).run.run x' with ⟨failure' | ⟨⟩, y'⟩
    · rw [hmake'] at hleft
      exact ⟨failure', y', rfl, hleft⟩
    · rw [hmake'] at hsame
      cases hsame
  | missing hplain hparent hnot =>
    refine hthere hplain hparent (run_moveFile_of_missing (hleads.place?_member htop hplain ?_) e.2)
    refine hnot.imp hmissing fun ⟨hnot, key, hkey⟩ => ⟨fun hfit => hnot (hfits.2 hfit), ?_⟩
    obtain ⟨key', hkey', -⟩ := hfile key hkey
    exact ⟨key', hkey'⟩
  | stuck hplain hparent hfit hat hfile' hstuck =>
    obtain ⟨key', hkey', hrights, hother⟩ := hfile _ hat
    have hsource := hleads.hasFile htop (hfits.1 hfit) hkey'
    exact hthere hplain hparent (IsStuck.of_alike halike he hstuck hfile' hsource
      ⟨top', htops, List.prefix_append ..⟩ hrights hother).run_moveFile

end Codemod.Backup
