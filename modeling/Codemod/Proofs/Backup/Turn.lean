import Codemod.Proofs.Backup.Cleanup

set_option autoImplicit false

/-! # How a recovery goes

A recovery unpacks an archive (`gather`) and then lets the entries of its table take their turns,
until one of them fails (`turns`); last of all the directory for unpacking goes (`run_recover_iff`).
What is said of a recovery elsewhere is said of the turns it comes to. -/

namespace Codemod.Backup

open Disk

variable {d d' c x y : Disk} {staging p archive : Path} {cleanup : Cleanup} {top : Location}
  {e : String × Path} {table : Lookup}

/-! ## Unpacking -/

/-- Unpack an archive into a directory. The answer is the place of that and the table. -/
def readOut (staging archive : Path) : Action (Location × Lookup) := do
  let members ← check (membersAt (← get) archive)
  let top ← attempt .io (Disk.look (·.place? staging))
  attempt (fun _ => .cannotExtract archive) (Archive.unpack top members)
  let table ← check (tableAt (← get) staging archive)
  return (top, table)

/-- Unpack an archive into a new directory. -/
def gather (staging archive : Path) : Action (Location × Lookup) := do
  attempt .io (Disk.makeDirectory staging)
  readOut staging archive

theorem run_check {α : Type} (found : Except Failure α) (d : Disk) :
    (check found).run.run d = (found, d) := by
  rcases found with failure | a
  · rfl
  · rfl

theorem restore_eq (staging archive : Path) :
    restore staging archive = do
      let (_, table) ← readOut staging archive
      table.forM (restoreEntry staging)
      return table.length := by
  simp only [restore, readOut, bind_assoc, pure_bind]

/-! ## One entry after another -/

/-- Make the directories above the path of an entry. -/
def makeAbove (e : String × Path) : Action Unit :=
  match e.2.parent? with
  | some parent => attempt .io (Disk.ensureDirectories parent)
  | none => return ()

/-- The tree with the directories above the path of an entry. -/
def above (d : Disk) (e : String × Path) : Disk := ((makeAbove e).run.run d).2

theorem restoreEntry_of_plain (staging : Path) (hplain : Lookup.isPlainName e.1 = true) :
    restoreEntry staging e = (do
      makeAbove e
      attempt (fun _ => .cannotRestore e.2)
        (Disk.moveFile (staging.join (.ofString e.1)) e.2)) := by
  rw [restoreEntry, makeAbove, hplain]
  rcases e.2.parent? with _ | parent
  · rfl
  · rfl

theorem restoreEntry_of_not_plain (staging : Path) (hplain : Lookup.isPlainName e.1 = false) :
    restoreEntry staging e = throw (.invalidMember e.1) := by
  rw [restoreEntry, hplain]
  rfl

theorem keeps_attempt {α : Type} {P : Disk → Prop} {action : Disk.Action α} (h : Keeps P action)
    (failure : PathError → Failure) : Keeps P (attempt failure action) := by
  intro d hd
  rw [run_attempt]
  exact h d hd

theorem keeps_restoreEntry (staging : Path) (e : String × Path) :
    Keeps WellFormed (restoreEntry staging e) := by
  have hmove : Keeps WellFormed (attempt (fun _ => .cannotRestore e.2)
      (Disk.moveFile (staging.join (.ofString e.1)) e.2)) :=
    keeps_attempt (WellFormed.keeps_moveFile _ _) _
  have habove : ∀ parent, Keeps WellFormed (attempt .io (Disk.ensureDirectories parent)) :=
    fun _ => keeps_attempt (keeps_ensureDirectories fun _ _ => WellFormed.keeps_makeDirectory _) _
  rw [restoreEntry]
  cases Lookup.isPlainName e.1
  · exact .throw _
  · rcases e.2.parent? with _ | parent
    · exact hmove
    · exact .bind (habove parent) fun _ => hmove

/-- The entries that take their turn, each with the tree that it meets. The first one to fail is the
last. -/
def turns (staging : Path) : Lookup → Disk → List ((String × Path) × Disk)
  | [], _ => []
  | e :: rest, d =>
    (e, d) :: match (restoreEntry staging e).run.run d with
      | (.ok _, d') => turns staging rest d'
      | (.error _, _) => []

theorem turns_cons (staging : Path) (e : String × Path) (rest : Lookup) (d : Disk) :
    turns staging (e :: rest) d =
      (e, d) :: match (restoreEntry staging e).run.run d with
        | (.ok _, d') => turns staging rest d'
        | (.error _, _) => [] :=
  rfl

/-- The others have their turns after the first one, unless that fails. -/
theorem run_restoreAll_cons (staging : Path) (e : String × Path) (rest : Lookup) (d : Disk) :
    ((e :: rest).forM (restoreEntry staging)).run.run d =
      match (restoreEntry staging e).run.run d with
      | (.ok _, d') => (rest.forM (restoreEntry staging)).run.run d'
      | (.error failure, d') => (.error failure, d') := by
  rw [List.forM, run_bind]
  rcases (restoreEntry staging e).run.run d with ⟨failure | ⟨⟩, d'⟩
  · rfl
  · rfl

theorem mem_of_turns {turn : (String × Path) × Disk} (h : turn ∈ turns staging table c) :
    turn.1 ∈ table := by
  induction table generalizing c with
  | nil => cases h
  | cons e table ih =>
    rw [turns_cons] at h
    rcases List.mem_cons.1 h with rfl | h
    · exact List.mem_cons_self
    · split at h
      · exact List.mem_cons_of_mem _ (ih h)
      · cases h

/-- Entries after others have their turns after them. -/
theorem run_restoreAll_append {before : Lookup}
    (h : (before.forM (restoreEntry staging)).run.run c = (.ok (), x)) (rest : Lookup) :
    ((before ++ rest).forM (restoreEntry staging)).run.run c =
      (rest.forM (restoreEntry staging)).run.run x := by
  rw [List.forM_eq_forM, List.forM_append, ← List.forM_eq_forM, run_bind_of_ok h]

theorem turns_append {before : Lookup}
    (h : (before.forM (restoreEntry staging)).run.run c = (.ok (), x)) (rest : Lookup) :
    turns staging (before ++ rest) c = turns staging before c ++ turns staging rest x := by
  induction before generalizing c with
  | nil =>
    cases h
    rfl
  | cons e before ih =>
    rw [run_restoreAll_cons] at h
    rw [List.cons_append, turns_cons, turns_cons, List.cons_append]
    rcases hrun : (restoreEntry staging e).run.run c with ⟨failure | ⟨⟩, z⟩
    · rw [hrun] at h
      cases h
    · rw [hrun] at h
      exact congrArg _ (ih h)

/-- If a turn fails then all of it fails, and the tree stays as that turn has left it. -/
theorem run_restoreAll_of_mem_turns {turn : (String × Path) × Disk} {failure : Failure}
    (hturn : turn ∈ turns staging table c)
    (h : (restoreEntry staging turn.1).run.run turn.2 = (.error failure, y)) :
    (table.forM (restoreEntry staging)).run.run c = (.error failure, y) := by
  induction table generalizing c with
  | nil => cases hturn
  | cons e table ih =>
    rw [turns_cons] at hturn
    rw [run_restoreAll_cons]
    rcases List.mem_cons.1 hturn with rfl | hturn
    · rw [h]
    · rcases hrun : (restoreEntry staging e).run.run c with ⟨failure' | ⟨⟩, z⟩
      · rw [hrun] at hturn
        cases hturn
      · rw [hrun] at hturn
        exact ih hturn

/-- The entries take their turns until one of them fails, if any does. -/
theorem exists_of_turns {answer : Except Failure Unit}
    (h : (table.forM (restoreEntry staging)).run.run c = (answer, y)) :
    ∃ before rest x, table = before ++ rest ∧
      (before.forM (restoreEntry staging)).run.run c = (.ok (), x) ∧
      (turns staging before c).map (·.1) = before ∧
      (∀ turn ∈ turns staging before c, turn ∈ turns staging table c ∧
        ((restoreEntry staging turn.1).run.run turn.2).1 = .ok ()) ∧
      (rest = [] ∧ answer = .ok () ∧ y = x ∨ ∃ e after failure, rest = e :: after ∧
        answer = .error failure ∧ (restoreEntry staging e).run.run x = (.error failure, y)) := by
  induction table generalizing c with
  | nil =>
    cases h
    exact ⟨[], [], y, rfl, rfl, rfl, by simp [turns], .inl ⟨rfl, rfl, rfl⟩⟩
  | cons e table ih =>
    rw [run_restoreAll_cons] at h
    rcases hrun : (restoreEntry staging e).run.run c with ⟨failure | ⟨⟩, z⟩
    · rw [hrun] at h
      cases h
      exact ⟨[], e :: table, c, rfl, rfl, rfl, by simp [turns],
        .inr ⟨e, table, failure, rfl, rfl, hrun⟩⟩
    · rw [hrun] at h
      obtain ⟨before, rest, x, rfl, hbefore, hall, hturns, hlast⟩ := ih h
      have hcons : turns staging (e :: before) c = (e, c) :: turns staging before z := by
        rw [turns_cons, hrun]
      have hcons' : turns staging (e :: (before ++ rest)) c =
          (e, c) :: turns staging (before ++ rest) z := by
        rw [turns_cons, hrun]
      refine ⟨e :: before, rest, x, rfl, ?_, ?_, ?_, hlast⟩
      · rw [run_restoreAll_cons, hrun]
        exact hbefore
      · rw [hcons, List.map_cons, hall]
      · rw [hcons, hcons']
        refine List.forall_mem_cons.2
          ⟨⟨List.mem_cons_self, congrArg Prod.fst hrun⟩, fun turn hturn => ?_⟩
        exact (hturns turn hturn).imp_left (List.mem_cons_of_mem _)

/-! ## The whole of it -/

theorem run_withDirectory (h : (Disk.makeDirectory staging).run.run d = (.ok (), d'))
    (archive : Path) :
    withDirectory staging (restore staging archive) d =
      match (readOut staging archive).run.run d' with
      | (.error failure, c) => (.error failure, ((Disk.removeTree staging).run.run c).2)
      | (.ok (_, table), c) =>
        (((table.forM (restoreEntry staging)).run.run c).1.map fun _ => table.length,
          ((Disk.removeTree staging).run.run
            ((table.forM (restoreEntry staging)).run.run c).2).2) := by
  have hmake : (attempt Failure.io (Disk.makeDirectory staging)).run.run d = (.ok (), d') :=
    run_attempt_eq_ok_iff.2 h
  have hbody : (withDirectory staging (restore staging archive)).run.run d =
      (((restore staging archive).run.run d').1,
        ((Disk.removeTree staging).run.run ((restore staging archive).run.run d').2).2) := by
    rw [withDirectory, run_bind_of_ok hmake]
    rfl
  refine hbody.trans ?_
  rw [restore_eq, run_bind]
  rcases (readOut staging archive).run.run d' with ⟨failure | ⟨top, table⟩, c⟩
  · rfl
  · dsimp only
    rw [run_bind]
    rcases (table.forM (restoreEntry staging)).run.run c with ⟨failure | ⟨⟩, c'⟩
    · rfl
    · rfl

/-- Without a directory for unpacking nothing happens at all. -/
theorem run_withDirectory_of_error {error : PathError}
    (h : (Disk.makeDirectory staging).run.run d = (.error error, d)) (archive : Path) :
    withDirectory staging (restore staging archive) d = (.error (.io error), d) := by
  have hmake : (attempt Failure.io (Disk.makeDirectory staging)).run.run d =
      (.error (.io error), d) := by
    rw [run_attempt, h]
    rfl
  have hbody : (withDirectory staging (restore staging archive)).run.run d =
      (.error (.io error), d) := by
    rw [withDirectory, run_bind, hmake]
  exact hbody

/-- Once an archive is unpacked it is up to the turns: if one fails then the recovery fails, and
otherwise the cleanup has the last word. Either way the directory for unpacking goes. -/
theorem recover_of_gather (harchive : archiveAt d cleanup p = .ok archive)
    (hgather : (gather staging archive).run.run d = (.ok (top, table), c)) :
    recover staging p cleanup d =
      match (table.forM (restoreEntry staging)).run.run c with
      | (.error failure, x) => ((.error failure, []), ((Disk.removeTree staging).run.run x).2)
      | (.ok _, x) =>
        ((((clean cleanup p archive).run.run ((Disk.removeTree staging).run.run x).2).1,
            [recovered table.length archive]),
          ((clean cleanup p archive).run.run ((Disk.removeTree staging).run.run x).2).2) := by
  rw [gather] at hgather
  obtain ⟨⟨⟩, b, hmake, hread⟩ := run_bind_eq_ok_iff.1 hgather
  have hwith := run_withDirectory (run_attempt_eq_ok_iff.1 hmake) archive
  rw [hread] at hwith
  dsimp only at hwith
  simp only [recover, harchive, hwith]
  rcases (table.forM (restoreEntry staging)).run.run c with ⟨failure | ⟨⟩, x⟩
  · rfl
  · rfl

/-- An archive that cannot be unpacked is not recovered: there is no directory for it, or that goes
again. -/
theorem recover_of_gather_error {failure : Failure} (harchive : archiveAt d cleanup p = .ok archive)
    (hgather : ((gather staging archive).run.run d).1 = .error failure) :
    recover staging p cleanup d = ((.error failure, []), d) ∨
      ∃ l n c, d.resolveName staging = .ok (.vacant l n) ∧
        ((readOut staging archive).run.run (d.put (l ++ [n]) (.directory {}))).2 = c ∧
        recover staging p cleanup d =
          ((.error failure, []), ((Disk.removeTree staging).run.run c).2) := by
  rw [gather, run_bind] at hgather
  rcases run_makeDirectory_cases staging d with ⟨error, hmake⟩ | ⟨l, n, hfound, hmake⟩
  · rw [run_attempt, hmake] at hgather
    cases hgather
    exact .inl (by simp only [recover, harchive, run_withDirectory_of_error hmake])
  · rw [run_attempt_eq_ok_iff.2 hmake] at hgather
    dsimp only at hgather
    have hwith := run_withDirectory hmake archive
    rcases hread : (readOut staging archive).run.run (d.put (l ++ [n]) (.directory {})) with
      ⟨failure' | ⟨top, table⟩, c⟩
    · rw [hread] at hwith hgather
      cases hgather
      exact .inr ⟨l, n, c, hfound, by rw [hread], by simp only [recover, harchive, hwith]⟩
    · rw [hread] at hgather
      cases hgather

end Codemod.Backup
