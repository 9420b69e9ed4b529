import Codemod.Proofs.Backup.Lookup
import Codemod.Proofs.Backup.Reach

set_option autoImplicit false

/-! # Archives that are rejected for a name

A name that is not the plain name of a file is found when its entry has its turn, so what the
entries before it have changed stays changed (`recover_halfDisk`). These are the entries with a
smaller name, and nothing else is done to the tree (`recover_invalidMember`): an archive is rejected
without a trace if the smallest name in its table is a bad one. -/

namespace Codemod.Backup

open Disk Archive

variable {d d' c x : Disk} {staging p archive path : Path} {cleanup : Cleanup} {top : Location}
  {name : String} {table : Lookup} {failure : Failure} {log : List Log.Event} {α β : Type}
  {P : Failure → Prop}

/-! ## Which failures there can be -/

/-- An action fails in certain ways only. -/
def FailsOnly (P : Failure → Prop) (action : Action α) : Prop :=
  ∀ d failure, (action.run.run d).1 = .error failure → P failure

theorem failsOnly_pure (a : α) : FailsOnly P (pure a : Action α) := by
  rintro d failure ⟨⟩

theorem failsOnly_get : FailsOnly P (get : Action Disk) := by
  rintro d failure ⟨⟩

theorem FailsOnly.bind {action : Action α} {next : α → Action β} (h : FailsOnly P action)
    (hnext : ∀ a, FailsOnly P (next a)) : FailsOnly P (action >>= next) := by
  intro d failure hfailure
  rw [run_bind] at hfailure
  rcases hrun : action.run.run d with ⟨e | a, d'⟩
  · rw [hrun] at hfailure
    cases hfailure
    exact h d failure (by rw [hrun])
  · rw [hrun] at hfailure
    exact hnext a d' failure hfailure

theorem failsOnly_attempt {named : PathError → Failure} (h : ∀ e, P (named e))
    (action : Disk.Action α) : FailsOnly P (attempt named action) := by
  intro d failure hfailure
  rw [attempt_run] at hfailure
  rcases hrun : action.run.run d with ⟨e | a, d'⟩
  · rw [hrun] at hfailure
    cases hfailure
    exact h e
  · rw [hrun] at hfailure
    cases hfailure

theorem failsOnly_check {found : Except Failure α}
    (h : ∀ failure, found = .error failure → P failure) :
    FailsOnly P (check found) := by
  intro d failure hfailure
  rw [run_check] at hfailure
  exact h failure hfailure

/-- A failure that is not about the name of a member. -/
def IsOther (failure : Failure) : Prop := ∀ name, failure ≠ .invalidMember name

theorem isOther_io (e : PathError) : IsOther (.io e) := fun _ heq => nomatch heq

theorem isOther_membersAt (h : membersAt d archive = .error failure) : IsOther failure := by
  rw [membersAt] at h
  repeat' split at h
  all_goals
    cases h
    try exact fun _ heq => nomatch heq

theorem isOther_tableAt (h : tableAt d staging archive = .error failure) : IsOther failure := by
  rw [tableAt] at h
  repeat' split at h
  all_goals
    cases h
    try exact fun _ heq => nomatch heq

theorem isOther_archiveAt (h : archiveAt d cleanup p = .error failure) : IsOther failure := by
  cases cleanup with
  | keep => cases h
  | removeArchive => cases h
  | removeDirectory =>
    rw [archiveAt, onlyFileIn] at h
    split at h
    all_goals
      cases h
      try
        intro name heq
        cases heq

theorem failsOnly_gather (staging archive : Path) : FailsOnly IsOther (gather staging archive) := by
  have hextract : ∀ _ : PathError, IsOther (.cannotExtract archive) := fun _ _ heq => nomatch heq
  refine (failsOnly_attempt isOther_io _).bind fun _ => failsOnly_get.bind fun _ => ?_
  refine (failsOnly_check fun _ => isOther_membersAt).bind fun _ => ?_
  refine (failsOnly_attempt isOther_io _).bind fun _ => ?_
  refine (failsOnly_attempt hextract _).bind fun _ => failsOnly_get.bind fun _ => ?_
  exact (failsOnly_check fun _ => isOther_tableAt).bind fun _ => failsOnly_pure _

theorem failsOnly_clean (cleanup : Cleanup) (p archive : Path) :
    FailsOnly IsOther (clean cleanup p archive) := by
  cases cleanup with
  | keep => exact failsOnly_pure _
  | removeArchive => exact failsOnly_attempt isOther_io _
  | removeDirectory => exact failsOnly_attempt isOther_io _

/-- A turn fails for the name of its entry if that is bad, and for no name otherwise. -/
theorem restoreEntry_invalidMember {e : String × Path}
    (h : ((restoreEntry staging e).run.run x).1 = .error (.invalidMember name)) :
    e.1 = name ∧ Lookup.isPlainName e.1 = false ∧ ((restoreEntry staging e).run.run x).2 = x := by
  cases hplain : Lookup.isPlainName e.1
  · rw [restoreEntry_of_not_plain staging hplain] at h ⊢
    cases h
    exact ⟨rfl, rfl, rfl⟩
  · have hrestore : ∀ _ : PathError, IsOther (.cannotRestore e.2) := fun _ _ heq => nomatch heq
    have hmake : FailsOnly IsOther (makeAbove e) := by
      rw [makeAbove]
      split
      · exact failsOnly_attempt isOther_io _
      · exact failsOnly_pure _
    rw [restoreEntry_of_plain staging hplain] at h
    exact absurd rfl (hmake.bind (fun _ => failsOnly_attempt hrestore _) x _ h name)

/-! ## The turns before the bad name -/

/-- The entries before the one with the bad name have had their turns, and all of them succeeded. -/
theorem exists_of_restoreAll
    (h : ((table.forM (restoreEntry staging)).run.run c).1 = .error (.invalidMember name)) :
    ∃ before path rest x, table = before ++ (name, path) :: rest ∧
      Lookup.isPlainName name = false ∧ (∀ e ∈ before, Lookup.isPlainName e.1 = true) ∧
      (before.forM (restoreEntry staging)).run.run c = (.ok (), x) ∧
      (table.forM (restoreEntry staging)).run.run c = (.error (.invalidMember name), x) := by
  rcases hrun : (table.forM (restoreEntry staging)).run.run c with ⟨answer, y⟩
  rw [hrun] at h
  obtain ⟨before, rest, x, rfl, hbefore, hall, hturns, ⟨-, rfl, -⟩ |
    ⟨e, after, failure, rfl, rfl, hfailed⟩⟩ := exists_of_turns hrun
  · cases h
  cases h
  obtain ⟨rfl, hplain, hsame⟩ := restoreEntry_invalidMember (congrArg Prod.fst hfailed)
  rw [hfailed] at hsame
  obtain rfl : y = x := hsame
  refine ⟨before, e.2, after, y, rfl, hplain, fun e' he' => ?_, hbefore, rfl⟩
  rw [← hall] at he'
  obtain ⟨turn, hturn, rfl⟩ := List.mem_map.1 he'
  by_contra hnot
  have hok := (hturns turn hturn).2
  rw [restoreEntry_of_not_plain staging (by simpa using hnot)] at hok
  cases hok

/-- What an archive was unpacked to has the table in it. -/
theorem tableAt_of_gather (h : (gather staging archive).run.run d = (.ok (top, table), c)) :
    tableAt c staging archive = .ok table := by
  simp only [gather, readOut, run_bind_eq_ok_iff, run_check] at h
  obtain ⟨-, -, -, _, _, -, _, _, -, _, _, -, _, _, -, x, y, hget, table', z, hcheck, hpure⟩ := h
  cases hget
  cases hpure
  obtain ⟨htable, rfl⟩ := Prod.mk.inj hcheck
  exact htable

theorem Lookup.sorted_of_decode {bytes : List UInt8} (h : Lookup.decode bytes = some table) :
    Lookup.Sorted table := by
  simp only [Lookup.decode, Option.bind_eq_bind, Option.bind_eq_some_iff] at h
  obtain ⟨text, -, json, -, h⟩ := h
  split at h
  · obtain ⟨entries, -, rfl⟩ := Option.map_eq_some_iff.1 h
    exact Lookup.sorted_ofList entries
  · cases h

/-- A table is sorted when it is read. -/
theorem sorted_of_tableAt (h : tableAt d staging archive = .ok table) : Lookup.Sorted table := by
  rw [tableAt] at h
  split at h
  · cases h
  · cases h
  · split at h
    · rename_i hdecode
      cases h
      exact Lookup.sorted_of_decode hdecode
    · cases h

/-- In a sorted table the entries before a name are those with a smaller name. -/
theorem filter_eq_before {before rest : Lookup}
    (h : Lookup.Sorted (before ++ (name, path) :: rest)) :
    (before ++ (name, path) :: rest).filter (·.1 < name) = before := by
  obtain ⟨-, hrest, hbefore⟩ := List.pairwise_append.1 h
  obtain ⟨hafter, -⟩ := List.pairwise_cons.1 hrest
  have hsmaller : before.filter (·.1 < name) = before := by
    refine List.filter_eq_self.2 fun e he => ?_
    exact decide_eq_true (hbefore e he _ List.mem_cons_self)
  have hlarger : rest.filter (·.1 < name) = [] := by
    refine List.filter_eq_nil_iff.2 fun e he hlt => ?_
    exact String.lt_irrefl name (String.lt_trans (hafter e he) (of_decide_eq_true hlt))
  rw [List.filter_append, List.filter_cons, hsmaller, hlarger]
  simp

/-! ## The whole recovery -/

/-- A recovery is given up for the name of a member at the turn of its entry. The directory for
unpacking goes, and nothing more is done. -/
theorem gather_of_invalidMember
    (h : recover staging p cleanup d = ((.error (.invalidMember name), log), d')) :
    ∃ archive top table c x, archiveAt d cleanup p = .ok archive ∧
      (gather staging archive).run.run d = (.ok (top, table), c) ∧
      (table.forM (restoreEntry staging)).run.run c = (.error (.invalidMember name), x) ∧
      log = [] ∧ d' = ((removeTree staging).run.run x).2 := by
  rcases harchive : archiveAt d cleanup p with failure | archive
  · simp only [recover, harchive] at h
    cases h
    exact absurd rfl (isOther_archiveAt harchive name)
  rcases hgather : (gather staging archive).run.run d with ⟨failure | ⟨top, table⟩, c⟩
  · rcases recover_of_gather_error harchive (congrArg Prod.fst hgather) with
      hfailed | ⟨_, _, _, -, -, hfailed⟩
    all_goals
      rw [h] at hfailed
      cases hfailed
      exact absurd rfl (failsOnly_gather staging archive d _ (by rw [hgather]) name)
  rw [recover_of_gather harchive hgather] at h
  rcases hturns : (table.forM (restoreEntry staging)).run.run c with ⟨failure | ⟨⟩, x⟩
  · rw [hturns] at h
    cases h
    exact ⟨archive, top, table, c, x, rfl, hgather, hturns, rfl, rfl⟩
  · rw [hturns] at h
    have hclean := failsOnly_clean cleanup p archive ((removeTree staging).run.run x).2
      (.invalidMember name) (congrArg (·.1.1) h)
    exact absurd rfl (hclean name)

/-- An archive is rejected for the smallest name in its table that is not plain. By then the entries
with a smaller name have been restored, and outside of the directory for unpacking nothing has been
made, moved, overwritten or removed but what they touched; if there are none, nothing at all. -/
theorem recover_invalidMember (hd : d.WellFormed)
    (h : recover staging p cleanup d = ((.error (.invalidMember name), log), d')) :
    log = [] ∧ ∃ archive top table c before x, archiveAt d cleanup p = .ok archive ∧
      (gather staging archive).run.run d = (.ok (top, table), c) ∧
      (∃ path, (name, path) ∈ table) ∧ Lookup.isPlainName name = false ∧
      before = table.filter (·.1 < name) ∧ (∀ e ∈ before, Lookup.isPlainName e.1 = true) ∧
      (before.forM (restoreEntry staging)).run.run c = (.ok (), x) ∧
      d' = ((removeTree staging).run.run x).2 ∧
      SameBut (fun m => top <+: m ∨ (∃ l, x.place? staging false = .ok l ∧ l <+: m) ∨
          ∃ turn ∈ turns staging before c, Touches staging turn.1 turn.2 m)
        (fun key => ∃ turn ∈ turns staging before c, (above turn.2 turn.1).IsFileAt turn.1.2 key)
        d d' ∧
      (before = [] → SameBut (top <+: ·) (fun _ => False) d d') := by
  obtain ⟨archive, top, table, c, x, harchive, hgather, hall, rfl, rfl⟩ := gather_of_invalidMember h
  obtain ⟨before, path, rest, y, rfl, hplain, hbefore, hturns, hlast⟩ :=
    exists_of_restoreAll (congrArg Prod.fst hall)
  obtain rfl : x = y := congrArg Prod.snd (hall.symm.trans hlast)
  have hfilter := filter_eq_before (sorted_of_tableAt (tableAt_of_gather hgather))
  obtain ⟨hwell, hleads, hunpacked⟩ := sameBut_gather hd hgather
    fun key => ∃ turn ∈ turns staging before c, (above turn.2 turn.1).IsFileAt turn.1.2 key
  have hrestored := sameBut_restoreAll hwell staging before
  rw [hturns] at hrestored
  have hremoved := sameBut_removeTree staging (fun key => ∃ turn ∈ turns staging before c,
    (above turn.2 turn.1).IsFileAt turn.1.2 key) x
  have hsame : SameBut (fun m => top <+: m ∨ (∃ l, x.place? staging false = .ok l ∧ l <+: m) ∨
        ∃ turn ∈ turns staging before c, Touches staging turn.1 turn.2 m)
      (fun key => ∃ turn ∈ turns staging before c, (above turn.2 turn.1).IsFileAt turn.1.2 key)
      d ((removeTree staging).run.run x).2 :=
    ((hunpacked.mono (fun _ hm => .inl hm) fun _ => id).trans
      (hrestored.mono (fun _ hm => .inr (.inr hm)) fun _ => id)).trans
      (hremoved.mono (fun _ hm => .inr (.inl hm)) fun _ => id)
  refine ⟨rfl, archive, top, _, c, before, x, harchive, hgather, ⟨path, by simp⟩, hplain,
    hfilter.symm, hbefore, hturns, rfl, hsame, ?_⟩
  rintro rfl
  cases hturns
  refine hsame.mono (fun m hm => ?_) fun key hkey => by simp [turns] at hkey
  rcases hm with hm | ⟨l, hplace, hm⟩ | ⟨turn, hturn, -⟩
  · exact hm
  · cases hleads.1.symm.trans hplace
    exact hm
  · simp [turns] at hturn

/-- An archive with a good name and a bad one. -/
def halfDisk : Disk where
  entries := [([Name.ofString "a"], .file 0), ([Name.ofString "tmp"], .directory {})]
  contents := [(0, .sealed [(.ofString "m.py", some (.bytes [0x70])),
    (.ofString Lookup.fileName, some (.bytes ((Lookup.encode
      [("m.py", .ofString "/f.py"), ("n/x.py", .ofString "/g.py")]).getD [])))])]
  nextKey := 1

theorem recover_invalidMember_of_halfDisk :
    halfDisk.WellFormed ∧
      ∃ log d', recover (.ofString "/tmp/s") (.ofString "/a") .keep halfDisk =
          ((.error (.invalidMember "n/x.py"), log), d') ∧
        log = [] ∧ ∃ archive top table c before x,
          archiveAt halfDisk .keep (.ofString "/a") = .ok archive ∧
          (gather (.ofString "/tmp/s") archive).run.run halfDisk = (.ok (top, table), c) ∧
          before = table.filter (·.1 < "n/x.py") ∧
          (before.forM (restoreEntry (.ofString "/tmp/s"))).run.run c = (.ok (), x) ∧
          d' = ((removeTree (.ofString "/tmp/s")).run.run x).2 := by
  have hwell : halfDisk.WellFormed := by decide +kernel
  have h : recover (.ofString "/tmp/s") (.ofString "/a") .keep halfDisk =
      ((.error (.invalidMember "n/x.py"),
          (recover (.ofString "/tmp/s") (.ofString "/a") .keep halfDisk).1.2),
        (recover (.ofString "/tmp/s") (.ofString "/a") .keep halfDisk).2) :=
    Prod.ext (Prod.ext (by decide +kernel) rfl) rfl
  obtain ⟨hlog, archive, top, table, c, before, x, harchive, hgather, -, -, hbefore, -, hturns, hd',
    -, -⟩ := recover_invalidMember hwell h
  exact ⟨hwell, _, _, h, hlog, archive, top, table, c, before, x, harchive, hgather, hbefore,
    hturns, hd'⟩

/-- The file with the good name is there when the archive is rejected for the bad one. -/
theorem recover_halfDisk :
    (recover (.ofString "/tmp/s") (.ofString "/a") .keep halfDisk).1.1 =
        .error (.invalidMember "n/x.py") ∧
      halfDisk.exists? (.ofString "/f.py") = false ∧
      (recover (.ofString "/tmp/s") (.ofString "/a") .keep halfDisk).2.exists?
        (.ofString "/f.py") = true := by
  decide +kernel

end Codemod.Backup
