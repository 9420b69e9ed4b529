import Codemod.Proofs.Backup.Reach

set_option autoImplicit false

/-! # What a failed recovery spares

A file keeps its place and its content through a recovery that fails, at whatever point, as long as
no entry that takes its turn comes upon it: by its place or, when files have to be copied, by
another of its names (`kept_of_recover`). So does the archive. -/

namespace Codemod.Backup

open Disk Archive

variable {d d' x x' : Disk} {staging p archive : Path} {top place m l : Location}
  {key : Nat} {n : Name} {e : String × Path} {table : Lookup}

/-! ## A file that stays -/

/-- A tree in which a file is as it was in another one, and so are the directories above it. -/
structure Kept (d : Disk) (place : Location) (key : Nat) (d' : Disk) : Prop where
  wellFormed : d'.WellFormed
  at? : ∀ m, m <+: place → d'.at? m = d.at? m
  contentOf : d'.contentOf key = d.contentOf key
  rightsOf : d'.rightsOf key = d.rightsOf key

theorem kept_refl (hd : d.WellFormed) : Kept d place key d :=
  ⟨hd, fun _ _ => rfl, rfl, rfl⟩

section Kept

variable (hd : d.WellFormed) (hkey : d.at? place = some (.file key))
include hkey

theorem Kept.key_lt (h : Kept d place key x) : key < x.nextKey :=
  h.wellFormed.key_lt ((h.at? place List.prefix_rfl).trans hkey)

/-- A path that leads to the file reads the same, as long as it leads there. -/
theorem Kept.read {p : Path} (h : Kept d place key x) (hplace : d.place? p = .ok place)
    (hplace' : x.place? p = .ok place) : x.read p = d.read p := by
  rw [read_of_place? hplace, read_of_place? hplace', h.at? place List.prefix_rfl, hkey]
  dsimp only
  rw [h.contentOf, h.rightsOf]

/-- The file stays where neither it nor a directory above it is changed. -/
theorem Kept.of_sameBut {places : Location → Prop} {keys : Nat → Prop} (h : Kept d place key x)
    (hwell : x'.WellFormed) (hsame : SameBut places keys x x')
    (hplaces : ∀ m, m <+: place → ¬ places m) (hkeys : ¬ keys key) : Kept d place key x' where
  wellFormed := hwell
  at? := fun m hm => (hsame.at? m (hplaces m hm)).trans (h.at? m hm)
  contentOf := (hsame.contentOf key (h.key_lt hkey) hkeys).trans h.contentOf
  rightsOf := (hsame.rightsOf key (h.key_lt hkey) hkeys).trans h.rightsOf

include hd

/-- All above the file is there. -/
theorem Kept.at?_ne_none (h : Kept d place key x) (hm : m <+: place) : x.at? m ≠ none := by
  rw [h.at? m hm]
  by_cases heq : m = place
  · rw [heq, hkey]
    simp
  · obtain ⟨rights, hat⟩ := hasDirectory_iff.1 (hd.hasDirectory_above hkey hm heq)
    rw [hat]
    simp

/-- A name that is free is not above the file. -/
theorem Kept.not_prefix_of_isFree (h : Kept d place key x) (hfree : x.IsFree l n) :
    ¬ l ++ [n] <+: place :=
  fun hm => h.at?_ne_none hd hkey hm hfree.at?_eq_none

end Kept

/-! ## Entries that spare it -/

/-- An entry in its turn comes upon a file neither by the place of the file nor by another name of
it, and the directory for unpacking is where it was. -/
structure Spares (staging : Path) (top place : Location) (key : Nat) (e : String × Path)
    (x : Disk) : Prop where
  leads : LeadsTo x staging top
  name : ∀ found, (above x e).resolveName e.2 = .ok found → found.place ≠ place
  file : ∀ m, (above x e).place? e.2 = .ok m → (above x e).at? m ≠ some (.file key)

theorem spares_iff :
    Spares staging top place key e x ↔ LeadsTo x staging top ∧
      (∀ found ∈ ((above x e).resolveName e.2).toOption, found.place ≠ place) ∧
      ∀ m ∈ ((above x e).place? e.2).toOption, (above x e).at? m ≠ some (.file key) := by
  have hsome : ∀ {α : Type} {found : Except PathError α} {a : α},
      a ∈ found.toOption ↔ found = .ok a := by
    intro α found a
    cases found
    · simp [Except.toOption]
    · simp [Except.toOption]
  simp only [hsome]
  constructor
  · intro h
    exact ⟨h.leads, h.name, h.file⟩
  · rintro ⟨hleads, hname, hfile⟩
    exact ⟨hleads, hname, hfile⟩

instance (staging : Path) (top place : Location) (key : Nat) (e : String × Path) (x : Disk) :
    Decidable (Spares staging top place key e x) :=
  decidable_of_iff _ spares_iff.symm

section Course

variable (hd : d.WellFormed) (hkey : d.at? place = some (.file key)) (htop : ¬ top <+: place)
include hd hkey htop

/-- A file that is spared is not touched, nor is anything above it. -/
theorem Kept.not_touches (h : Kept d place key x) (hplain : Lookup.isPlainName e.1 = true)
    (hspares : Spares staging top place key e x) (hm : m <+: place) : ¬ Touches staging e x m := by
  obtain ⟨hwell, hgrown⟩ := grown_above h.wellFormed e
  have hleads := hspares.leads.of_extends h.wellFormed hgrown.isExtended
  have hstay : ∀ m, m <+: place → (above x e).at? m ≠ none := by
    intro m hm
    obtain ⟨entry, hat⟩ := Option.ne_none_iff_exists'.1 (h.at?_ne_none hd hkey hm)
    rw [hgrown.at?_of_some hat]
    simp
  rintro (⟨hnone, -⟩ | ⟨⟨hnamed, hbelow⟩ | ⟨hnamed, hbelow, hbare⟩ | ⟨hvacant, rfl⟩⟩)
  · exact h.at?_ne_none hd hkey hm hnone
  · rw [hleads.place?_join (isProper_of_isPlainName hplain) hnamed] at hbelow
    exact htop ((List.prefix_append ..).trans (hbelow.trans hm))
  · exact hstay place List.prefix_rfl
      (hbare place (hbelow.trans hm) (hspares.name _ hnamed))
  · have hfree : (above x e).IsFree _ _ := hwell.isThere_of_locate hvacant
    exact hstay _ hm hfree.at?_eq_none

theorem Kept.restoreEntry (h : Kept d place key x) (hspares : Spares staging top place key e x) :
    Kept d place key ((restoreEntry staging e).run.run x).2 ∧
      ∀ failure, ((restoreEntry staging e).run.run x).1 = .error failure →
        LeadsTo ((restoreEntry staging e).run.run x).2 staging top := by
  obtain ⟨hsame, hfailed⟩ := sameBut_restoreEntry h.wellFormed staging e
  refine ⟨?_, fun failure hfailure =>
    hspares.leads.of_extends h.wellFormed (hfailed failure hfailure)⟩
  cases hplain : Lookup.isPlainName e.1
  · rw [restoreEntry_of_not_plain staging hplain]
    exact h
  · exact h.of_sameBut hkey (keeps_restoreEntry staging e x h.wellFormed) hsame
      (fun m hm => h.not_touches hd hkey htop hplain hspares hm)
      fun ⟨m, hplace, hat⟩ => hspares.file m hplace hat

/-- However many entries take their turns, the file is kept if each of them spares it. -/
theorem kept_of_turns (h : Kept d place key x)
    (hturns : ∀ turn ∈ turns staging table x, Spares staging top place key turn.1 turn.2) :
    Kept d place key ((table.forM (Backup.restoreEntry staging)).run.run x).2 ∧
      ∀ failure, ((table.forM (Backup.restoreEntry staging)).run.run x).1 = .error failure →
        LeadsTo ((table.forM (Backup.restoreEntry staging)).run.run x).2 staging top := by
  induction table generalizing x with
  | nil => exact ⟨h, by simp⟩
  | cons e rest ih =>
    rw [turns_cons, List.forall_mem_cons] at hturns
    obtain ⟨hkept, hleads⟩ := h.restoreEntry hd hkey htop hturns.1
    rw [run_restoreAll_cons]
    rcases hrun : (Backup.restoreEntry staging e).run.run x with ⟨failure | ⟨⟩, x'⟩
    · rw [hrun] at hkept hleads
      exact ⟨hkept, fun _ _ => hleads failure rfl⟩
    · rw [hrun] at hkept hturns
      exact ih hkept hturns.2

/-! ## The whole recovery -/

omit hd in
/-- Only the directory for unpacking is removed. -/
theorem Kept.removeTree (h : Kept d place key x) (hleads : LeadsTo x staging top) :
    Kept d place key ((Disk.removeTree staging).run.run x).2 :=
  h.of_sameBut hkey (WellFormed.keeps_removeTree staging x h.wellFormed)
    (hleads.sameBut_removeTree fun _ => False) (fun _ hm hbelow => htop (hbelow.trans hm)) id

end Course

section Recovery

variable (hd : d.WellFormed) (hkey : d.at? place = some (.file key))
include hd hkey

/-- What an archive is unpacked to is not above a file, which is there as before. -/
theorem kept_of_gather (h : (gather staging archive).run.run d = (.ok (top, table), x)) :
    ¬ top <+: place ∧ Kept d place key x := by
  have hself : Kept d place key d := kept_refl hd
  obtain ⟨l, n, rfl, hfound, -⟩ := gather_eq_ok hd h
  obtain ⟨hx, -, hsame⟩ := sameBut_gather hd h fun _ => False
  have hout := hself.not_prefix_of_isFree hd hkey (hd.isThere_of_locate hfound)
  exact ⟨hout, hself.of_sameBut hkey hx hsame (fun _ hm hbelow => hout (hbelow.trans hm)) id⟩

/-- A recovery that fails before anything is removed at the end keeps every file that the entries
spare in their turns. -/
theorem kept_of_recover {cleanup : Cleanup} {failure : Failure}
    (hspares : ∀ archive top table c, archiveAt d cleanup p = .ok archive →
      (gather staging archive).run.run d = (.ok (top, table), c) →
      ∀ turn ∈ turns staging table c, Spares staging top place key turn.1 turn.2)
    (h : recover staging p cleanup d = ((.error failure, []), d')) : Kept d place key d' := by
  have hself : Kept d place key d := kept_refl hd
  rcases harchive : archiveAt d cleanup p with failure' | archive
  · simp only [recover, harchive] at h
    cases h
    exact hself
  rcases hgather : (gather staging archive).run.run d with ⟨failure' | ⟨top, table⟩, c⟩
  · obtain ⟨z, hrun, hz, hsame⟩ :=
      recover_of_gather_failed hd harchive (congrArg Prod.fst hgather) fun _ => False
    cases hrun.symm.trans h
    refine hself.of_sameBut hkey hz hsame ?_ id
    rintro m hm ⟨l, n, hfound, hbelow⟩
    exact hself.not_prefix_of_isFree hd hkey (hd.isThere_of_locate hfound) (hbelow.trans hm)
  · obtain ⟨hout, hstart⟩ := kept_of_gather hd hkey hgather
    obtain ⟨hkept, hleads⟩ :=
      kept_of_turns hd hkey hout hstart (hspares archive top table c harchive hgather)
    rw [recover_of_gather harchive hgather] at h
    rcases hturns : (table.forM (restoreEntry staging)).run.run c with ⟨failure' | ⟨⟩, y⟩
    · rw [hturns] at h hkept hleads
      cases h
      exact hkept.removeTree hkey hout (hleads failure rfl)
    · rw [hturns] at h
      exact absurd (congrArg (·.1.2) h) (List.cons_ne_nil _ _)

end Recovery

end Codemod.Backup
