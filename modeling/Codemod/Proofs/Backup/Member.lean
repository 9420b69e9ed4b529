import Codemod.Proofs.Backup.Draw
import Codemod.Proofs.Backup.Reject

set_option autoImplicit false

/-! # Members that are moved

A name in the table of an archive is let through if it is one part of a path, which is a matter of
its characters (`isPlainName_iff`). Put after the path of the directory for unpacking such a name
leads to what lies directly in that directory (`MovesChild`), and nothing else is ever moved: at any
other name the recovery is given up (`recover_moves_children`). -/

namespace Codemod.Backup

open Disk Archive

variable {d c x : Disk} {staging p archive path : Path} {cleanup : Cleanup} {top : Location}
  {name : String} {table : Lookup} {e : String × Path}

/-! ## Names of one part -/

/-- A name that says which entry of a directory it means, and no directory on the way. -/
structure IsOneName (name : String) : Prop where
  ne_empty : name ≠ ""
  slash_notMem : '/' ∉ name.toList
  ne_here : name ≠ "."
  ne_above : name ≠ ".."

theorem isProper_ofString_iff : IsProper (Name.ofString name) ↔ IsOneName name := by
  have hnil : Name.ofString "" = [] := rfl
  have hhere : Name.ofString "." = Path.here := by decide
  have habove : Name.ofString ".." = Path.above := by decide
  constructor
  · intro h
    refine ⟨?_, ?_, ?_, ?_⟩
    · rintro rfl
      exact h.isPart.1 hnil
    · exact fun hslash => h.isPart.2 (Name.separator_mem_ofString.mpr hslash)
    · rintro rfl
      exact h.ne_here hhere
    · rintro rfl
      exact h.ne_above habove
  · intro h
    refine ⟨Name.isPart_ofString h.ne_empty h.slash_notMem, ?_, ?_⟩
    · exact fun heq => h.ne_here (Name.ofString_injective (heq.trans hhere.symm))
    · exact fun heq => h.ne_above (Name.ofString_injective (heq.trans habove.symm))

/-- A proper name is all that there is of its path. -/
theorem components_of_isProper {n : Name} (h : IsProper n) :
    Path.components ⟨n⟩ = [.normal n] := by
  have hcomponent : Path.componentOf? n = some (.normal n) := by
    rw [Path.componentOf?, if_neg h.ne_here, if_neg h.ne_above]
  rw [Path.components, Path.not_isAbsolute_of_isPart h.isPart, Path.segments_of_isPart h.isPart]
  simp [h.ne_here, hcomponent]

theorem isPlainName_iff_isProper :
    Lookup.isPlainName name = true ↔ IsProper (Name.ofString name) := by
  refine ⟨isProper_of_isPlainName, fun h => ?_⟩
  rw [Lookup.isPlainName, Path.fileName?, Path.ofString, components_of_isProper h]
  exact beq_self_eq_true _

/-- The check of a name, which looks at the last part of its path, lets through the names of one
part: those that are the only part of their path. -/
theorem isPlainName_iff :
    (Lookup.isPlainName name = true ↔ IsOneName name) ∧
      (Lookup.isPlainName name = true ↔
        (Path.ofString name).components = [.normal (Name.ofString name)]) := by
  refine ⟨isPlainName_iff_isProper.trans isProper_ofString_iff, isPlainName_iff_isProper.trans ?_⟩
  refine ⟨components_of_isProper, fun h => isProper_of_mem_components (p := .ofString name) ?_⟩
  rw [h]
  exact List.mem_singleton_self _

/-- A name that says more than an entry of a directory: it is absolute, ends in a separator or in one
with a dot, has two separators in a row, or has a way up among its parts. -/
inductive LeadsAway (name : String) : Prop
  | absolute (h : (Path.ofString name).isAbsolute = true)
  | separatorLast (h : ['/'] <:+ name.toList)
  | hereLast (h : ['/', '.'] <:+ name.toList)
  | separators (h : ['/', '/'] <:+: name.toList)
  | up (h : Component.up ∈ (Path.ofString name).components)

theorem slash_mem_of_isAbsolute (h : (Path.ofString name).isAbsolute = true) :
    '/' ∈ name.toList := by
  rw [Path.isAbsolute, beq_iff_eq] at h
  exact Name.separator_mem_ofString.mp (List.mem_of_head? h)

/-- Only a way up need not show in a separator: there is the name that is nothing else. -/
theorem LeadsAway.not_isOneName (h : LeadsAway name) : ¬ IsOneName name := by
  intro hone
  cases h with
  | absolute h => exact hone.slash_notMem (slash_mem_of_isAbsolute h)
  | separatorLast h => exact hone.slash_notMem (h.subset (by simp))
  | hereLast h => exact hone.slash_notMem (h.subset (by simp))
  | separators h => exact hone.slash_notMem (h.subset (by simp))
  | up h =>
    rw [isPlainName_iff.2.mp (isPlainName_iff.1.mpr hone)] at h
    simp at h

/-! ## What is moved -/

/-- An entry is let through: its member is moved to its path, from a path that is that of the
directory for unpacking with one more name, and leads to what has that name in the directory. -/
structure MovesChild (staging : Path) (e : String × Path) : Prop where
  moves : restoreEntry staging e = (do
    makeAbove e
    attempt (fun _ => .cannotRestore e.2) (moveFile (staging.join (.ofString e.1)) e.2))
  segments : (staging.join (.ofString e.1)).segments = staging.segments ++ [Name.ofString e.1]
  place : ∀ x top m, LeadsTo x staging top →
    x.place? (staging.join (.ofString e.1)) false = .ok m → m = top ++ [Name.ofString e.1]

theorem movesChild_of_isOneName (staging : Path) (h : IsOneName e.1) : MovesChild staging e where
  moves := restoreEntry_of_plain staging (isPlainName_iff.1.mpr h)
  segments := Path.segments_join staging (isProper_ofString_iff.mpr h).isPart
  place := fun _ _ _ hleads => hleads.place?_join (isProper_ofString_iff.mpr h)

theorem restoreEntry_of_not_isOneName (staging : Path) (h : ¬ IsOneName e.1) :
    restoreEntry staging e = throw (.invalidMember e.1) := by
  refine restoreEntry_of_not_plain staging ?_
  rwa [← Bool.not_eq_true, isPlainName_iff.1]

/-! ## What is given up -/

/-- The entries before a bad name have their turns, and then the recovery is over. -/
theorem restoreAll_eq_invalidMember_iff :
    ((table.forM (restoreEntry staging)).run.run c).1 = .error (.invalidMember name) ↔
      ∃ turn ∈ turns staging table c, turn.1.1 = name ∧ ¬ IsOneName name := by
  constructor
  · intro h
    obtain ⟨before, path, rest, x, rfl, hplain, -, hbefore, -⟩ := exists_of_restoreAll h
    refine ⟨((name, path), x), ?_, rfl, ?_⟩
    · rw [turns_append hbefore, turns_cons]
      exact List.mem_append_right _ List.mem_cons_self
    · rw [← isPlainName_iff.1, hplain]
      exact Bool.false_ne_true
  · rintro ⟨turn, hturn, rfl, hnot⟩
    have hfailed : (restoreEntry staging turn.1).run.run turn.2 =
        (.error (.invalidMember turn.1.1), turn.2) := by
      rw [restoreEntry_of_not_isOneName staging hnot]
      rfl
    exact congrArg Prod.fst (run_restoreAll_of_mem_turns hturn hfailed)

theorem recover_eq_invalidMember_iff (harchive : archiveAt d cleanup p = .ok archive)
    (hgather : (gather staging archive).run.run d = (.ok (top, table), c)) :
    (recover staging p cleanup d).1.1 = .error (.invalidMember name) ↔
      ((table.forM (restoreEntry staging)).run.run c).1 = .error (.invalidMember name) := by
  constructor
  · intro h
    obtain ⟨archive', top', table', c', x, harchive', hgather', hall, -, -⟩ :=
      gather_of_invalidMember (Prod.ext (Prod.ext h rfl) rfl)
    cases harchive.symm.trans harchive'
    cases hgather.symm.trans hgather'
    rw [hall]
  · intro h
    rcases hall : (table.forM (restoreEntry staging)).run.run c with ⟨answer, x⟩
    rw [hall] at h
    cases h
    rw [recover_of_gather harchive hgather, hall]

/-- The members that a recovery moves are the ones with the name of an entry, each from the
directory for unpacking itself. Any other name ends the recovery when its turn comes, with the tree
as it is then, and so do in particular the names that would lead out of the directory. -/
theorem recover_moves_children (harchive : archiveAt d cleanup p = .ok archive)
    (hgather : (gather staging archive).run.run d = (.ok (top, table), c)) :
    (∀ e : String × Path, (IsOneName e.1 → MovesChild staging e) ∧
      (¬ IsOneName e.1 → ∀ x,
        (restoreEntry staging e).run.run x = (.error (.invalidMember e.1), x))) ∧
      (∀ name, LeadsAway name → ¬ IsOneName name) ∧
      ∀ name, (recover staging p cleanup d).1.1 = .error (.invalidMember name) ↔
        ∃ turn ∈ turns staging table c, turn.1.1 = name ∧ ¬ IsOneName name := by
  refine ⟨fun e => ⟨movesChild_of_isOneName staging, fun hnot x => ?_⟩,
    fun _ => LeadsAway.not_isOneName, fun name => ?_⟩
  · rw [restoreEntry_of_not_isOneName staging hnot]
    rfl
  · exact (recover_eq_invalidMember_iff harchive hgather).trans restoreAll_eq_invalidMember_iff

/-- An archive whose second name leads back to the directory for unpacking. -/
def climbingDisk : Disk where
  entries := [([Name.ofString "a"], .file 0), ([Name.ofString "tmp"], .directory {})]
  contents := [(0, .sealed [(.ofString "m.py", some (.bytes [0x70])),
    (.ofString Lookup.fileName, some (.bytes ((Lookup.encode
      [("m.py", .ofString "/f.py"), ("m.py/..", .ofString "/g.py")]).getD [])))])]
  nextKey := 1

theorem recover_moves_children_of_climbingDisk :
    ∃ top table c,
      (gather (.ofString "/tmp/s") (.ofString "/a")).run.run climbingDisk =
        (.ok (top, table), c) ∧
      table.map (·.1) = ["m.py", "m.py/.."] ∧ IsOneName "m.py" ∧ LeadsAway "m.py/.." ∧
      MovesChild (.ofString "/tmp/s") ("m.py", .ofString "/f.py") ∧
      (recover (.ofString "/tmp/s") (.ofString "/a") .keep climbingDisk).1.1 =
        .error (.invalidMember "m.py/..") ∧
      ∃ turn ∈ turns (.ofString "/tmp/s") table c,
        turn.1.1 = "m.py/.." ∧ ¬ IsOneName "m.py/.." := by
  have harchive : archiveAt climbingDisk .keep (.ofString "/a") = .ok (.ofString "/a") := rfl
  have hrecover : (recover (.ofString "/tmp/s") (.ofString "/a") .keep climbingDisk).1.1 =
      .error (.invalidMember "m.py/..") := by decide +kernel
  have hgather : (gather (.ofString "/tmp/s") (.ofString "/a")).run.run climbingDisk =
      (.ok ([Name.ofString "tmp", Name.ofString "s"],
          [("m.py", .ofString "/f.py"), ("m.py/..", .ofString "/g.py")]),
        ((gather (.ofString "/tmp/s") (.ofString "/a")).run.run climbingDisk).2) :=
    Prod.ext (by decide +kernel) rfl
  have hone : IsOneName "m.py" := ⟨by decide, by decide, by decide, by decide⟩
  obtain ⟨hentry, -, hiff⟩ := recover_moves_children harchive hgather
  exact ⟨_, _, _, hgather, rfl, hone, .up (by decide),
    (hentry ("m.py", .ofString "/f.py")).1 hone, hrecover, (hiff _).mp hrecover⟩

end Codemod.Backup
