import Codemod.Proofs.Disk.Alike
import Codemod.Proofs.Disk.SameBut

set_option autoImplicit false

/-! # Files that cannot be moved

A file stays where it is if neither renaming nor copying gets it to where a path leads (`IsStuck`).
Then nothing changes, and if a move has failed for whatever reason then it fails the same way when
it is tried again, here (`isStuck_of_moveFile`) or in another tree in which the path leads to the
same (`IsStuck.of_alike`). -/

namespace Codemod.Disk

variable {d d' x y : Disk} {source source' target : Path} {k k' l m : Location} {n : Name}
  {key key' : Nat} {found : Found} {tops : List Location}

/-! ## Renaming -/

/-- What must be known of a place to tell whether a file can come there: what is there, which file
apart, and whether that is the file itself. -/
inductive GivesWayAlike (key key' : Nat) : Option Entry → Option Entry → Prop
  | none : GivesWayAlike key key' none none
  | directory (rights rights' : Rights) :
    GivesWayAlike key key' (some (.directory rights)) (some (.directory rights'))
  | link (target target' : Path) :
    GivesWayAlike key key' (some (.link target)) (some (.link target'))
  | file {other other' : Nat} (h : other' = key' → other = key) :
    GivesWayAlike key key' (some (.file other)) (some (.file other'))

/-- A file cannot be renamed in one tree if it cannot be renamed in another one where the path names
the same. -/
theorem rename_error_of_alike {e : PathError} (hsource : d.HasFile source k key)
    (hsource' : d'.HasFile source' k' key') (hfound : d.resolveName target = .ok found)
    (hfound' : d'.resolveName target = .ok found) (hne' : found.place ≠ k')
    (hat : GivesWayAlike key key' (d.at? found.place) (d'.at? found.place))
    (hrights : d'.rightsAt found.place.dropLast = d.rightsAt found.place.dropLast)
    (h : (rename source target).run.run d = (.error e, x)) :
    ∃ e, (rename source' target).run.run d' = (.error e, d') := by
  have hmove : ∀ {e x}, (move k found.place).run.run d = (.error e, x) →
      ∃ e, (move k' found.place).run.run d' = (.error e, d') := by
    intro e x hmove
    have hwritable : (d.rightsAt found.place.dropLast).writable = false := by
      rw [Bool.eq_false_iff]
      intro hwritable
      rw [run_move_file hsource.at? hsource.writable hwritable] at hmove
      cases hmove
    rw [run_move, if_neg (by rw [hrights, hwritable]; simp)]
    exact ⟨_, rfl⟩
  rw [run_rename_of_file (hsource.place? false) hfound hsource.at?, hsource.endsSpecially] at h
  rw [run_rename_of_file (hsource'.place? false) hfound' hsource'.at?, hsource'.endsSpecially]
  split
  · exact ⟨_, rfl⟩
  rename_i hspecial
  rw [if_neg hspecial] at h
  split
  · exact ⟨_, rfl⟩
  rename_i hslash
  rw [if_neg hslash] at h
  generalize d.at? found.place = entry at hat h
  generalize d'.at? found.place = entry' at hat
  cases hat with
  | none => exact hmove h
  | directory rights rights' => exact ⟨_, rfl⟩
  | link target target' =>
    simp only [sameFile, Bool.or_false, decide_eq_true_eq] at h ⊢
    rw [if_neg hne']
    split at h
    · cases h
    · exact hmove h
  | file hsame =>
    rename_i other other'
    dsimp only at h ⊢
    split at h
    · cases h
    · rename_i hother
      simp only [sameFile, Bool.or_eq_true, decide_eq_true_eq, beq_iff_eq, not_or] at hother ⊢
      rw [if_neg fun hagain => ?_]
      · exact hmove h
      · rcases hagain with hplace | hkey
        · exact hne' hplace
        · exact hother.2 (hsame hkey.symm).symm

/-! ## Copies -/

/-- Neither renaming nor copying gets a file to where a path leads. -/
structure IsStuck (d : Disk) (source target : Path) : Prop where
  rename : ∃ e, (rename source target).run.run d = (.error e, d)
  copy : (∃ e, d.read source = .error e) ∨
    ∃ e, (write target (.bytes [])).run.run d = (.error e, d)

theorem IsStuck.run_moveFile (h : IsStuck d source target) :
    ∃ e, (moveFile source target).run.run d = (.error e, d) := by
  obtain ⟨e, hrename⟩ := h.rename
  obtain ⟨e', hcopy⟩ := run_copyFile_of_stuck h.copy
  rw [moveFile, run_tryCatch, hrename]
  dsimp only
  rw [run_bind, hcopy]
  exact ⟨e', rfl⟩

theorem HasFile.read (h : d.HasFile source k key) :
    d.read source =
      if (d.rightsOf key).readable then .ok (d.contentOf key) else .error .denied := by
  rw [read_of_place? (h.place? true), h.at?]

/-- A file that a path leads to, and that can be written to, gets another content and other rights.
-/
theorem exists_of_rewrite {other : Nat} (hd : d.WellFormed) (hplace : d.place? target = .ok m)
    (hat : d.at? m = some (.file other)) (hwritable : (d.rightsAt m).writable = true)
    (content : Content) (rights : Rights) :
    ∃ x y, (write target content).run.run d = (.ok (), x) ∧
      (setRights target rights).run.run x = (.ok (), y) ∧ y.WellFormed ∧ d.Extends y ∧
      y.at? = d.at? := by
  have hextends : d.Extends (d.setContent other content) := .of_at?_eq rfl fun _ => rfl
  have hplace' : (d.setContent other content).place? target = .ok m :=
    hextends.place? hd (fun _ _ => ⟨other, hat⟩) hplace
  have hwrite : (write target content).run.run d = (.ok (), d.setContent other content) := by
    rw [run_write, place?_eq_ok_iff_resolve.1 hplace]
    simp only [hat, hwritable, if_true]
  have hrights : (setRights target rights).run.run (d.setContent other content) = (.ok (),
      { d.setContent other content with fileRights := (other, rights) ::
        (d.setContent other content).fileRights.filter fun r => r.1 != other }) := by
    have hat' : (d.setContent other content).at? m = some (.file other) := hat
    rw [run_setRights, hplace']
    simp only [hat']
  have hkeeps := WellFormed.keeps_setRights target rights _ (hd.setContent other content)
  rw [hrights] at hkeeps
  exact ⟨_, _, hwrite, hrights, hkeeps, .of_at?_eq rfl fun _ => rfl, rfl⟩

/-- Once the target is open and can be found, the copy is made. -/
theorem run_copyFile_of_found {other : Nat} (hsource : d.HasFile source k key)
    (hread : d.read source = .ok (d.contentOf key))
    (hwrite : (write target (.bytes [])).run.run d = (.ok (), x)) (hx : x.WellFormed)
    (hsource' : x.HasFile source k key) (hreadable : (x.rightsOf key).readable = true)
    (hplace : x.place? target = .ok m) (hat : x.at? m = some (.file other))
    (hwritable : (x.rightsAt m).writable = true) :
    ∃ y, (copyFile source target).run.run d = (.ok (), y) ∧ y.WellFormed ∧
      y.HasFile source k key := by
  obtain ⟨y, z, hagain, hset, hz, hextends, hsame⟩ := exists_of_rewrite hx hplace hat hwritable
    (x.contentOf key) (d.rightsAt k)
  refine ⟨z, ?_, hz, hsource'.of_extends hx hextends (by rw [hsame, hsource'.at?])⟩
  rw [run_copyFile_of_write (hsource.place? true) hread hwrite, hsource'.read, if_pos hreadable]
  dsimp only
  rw [hagain]
  exact hset

/-- A copy of a file is refused from the start, or it is made, or it comes to an end with a new file
that is empty: that is so where the path is a link with a slash at its end to a free name. -/
theorem run_copyFile_cases (hd : d.WellFormed) (hsource : d.HasFile source k key) (target : Path) :
    ((∃ e, d.read source = .error e) ∨
        ∃ e, (write target (.bytes [])).run.run d = (.error e, d)) ∨
      (∃ y, (copyFile source target).run.run d = (.ok (), y) ∧ y.WellFormed ∧
        y.HasFile source k key) ∨
      ∃ e l n, (copyFile source target).run.run d = (.error e, d.addFile (l ++ [n]) (.bytes [])) ∧
        d.resolve target true = .ok (.vacant l n) ∧ (d.rightsAt l).writable = true ∧
        target.endsInSeparator = false ∧
        ∃ e', (d.addFile (l ++ [n]) (.bytes [])).resolve target true = .error e' := by
  by_cases hreadable : (d.rightsOf key).readable = true
  swap
  · refine .inl (.inl ⟨.denied, ?_⟩)
    rw [hsource.read, if_neg hreadable]
  have hread : d.read source = .ok (d.contentOf key) := by
    rw [hsource.read, if_pos hreadable]
  rcases run_write_cases target (.bytes []) d with hrefused |
    ⟨l, n, hresolve, hslash, hwritable, hwrite⟩ | ⟨l, other, hplace, hat, hwritable, hwrite⟩
  · exact .inl (.inr hrefused)
  · have hfree : d.IsFree l n := hd.isThere_of_locate hresolve
    have hwithin := within_addFile hfree.at?_eq_none (.bytes [])
    have hsource' := hsource.of_extends hd hwithin.isExtended (hwithin.at? k _ hsource.at?)
    have hnew : (d.addFile (l ++ [n]) (.bytes [])).at? (l ++ [n]) = some (.file d.nextKey) := by
      rw [at?_addFile, if_pos ⟨rfl, concat_ne_nil _ _⟩]
    rcases hagain : (d.addFile (l ++ [n]) (.bytes [])).resolve target true with e | found
    · refine .inr (.inr ⟨e, l, n, ?_, hresolve, hwritable, hslash, e, hagain⟩)
      rw [run_copyFile_of_write (hsource.place? true) hread hwrite, hsource'.read,
        if_pos (by exact hreadable)]
      dsimp only
      rw [run_write, hagain]
    · have hthere := hwithin.isExtended.resolve_of_vacant_file hd hresolve hnew hagain
      subst hthere
      refine .inr (.inl (run_copyFile_of_found hsource hread hwrite
        (hd.addFile hfree (.bytes [])) hsource' hreadable
        (place?_eq_ok_iff_resolve.2 hagain) hnew ?_))
      rw [rightsAt, hnew]
      exact congrArg Rights.writable (hd.rightsOf_of_le (Nat.le_refl _))
  · have hextends : d.Extends (d.setContent other (.bytes [])) := .of_at?_eq rfl fun _ => rfl
    exact .inr (.inl (run_copyFile_of_found hsource hread hwrite (hd.setContent other _)
      (hsource.of_extends hd hextends hsource.at?) hreadable
      (hextends.place? hd (fun _ _ => ⟨other, hat⟩) hplace) hat hwritable))

/-! ## Failed moves -/

/-- A path that leads to a free name ends with it, or with a link. -/
theorem resolveName_of_resolve_vacant (hslash : target.endsInSeparator = false)
    (h : d.resolve target true = .ok (.vacant l n)) :
    d.resolveName target = .ok (.vacant l n) ∧ endsSpecially target = false ∨
      ∃ m link, d.resolveName target = .ok (.entry m) ∧ d.at? m = some (.link link) := by
  obtain ⟨hne, hpass, hstart, hchase⟩ := locate_eq_ok_iff.1 h
  rw [hslash] at hchase
  have hname : ∀ found,
      d.chase false linkLimit false (d.startOf target) target.segments = .ok found →
      d.resolveName target = .ok found := fun found hfound =>
    locate_eq_ok_iff.2 ⟨hne, hpass, hstart, hfound⟩
  rcases List.eq_nil_or_concat target.segments with hnil | ⟨init, a, hsegments⟩
  · rw [hnil, chase_nil] at hchase
    cases hchase
  rw [List.concat_eq_append] at hsegments
  rw [hsegments, chase_append _ _ _ _ _ _ (List.cons_ne_nil _ _)] at hchase hname
  rcases henter : d.enter linkLimit (d.startOf target) init with e | ⟨left, l'⟩
  · rw [henter] at hchase
    cases hchase
  rw [henter] at hchase hname
  dsimp only at hchase hname
  rw [chase_singleton] at hchase hname
  rcases hturn : d.turn l' a with e | m | link
  · rw [hturn] at hchase hname
    cases e
    case notFound =>
      cases hchase
      obtain ⟨-, hordinary, -⟩ := at?_of_turn.1 hturn
      refine .inl ⟨hname _ rfl, ?_⟩
      simp [endsSpecially, hsegments, hordinary.ne_here, hordinary.ne_above]
    all_goals cases hchase
  · rw [hturn] at hchase
    cases hchase
  · rw [hturn] at hname
    exact .inr ⟨_, link, hname _ rfl, (at?_of_turn.2.2 link hturn).2⟩

theorem Within.refl (d : Disk) : d.Within d :=
  ⟨rfl, fun _ _ h => h, fun _ _ => rfl, fun _ _ => rfl, le_rfl⟩

/-- A file that can neither be renamed nor be copied is stuck beside the empty file that came of
copying it. -/
theorem isStuck_addFile {e e' : PathError} (hd : d.WellFormed) (hsource : d.HasFile source k key)
    (hrename : (rename source target).run.run d = (.error e, x))
    (hresolve : d.resolve target true = .ok (.vacant l n))
    (hwritable : (d.rightsAt l).writable = true) (hslash : target.endsInSeparator = false)
    (hagain : (d.addFile (l ++ [n]) (.bytes [])).resolve target true = .error e')
    (hfile : (d.addFile (l ++ [n]) (.bytes [])).HasFile source k key) :
    IsStuck (d.addFile (l ++ [n]) (.bytes [])) source target := by
  have hfree : d.IsFree l n := hd.isThere_of_locate hresolve
  have hwithin := within_addFile hfree.at?_eq_none (.bytes [])
  refine ⟨?_, .inr ⟨e', by rw [run_write, hagain]⟩⟩
  rcases resolveName_of_resolve_vacant hslash hresolve with
    ⟨hfound, hspecial⟩ | ⟨m, link, hfound, hat⟩
  · -- The file would have been renamed.
    have hdirectory : (d.rightsAt (Found.vacant l n).place.dropLast).writable = true := by
      rw [Found.place, List.dropLast_concat, hwritable]
    rw [run_rename_of_file (hsource.place? false) hfound hsource.at?, hsource.endsSpecially,
      hspecial, hslash] at hrename
    simp only [Bool.or_self, Bool.false_eq_true, if_false] at hrename
    rw [show d.at? (Found.vacant l n).place = none from hfree.at?_eq_none] at hrename
    dsimp only at hrename
    rw [run_move_file hsource.at? hsource.writable hdirectory] at hrename
    cases hrename
  · have hplace : d.place? target false = .ok m := by
      rw [place?_eq_ok_iff_resolve, Disk.resolve, hslash]
      exact hfound
    have hplace' := hwithin.place? hd hplace
    have hfound' : (d.addFile (l ++ [n]) (.bytes [])).resolveName target = .ok (.entry m) := by
      rw [place?_eq_ok_iff_resolve, Disk.resolve, hslash] at hplace'
      exact hplace'
    refine rename_error_of_alike hsource hfile hfound hfound' ?_ ?_ ?_ hrename
    · rintro rfl
      cases hat.symm.trans hsource.at?
    · change GivesWayAlike key key (d.at? m) ((d.addFile (l ++ [n]) (.bytes [])).at? m)
      rw [hat, hwithin.at? m _ hat]
      exact .link link link
    · exact hwithin.isExtended.rightsAt (hd.hasDirectory_dropLast hat)

/-- A move that fails takes nothing away, and the file is stuck. -/
theorem isStuck_of_moveFile {e : PathError} (hd : d.WellFormed) (hsource : d.HasFile source k key)
    (h : (moveFile source target).run.run d = (.error e, y)) :
    y.WellFormed ∧ d.Within y ∧
      (∀ m link, y.at? m = some (.link link) → d.at? m = some (.link link)) ∧
      y.HasFile source k key ∧ IsStuck y source target := by
  have hstay := (sameBut_rename hd source target fun _ => False).2
  rw [moveFile, run_tryCatch] at h
  rcases hrename : (rename source target).run.run d with ⟨e' | ⟨⟩, x⟩
  swap
  · rw [hrename] at h
    cases h
  rw [hrename] at h hstay
  obtain rfl : x = d := hstay e' rfl
  dsimp only at h
  rw [run_bind] at h
  rcases run_copyFile_cases hd hsource target with
    hrefused | ⟨z, hcopy, hz, hfile⟩ | ⟨e₁, l, n, hcopy, hresolve, hwritable, hslash, e₂, hagain⟩
  · obtain ⟨e₁, hcopy⟩ := run_copyFile_of_stuck hrefused
    rw [hcopy] at h
    cases h
    exact ⟨hd, .refl _, fun _ _ => id, hsource, ⟨e', hrename⟩, hrefused⟩
  · rw [hcopy] at h
    dsimp only at h
    rw [run_removeFile, hfile.place? false] at h
    simp only [hfile.at?, hfile.writable, if_true] at h
    cases h
  · rw [hcopy] at h
    cases h
    have hfree : x.IsFree l n := hd.isThere_of_locate hresolve
    have hwithin := within_addFile hfree.at?_eq_none (.bytes [])
    have hfile := hsource.of_extends hd hwithin.isExtended (hwithin.at? k _ hsource.at?)
    refine ⟨hd.addFile hfree _, hwithin, fun m link hat => ?_, hfile,
      isStuck_addFile hd hsource hrename hresolve hwritable hslash hagain hfile⟩
    rw [at?_addFile] at hat
    split at hat
    · cases hat
    · exact hat

/-! ## In another tree -/

section Alike

variable (halike : Alike tops d d') (htarget : Omits tops target)
include halike htarget

theorem rename_error_again {e : PathError} (hsource : d.HasFile source k key)
    (hsource' : d'.HasFile source' k' key') (hk' : IsIn tops k')
    (hother : ∀ m other other', ¬ IsIn tops m → d.at? m = some (.file other) →
      d'.at? m = some (.file other') → other' = key' → other = key)
    (h : (rename source target).run.run d = (.error e, x)) :
    ∃ e, (rename source' target).run.run d' = (.error e, d') := by
  obtain ⟨hsame, hout⟩ := halike.locate htarget false false
  rcases hfound : d.resolveName target with e' | found
  · rw [Disk.rename, run_look_bind, hsource'.place? false]
    dsimp only
    rw [run_look_bind, halike.resolveName htarget, hfound]
    exact ⟨e', rfl⟩
  have hplace := hout found hfound
  refine rename_error_of_alike hsource hsource' hfound ((halike.resolveName htarget).trans hfound)
    ?_ ?_ ?_ h
  · rintro heq
    exact hplace (heq ▸ hk')
  · have hthing := halike.at? _ hplace
    have hfiles := hother found.place
    generalize d.at? found.place = entry at hthing hfiles
    generalize d'.at? found.place = entry' at hthing hfiles
    cases hthing with
    | none => exact .none
    | directory rights => exact .directory rights rights
    | link link => exact .link link link
    | file contentOf rightsOf => exact .file (hfiles _ _ hplace rfl rfl)
  · exact halike.rightsAt (not_isIn_of_le hplace (List.dropLast_prefix _))

theorem write_error_again {e : PathError} {content : Content}
    (h : (write target content).run.run d = (.error e, d)) :
    ∃ e, (write target content).run.run d' = (.error e, d') := by
  obtain ⟨-, hout⟩ := halike.locate htarget true target.endsInSeparator
  rw [run_write] at h ⊢
  rw [halike.resolve htarget true]
  rcases hresolve : d.resolve target true with e' | l | ⟨l, n⟩
  · exact ⟨e', rfl⟩
  · have hl : ¬ IsIn tops l := hout _ hresolve
    have hthing := halike.at? l hl
    have hwritable := halike.rightsAt hl
    rw [hresolve] at h
    dsimp only at h ⊢
    rw [hwritable]
    generalize d.at? l = entry at hthing h
    generalize d'.at? l = entry' at hthing
    cases hthing with
    | file contentOf rightsOf =>
      dsimp only at h ⊢
      split at h
      · cases h
      · rename_i hdenied
        exact ⟨_, if_neg hdenied⟩
    | _ => exact ⟨_, rfl⟩
  · have hl : ¬ IsIn tops (l ++ [n]) := hout _ hresolve
    rw [hresolve] at h
    dsimp only at h ⊢
    rw [halike.rightsAt (not_isIn_of_le hl (List.prefix_append ..))]
    split
    · exact ⟨_, rfl⟩
    · rename_i hslash
      rw [if_neg hslash] at h
      split at h
      · cases h
      · rename_i hdenied
        exact ⟨_, if_neg hdenied⟩

/-- A file that is stuck is stuck in another tree as well in which the path leads to the same. -/
theorem IsStuck.of_alike (h : IsStuck d source target) (hsource : d.HasFile source k key)
    (hsource' : d'.HasFile source' k' key') (hk' : IsIn tops k')
    (hrights : d'.rightsOf key' = d.rightsOf key)
    (hother : ∀ m other other', ¬ IsIn tops m → d.at? m = some (.file other) →
      d'.at? m = some (.file other') → other' = key' → other = key) :
    IsStuck d' source' target where
  rename := by
    obtain ⟨e, hrename⟩ := h.rename
    exact rename_error_again halike htarget hsource hsource' hk' hother hrename
  copy := by
    rcases h.copy with ⟨e, hread⟩ | ⟨e, hwrite⟩
    · left
      rw [hsource.read] at hread
      rw [hsource'.read, hrights]
      split at hread
      · cases hread
      · rename_i hreadable
        exact ⟨.denied, if_neg hreadable⟩
    · exact .inr (write_error_again halike htarget hwrite)

end Alike

end Codemod.Disk
