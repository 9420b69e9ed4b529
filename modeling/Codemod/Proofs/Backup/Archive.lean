import Codemod.Proofs.Backup.Draw
import Codemod.Proofs.Backup.Recover
import Codemod.Proofs.Disk.SameBut
import Codemod.Proofs.Disk.Straight

set_option autoImplicit false

/-! # What an archive holds

An archive of files that are led to without links is an archive of plain files with the content of
each (`archive_eq_ok`): it can be read under its own name, and its table has the absolute path of
every file. -/

namespace Codemod.Disk

variable {d d' : Disk} {p : Path} {l : Location}

/-- The absolute path that stands for a path. -/
def absolute (d : Disk) (p : Path) : Path := p.absolute d.workingDirectory.path

/-- The absolute path is looked up from the root, through the names of the working directory first
if the path was a relative one. -/
theorem segments_absolute (hd : d.WellFormed) (hstart : d.hasDirectory (d.startOf p) = true)
    (hslash : p.endsInSeparator = false) :
    (d.absolute p).isAbsolute = true ∧
      (d.absolute p).segments = d.startOf p ++ p.segments.filter (· ≠ Path.here) := by
  by_cases habsolute : p.isAbsolute = true
  · have hroot : ∀ n ∈ ([] : Location), Name.IsPart n := fun n hn => nomatch hn
    have hspec := Path.absolute_spec hslash hroot
    rw [absolute, Path.absolute_of_isAbsolute habsolute _ (Location.path []), startOf,
      if_pos habsolute]
    rw [Path.namesFrom, if_pos habsolute] at hspec
    exact hspec
  · rw [startOf, if_neg habsolute] at hstart ⊢
    obtain ⟨rights, hat⟩ := hasDirectory_iff.1 hstart
    have hspec := Path.absolute_spec hslash fun n hn => (hd.isEntryName_of_at? hat hn).isPart
    rw [Path.namesFrom, if_neg habsolute] at hspec
    exact hspec

end Codemod.Disk

namespace Codemod.Backup

open Disk Archive

variable {d d' : Disk} {draw : Draw} {p t : Path} {l : Location} {table : Lookup}

/-! ## Files to archive -/

/-- The names of the absolute path of a path without links. -/
theorem segments_of_isStraight (hd : d.WellFormed) (h : d.IsStraight p l) {key : Nat}
    (hkey : d.at? l = some (.file key)) {init : List Name} {n : Name}
    (hsegments : p.segments = init ++ [n]) :
    (d.absolute p).segments = d.startOf p ++ init.filter (· ≠ Path.here) ++ [n] := by
  obtain ⟨-, -, hstart, -⟩ := place?_eq_ok_iff.1 h.place?
  obtain ⟨init', n', hsegments', hname, hslash, -⟩ := h.exists_way hd hkey
  obtain ⟨rfl, hn⟩ := List.append_inj' (hsegments.symm.trans hsegments') rfl
  have hne : n ≠ Path.here := (List.cons.inj hn).1 ▸ hname.ne_here
  rw [(segments_absolute hd hstart hslash).2, hsegments, List.filter_append,
    List.filter_cons_of_pos (by simpa using hne), List.filter_nil, List.append_assoc]

/-- The absolute path of a path without links leads through directories to the same file. -/
theorem target_of_isStraight (hd : d.WellFormed) (h : d.IsStraight p l) {key : Nat}
    (hkey : d.at? l = some (.file key)) :
    (isPassable (d.absolute p) = true → IsTarget (d.absolute p)) ∧
      placeOf (d.absolute p) = l ∧ d.Laid [] (wayOf (d.absolute p)) := by
  obtain ⟨-, -, hstart, -⟩ := place?_eq_ok_iff.1 h.place?
  obtain ⟨init, n, hsegments, hname, hslash, hway, hlaid, rfl⟩ := h.exists_way hd hkey
  obtain ⟨hlexical, hway', hlaid'⟩ := hd.laid hstart
  have hnames := segments_of_isStraight hd h hkey hsegments
  have hwayOf : wayOf (d.absolute p) = d.startOf p ++ init.filter (· ≠ Path.here) := by
    rw [wayOf, hnames, List.dropLast_concat]
  have hplace : placeOf (d.absolute p) =
      lexical (d.startOf p) (init.filter (· ≠ Path.here)) ++ [n] := by
    rw [placeOf, hnames, lexical_concat _ _ hname.ne_above, lexical_append, hlexical]
  refine ⟨fun hpass => ?_, hplace, ?_⟩
  · refine ⟨(segments_absolute hd hstart hslash).1, ?_, hpass, ?_, n, by rw [hwayOf, hnames], hname⟩
    · refine Path.endsInSeparator_absolute hslash (List.ne_nil_of_mem (a := n) ?_) _
      rw [hsegments]
      exact List.mem_filter.2 ⟨by simp, by simpa using hname.ne_here⟩
    · rw [hwayOf]
      exact fun m hm => (List.mem_append.1 hm).elim (hway' m) (hway m)
  · rw [hwayOf]
    exact hlaid'.append (hlexical.symm ▸ hlaid)

/-- The path of a file leads to it wherever its directories and itself are still there. -/
theorem place_of_target {key : Nat} (ht : isPassable t = true → IsTarget t)
    (hlaid : d.Laid [] (wayOf t)) (hkey : d.at? (placeOf t) = some (.file key))
    (hplace : d.place? t = .ok l) : l = placeOf t := by
  obtain ⟨-, hpass, -⟩ := place?_eq_ok_iff.1 hplace
  obtain ⟨n, hname, hsegments, hat⟩ := (ht hpass).placeOf_eq
  rw [hat] at hkey ⊢
  exact place?_of_laid (ht hpass).isAbsolute hsegments (ht hpass).isWay hname hlaid hkey hplace

/-! ## The table -/

/-- The entries for some files, which get the names from a number on. -/
def entriesFor (draw : Draw) (d : Disk) (n : Nat) (files : List Path) : List (String × Path) :=
  (files.zipIdx n).map fun x => (draw.memberName x.2, d.absolute x.1)

theorem fullPath_eq_ok (h : (fullPath p).run.run d = (.ok t, d')) : t = d.absolute p ∧ d' = d := by
  rw [fullPath, run_bind, run_get] at h
  dsimp only at h
  split at h
  · cases h
  · split at h
    · cases h
      exact ⟨rfl, rfl⟩
    · cases h

theorem tableFrom_eq_ok {n : Nat} {done : Lookup} {files : List Path}
    (h : (tableFrom draw n done files).run.run d = (.ok table, d')) :
    table = (entriesFor draw d n files).foldl (fun table e => table.insert e.1 e.2) done ∧
      d' = d := by
  induction files generalizing n done with
  | nil =>
    cases h
    exact ⟨rfl, rfl⟩
  | cons p rest ih =>
    rw [tableFrom, run_bind_eq_ok_iff] at h
    obtain ⟨t, d₁, hfull, h⟩ := h
    obtain ⟨rfl, rfl⟩ := fullPath_eq_ok hfull
    exact ih h

theorem mem_entriesFor {n : Nat} {files : List Path} {e : String × Path} :
    e ∈ entriesFor draw d n files ↔
      ∃ i p, files[i]? = some p ∧ e = (draw.memberName (n + i), d.absolute p) := by
  rw [entriesFor, List.mem_map]
  constructor
  · rintro ⟨⟨p, k⟩, hmem, rfl⟩
    obtain ⟨hle, hget⟩ := List.mk_mem_zipIdx_iff_le_and_getElem?_sub.1 hmem
    exact ⟨k - n, p, hget, by rw [Nat.add_sub_cancel' hle]⟩
  · rintro ⟨i, p, hget, rfl⟩
    exact ⟨(p, n + i), List.mk_mem_zipIdx_iff_le_and_getElem?_sub.2
      ⟨Nat.le_add_right .., by rw [Nat.add_sub_cancel_left]; exact hget⟩, rfl⟩

theorem nodup_entriesFor {files : List Path} (hfair : draw.IsFair d files.length) :
    ((entriesFor draw d 0 files).map (·.1)).Nodup := by
  have hnames : (entriesFor draw d 0 files).map (·.1) =
      (List.range files.length).map draw.memberName := by
    rw [List.range_eq_range', ← List.zipIdx_map_snd 0 files, entriesFor, List.map_map, List.map_map]
    rfl
  rw [hnames]
  refine List.Nodup.map_on (fun i hi j hj h => ?_) List.nodup_range
  exact hfair.distinct i (List.mem_range.1 hi) j (List.mem_range.1 hj) (memberName_injective h)

/-! ## The copies -/

/-- Copies of the files of a table, under the names of their members. -/
structure Copied (d : Disk) (table : Lookup) (held : List (Name × Content)) : Prop where
  names : held.map (·.1) = table.map fun e => Name.ofString e.1
  copy : ∀ e ∈ table, ∃ content, (Name.ofString e.1, content) ∈ held ∧ d.read e.2 = .ok content

theorem mapM_copyOf {copies : List (Path × Option Content)}
    (hfiles : ∀ e ∈ table, d.isDirectory e.2 = false)
    (h : (table.mapM fun e => do return (Path.ofString e.1, ← copyOf d e.2)) = .ok copies) :
    ∃ held : List (Name × Content), copies = held.map (fun x => (⟨x.1⟩, some x.2)) ∧
      Copied d table held := by
  induction table generalizing copies with
  | nil =>
    cases h
    exact ⟨[], rfl, rfl, by simp⟩
  | cons e rest ih =>
    rw [List.forall_mem_cons] at hfiles
    rw [List.mapM_cons, copyOf, hfiles.1, if_neg Bool.false_ne_true] at h
    rcases hread : d.read e.2 with error | content
    · rw [hread] at h
      cases h
    · rw [hread] at h
      rcases hrest : (rest.mapM fun e => do return (Path.ofString e.1, ← copyOf d e.2)) with
        error | copies'
      · rw [hrest] at h
        cases h
      · rw [hrest] at h
        cases h
        obtain ⟨held, rfl, hheld⟩ := ih hfiles.2 hrest
        refine ⟨(Name.ofString e.1, content) :: held, rfl, ?_, fun e' he' => ?_⟩
        · rw [List.map_cons, List.map_cons, hheld.names]
        · rcases List.mem_cons.1 he' with rfl | he'
          · exact ⟨content, List.mem_cons_self .., hread⟩
          · obtain ⟨content', hmem, hread'⟩ := hheld.copy e' he'
            exact ⟨content', List.mem_cons_of_mem _ hmem, hread'⟩

theorem entriesOf_eq_ok {entries : List (Path × Option Content)}
    (hfiles : ∀ e ∈ table, d.isDirectory e.2 = false) (h : entriesOf d table = .ok entries) :
    ∃ held bytes, entries = plainEntries held bytes ∧ table.encode = some bytes ∧
      Copied d table held := by
  rw [entriesOf] at h
  rcases hcopies : (table.mapM fun e => do return (Path.ofString e.1, ← copyOf d e.2)) with
    error | copies
  · rw [hcopies] at h
    cases h
  · rw [hcopies] at h
    obtain ⟨held, rfl, hheld⟩ := mapM_copyOf hfiles hcopies
    rcases hencode : table.encode with _ | bytes
    · simp only [hencode] at h
      cases h
    · simp only [hencode] at h
      cases h
      exact ⟨held, bytes, rfl, rfl, hheld⟩

/-- Copies under drawn names are an archive of plain files. -/
theorem Copied.isPlainArchive {files : List Path} {held : List (Name × Content)}
    {bytes : List UInt8} (hfair : draw.IsFair d files.length)
    (h : Copied d' (Lookup.ofList (entriesFor draw d 0 files)) held)
    (hencode : (Lookup.ofList (entriesFor draw d 0 files)).encode = some bytes) :
    IsPlainArchive held bytes (Lookup.ofList (entriesFor draw d 0 files)) := by
  have hnodup := nodup_entriesFor hfair
  have hperm := Lookup.perm_ofList hnodup
  have htable : ((Lookup.ofList (entriesFor draw d 0 files)).map fun e =>
      Name.ofString e.1).Nodup := by
    have hnames := ((hperm.map (·.1)).nodup_iff.2 hnodup).map Name.ofString_injective
    rw [List.map_map] at hnames
    exact hnames
  have hname : ∀ x ∈ held, ∃ i, i < files.length ∧ x.1 = Name.ofString (draw.memberName i) := by
    intro x hx
    have hmem := List.mem_map_of_mem (f := (·.1)) hx
    rw [h.names] at hmem
    obtain ⟨e, he, hxe⟩ := List.mem_map.1 hmem
    obtain ⟨i, p, hget, rfl⟩ := mem_entriesFor.1 (hperm.mem_iff.1 he)
    rw [Nat.zero_add] at hxe
    exact ⟨i, (List.getElem?_eq_some_iff.1 hget).1, hxe.symm⟩
  exact {
    isPlain := by
      intro x hx
      obtain ⟨i, hi, hxi⟩ := hname x hx
      obtain ⟨u, hu⟩ := hfair.member i hi
      exact hxi ▸ isPlain_memberName hu
    nodup := h.names ▸ htable
    ne_fileName := by
      intro x hx hfile
      obtain ⟨i, -, hxi⟩ := hname x hx
      exact memberName_ne_fileName draw i (Name.ofString_injective (hxi ▸ hfile))
    decode := Lookup.decode_of_encode (Lookup.sorted_ofList _) hencode
    table_nodup := htable
    exists_content := by
      intro e he
      obtain ⟨content, hmem, -⟩ := h.copy e he
      exact ⟨content, hmem⟩ }

/-! ## The file -/

/-- Where a path with a known last name leads, links at its end not being followed. -/
theorem place_of_resolveName {found : Found} {init : List Name} {n : Name}
    (h : d.resolveName p = .ok found) (hsegments : p.segments = init ++ [n])
    (hhere : n ≠ Path.here) (habove : n ≠ Path.above) : ∃ m, found.place = m ++ [n] := by
  obtain ⟨-, -, -, hchase⟩ := locate_eq_ok_iff.1 h
  rw [hsegments, chase_append _ _ _ _ _ _ (List.cons_ne_nil _ _)] at hchase
  rcases henter : d.enter linkLimit (d.startOf p) init with e | ⟨left, m⟩
  · rw [henter] at hchase
    cases hchase
  · rw [henter] at hchase
    dsimp only at hchase
    rw [chase_singleton] at hchase
    refine ⟨m, ?_⟩
    rcases turn_cases d m n with ⟨hsearch, ⟨hn, -⟩ | ⟨hn, -⟩ | hname⟩ | hno | hno
    · exact absurd hn hhere
    · exact absurd hn habove
    · rw [turn_of_isOrdinary hsearch hname] at hchase
      rcases hat : d.at? (m ++ [n]) with _ | rights | key | target
      all_goals
        rw [hat] at hchase
        cases hchase
        rfl
    · rw [hno] at hchase
      cases hchase
    · rw [hno] at hchase
      cases hchase

theorem setContent_addFile (d : Disk) (l : Location) (first content : Content) :
    (d.addFile l first).setContent d.nextKey content = d.addFile l content := by
  simp [addFile, setContent, List.filter_filter]

/-- A file was put where a name was free, and can be read under a path. -/
structure Placed (d : Disk) (final : Path) (m : Location) (content : Content) (d' : Disk) :
    Prop where
  free : d.at? m = none
  wellFormed : d'.WellFormed
  sameBut : SameBut (· = m) (fun _ => False) d d'
  file : d'.at? m = some (.file d.nextKey)
  contentOf : d'.contentOf d.nextKey = content
  place? : d'.place? final = .ok m
  read : d'.read final = .ok content

section Finished

variable {unfinished final : Path} {m : Location} {u n : Name} {content : Content}
  (hd : d.WellFormed)
  (hfree : d.resolveName unfinished = .ok (.vacant l u))
  (hslash : unfinished.endsInSeparator = false)
include hd hfree hslash

/-- The path of the unfinished file leads to it. -/
theorem place?_unfinished (content : Content) (follow : Bool) :
    (d.addFile (l ++ [u]) content).at? (l ++ [u]) = some (.file d.nextKey) ∧
      (d.addFile (l ++ [u]) content).place? unfinished follow = .ok (l ++ [u]) := by
  have hisFree : d.IsFree l u := hd.isThere_of_locate hfree
  have hextends := (within_addFile hisFree.at?_eq_none content).isExtended
  have hkey : (d.addFile (l ++ [u]) content).at? (l ++ [u]) = some (.file d.nextKey) := by
    rw [at?_addFile, if_pos ⟨rfl, concat_ne_nil _ _⟩]
  exact ⟨hkey, hextends.place?_of_vacant hd (by simp [hslash]) hfree hkey (by simp) follow⟩

/-- The unfinished file gets its content. -/
theorem write_unfinished (h : (write unfinished content).run.run (d.addFile (l ++ [u]) (.bytes [])) =
    (.ok (), d')) : d' = d.addFile (l ++ [u]) content := by
  obtain ⟨hkey, hplace⟩ := place?_unfinished hd hfree hslash (.bytes []) true
  rw [run_write, place?_eq_ok_iff_resolve.1 hplace] at h
  simp only [hkey] at h
  split at h
  · cases h
    exact setContent_addFile ..
  · cases h

/-- Carried to a name that is free the file can be read there, and its first name is free again. -/
theorem placed_of_carry (hslash' : final.endsInSeparator = false) (hne : n ≠ u)
    (hfound : (d.addFile (l ++ [u]) content).resolveName final = .ok (.vacant m n))
    (hcarry : d' = (d.addFile (l ++ [u]) content).carry (l ++ [u]) (m ++ [n]))
    (hwell' : d'.WellFormed) : Placed d final (m ++ [n]) content d' := by
  obtain ⟨hkey, -⟩ := place?_unfinished hd hfree hslash content false
  have hisFree : d.IsFree l u := hd.isThere_of_locate hfree
  have hwell := hd.addFile hisFree content
  have htarget : (d.addFile (l ++ [u]) content).IsFree m n := hwell.isThere_of_locate hfound
  have hother : l ++ [u] ≠ m ++ [n] := fun heq =>
    hne (List.cons.inj (List.append_inj_right' heq rfl)).1.symm
  have hat := hwell.at?_carry_new hkey htarget
  have hextends := hwell.extends_carry_new hkey htarget
  rw [← hcarry] at hat hextends
  have hnew : d'.at? (m ++ [n]) = some (.file d.nextKey) := by rw [hat, if_pos rfl]
  have hplace := hextends.place?_of_vacant hwell (by simp [hslash']) hfound hnew (by simp) true
  have hcontent : d'.contentOf d.nextKey = content := by
    rw [hcarry]
    exact (contentOf_addFile ..).trans (if_pos rfl)
  have hrights : d'.rightsOf d.nextKey = {} :=
    rightsOf_of_le hd (by rw [hcarry]; rfl) (Nat.le_refl _)
  have hadd : SameBut (fun k => k = m ++ [n] ∨ k = l ++ [u]) (fun _ => False) d
      (d.addFile (l ++ [u]) content) := (SameBut.refl ..).addFile (.inr rfl) content
  have hmove : SameBut (fun k => k = m ++ [n] ∨ k = l ++ [u]) (fun _ => False)
      (d.addFile (l ++ [u]) content) d' := by
    rw [hcarry]
    refine .of_sameFiles rfl fun k hk => ?_
    rw [← hcarry, hat, if_neg fun heq => hk (.inl heq), if_neg fun heq => hk (.inr heq)]
  exact {
    free := by
      have hnone := htarget.at?_eq_none
      rwa [at?_addFile, if_neg fun h => hother h.1.symm] at hnone
    wellFormed := hwell'
    sameBut := by
      -- The unfinished file has come and gone.
      refine { hadd.trans hmove with at? := fun k hk => ?_ }
      by_cases hku : k = l ++ [u]
      · rw [hat, if_neg hk, if_pos hku, hku, hisFree.at?_eq_none]
      · exact (hadd.trans hmove).at? k fun hor => hor.elim hk hku
    file := hnew
    contentOf := hcontent
    place? := hplace
    read := read_eq_ok_iff.2 ⟨_, d.nextKey, hplace, hnew, hrights ▸ rfl, hcontent⟩ }

/-- The file gets a name that nothing has; if there is a directory of that name there is no
success. -/
theorem rename_unfinished {init : List Name} (hslash' : final.endsInSeparator = false)
    (hsegments : final.segments = init ++ [n]) (hhere : n ≠ Path.here) (habove : n ≠ Path.above)
    (hne : n ≠ u)
    (hfresh : ∀ m entry, d.at? (m ++ [n]) = some entry → ∃ rights, entry = .directory rights)
    (h : (rename unfinished final).run.run (d.addFile (l ++ [u]) content) = (.ok (), d')) :
    ∃ m, (d.addFile (l ++ [u]) content).resolveName final = .ok (.vacant m n) ∧
      Placed d final (m ++ [n]) content d' := by
  obtain ⟨hkey, hplace⟩ := place?_unfinished hd hfree hslash content false
  have hisFree : d.IsFree l u := hd.isThere_of_locate hfree
  have hwell := hd.addFile hisFree content
  have hwell' := WellFormed.keeps_rename unfinished final _ hwell
  rw [h] at hwell'
  rcases hfound : (d.addFile (l ++ [u]) content).resolveName final with e | found
  · rw [rename, run_look_bind, hplace] at h
    dsimp only at h
    rw [run_look_bind, hfound] at h
    cases h
  obtain ⟨m, hm⟩ := place_of_resolveName hfound hsegments hhere habove
  have hother : m ++ [n] ≠ l ++ [u] := fun heq =>
    hne (List.cons.inj (List.append_inj_right' heq rfl)).1
  have hsame : (d.addFile (l ++ [u]) content).at? (m ++ [n]) = d.at? (m ++ [n]) := by
    rw [at?_addFile, if_neg fun h => hother h.1]
  rw [run_rename_of_file hplace hfound hkey, hslash', hm, hsame] at h
  split at h
  · cases h
  simp only [Bool.false_eq_true, if_false] at h
  rcases hat : d.at? (m ++ [n]) with _ | entry
  · rw [hat] at h hsame
    dsimp only at h
    obtain rfl := hwell.vacant_of_at?_eq_none hfound hm hsame
    rw [run_move] at h
    split at h
    · exact ⟨m, rfl, placed_of_carry hd hfree hslash hslash' hne hfound
        (Prod.mk.inj h).2.symm hwell'⟩
    · cases h
  · obtain ⟨rights, rfl⟩ := hfresh m entry hat
    rw [hat] at h
    cases h

end Finished

/-! ## The archive -/

theorem writeNew_eq_ok {content : Content} (h : (writeNew p content).run.run d = (.ok (), d')) :
    ∃ l n, d.resolve p false = .ok (.vacant l n) ∧ (d.rightsAt l).writable = true ∧
      d' = d.addFile (l ++ [n]) content := by
  rw [run_writeNew] at h
  rcases hfound : d.resolve p false with e | l | ⟨l, n⟩
  · rw [hfound] at h
    cases h
  · rw [hfound] at h
    cases h
  · rw [hfound] at h
    dsimp only at h
    split at h
    · cases h
    · split at h
      · rename_i hwritable
        cases h
        exact ⟨l, n, rfl, hwritable, rfl⟩
      · cases h

theorem run_orRemove {α : Type} (p : Path) (action : Action α) (d : Disk) :
    (orRemove p action).run.run d =
      match action.run.run d with
      | (.error e, d) => (.error e, (Disk.removeFile p d).2)
      | done => done :=
  rfl

theorem orRemove_eq_ok {α : Type} {action : Action α} {a : α}
    (h : (orRemove p action).run.run d = (.ok a, d')) : action.run.run d = (.ok a, d') := by
  rw [run_orRemove] at h
  rcases hrun : action.run.run d with ⟨e | a', d''⟩
  · rw [hrun] at h
    cases h
  · rw [hrun] at h
    exact h

theorem complete_eq_ok {unfinished final : Path}
    (h : (complete table unfinished final).run.run d = (.ok (), d')) :
    ∃ entries d₁, entriesOf d table = .ok entries ∧
      (write unfinished (.sealed entries)).run.run d = (.ok (), d₁) ∧
      (rename unfinished final).run.run d₁ = (.ok (), d') := by
  rw [complete, run_bind, run_get] at h
  dsimp only at h
  rcases hentries : entriesOf d table with e | entries
  · rw [hentries] at h
    cases h
  · rw [hentries] at h
    dsimp only at h
    rw [run_bind_eq_ok_iff] at h
    obtain ⟨_, d₁, hwrite, hrename⟩ := h
    exact ⟨entries, d₁, rfl, run_attempt_eq_ok_iff.1 hwrite, run_attempt_eq_ok_iff.1 hrename⟩

/-- The steps in which an archive is made. -/
theorem archive_steps {files : List Path} {directory archive : Path}
    (h : (Backup.archive draw files directory).run.run d = (.ok archive, d')) :
    ∃ dA dB, (ensureDirectories directory).run.run d = (.ok (), dA) ∧
      (writeNew (directory.join (.ofString draw.unfinishedName)) (.bytes [])).run.run dA =
        (.ok (), dB) ∧
      (complete (Lookup.ofList (entriesFor draw d 0 files))
        (directory.join (.ofString draw.unfinishedName))
        (directory.join (.ofString draw.archiveName))).run.run dB = (.ok (), d') ∧
      directory.join (.ofString draw.archiveName) = archive := by
  rw [Backup.archive, run_bind_eq_ok_iff] at h
  obtain ⟨table, d₀, htable, h⟩ := h
  obtain ⟨htable, rfl⟩ := tableFrom_eq_ok htable
  rw [run_bind_eq_ok_iff] at h
  obtain ⟨_, dA, hensure, h⟩ := h
  dsimp only at h
  rw [run_bind_eq_ok_iff] at h
  obtain ⟨_, dB, hnew, h⟩ := h
  rw [run_bind_eq_ok_iff] at h
  obtain ⟨_, d₁, hcomplete, h⟩ := h
  obtain ⟨harchive, hd₁⟩ := Prod.mk.inj h
  have hcomplete := orRemove_eq_ok hcomplete
  rw [htable] at hcomplete
  exact ⟨dA, dB, run_attempt_eq_ok_iff.1 hensure, run_attempt_eq_ok_iff.1 hnew,
    hd₁ ▸ hcomplete, Except.ok.inj harchive⟩

/-- In a larger tree the absolute path of a file leads to the same file, if anywhere. -/
theorem read_absolute {key : Nat} (hd : d.WellFormed) (hwithin : d.Within d')
    (h : d.IsStraight p l) (hkey : d.at? l = some (.file key)) :
    d'.isDirectory (d.absolute p) = false ∧ ∀ content, d'.read (d.absolute p) = .ok content →
      isPassable (d.absolute p) = true ∧ d.read p = .ok content := by
  obtain ⟨htarget, hplaceOf, hlaid⟩ := target_of_isStraight hd h hkey
  have hkey' : d'.at? (placeOf (d.absolute p)) = some (.file key) := by
    rw [hplaceOf, hwithin.at? l _ hkey]
  have hlaid' : d'.Laid [] (wayOf (d.absolute p)) := fun init hinit =>
    hwithin.isExtended.hasDirectory (hlaid init hinit)
  constructor
  · rw [isDirectory, status?]
    rcases hplace : d'.place? (d.absolute p) with e | m
    · rfl
    · rw [place_of_target htarget hlaid' hkey' hplace]
      simp only [Except.toOption, Option.bind_some, hkey']
      rfl
  · intro content hread
    obtain ⟨m, key', hplace, hat, hreadable, hcontent⟩ := read_eq_ok_iff.1 hread
    rw [place_of_target htarget hlaid' hkey' hplace, hkey'] at hat
    cases hat
    have hlt := hd.key_lt hkey
    refine ⟨(place?_eq_ok_iff.1 hplace).2.1, read_eq_ok_iff.2 ⟨l, key, h.place?, hkey, ?_, ?_⟩⟩
    · rw [← hwithin.rightsOf key hlt, hreadable]
    · rw [← hwithin.contentOf key hlt, hcontent]

/-- What a finished archive is: a file where nothing was, which can be read; it holds what the files
held. -/
structure Archived (draw : Draw) (files : List Path) (d : Disk) (archive : Path) (d' : Disk)
    (held : List (Name × Content)) (bytes : List UInt8) : Prop where
  isNew : ∃ l, d'.place? archive = .ok l ∧ d.at? l = none
  read : d'.read archive = .ok (.sealed (plainEntries held bytes))
  isPlainArchive : IsPlainArchive held bytes (Lookup.ofList (entriesFor draw d 0 files))
  isPassable : ∀ p ∈ files, isPassable (d.absolute p) = true
  content : ∀ i p content, files[i]? = some p →
    (Name.ofString (draw.memberName i), content) ∈ held → d.read p = .ok content

/-- The directory for archives is made, a file is filled there, and this file then gets the name of
the archive. -/
theorem archive_placed {files : List Path} {directory archive : Path} (hd : d.WellFormed)
    (hfair : draw.IsFair d files.length)
    (h : (Backup.archive draw files directory).run.run d = (.ok archive, d')) :
    ∃ dA l u m entries, archive = directory.join (.ofString draw.archiveName) ∧
      (ensureDirectories directory).run.run d = (.ok (), dA) ∧ dA.WellFormed ∧
      d.Grown (fun _ => True) dA ∧ dA.IsFree l u ∧
      entriesOf (dA.addFile (l ++ [u]) (.bytes [])) (Lookup.ofList (entriesFor draw d 0 files)) =
        .ok entries ∧
      (dA.addFile (l ++ [u]) (.sealed entries)).resolveName archive =
        .ok (.vacant m (Name.ofString draw.archiveName)) ∧
      Placed dA archive (m ++ [Name.ofString draw.archiveName]) (.sealed entries) d' := by
  obtain ⟨dA, dB, hensure, hnew, hcomplete, rfl⟩ := archive_steps h
  obtain ⟨hdA, hgrown⟩ : dA.WellFormed ∧ d.Grown (fun _ => True) dA := by
    have hkeeps := keeps_ensureDirectories (p := directory) (fun q _ => keeps_grown d q) d
      ⟨hd, .refl ..⟩
    rw [hensure] at hkeeps
    exact hkeeps
  obtain ⟨l, u, hresolve, -, rfl⟩ := writeNew_eq_ok hnew
  have hunfinished := isPart_unfinishedName hfair.suffix
  have hfinal := isPart_archiveName hfair.tag
  have hslash := Path.endsInSeparator_join directory hunfinished
  have hfree : dA.resolveName (directory.join (.ofString draw.unfinishedName)) =
      .ok (.vacant l u) := by
    rw [resolve, Path.ofString, hslash] at hresolve
    exact hresolve
  obtain ⟨entries, dC, hentries, hwrite, hrename⟩ := complete_eq_ok hcomplete
  rw [write_unfinished hdA hfree hslash hwrite] at hrename
  have hne : Name.ofString draw.archiveName ≠ u := by
    obtain ⟨m, hm⟩ := place_of_resolveName hfree (Path.segments_join directory hunfinished)
      draw.unfinishedName_ne.1 draw.unfinishedName_ne.2
    rw [(List.cons.inj (List.append_inj_right' hm rfl)).1]
    exact archiveName_ne_unfinishedName draw
  have hfresh : ∀ m entry, dA.at? (m ++ [Name.ofString draw.archiveName]) = some entry →
      ∃ rights, entry = .directory rights := by
    intro m entry hat
    rcases hgrown.at?_cases (m ++ [Name.ofString draw.archiveName]) with hsame | ⟨-, hdir, -⟩
    · rw [hsame] at hat
      exact absurd List.getLast?_concat
        (hfair.fresh _ (mem_entries_of_at? hat (concat_ne_nil _ _)))
    · exact ⟨{}, Option.some.inj (hat.symm.trans hdir)⟩
  obtain ⟨m, hvacant, hplaced⟩ := rename_unfinished hdA hfree hslash
    (Path.endsInSeparator_join directory hfinal) (Path.segments_join directory hfinal)
    draw.archiveName_ne.1 draw.archiveName_ne.2 hne hfresh hrename
  exact ⟨dA, l, u, m, entries, rfl, hensure, hdA, hgrown, hdA.isThere_of_locate hfree, hentries,
    hvacant, hplaced⟩

/-- A new archive is a file where nothing was, with copies of what was there. -/
theorem archive_file {files : List Path} {directory archive : Path} (hd : d.WellFormed)
    (hfair : draw.IsFair d files.length)
    (h : (Backup.archive draw files directory).run.run d = (.ok archive, d')) :
    ∃ dB entries, d.Within dB ∧
      entriesOf dB (Lookup.ofList (entriesFor draw d 0 files)) = .ok entries ∧
      (∃ l, d'.place? archive = .ok l ∧ d.at? l = none) ∧
      d'.read archive = .ok (.sealed entries) := by
  obtain ⟨dA, l, u, m, entries, -, -, -, hgrown, hfree, hentries, -, hplaced⟩ :=
    archive_placed hd hfair h
  refine ⟨_, entries, hgrown.isWithin.trans (within_addFile hfree.at?_eq_none _), hentries,
    ⟨_, hplaced.place?, ?_⟩, hplaced.read⟩
  rcases hat : d.at? (m ++ [Name.ofString draw.archiveName]) with _ | entry
  · rfl
  · have hnone := hplaced.free
    rw [hgrown.at?_of_some hat] at hnone
    cases hnone

/-- An archive that is made of files to which no links lead holds their contents. -/
theorem archive_eq_ok {files : List Path} {directory archive : Path} (hd : d.WellFormed)
    (hfair : draw.IsFair d files.length)
    (hfiles : ∀ p ∈ files, ∃ l key, d.IsStraight p l ∧ d.at? l = some (.file key))
    (h : (Backup.archive draw files directory).run.run d = (.ok archive, d')) :
    ∃ held bytes, Archived draw files d archive d' held bytes := by
  obtain ⟨dB, entries, hwithin, hentries, hnew, hread⟩ := archive_file hd hfair h
  have hperm := Lookup.perm_ofList (nodup_entriesFor hfair)
  have hdirectory : ∀ e ∈ Lookup.ofList (entriesFor draw d 0 files),
      dB.isDirectory e.2 = false := by
    intro e he
    obtain ⟨i, p, hget, rfl⟩ := mem_entriesFor.1 (hperm.mem_iff.1 he)
    obtain ⟨l, key, hstraight, hkey⟩ := hfiles p (List.mem_of_getElem? hget)
    exact (read_absolute hd hwithin hstraight hkey).1
  obtain ⟨held, bytes, rfl, hencode, hcopied⟩ := entriesOf_eq_ok hdirectory hentries
  have hcopy : ∀ i p, files[i]? = some p → ∃ content,
      (Name.ofString (draw.memberName i), content) ∈ held ∧
        Disk.isPassable (d.absolute p) = true ∧ d.read p = .ok content := by
    intro i p hget
    obtain ⟨content, hmem, hcopy⟩ := hcopied.copy (draw.memberName i, d.absolute p)
      (hperm.mem_iff.2 (mem_entriesFor.2 ⟨i, p, hget, by rw [Nat.zero_add]⟩))
    obtain ⟨l, key, hstraight, hkey⟩ := hfiles p (List.mem_of_getElem? hget)
    exact ⟨content, hmem, (read_absolute hd hwithin hstraight hkey).2 content hcopy⟩
  have hplain := hcopied.isPlainArchive hfair hencode
  refine ⟨held, bytes, hnew, hread, hplain, fun p hp => ?_, fun i p content hget hmem => ?_⟩
  · obtain ⟨i, hget⟩ := List.getElem?_of_mem hp
    obtain ⟨content, -, hpass, -⟩ := hcopy i p hget
    exact hpass
  · obtain ⟨content', hmem', -, hread'⟩ := hcopy i p hget
    have hsame := List.inj_on_of_nodup_map hplain.nodup hmem hmem' rfl
    rw [(Prod.mk.inj hsame).2, hread']

end Codemod.Backup
