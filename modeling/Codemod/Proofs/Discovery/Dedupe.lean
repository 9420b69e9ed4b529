import Codemod.Discovery
import Mathlib.Data.List.Induction
import Mathlib.Data.List.Nodup
import Mathlib.Data.List.Perm.Subperm

set_option autoImplicit false

/-! # One path for each thing

Among paths that lead to the same file or directory the last one is kept, where the first one stood.
The positions that are remembered on the way are those at which the things stand, each in range and
none missing (`Unique.Keeps`), so that a path replaces the one that leads to the same thing and no
other. The main statement is `dedupe_keeps_each`. -/

namespace Codemod

variable {d : Disk} {paths seen : List Path} {u : Unique} {id : Identity} {p : Path}

theorem Disk.exists_identify (h : d.exists? p = true) : ∃ id, d.identify p = .ok id := by
  unfold Disk.exists? Disk.status? at h
  unfold Disk.identify
  cases hplace : d.place? p with
  | error e => simp [hplace, Except.toOption] at h
  | ok place =>
    rw [hplace] at h
    obtain ⟨entry, hat⟩ := Option.isSome_iff_exists.mp h
    change d.at? place = some entry at hat
    cases entry <;> simp [hat]

/-- The last of some paths that leads to a thing. -/
def IsLatest (d : Disk) (paths : List Path) (p : Path) : Prop :=
  ∃ before after, paths = before ++ p :: after ∧ ∀ q ∈ after, d.identify q ≠ d.identify p

theorem IsLatest.mem (h : IsLatest d paths p) : p ∈ paths := by
  obtain ⟨before, after, rfl, -⟩ := h
  simp

theorem IsLatest.concat {q : Path} (h : IsLatest d paths q) (hne : d.identify p ≠ d.identify q) :
    IsLatest d (paths ++ [p]) q := by
  obtain ⟨before, after, rfl, hafter⟩ := h
  refine ⟨before, after ++ [p], by simp, ?_⟩
  intro r hr
  rcases List.mem_append.mp hr with hr | hr
  · exact hafter r hr
  · rwa [List.mem_singleton.mp hr]

theorem IsLatest.last : IsLatest d (paths ++ [p]) p :=
  ⟨paths, [], rfl, fun _ h => nomatch h⟩

/-! ## Positions -/

/-- The slots of a list with one more at its end. -/
theorem getElem?_concat_eq_some_iff {α : Type} {l : List α} {a b : α} {i : ℕ} :
    (l ++ [a])[i]? = some b ↔ l[i]? = some b ∨ i = l.length ∧ a = b := by
  rcases Nat.lt_trichotomy i l.length with h | h | h
  · simp [List.getElem?_append_left h, Nat.ne_of_lt h]
  · simp [h]
  · rw [List.getElem?_eq_none (Nat.le_of_lt h), List.getElem?_eq_none (by simp; omega)]
    simp [Nat.ne_of_gt h]

/-- What is kept of the paths so far: each thing once, in the order in which they came up first, at
the position that is remembered for it, and under the last of its paths. -/
structure Unique.Keeps (d : Disk) (seen : List Path) (u : Unique) : Prop where
  nodup : (u.paths.map d.identify).Nodup
  identities : u.paths.map d.identify = (seen.map d.identify).eraseDups
  positions : ∀ id i, u.positions.lookup id = some i ↔
    (u.paths.map d.identify)[i]? = some (.ok id)
  latest : ∀ (i : Nat) (q : Path), u.paths[i]? = some q → IsLatest d seen q

namespace Unique.Keeps

theorem isLatest (h : u.Keeps d seen) (hp : p ∈ u.paths) : IsLatest d seen p := by
  obtain ⟨i, hi⟩ := List.getElem?_of_mem hp
  exact h.latest i p hi

theorem mem_identities_iff (h : u.Keeps d seen) (id : Except PathError Identity) :
    id ∈ u.paths.map d.identify ↔ id ∈ seen.map d.identify := by
  rw [h.identities, List.mem_eraseDups]

theorem nil : ({} : Unique).Keeps d [] where
  nodup := List.nodup_nil
  identities := rfl
  positions id i := by simp
  latest i q h := by simp at h

/-- A thing that has a position is there again. -/
theorem replace (h : u.Keeps d seen) (hid : d.identify p = .ok id) {i : Nat}
    (hi : u.positions.lookup id = some i) :
    Keeps d (seen ++ [p]) { u with paths := u.paths.set i p } := by
  have hslot := (h.positions id i).mp hi
  -- The thing at that position stays the same, so it is only the path that changes.
  have hsame : (u.paths.set i p).map d.identify = u.paths.map d.identify := by
    rw [List.map_set, hid]
    apply List.ext_getElem?
    intro j
    rw [List.getElem?_set]
    split_ifs with hij hlt
    · rw [← hij, hslot]
    · rw [← hij, List.getElem?_eq_none (Nat.le_of_not_lt hlt)]
    · rfl
  refine ⟨?_, ?_, ?_, ?_⟩
  · simpa only [hsame] using h.nodup
  · have hmem : d.identify p ∈ seen.map d.identify := by
      rw [hid, ← h.mem_identities_iff]
      exact List.mem_of_getElem? hslot
    simp [hsame, h.identities, List.eraseDups_append, List.removeAll, List.mem_map.mp hmem]
  · intro id' j
    simp only [hsame]
    exact h.positions id' j
  · intro j q hq
    by_cases hij : i = j
    · subst hij
      obtain ⟨-, rfl⟩ : i < u.paths.length ∧ p = q := by simpa [List.getElem?_set] using hq
      exact .last
    · rw [List.getElem?_set_ne hij] at hq
      refine (h.latest j q hq).concat ?_
      intro heq
      have hj : (u.paths.map d.identify)[j]? = some (.ok id) := by
        rw [List.getElem?_map, hq, ← hid, heq]
        rfl
      rw [← h.positions, hi] at hj
      exact hij (Option.some.inj hj)

/-- A new thing comes last. -/
theorem append (h : u.Keeps d seen) (hid : d.identify p = .ok id)
    (hnew : u.positions.lookup id = none) :
    Keeps d (seen ++ [p])
      { positions := (id, u.paths.length) :: u.positions, paths := u.paths ++ [p] } := by
  have hout : d.identify p ∉ u.paths.map d.identify := by
    rw [hid]
    intro hmem
    obtain ⟨i, hi⟩ := List.getElem?_of_mem hmem
    simp [(h.positions id i).mpr hi] at hnew
  refine ⟨?_, ?_, ?_, ?_⟩
  · simpa using h.nodup.concat hout
  · have hmem : d.identify p ∉ seen.map d.identify := by
      rwa [← h.mem_identities_iff]
    simp [h.identities, List.eraseDups_append, List.eraseDups_cons, List.removeAll,
      mt List.mem_map.mpr hmem]
  · intro id' j
    rw [List.map_append, List.map_singleton, hid, getElem?_concat_eq_some_iff]
    by_cases heq : id' = id
    · subst heq
      rw [List.lookup_cons_self, ← hid, List.length_map]
      constructor
      · intro hj
        exact .inr ⟨(Option.some.inj hj).symm, rfl⟩
      · rintro (hj | ⟨rfl, -⟩)
        · exact absurd (List.mem_of_getElem? hj) hout
        · rfl
    · rw [List.lookup_cons, beq_false_of_ne heq]
      simp [h.positions id' j, Ne.symm heq]
  · intro j q hq
    rcases getElem?_concat_eq_some_iff.mp hq with hq | ⟨-, rfl⟩
    · refine (h.latest j q hq).concat ?_
      intro heq
      exact hout (heq ▸ List.mem_map_of_mem (List.mem_of_getElem? hq))
    · exact .last

theorem add (h : u.Keeps d seen) (hid : d.identify p = .ok id) :
    (u.add id p).Keeps d (seen ++ [p]) := by
  unfold Unique.add
  split
  case h_1 i hi => exact h.replace hid hi
  case h_2 hnew => exact h.append hid hnew

end Unique.Keeps

/-! ## All paths -/

theorem Unique.ofPaths_concat (hid : d.identify p = .ok id) (h : ofPaths d seen = .ok u) :
    ofPaths d (seen ++ [p]) = .ok (u.add id p) := by
  unfold ofPaths at h ⊢
  rw [List.foldlM_append, h]
  simp [hid]
  rfl

/-- Paths that lead to anything are all taken up. -/
theorem Unique.exists_keeps (h : ∀ p ∈ paths, d.exists? p = true) :
    ∃ u, ofPaths d paths = .ok u ∧ u.Keeps d paths := by
  induction paths using List.reverseRecOn with
  | nil => exact ⟨{}, rfl, .nil⟩
  | append_singleton paths p ih =>
    rw [List.forall_mem_append, List.forall_mem_singleton] at h
    obtain ⟨u, hu, hkeeps⟩ := ih h.1
    obtain ⟨id, hid⟩ := Disk.exists_identify h.2
    exact ⟨u.add id p, ofPaths_concat hid hu, hkeeps.add hid⟩

/-- Paths that lead to things of their own all stay. -/
theorem Unique.exists_keeps_of_nodup (h : ∀ p ∈ paths, d.exists? p = true)
    (hnodup : (paths.map d.identify).Nodup) :
    ∃ u, ofPaths d paths = .ok u ∧ u.Keeps d paths ∧ u.paths = paths := by
  induction paths using List.reverseRecOn with
  | nil => exact ⟨{}, rfl, .nil, rfl⟩
  | append_singleton paths p ih =>
    rw [List.forall_mem_append, List.forall_mem_singleton] at h
    rw [List.map_append, List.map_singleton, ← List.concat_eq_append, List.nodup_concat] at hnodup
    obtain ⟨u, hu, hkeeps, hpaths⟩ := ih h.1 hnodup.2
    obtain ⟨id, hid⟩ := Disk.exists_identify h.2
    -- A position would be that of an earlier path, which leads to something else.
    have hnew : u.positions.lookup id = none := by
      rw [Option.eq_none_iff_forall_ne_some]
      intro i hi
      have hmem := List.mem_of_getElem? ((hkeeps.positions id i).mp hi)
      rw [hpaths, ← hid] at hmem
      exact hnodup.1 hmem
    refine ⟨u.add id p, ofPaths_concat hid hu, hkeeps.add hid, ?_⟩
    unfold Unique.add
    simp [hnew, hpaths]

theorem dedupe_of_ofPaths (h : Unique.ofPaths d paths = .ok u) : dedupe d paths = .ok u.paths := by
  simp [dedupe, h]

/-- The paths that are kept are one for each thing that the paths lead to, in the order in which the
things come up first, and each is the last one that leads there. So nothing is lost, nothing comes
twice, and there is nothing left to do for a second time. -/
theorem dedupe_keeps_each (d : Disk) {paths : List Path}
    (h : ∀ p ∈ paths, d.exists? p = true) :
    ∃ unique, dedupe d paths = .ok unique ∧
      unique.map d.identify = (paths.map d.identify).eraseDups ∧
      (unique.map d.identify).Nodup ∧
      (∀ id, id ∈ unique.map d.identify ↔ id ∈ paths.map d.identify) ∧
      (∀ p ∈ unique, IsLatest d paths p) ∧
      unique.length ≤ paths.length ∧
      dedupe d unique = .ok unique := by
  obtain ⟨u, hu, hkeeps⟩ := Unique.exists_keeps h
  have hsub : u.paths ⊆ paths := fun p hp => (hkeeps.isLatest hp).mem
  refine ⟨u.paths, dedupe_of_ofPaths hu, hkeeps.identities, hkeeps.nodup,
    hkeeps.mem_identities_iff, fun p hp => hkeeps.isLatest hp, ?_, ?_⟩
  · exact ((hkeeps.nodup.of_map d.identify).subperm hsub).length_le
  · obtain ⟨again, hagain, -, hpaths⟩ :=
      Unique.exists_keeps_of_nodup (fun p hp => h p (hsub hp)) hkeeps.nodup
    rw [dedupe_of_ofPaths hagain, hpaths]

/-- A directory with a file that has two names there, and with a link to itself. -/
def twinTree : Disk where
  entries :=
    [([.ofString "d"], .directory {}), ([.ofString "d", .ofString "a"], .file 0),
      ([.ofString "d", .ofString "b"], .file 0),
      ([.ofString "d", .ofString "up"], .link (.ofString "../d"))]
  nextKey := 1

theorem dedupe_twinTree :
    (∀ p ∈ ["d/a", "d", "d/up/b", "d/up"].map Path.ofString, twinTree.exists? p = true) ∧
      ∃ unique, dedupe twinTree (["d/a", "d", "d/up/b", "d/up"].map Path.ofString) = .ok unique ∧
        unique.map twinTree.identify = [.ok (.file 0), .ok (.directory [.ofString "d"])] ∧
        dedupe twinTree unique = .ok unique := by
  have hexists : ∀ p ∈ ["d/a", "d", "d/up/b", "d/up"].map Path.ofString,
      twinTree.exists? p = true := by decide +kernel
  obtain ⟨unique, hunique, hidentities, -, -, -, -, hagain⟩ := dedupe_keeps_each twinTree hexists
  refine ⟨hexists, unique, hunique, ?_, hagain⟩
  rw [hidentities]
  decide +kernel

end Codemod
