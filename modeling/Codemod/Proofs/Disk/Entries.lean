import Codemod.Disk.Change
import Codemod.Proofs.Path
import Mathlib.Data.List.Find
import Mathlib.Data.List.Nodup

set_option autoImplicit false

/-! # What is where

What a change of a tree does to what is at a place (`at?_put`, `at?_cut`, `at?_carry`), to what is
in files and to what may be done with them. All that is proved of changes is said in these terms. -/

namespace Codemod.Disk

/-! ## Looking -/

@[simp]
theorem at?_root (d : Disk) : d.at? [] = some (.directory {}) := rfl

theorem at?_of_ne_nil (d : Disk) {l : Location} (h : l ≠ []) :
    d.at? l = (d.entries.find? fun e => e.1 == l).map (·.2) := by
  rw [at?, if_neg h]

theorem mem_entries_of_at? {d : Disk} {l : Location} {entry : Entry} (h : d.at? l = some entry)
    (hl : l ≠ []) : (l, entry) ∈ d.entries := by
  rw [at?_of_ne_nil d hl, Option.map_eq_some_iff] at h
  obtain ⟨⟨place, found⟩, hfind, rfl⟩ := h
  have hplace : place = l := by simpa using List.find?_some hfind
  exact hplace ▸ List.mem_of_find?_eq_some hfind

theorem hasDirectory_iff {d : Disk} {l : Location} :
    d.hasDirectory l = true ↔ ∃ rights, d.at? l = some (.directory rights) := by
  rw [hasDirectory]
  rcases d.at? l with _ | ⟨rights⟩ | key | target
  · simp
  · simp [isDirectoryEntry]
  · simp [isDirectoryEntry]
  · simp [isDirectoryEntry]

theorem hasDirectory_of_at? {d : Disk} {l : Location} {rights : Rights}
    (h : d.at? l = some (.directory rights)) : d.hasDirectory l = true :=
  hasDirectory_iff.2 ⟨rights, h⟩

@[simp]
theorem hasDirectory_root (d : Disk) : d.hasDirectory [] = true := rfl

theorem mem_children {d : Disk} {l : Location} {name : Name} {entry : Entry} :
    (name, entry) ∈ d.children l ↔ (l ++ [name], entry) ∈ d.entries := by
  rw [children, List.mem_filterMap]
  constructor
  · rintro ⟨⟨place, found⟩, hmem, h⟩
    dsimp only at h
    split at h
    · rename_i back hback
      split at h
      · rename_i hl
        cases h
        rw [← hl, ← List.reverse_cons, ← hback, List.reverse_reverse]
        exact hmem
      · cases h
    · cases h
  · intro h
    refine ⟨(l ++ [name], entry), h, ?_⟩
    simp

theorem prefix_dropLast {l m : Location} (h : l <+: m) (hne : l ≠ m) : l <+: m.dropLast := by
  obtain ⟨rest, rfl⟩ := h
  have hrest : rest ≠ [] := fun hrest => hne (by rw [hrest, List.append_nil])
  rw [List.dropLast_append_of_ne_nil hrest]
  exact List.prefix_append ..

/-! ## Changing entries -/

/-- Looking for a key among the pairs whose keys are kept. -/
theorem find?_filter_key {κ α : Type} [BEq κ] [LawfulBEq κ] (xs : List (κ × α)) (kept : κ → Bool)
    (key : κ) :
    (xs.filter fun e => kept e.1).find? (fun e => e.1 == key) =
      if kept key then xs.find? (fun e => e.1 == key) else none := by
  rw [List.find?_filter]
  by_cases h : kept key = true
  · rw [if_pos h]
    refine List.find?_congr fun e _ => ?_
    by_cases he : e.1 = key
    · simp [he, h]
    · simp [he]
  · rw [if_neg h, List.find?_eq_none]
    intro e _
    by_cases he : e.1 = key
    · simp [he, h]
    · simp [he]

/-- The root stays a directory whatever is put there. -/
theorem at?_put (d : Disk) (l : Location) (entry : Entry) (m : Location) :
    (d.put l entry).at? m = if m = l ∧ m ≠ [] then some entry else d.at? m := by
  by_cases hm : m = []
  · simp [hm]
  · rw [at?_of_ne_nil _ hm, at?_of_ne_nil _ hm, put, List.find?_append,
      find?_filter_key d.entries (fun place => place != l)]
    by_cases h : m = l
    · simp [h, h ▸ hm]
    · have hne : (l == m) = false := by simpa using Ne.symm h
      simp [h, hne]

theorem at?_filter (d : Disk) (kept : Location → Bool) (m : Location) :
    ({ d with entries := d.entries.filter fun e => kept e.1 } : Disk).at? m =
      if m = [] ∨ kept m = true then d.at? m else none := by
  by_cases hm : m = []
  · rw [hm, at?_root, at?_root, if_pos (Or.inl rfl)]
  · rw [at?_of_ne_nil _ hm, at?_of_ne_nil _ hm, find?_filter_key d.entries kept]
    by_cases h : kept m = true
    · rw [if_pos h, if_pos (Or.inr h)]
    · rw [if_neg h, if_neg (by simp [h, hm]), Option.map_none]

theorem at?_cut (d : Disk) (l m : Location) :
    (d.cut l).at? m = if m ≠ [] ∧ l <+: m then none else d.at? m := by
  rw [cut, at?_filter d fun place => !l.isPrefixOf place]
  simp only [Bool.not_eq_true', ← Bool.not_eq_true, List.isPrefixOf_iff_prefix]
  by_cases hm : m = []
  · simp [hm]
  · by_cases h : l <+: m
    · simp [hm, h]
    · simp [hm, h]

theorem at?_cutBelow (d : Disk) (l m : Location) :
    (d.cutBelow l).at? m = if l <+: m ∧ l ≠ m then none else d.at? m := by
  rw [cutBelow, at?_filter d fun place => !(l.isPrefixOf place && l != place)]
  simp only [Bool.not_eq_true', ← Bool.not_eq_true, Bool.and_eq_true, List.isPrefixOf_iff_prefix,
    bne_iff_ne]
  by_cases hm : m = []
  · subst hm
    simp
  · by_cases h : l <+: m ∧ l ≠ m
    · rw [if_neg (by simp [hm, h]), if_pos h]
    · rw [if_pos (Or.inr h), if_neg h]

/-- Where a place goes when everything at and below one place goes to another one. -/
def carried (source target l : Location) : Location :=
  if source.isPrefixOf l then target ++ l.drop source.length else l

/-- What comes to a place lay under the source before, unless it has not moved. -/
theorem carried_eq_iff {source target l m : Location} (hl : ¬ target <+: l) :
    carried source target l = m ↔
      if target <+: m then l = source ++ m.drop target.length
      else ¬ source <+: m ∧ l = m := by
  rw [carried]
  split
  · rename_i hsource
    obtain ⟨rest, rfl⟩ := List.isPrefixOf_iff_prefix.1 hsource
    rw [List.drop_left]
    split
    · rename_i hm
      obtain ⟨more, rfl⟩ := hm
      rw [List.drop_left, List.append_cancel_left_eq, List.append_cancel_left_eq]
    · rename_i hm
      constructor
      · rintro rfl
        exact absurd (List.prefix_append ..) hm
      · rintro ⟨hnot, rfl⟩
        exact absurd (List.prefix_append ..) hnot
  · rename_i hsource
    rw [List.isPrefixOf_iff_prefix] at hsource
    split
    · rename_i hm
      constructor
      · rintro rfl
        exact absurd hm hl
      · rintro rfl
        exact absurd (List.prefix_append ..) hsource
    · constructor
      · rintro rfl
        exact ⟨hsource, rfl⟩
      · exact And.right

theorem carried_append (source target rest : Location) :
    carried source target (source ++ rest) = target ++ rest := by
  rw [carried, if_pos (List.isPrefixOf_iff_prefix.2 (List.prefix_append ..)), List.drop_left]

theorem carried_of_not_under {source l : Location} (target : Location) (h : ¬ source <+: l) :
    carried source target l = l := by
  rw [carried, if_neg (mt List.isPrefixOf_iff_prefix.1 h)]

/-- What is above a place is carried along with it, but for the source itself. -/
theorem dropLast_carried {source l : Location} (target : Location) (h : l ≠ source) :
    (carried source target l).dropLast = carried source target l.dropLast := by
  by_cases hl : source <+: l
  · obtain ⟨rest, rfl⟩ := hl
    have hrest : rest ≠ [] := fun hrest => h (by rw [hrest, List.append_nil])
    rw [carried_append, List.dropLast_append_of_ne_nil hrest,
      List.dropLast_append_of_ne_nil hrest, carried_append]
  · rw [carried_of_not_under target hl,
      carried_of_not_under target fun h => hl (h.trans (List.dropLast_prefix l))]

theorem carried_injective {source target l l' : Location} (hl : ¬ target <+: l)
    (hl' : ¬ target <+: l') (h : carried source target l = carried source target l') : l = l' := by
  have hfrom := (carried_eq_iff hl).1 h
  have hfrom' := (carried_eq_iff hl').1 (rfl : carried source target l' = _)
  split at hfrom
  · rename_i hm
    rw [if_pos hm] at hfrom'
    exact hfrom.trans hfrom'.symm
  · rename_i hm
    rw [if_neg hm] at hfrom'
    exact hfrom.2.trans hfrom'.2.symm

/-- What a place comes to hold when everything at and below one place goes to another one. -/
theorem at?_carry (d : Disk) {source target : Location} (hst : ¬ source <+: target)
    (hts : ¬ target <+: source) (m : Location) :
    (d.carry source target).at? m =
      if target <+: m then d.at? (source ++ m.drop target.length)
      else if source <+: m then none else d.at? m := by
  have hsource : source ≠ [] := fun h => hst (h ▸ List.nil_prefix)
  have htarget : target ≠ [] := fun h => hts (h ▸ List.nil_prefix)
  -- The source is not under the target, nor is what lies under the source.
  have hcut : ∀ rest, (d.cut target).at? (source ++ rest) = d.at? (source ++ rest) := by
    intro rest
    rw [at?_cut, if_neg]
    rintro ⟨-, h⟩
    rcases List.prefix_or_prefix_of_prefix h (List.prefix_append source rest) with h | h
    · exact hts h
    · exact hst h
  by_cases hm : m = []
  · subst hm
    simp [htarget, hsource]
  · have hfind : (d.carry source target).at? m =
        ((d.cut target).entries.find? fun e => carried source target e.1 == m).map (·.2) := by
      rw [at?_of_ne_nil _ hm]
      simp only [carry, List.find?_map, Option.map_map]
      rfl
    have hkept : ∀ e ∈ (d.cut target).entries, ¬ target <+: e.1 := by
      intro e he
      have h := (List.mem_filter.1 he).2
      rw [Bool.not_eq_true', ← Bool.not_eq_true, List.isPrefixOf_iff_prefix] at h
      exact h
    rw [hfind]
    split
    · rename_i htm
      rw [← hcut, at?_of_ne_nil _ (List.append_ne_nil_of_left_ne_nil hsource _)]
      refine congrArg _ (List.find?_congr fun e he => ?_)
      rw [Bool.eq_iff_iff, beq_iff_eq, beq_iff_eq, carried_eq_iff (hkept e he), if_pos htm]
    · rename_i htm
      split
      · rename_i hsm
        rw [Option.map_eq_none_iff, List.find?_eq_none]
        intro e he
        rw [beq_iff_eq, carried_eq_iff (hkept e he), if_neg htm]
        exact fun h => h.1 hsm
      · rename_i hsm
        have hsame : (d.cut target).at? m = d.at? m := by
          rw [at?_cut, if_neg fun h => htm h.2]
        rw [← hsame, at?_of_ne_nil _ hm]
        refine congrArg _ (List.find?_congr fun e he => ?_)
        rw [Bool.eq_iff_iff, beq_iff_eq, beq_iff_eq, carried_eq_iff (hkept e he), if_neg htm]
        exact ⟨And.right, fun h => ⟨hsm, h⟩⟩

theorem at?_carry_carried (d : Disk) {source target l : Location} (hst : ¬ source <+: target)
    (hts : ¬ target <+: source) (hl : ¬ target <+: l) :
    (d.carry source target).at? (carried source target l) = d.at? l := by
  rw [at?_carry d hst hts]
  by_cases hsource : source <+: l
  · obtain ⟨rest, rfl⟩ := hsource
    rw [carried_append, if_pos (List.prefix_append ..), List.drop_left]
  · rw [carried_of_not_under target hsource, if_neg hl, if_neg hsource]

/-! ## Changing files -/

@[simp]
theorem at?_setContent (d : Disk) (key : Nat) (content : Content) (m : Location) :
    (d.setContent key content).at? m = d.at? m := rfl

theorem contentOf_setContent (d : Disk) (key : Nat) (content : Content) (other : Nat) :
    (d.setContent key content).contentOf other =
      if other = key then content else d.contentOf other := by
  rw [contentOf, contentOf, setContent, List.find?_cons]
  by_cases h : other = key
  · simp [h]
  · have hne : (key == other) = false := by simpa using Ne.symm h
    simp only [hne]
    rw [find?_filter_key d.contents fun k => k != key]
    simp [h]

theorem at?_addFile (d : Disk) (l : Location) (content : Content) (m : Location) :
    (d.addFile l content).at? m =
      if m = l ∧ m ≠ [] then some (.file d.nextKey) else d.at? m :=
  at?_put d l _ m

theorem contentOf_addFile (d : Disk) (l : Location) (content : Content) (key : Nat) :
    (d.addFile l content).contentOf key =
      if key = d.nextKey then content else d.contentOf key :=
  contentOf_setContent (d.put l (.file d.nextKey)) d.nextKey content key

/-- Other rights for one file are none for the others. -/
theorem rightsOf_of_ne (d : Disk) {key other : Nat} (rights : Rights) (h : other ≠ key) :
    ({ d with fileRights := (key, rights) :: d.fileRights.filter fun r => r.1 != key } :
      Disk).rightsOf other = d.rightsOf other := by
  have hne : (key == other) = false := by simpa using Ne.symm h
  rw [rightsOf, rightsOf, List.find?_cons, hne]
  dsimp only
  rw [find?_filter_key d.fileRights fun k => k != key, if_pos (by simpa using h)]

theorem rightsOf_self (d : Disk) (key : Nat) (rights : Rights) :
    ({ d with fileRights := (key, rights) :: d.fileRights.filter fun r => r.1 != key } :
      Disk).rightsOf key = rights := by
  rw [rightsOf, List.find?_cons, beq_self_eq_true]
  rfl

@[simp]
theorem contentOf_put (d : Disk) (l : Location) (entry : Entry) (key : Nat) :
    (d.put l entry).contentOf key = d.contentOf key := rfl

end Codemod.Disk
