import Codemod.Backup.Lookup
import Codemod.Proofs.Encoding.Utf8
import Codemod.Proofs.Json.Table

set_option autoImplicit false

/-! # Lookup tables, written and read

A table is kept sorted by the names of its members, each name with one path (`Sorted.insert`,
`perm_insert`). Written out and read again a sorted table is the same (`decode_of_encode`). -/

namespace Codemod.Backup.Lookup

variable {table : Lookup} {name : String} {p : Path}

/-! ## Order -/

/-- The names in a table come in order, none of them twice. -/
def Sorted (table : Lookup) : Prop := table.Pairwise fun a b => a.1 < b.1

theorem lt_of_not_lt {a b : String} (h : ¬ a < b) (hne : a ≠ b) : b < a := by
  refine String.not_le.1 fun hle => hne ?_
  exact String.le_antisymm hle (Decidable.not_not.1 fun hnot => h (String.not_le.1 hnot))

/-- A new name adds one entry to a table. -/
theorem perm_insert (hnew : ∀ e ∈ table, e.1 ≠ name) (p : Path) :
    (table.insert name p).Perm ((name, p) :: table) := by
  induction table with
  | nil => exact .refl _
  | cons first rest ih =>
    rw [List.forall_mem_cons] at hnew
    rw [insert]
    split
    · exact .refl _
    · rw [if_neg (Ne.symm hnew.1)]
      exact ((ih hnew.2).cons first).trans (.swap ..)

/-- A table holds the entries that it was made of if they have different names. -/
theorem perm_ofList {entries : List (String × Path)} (h : (entries.map (·.1)).Nodup) :
    (ofList entries).Perm entries := by
  have hfold : ∀ (done : Lookup) (rest : List (String × Path)),
      ((done ++ rest).map (·.1)).Nodup →
      (rest.foldl (fun table e => table.insert e.1 e.2) done).Perm (done ++ rest) := by
    intro done rest hnodup
    induction rest generalizing done with
    | nil => rw [List.append_nil]; exact .refl _
    | cons e rest ih =>
      have hmove : (e :: done ++ rest).Perm (done ++ e :: rest) := List.perm_middle.symm
      have hnodup' := (hmove.map (·.1)).nodup_iff.2 hnodup
      have hnew : ∀ e' ∈ done, e'.1 ≠ e.1 := by
        rw [List.cons_append, List.map_cons, List.nodup_cons] at hnodup'
        exact fun e' he' heq => hnodup'.1
          (heq ▸ List.mem_map_of_mem (List.mem_append_left rest he'))
      have hinsert := (perm_insert hnew e.2).append_right rest
      rw [List.foldl_cons]
      exact (ih _ ((hinsert.map (·.1)).nodup_iff.2 hnodup')).trans (hinsert.trans hmove)
  exact hfold [] entries h

theorem fst_of_mem_insert {e : String × Path} (h : e ∈ table.insert name p) :
    e.1 = name ∨ e ∈ table := by
  induction table with
  | nil =>
    rw [insert, List.mem_singleton] at h
    exact .inl (congrArg Prod.fst h)
  | cons first rest ih =>
    rw [insert] at h
    split at h
    · rcases List.mem_cons.1 h with rfl | h
      · exact .inl rfl
      · exact .inr h
    · split at h
      · rcases List.mem_cons.1 h with rfl | h
        · exact .inl rfl
        · exact .inr (List.mem_cons_of_mem _ h)
      · rcases List.mem_cons.1 h with rfl | h
        · exact .inr (List.mem_cons_self ..)
        · exact (ih h).imp_right (List.mem_cons_of_mem _)

namespace Sorted

theorem insert (h : Sorted table) (name : String) (p : Path) : Sorted (table.insert name p) := by
  induction table with
  | nil => exact List.pairwise_singleton ..
  | cons first rest ih =>
    obtain ⟨hfirst, hrest⟩ := List.pairwise_cons.1 h
    rw [Lookup.insert]
    split
    · rename_i hlt
      refine List.pairwise_cons.2 ⟨fun e he => ?_, h⟩
      rcases List.mem_cons.1 he with rfl | he
      · exact hlt
      · exact String.lt_trans hlt (hfirst e he)
    · rename_i hlt
      split
      · rename_i heq
        refine List.pairwise_cons.2 ⟨fun e he => ?_, hrest⟩
        rw [heq]
        exact hfirst e he
      · rename_i hne
        refine List.pairwise_cons.2 ⟨fun e he => ?_, ih hrest⟩
        rcases fst_of_mem_insert he with heq | he
        · rw [heq]
          exact lt_of_not_lt hlt hne
        · exact hfirst e he

/-- A name that comes after all others goes to the end. -/
theorem insert_eq_concat (h : ∀ e ∈ table, e.1 < name) :
    table.insert name p = table ++ [(name, p)] := by
  induction table with
  | nil => rfl
  | cons first rest ih =>
    rw [List.forall_mem_cons] at h
    have hne : name ≠ first.1 := fun heq => String.lt_irrefl _ (heq ▸ h.1)
    rw [Lookup.insert, if_neg (String.lt_asymm h.1), if_neg hne, ih h.2, List.cons_append]

/-- A sorted table is the table with its own entries. -/
theorem ofList_eq (h : Sorted table) : ofList table = table := by
  have hfold : ∀ done rest : Lookup, Sorted (done ++ rest) →
      rest.foldl (fun table e => table.insert e.1 e.2) done = done ++ rest := by
    intro done rest hsorted
    induction rest generalizing done with
    | nil => exact (List.append_nil done).symm
    | cons e rest ih =>
      have hlast : ∀ e' ∈ done, e'.1 < e.1 := fun e' he' =>
        (List.pairwise_append.1 hsorted).2.2 e' he' e (List.mem_cons_self ..)
      rw [List.foldl_cons, insert_eq_concat hlast, ih]
      · rw [List.append_assoc, List.singleton_append]
      · rw [List.append_assoc, List.singleton_append]
        exact hsorted
  exact hfold [] table h

theorem nodup (h : Sorted table) : (table.map (·.1)).Nodup := by
  rw [List.Nodup, List.pairwise_map]
  refine List.Pairwise.imp (fun {a b} hlt heq => ?_) h
  rw [heq] at hlt
  exact String.lt_irrefl _ hlt

end Sorted

/-- Whatever a table is made of, it is sorted. -/
theorem sorted_ofList (entries : List (String × Path)) : Sorted (ofList entries) := by
  have hfold : ∀ (done : Lookup) (rest : List (String × Path)), Sorted done →
      Sorted (rest.foldl (fun table e => table.insert e.1 e.2) done) := by
    intro done rest hdone
    induction rest generalizing done with
    | nil => exact hdone
    | cons e rest ih => exact ih _ (hdone.insert e.1 e.2)
  exact hfold [] entries .nil

/-! ## Bytes -/

/-- A path that is text is the path of its text. -/
theorem ofString_of_textOf {s : String} (h : textOf p = some s) : Path.ofString s = p := by
  rw [textOf, Option.map_eq_some_iff] at h
  obtain ⟨cs, hcs, rfl⟩ := h
  rcases hdecode : Encoding.Utf8.decode p.bytes with e | cs'
  · rw [hdecode] at hcs
    cases hcs
  · rw [hdecode] at hcs
    cases hcs
    rw [Path.ofString, Name.ofString, String.toList_ofList,
      Encoding.Utf8.encode_of_decode hdecode]

/-- The members of a written table stand for its entries. -/
theorem mapM_entry? {members : List (String × String)}
    (h : (table.mapM fun e => (textOf e.2).map fun s => (e.1, s)) = some members) :
    (members.map fun m => (m.1, Json.string m.2)).mapM entry? = some table := by
  induction table generalizing members with
  | nil =>
    cases h
    rfl
  | cons e rest ih =>
    rw [List.mapM_cons] at h
    rcases htext : textOf e.2 with _ | s
    · rw [htext] at h
      cases h
    · rcases hrest : (rest.mapM fun e => (textOf e.2).map fun s => (e.1, s)) with _ | ms
      · rw [htext, hrest] at h
        cases h
      · rw [htext, hrest] at h
        cases h
        have hentry : entry? (e.1, Json.string s) = some e :=
          congrArg (fun p => some (e.1, p)) (ofString_of_textOf htext)
        rw [List.map_cons, List.mapM_cons, hentry, ih hrest]
        rfl

/-- A sorted table survives being written. -/
theorem decode_of_encode {bytes : List UInt8} (hsorted : Sorted table)
    (h : encode table = some bytes) : decode bytes = some table := by
  rw [encode, Option.bind_eq_bind, Option.bind_eq_some_iff] at h
  obtain ⟨members, hmembers, h⟩ := h
  cases h
  rw [decode, Encoding.Utf8.decode_encode]
  simp only [Except.toOption, Option.bind_eq_bind, Option.bind_some, Json.parse?_prettyTable,
    mapM_entry? hmembers, Option.map_some, hsorted.ofList_eq]

end Codemod.Backup.Lookup
