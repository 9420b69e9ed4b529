set_option autoImplicit false

/-! # Splitting

The parts of a row between its separators. There is always one part more than there are separators,
and joining the parts again gives the row. -/

namespace Codemod.Text

variable {α : Type} [DecidableEq α]

/-- What stands between the separators of a row. -/
def split (separator : α) : List α → List (List α)
  | [] => [[]]
  | a :: rest =>
    if a = separator then [] :: split separator rest
    else
      match split separator rest with
      | part :: more => (a :: part) :: more
      | [] => [[a]]

/-- A row has at least one part. -/
theorem split_ne_nil (separator : α) (s : List α) : split separator s ≠ [] := by
  cases s with
  | nil => simp [split]
  | cons a rest =>
    simp only [split]
    split
    · simp
    · split <;> simp

/-- A separator cuts a row in two, and each half is split by itself. -/
theorem split_append (separator : α) (a b : List α) :
    split separator (a ++ separator :: b) = split separator a ++ split separator b := by
  induction a with
  | nil => simp [split]
  | cons c a ih =>
    simp only [List.cons_append, split, ih]
    split
    · rfl
    · cases h : split separator a with
      | nil => exact absurd h (split_ne_nil separator a)
      | cons part more => rfl

/-- The parts with their separators are the row again. -/
theorem flatMap_split (separator : α) (a : List α) :
    (split separator a).flatMap (fun part => separator :: part) = separator :: a := by
  induction a with
  | nil => rfl
  | cons c a ih =>
    rw [split]
    split
    · rename_i hc
      rw [List.flatMap_cons, ih, hc]
      rfl
    · cases h : split separator a with
      | nil => exact absurd h (split_ne_nil separator a)
      | cons part more =>
        rw [h, List.flatMap_cons, List.cons_append] at ih
        rw [List.flatMap_cons, List.cons_append, List.cons_append, (List.cons.inj ih).2]

/-- A row without separators is its only part. -/
theorem split_of_notMem {separator : α} {a : List α} (h : separator ∉ a) :
    split separator a = [a] := by
  induction a with
  | nil => rfl
  | cons c a ih =>
    rw [List.mem_cons, not_or] at h
    simp only [split, ih h.2, if_neg (Ne.symm h.1)]

/-- No part has a separator. -/
theorem notMem_of_mem_split {separator : α} {a part : List α} (h : part ∈ split separator a) :
    separator ∉ part := by
  induction a generalizing part with
  | nil =>
    rw [split, List.mem_singleton] at h
    rw [h]
    exact List.not_mem_nil
  | cons c a ih =>
    rw [split] at h
    split at h
    · rcases List.mem_cons.1 h with rfl | h
      · exact List.not_mem_nil
      · exact ih h
    · rename_i hc
      cases hs : split separator a with
      | nil => exact absurd hs (split_ne_nil separator a)
      | cons first more =>
        rw [hs] at h ih
        rcases List.mem_cons.1 h with rfl | h
        · rw [List.mem_cons, not_or]
          exact ⟨Ne.symm hc, ih (List.mem_cons_self ..)⟩
        · exact ih (List.mem_cons_of_mem _ h)

end Codemod.Text
