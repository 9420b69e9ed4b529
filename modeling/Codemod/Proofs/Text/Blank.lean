import Codemod.Text.Blank
import Mathlib.Data.List.DropRight

set_option autoImplicit false

/-! # Blanks around a text

Trimming takes nothing but blanks away (`exists_eq_append_trim`), and whatever stands between blanks
and has none at its own ends is what remains (`trim_append`). -/

namespace Codemod.Text

/-- To decide the statement itself would be to ask all characters that there are. -/
theorem forall_mem_of_all {p : Char → Prop} [DecidablePred p] {s : List Char}
    (h : s.all (fun c => p c) = true) : ∀ c ∈ s, p c := by
  simpa using h

/-- A text of nothing but blanks. -/
def IsGap (s : List Char) : Prop := ∀ c ∈ s, isBlank c = true

/-- A text that neither starts nor ends with a blank. -/
structure IsTrimmed (s : List Char) : Prop where
  head : ∀ c ∈ s.head?, isBlank c = false
  last : ∀ c ∈ s.getLast?, isBlank c = false

theorem IsTrimmed.of_forall {s : List Char} (h : ∀ c ∈ s, isBlank c = false) : IsTrimmed s where
  head c hc := h c (List.mem_of_mem_head? hc)
  last c hc := h c (List.mem_of_mem_getLast? hc)

theorem dropEndWhile_append {p : Char → Bool} {s after : List Char} (hafter : ∀ c ∈ after, p c = true)
    (hs : ∀ c ∈ s.getLast?, p c = false) : dropEndWhile p (s ++ after) = s := by
  unfold dropEndWhile
  rw [List.reverse_append, List.dropWhile_append_of_pos (by simpa using hafter)]
  cases hrev : s.reverse with
  | nil => simpa using hrev.symm
  | cons c rest =>
    have hlast : s.getLast? = some c := by rw [← List.head?_reverse, hrev, List.head?_cons]
    rw [List.dropWhile_cons_of_neg (by simp [hs c (by simp [hlast])]), ← hrev, List.reverse_reverse]

/-- What stands between blanks remains. -/
theorem trim_append {before body after : List Char} (hbefore : IsGap before) (hafter : IsGap after)
    (hbody : IsTrimmed body) : trim (before ++ body ++ after) = body := by
  unfold trim
  rw [List.append_assoc, List.dropWhile_append_of_pos hbefore]
  cases body with
  | nil =>
    have hnone : after.dropWhile isBlank = [] := List.dropWhile_eq_nil_iff.mpr hafter
    rw [List.nil_append, hnone]
    rfl
  | cons c rest =>
    have hc : isBlank c = false := hbody.head c rfl
    rw [List.cons_append, List.dropWhile_cons_of_neg (by simp [hc]), ← List.cons_append]
    exact dropEndWhile_append hafter hbody.last

theorem dropEndWhile_append_takeWhile (p : Char → Bool) (s : List Char) :
    dropEndWhile p s ++ (s.reverse.takeWhile p).reverse = s := by
  rw [dropEndWhile, ← List.reverse_append, List.takeWhile_append_dropWhile, List.reverse_reverse]

/-- Only blanks are taken away. -/
theorem exists_eq_append_trim (s : List Char) :
    ∃ before after, s = before ++ trim s ++ after ∧ IsGap before ∧ IsGap after := by
  refine ⟨s.takeWhile isBlank, ((s.dropWhile isBlank).reverse.takeWhile isBlank).reverse, ?_, ?_, ?_⟩
  · rw [List.append_assoc, trim, dropEndWhile_append_takeWhile, List.takeWhile_append_dropWhile]
  · intro c hc
    exact List.mem_takeWhile_imp hc
  · intro c hc
    exact List.mem_takeWhile_imp (List.mem_reverse.mp hc)

theorem mem_of_mem_trim {s : List Char} {c : Char} (hc : c ∈ trim s) : c ∈ s := by
  obtain ⟨before, after, heq, -, -⟩ := exists_eq_append_trim s
  rw [heq]
  exact List.mem_append_left _ (List.mem_append_right _ hc)

/-- What is no blank is not taken away. -/
theorem mem_trim {s : List Char} {c : Char} (hc : c ∈ s) (h : isBlank c = false) : c ∈ trim s := by
  obtain ⟨before, after, heq, hbefore, hafter⟩ := exists_eq_append_trim s
  rw [heq, List.mem_append, List.mem_append] at hc
  rcases hc with (hc | hc) | hc
  · rw [hbefore c hc] at h
    cases h
  · exact hc
  · rw [hafter c hc] at h
    cases h

/-- No blank is left at either end. -/
theorem isTrimmed_trim (s : List Char) : IsTrimmed (trim s) where
  head c hc := by
    have hhead := List.head?_dropWhile_not isBlank s
    obtain ⟨rest, hrest⟩ := List.head?_eq_some_iff.mp hc
    rw [← dropEndWhile_append_takeWhile isBlank (s.dropWhile isBlank), ← trim, hrest] at hhead
    simpa using hhead
  last c hc := by
    have hlast := List.head?_dropWhile_not isBlank (s.dropWhile isBlank).reverse
    rw [trim, dropEndWhile, List.getLast?_reverse] at hc
    rw [Option.mem_def.mp hc] at hlast
    simpa using hlast

theorem trim_trim (s : List Char) : trim (trim s) = trim s := by
  have hnone : IsGap [] := fun _ hc => nomatch hc
  simpa using trim_append hnone hnone (isTrimmed_trim s)

end Codemod.Text
