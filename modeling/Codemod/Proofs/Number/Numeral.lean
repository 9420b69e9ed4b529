import Codemod.Number.Numeral
import Codemod.Proofs.Text.Blank
import Mathlib.Data.List.Induction
import Mathlib.Tactic.Ring
import Mathlib.Algebra.Order.Ring.Int

set_option autoImplicit false

/-! # Numerals and words

Which texts are numerals, and which integers they denote, is said apart from the reader (`Writes`).
The reader goes from one digit to the next in a word of fixed width and stops as soon as the word
would overflow. It never stops too early: digits only lead away from zero, so what does not fit now
will not fit later (`foldlM_shift?`), and a numeral is read exactly if its value fits
(`signed?_eq_some_iff`). -/

namespace Codemod.Numeral

/-- One or more digits. -/
def IsDigits (ds : List Char) : Prop := ds ≠ [] ∧ ∀ c ∈ ds, isDigit c = true

/-- A numeral with the integer that it denotes: an optional sign, and digits. -/
inductive Writes : List Char → Int → Prop where
  | unsigned {ds : List Char} (h : IsDigits ds) : Writes ds (value ds)
  | plus {ds : List Char} (h : IsDigits ds) : Writes ('+' :: ds) (value ds)
  | minus {ds : List Char} (h : IsDigits ds) : Writes ('-' :: ds) (-(value ds : Int))

/-- The integer that digits denote behind a sign. -/
def amount (negative : Bool) (ds : List Char) : Int :=
  if negative then -(value ds : Int) else value ds

/-! ## Digit by digit -/

theorem word?_eq_some_iff {bits : Nat} {v w : Int} :
    word? bits v = some w ↔ IsWord bits v ∧ v = w := by
  unfold word?
  split <;> simp_all

theorem value_concat (ds : List Char) (c : Char) :
    value (ds ++ [c]) = 10 * value ds + digitValue c := by
  simp [value, List.foldl_append]

theorem amount_concat (negative : Bool) (ds : List Char) (c : Char) :
    amount negative (ds ++ [c]) =
      if negative then 10 * amount negative ds - digitValue c
      else 10 * amount negative ds + digitValue c := by
  cases negative with
  | true => simp only [amount, if_true, value_concat, Nat.cast_add, Nat.cast_mul]; push_cast; ring
  | false => simp [amount, value_concat]

/-- What a word cannot hold with fewer digits it cannot hold with more. -/
theorem IsWord.of_concat {bits : Nat} {negative : Bool} {ds : List Char} {c : Char}
    (h : IsWord bits (amount negative (ds ++ [c]))) :
    IsWord bits (10 * amount negative ds) ∧ IsWord bits (amount negative ds) := by
  rw [amount_concat] at h
  obtain ⟨hlow, hhigh⟩ := h
  have hpos : (0 : Int) < (Nat.pow 2 (bits - 1) : Int) := by
    exact_mod_cast Nat.pow_pos (by norm_num)
  have hvalue : (0 : Int) ≤ value ds := Int.natCast_nonneg _
  unfold IsWord
  -- One digit more leads away from zero, to the side of the sign.
  cases negative with
  | true =>
    simp only [amount, if_true] at *
    omega
  | false =>
    simp only [amount, Bool.false_eq_true, if_false] at *
    omega

theorem shift?_amount {bits : Nat} {negative : Bool} {ds : List Char} {c : Char}
    (hc : isDigit c = true) :
    shift? bits negative (amount negative ds) c = word? bits (amount negative (ds ++ [c])) := by
  unfold shift? word?
  by_cases htens : IsWord bits (10 * amount negative ds)
  · rw [if_pos htens, amount_concat]
    simp [hc]
  · rw [if_neg htens, if_neg fun h => htens h.of_concat.1]
    rfl

/-- No digit makes the word wrap: as long as the digits so far fit, the word holds what they denote,
and else there is no answer. -/
theorem foldlM_shift? (bits : Nat) (negative : Bool) {ds : List Char}
    (hds : ∀ c ∈ ds, isDigit c = true) :
    ds.foldlM (shift? bits negative) 0 = word? bits (amount negative ds) := by
  induction ds using List.reverseRecOn with
  | nil =>
    have hzero : amount negative [] = 0 := by cases negative <;> rfl
    have hword : IsWord bits 0 := by
      have hpos : (0 : Int) < (Nat.pow 2 (bits - 1) : Int) := by
        exact_mod_cast Nat.pow_pos (by norm_num)
      unfold IsWord
      omega
    rw [hzero, word?, if_pos hword]
    rfl
  | append_singleton ds c ih =>
    have hrest := ih fun d hd => hds d (List.mem_append_left _ hd)
    have hc : isDigit c = true := hds c (by simp)
    rw [List.foldlM_append, hrest, ← shift?_amount hc]
    by_cases hword : IsWord bits (amount negative ds)
    · simp [word?, hword]
    · -- The digits so far do not fit, and neither do they with one more.
      have hnext : ¬ IsWord bits (amount negative (ds ++ [c])) := fun h => hword h.of_concat.2
      rw [shift?_amount hc, word?, word?, if_neg hword, if_neg hnext]
      rfl

/-- Digits are all that is accumulated. -/
theorem isDigit_of_foldlM {bits : Nat} {negative : Bool} {v w : Int} {ds : List Char}
    (h : ds.foldlM (shift? bits negative) v = some w) : ∀ c ∈ ds, isDigit c = true := by
  induction ds generalizing v with
  | nil => exact fun c hc => nomatch hc
  | cons d ds ih =>
    rw [List.foldlM_cons] at h
    obtain ⟨u, hu, hrest⟩ := Option.bind_eq_some_iff.mp h
    intro c hc
    rcases List.mem_cons.mp hc with rfl | hc
    · by_contra hdigit
      simp [shift?, hdigit] at hu
    · exact ih hrest c hc

theorem accumulate?_eq_some_iff {bits : Nat} {negative : Bool} {ds : List Char} {v : Int} :
    accumulate? bits negative ds = some v ↔
      IsDigits ds ∧ v = amount negative ds ∧ IsWord bits v := by
  unfold accumulate?
  cases ds with
  | nil => simp [IsDigits]
  | cons d ds =>
    simp only [List.isEmpty_cons, Bool.false_eq_true, if_false]
    constructor
    · intro h
      have hdigits := isDigit_of_foldlM h
      rw [foldlM_shift? bits negative hdigits] at h
      obtain ⟨hword, rfl⟩ := word?_eq_some_iff.mp h
      exact ⟨⟨List.cons_ne_nil d ds, hdigits⟩, rfl, hword⟩
    · rintro ⟨⟨-, hdigits⟩, rfl, hword⟩
      rw [foldlM_shift? bits negative hdigits]
      exact word?_eq_some_iff.mpr ⟨hword, rfl⟩

/-! ## Signs -/

theorem IsDigits.head_ne {c d : Char} {rest : List Char} (h : IsDigits (c :: rest))
    (hd : isDigit d = false) : c ≠ d := by
  rintro rfl
  rw [h.2 c (by simp)] at hd
  cases hd

/-- A numeral denotes one integer. -/
theorem Writes.unique {s : List Char} {v w : Int} (hv : Writes s v) (hw : Writes s w) : v = w := by
  cases hv with
  | unsigned hds =>
    cases hw with
    | unsigned => rfl
    | plus => exact absurd rfl (hds.head_ne (by decide))
    | minus => exact absurd rfl (hds.head_ne (by decide))
  | plus hds =>
    cases hw with
    | unsigned hds' => exact absurd rfl (hds'.head_ne (by decide))
    | plus => rfl
  | minus hds =>
    cases hw with
    | unsigned hds' => exact absurd rfl (hds'.head_ne (by decide))
    | minus => rfl

/-- A word is read from a numeral whose value it can hold, and from nothing else. -/
theorem signed?_eq_some_iff {bits : Nat} {s : List Char} {v : Int} :
    signed? bits s = some v ↔ Writes s v ∧ IsWord bits v := by
  unfold signed?
  split
  case h_1 ds =>
    rw [accumulate?_eq_some_iff]
    constructor
    · rintro ⟨hdigits, rfl, hword⟩
      exact ⟨.plus hdigits, hword⟩
    · rintro ⟨hwrites, hword⟩
      cases hwrites with
      | unsigned hdigits => exact absurd rfl (hdigits.head_ne (by decide))
      | plus hdigits => exact ⟨hdigits, rfl, hword⟩
  case h_2 ds =>
    rw [accumulate?_eq_some_iff]
    constructor
    · rintro ⟨hdigits, rfl, hword⟩
      exact ⟨.minus hdigits, hword⟩
    · rintro ⟨hwrites, hword⟩
      cases hwrites with
      | unsigned hdigits => exact absurd rfl (hdigits.head_ne (by decide))
      | minus hdigits => exact ⟨hdigits, rfl, hword⟩
  case h_3 hplus hminus =>
    rw [accumulate?_eq_some_iff]
    constructor
    · rintro ⟨hdigits, rfl, hword⟩
      exact ⟨.unsigned hdigits, hword⟩
    · rintro ⟨hwrites, hword⟩
      cases hwrites with
      | unsigned hdigits => exact ⟨hdigits, rfl, hword⟩
      | plus hdigits => exact absurd rfl (hplus _)
      | minus hdigits => exact absurd rfl (hminus _)

/-! ## Numerals and blanks -/

theorem isBlank_of_isDigit {c : Char} (h : isDigit c = true) : Text.isBlank c = false := by
  simp only [isDigit, Bool.and_eq_true, decide_eq_true_eq, Char.le_def, UInt32.le_iff_toNat_le] at h
  obtain ⟨hlow, hhigh⟩ := h
  have hlow : 48 ≤ c.toNat := hlow
  have hhigh : c.toNat ≤ 57 := hhigh
  simp [Text.isBlank]
  omega

theorem toLower_of_isDigit {c : Char} (h : isDigit c = true) : c.toLower = c := by
  simp only [isDigit, Bool.and_eq_true, decide_eq_true_eq, Char.le_def, UInt32.le_iff_toNat_le] at h
  have hhigh : c.val.toNat ≤ 57 := h.2
  have hnot : ¬ (c.val ≥ 'A'.val ∧ c.val ≤ 'Z'.val) := by
    rintro ⟨hlow, -⟩
    have hlow : 65 ≤ c.val.toNat := UInt32.le_iff_toNat_le.mp hlow
    omega
  exact dif_neg hnot

theorem Writes.exists_isDigit {s : List Char} {v : Int} (h : Writes s v) :
    ∃ c ∈ s, isDigit c = true := by
  have hhead : ∀ {ds : List Char}, IsDigits ds → ∃ c ∈ ds, isDigit c = true :=
    fun hds => ⟨_, List.head_mem hds.1, hds.2 _ (List.head_mem hds.1)⟩
  cases h with
  | unsigned hds => exact hhead hds
  | plus hds => exact (hhead hds).imp fun _ hc => ⟨List.mem_cons_of_mem _ hc.1, hc.2⟩
  | minus hds => exact (hhead hds).imp fun _ hc => ⟨List.mem_cons_of_mem _ hc.1, hc.2⟩

/-- A numeral holds no blanks. -/
theorem Writes.isTrimmed {s : List Char} {v : Int} (h : Writes s v) : Text.IsTrimmed s := by
  have hdigits : ∀ {ds : List Char}, IsDigits ds → ∀ c ∈ ds, Text.isBlank c = false :=
    fun hds c hc => isBlank_of_isDigit (hds.2 c hc)
  apply Text.IsTrimmed.of_forall
  cases h with
  | unsigned hds => exact hdigits hds
  | plus hds => exact List.forall_mem_cons.mpr ⟨by decide, hdigits hds⟩
  | minus hds => exact List.forall_mem_cons.mpr ⟨by decide, hdigits hds⟩

end Codemod.Numeral
