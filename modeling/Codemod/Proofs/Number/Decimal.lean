import Codemod.Proofs.Number.Numeral

set_option autoImplicit false

/-! # Decimal forms

The decimal form of an integer is the numeral that `toString` gives: a minus sign if there is to be
one, and digits without a zero in front. It denotes the integer (`writes_toString`), so whoever reads
numerals reads it, as far as the words go that the value is put into (`unsigned?_eq_some_iff`). -/

namespace Codemod.Numeral

/-! ## Digits of a natural number -/

theorem toList_toString (n : Nat) : (toString n).toList = Nat.toDigits 10 n :=
  String.toList_ofList

/-- The digits of a natural number denote it. -/
theorem value_toString (n : Nat) : value (toString n).toList = n := by
  rw [toList_toString]
  exact Nat.ofDigitChars_toDigits (by decide) (by decide)

theorem isDigits_toString (n : Nat) : IsDigits (toString n).toList := by
  rw [toList_toString]
  refine ⟨Nat.toDigits_ne_nil, fun c hc => ?_⟩
  have hdigit := Nat.isDigit_of_mem_toDigits (by decide) (by decide) hc
  simp only [Char.isDigit, Bool.and_eq_true, decide_eq_true_eq] at hdigit
  simp only [isDigit, Bool.and_eq_true, decide_eq_true_eq]
  exact hdigit

/-- Only zero starts with a zero. -/
theorem eq_zero_of_head?_toString {n : Nat} (h : (toString n).toList.head? = some '0') : n = 0 := by
  rw [toList_toString] at h
  induction n using Nat.strong_induction_on with
  | _ n ih =>
    rw [Nat.toDigits_eq_if (by decide)] at h
    split at h
    case isTrue hsmall =>
      have hdigits : ∀ m < 10, some (Nat.digitChar m) = some '0' → m = 0 := by decide
      exact hdigits n hsmall h
    case isFalse hlarge =>
      rw [List.head?_append_of_ne_nil _ Nat.toDigits_ne_nil] at h
      have hrest := ih (n / 10) (by omega) h
      omega

/-! ## Integers -/

theorem toList_toString_negSucc (n : Nat) :
    (toString (Int.negSucc n)).toList = '-' :: (toString (n + 1)).toList := by
  have happend : toString (Int.negSucc n) = "-" ++ toString (n + 1) := rfl
  rw [happend, String.toList_append]
  rfl

/-- The decimal form of an integer is a numeral that denotes it. -/
theorem writes_toString (v : Int) : Writes (toString v).toList v := by
  cases v with
  | ofNat n =>
    have hwrites := Writes.unsigned (isDigits_toString n)
    rwa [value_toString] at hwrites
  | negSucc n =>
    have hwrites := Writes.minus (isDigits_toString (n + 1))
    rwa [value_toString, ← toList_toString_negSucc] at hwrites

/-! ## Words without a sign -/

theorem natural?_eq_some_iff {ds : List Char} {n : Nat} :
    natural? ds = some n ↔ IsDigits ds ∧ value ds = n := by
  unfold natural? IsDigits
  split
  · rename_i h
    refine iff_of_false (by simp) fun hds => ?_
    simp only [Bool.or_eq_true, List.isEmpty_iff, Bool.not_eq_true', List.all_eq_false] at h
    rcases h with hnil | ⟨c, hc, hdigit⟩
    · exact hds.1.1 hnil
    · exact hdigit (hds.1.2 c hc)
  · rename_i h
    simp only [Bool.or_eq_true, List.isEmpty_iff, Bool.not_eq_true', List.all_eq_false, not_or,
      not_exists, not_and, not_not] at h
    simp only [Option.some.injEq, and_iff_right h]

/-- A word without a sign is read from a numeral without a minus sign whose value it can hold, and
from nothing else. -/
theorem unsigned?_eq_some_iff {bits n : Nat} {s : List Char} :
    unsigned? bits s = some n ↔ Writes s n ∧ s.head? ≠ some '-' ∧ n < 2 ^ bits := by
  have hread : ∀ ds, (do
      let v ← natural? ds
      if v < Nat.pow 2 bits then some v else none) = some n ↔
        IsDigits ds ∧ value ds = n ∧ n < 2 ^ bits := by
    intro ds
    simp only [Option.bind_eq_bind, Option.bind_eq_some_iff, natural?_eq_some_iff,
      Option.ite_none_right_eq_some, Option.some.injEq, Nat.pow_eq]
    constructor
    · rintro ⟨v, ⟨hds, hv⟩, hfits, rfl⟩
      exact ⟨hds, hv, hfits⟩
    · rintro ⟨hds, hv, hfits⟩
      exact ⟨n, ⟨hds, hv⟩, hfits, rfl⟩
  unfold unsigned?
  split
  case h_1 ds =>
    rw [hread]
    constructor
    · rintro ⟨hds, rfl, hfits⟩
      exact ⟨.plus hds, by simp, hfits⟩
    · rintro ⟨hwrites, -, hfits⟩
      have hds : IsDigits ds := by
        cases hwrites with
        | unsigned hds => exact absurd rfl (hds.head_ne (by decide))
        | plus hds => exact hds
      exact ⟨hds, by exact_mod_cast (Writes.plus hds).unique hwrites, hfits⟩
  case h_2 hplus =>
    rw [hread]
    constructor
    · rintro ⟨hds, rfl, hfits⟩
      refine ⟨.unsigned hds, fun hhead => ?_, hfits⟩
      obtain ⟨rest, rfl⟩ := List.head?_eq_some_iff.mp hhead
      exact absurd rfl (hds.head_ne (by decide))
    · rintro ⟨hwrites, hhead, hfits⟩
      have hds : IsDigits s := by
        generalize (n : Int) = v at hwrites
        cases hwrites with
        | unsigned hds => exact hds
        | plus => exact absurd rfl (hplus _)
        | minus => exact absurd rfl hhead
      exact ⟨hds, by exact_mod_cast (Writes.unsigned hds).unique hwrites, hfits⟩

end Codemod.Numeral
