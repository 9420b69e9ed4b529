import Codemod.Proofs.Number.Numeral
import Codemod.Setting
import Mathlib.Tactic.NormNum

set_option autoImplicit false

/-! # Counts

Which texts are read as a count, and why the others are refused. A text denotes an integer if it is
a numeral between blanks (`Denotes`), and the answer to any text follows from this and from the two
widths that the integer has to pass (`readCount_iff`). -/

namespace Codemod.Setting

variable {s : String} {v : Int}

/-- A numeral between blanks, with the integer that it denotes. -/
def Denotes (s : String) (v : Int) : Prop :=
  ∃ before body after, s.toList = before ++ body ++ after ∧ Text.IsGap before ∧ Text.IsGap after ∧
    Numeral.Writes body v

theorem Denotes.ne_empty (h : Denotes s v) : s ≠ "" := by
  rintro rfl
  obtain ⟨before, body, after, heq, -, -, hbody⟩ := h
  have hnil : body = [] := by
    simp only [String.toList_empty, List.nil_eq_append_iff, List.append_eq_nil_iff] at heq
    exact heq.1.2
  cases hbody with
  | unsigned hds => exact hds.1 hnil
  | plus hds => cases hnil
  | minus hds => cases hnil

/-- The numeral is what remains when the text is trimmed. -/
theorem denotes_iff : Denotes s v ↔ Numeral.Writes (Text.trim s.toList) v := by
  constructor
  · rintro ⟨before, body, after, heq, hbefore, hafter, hwrites⟩
    rwa [heq, Text.trim_append hbefore hafter hwrites.isTrimmed]
  · intro hwrites
    obtain ⟨before, after, heq, hbefore, hafter⟩ := Text.exists_eq_append_trim s.toList
    exact ⟨before, _, after, heq, hbefore, hafter, hwrites⟩

theorem Denotes.unique {w : Int} (hv : Denotes s v) (hw : Denotes s w) : v = w :=
  (denotes_iff.mp hv).unique (denotes_iff.mp hw)

theorem isWord_numeralBits : Numeral.IsWord numeralBits v ↔ -2 ^ 127 ≤ v ∧ v < 2 ^ 127 := by
  unfold Numeral.IsWord numeralBits
  norm_num

/-- The blanks around a numeral do not matter, and it is read if a word can hold its value. -/
theorem integer?_eq_some_iff : integer? s = some v ↔ Denotes s v ∧ -2 ^ 127 ≤ v ∧ v < 2 ^ 127 := by
  rw [← isWord_numeralBits, integer?, Numeral.signed?_eq_some_iff, denotes_iff]

theorem integer?_eq_none_iff :
    integer? s = none ↔ ¬ ∃ v : Int, Denotes s v ∧ -2 ^ 127 ≤ v ∧ v < 2 ^ 127 := by
  simp only [← integer?_eq_some_iff, Option.eq_none_iff_forall_ne_some, ne_eq, not_exists]

/-! ## The answer to a text -/

/-- What is answered to a text, and when. -/
inductive Answers (s : String) : Except SettingError (Option Nat) → Prop where
  | notGiven (h : s = "") : Answers s (.ok none)
  | count {n : Nat} (hn : Denotes s n) (hpos : 1 ≤ n) (hfits : n < 2 ^ 64) :
    Answers s (.ok (some n))
  | notPositive {v : Int} (hv : Denotes s v) (hlow : -2 ^ 127 ≤ v) (hneg : v ≤ 0) :
    Answers s (.error (.notPositive v))
  | outOfRange {v : Int} (hv : Denotes s v) (hlarge : 2 ^ 64 ≤ v) (hhigh : v < 2 ^ 127) :
    Answers s (.error (.countOutOfRange v))
  | notAnInteger (h : s ≠ "") (hnone : ¬ ∃ v : Int, Denotes s v ∧ -2 ^ 127 ≤ v ∧ v < 2 ^ 127) :
    Answers s (.error (.notAnInteger s))

theorem readCount_of_ne_empty (hs : s ≠ "") :
    readCount s =
      match integer? s with
      | none => .error (.notAnInteger s)
      | some value =>
        if value ≤ 0 then .error (.notPositive value)
        else if value < 2 ^ 64 then .ok (some value.toNat)
        else .error (.countOutOfRange value) := by
  unfold readCount
  rw [if_neg (by simpa using hs)]
  rfl

theorem answers_readCount (s : String) : Answers s (readCount s) := by
  by_cases hs : s = ""
  · subst hs
    exact .notGiven rfl
  · rw [readCount_of_ne_empty hs]
    cases hint : integer? s with
    | none => exact .notAnInteger hs (integer?_eq_none_iff.mp hint)
    | some value =>
      obtain ⟨hdenotes, hlow, hhigh⟩ := integer?_eq_some_iff.mp hint
      by_cases hneg : value ≤ 0
      · simp only [if_pos hneg]
        exact .notPositive hdenotes hlow hneg
      · by_cases hfits : value < 2 ^ 64
        · simp only [if_neg hneg, if_pos hfits]
          obtain ⟨n, rfl⟩ := Int.eq_ofNat_of_zero_le (Int.not_le.mp hneg).le
          exact .count hdenotes (by omega) (by exact_mod_cast hfits)
        · simp only [if_neg hneg, if_neg hfits]
          exact .outOfRange hdenotes (Int.not_lt.mp hfits) hhigh

theorem Answers.readCount_eq {answer : Except SettingError (Option Nat)} (h : Answers s answer) :
    readCount s = answer := by
  cases h with
  | notGiven h =>
    subst h
    rfl
  | @count n hn hpos hfits =>
    have hint : integer? s = some (n : Int) := integer?_eq_some_iff.mpr ⟨hn, by omega, by omega⟩
    simp only [readCount_of_ne_empty hn.ne_empty, hint, Int.toNat_natCast]
    rw [if_neg (by omega), if_pos (by exact_mod_cast hfits)]
  | @notPositive v hv hlow hneg =>
    have hint : integer? s = some v := integer?_eq_some_iff.mpr ⟨hv, hlow, by omega⟩
    simp only [readCount_of_ne_empty hv.ne_empty, hint, if_pos hneg]
  | @outOfRange v hv hlarge hhigh =>
    have hint : integer? s = some v := integer?_eq_some_iff.mpr ⟨hv, by omega, hhigh⟩
    simp only [readCount_of_ne_empty hv.ne_empty, hint]
    rw [if_neg (by omega), if_neg (by omega)]
  | notAnInteger hs hnone =>
    simp only [readCount_of_ne_empty hs, integer?_eq_none_iff.mpr hnone]

theorem readCount_eq_iff {answer : Except SettingError (Option Nat)} :
    readCount s = answer ↔ Answers s answer :=
  ⟨fun h => h ▸ answers_readCount s, Answers.readCount_eq⟩

theorem readCount_eq_some_iff {n : Nat} :
    readCount s = .ok (some n) ↔ Denotes s n ∧ 1 ≤ n ∧ n < 2 ^ 64 := by
  rw [readCount_eq_iff]
  constructor
  · intro h
    cases h with
    | count hn hpos hfits => exact ⟨hn, hpos, hfits⟩
  · rintro ⟨hn, hpos, hfits⟩
    exact .count hn hpos hfits

/-- The empty text means that no count is given. Any other text is read as a count if it denotes a
positive integer of 64 bits. An integer that is too small or too large is refused as such, as long as
it has no more than 128 bits with its sign, and whatever else is given counts as no integer. The
digits of a numeral are taken in one after another, and at no point does the word that holds the
number wrap. -/
theorem readCount_iff (s : String) :
    (readCount s = .ok none ↔ s = "") ∧
      (∀ n : Nat, readCount s = .ok (some n) ↔ Denotes s n ∧ 1 ≤ n ∧ n < 2 ^ 64) ∧
      (∀ v : Int, readCount s = .error (.notPositive v) ↔
        Denotes s v ∧ -2 ^ 127 ≤ v ∧ v ≤ 0) ∧
      (∀ v : Int, readCount s = .error (.countOutOfRange v) ↔
        Denotes s v ∧ 2 ^ 64 ≤ v ∧ v < 2 ^ 127) ∧
      (readCount s = .error (.notAnInteger s) ↔
        s ≠ "" ∧ ¬ ∃ v : Int, Denotes s v ∧ -2 ^ 127 ≤ v ∧ v < 2 ^ 127) ∧
      ∀ negative digits, (∀ c ∈ digits, Numeral.isDigit c = true) →
        digits.foldlM (Numeral.shift? numeralBits negative) 0 =
          if -2 ^ 127 ≤ Numeral.amount negative digits ∧ Numeral.amount negative digits < 2 ^ 127
          then some (Numeral.amount negative digits) else none := by
  simp only [readCount_eq_iff]
  refine ⟨?_, fun n => ?_, fun v => ?_, fun v => ?_, ?_, fun negative digits hdigits => ?_⟩
  · constructor
    · intro h
      cases h with
      | notGiven hs => exact hs
    · exact .notGiven
  · constructor
    · intro h
      cases h with
      | count hn hpos hfits => exact ⟨hn, hpos, hfits⟩
    · rintro ⟨hn, hpos, hfits⟩
      exact .count hn hpos hfits
  · constructor
    · intro h
      cases h with
      | notPositive hv hlow hneg => exact ⟨hv, hlow, hneg⟩
    · rintro ⟨hv, hlow, hneg⟩
      exact .notPositive hv hlow hneg
  · constructor
    · intro h
      cases h with
      | outOfRange hv hlarge hhigh => exact ⟨hv, hlarge, hhigh⟩
    · rintro ⟨hv, hlarge, hhigh⟩
      exact .outOfRange hv hlarge hhigh
  · constructor
    · intro h
      cases h with
      | notAnInteger hs hnone => exact ⟨hs, hnone⟩
    · rintro ⟨hs, hnone⟩
      exact .notAnInteger hs hnone
  · rw [Numeral.foldlM_shift? numeralBits negative hdigits, Numeral.word?]
    simp only [isWord_numeralBits]

example : readCount "\u3000+007 " = .ok (some 7) := by decide +kernel

end Codemod.Setting
