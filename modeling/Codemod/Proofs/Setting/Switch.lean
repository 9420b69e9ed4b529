import Codemod.Proofs.Number.Decimal
import Codemod.Setting

set_option autoImplicit false

/-! # Switches

A switch is one of ten words in any case, and two of them are numerals. So a text of a switch has no
character but those of the words (`exists_word_of_readSwitch`), and of the decimal forms of integers
it is those of zero and one (`readSwitch_toString`). -/

namespace Codemod.Setting

variable {s : String} {state : Bool}

/-- The words for a state. -/
def switchWords (state : Bool) : List String := if state then onWords else offWords

theorem readSwitch_eq_ok_iff : readSwitch s = .ok state ↔ Text.lowerAscii s ∈ switchWords state := by
  have hdisjoint : ∀ word ∈ onWords, word ∉ offWords := by decide
  unfold readSwitch
  dsimp only
  by_cases hon : Text.lowerAscii s ∈ onWords
  · have hoff := hdisjoint _ hon
    cases state <;> simp [switchWords, hon, hoff]
  · by_cases hoff : Text.lowerAscii s ∈ offWords
    · cases state <;> simp [switchWords, hon, hoff]
    · cases state <;> simp [switchWords, hon, hoff]

theorem exists_word_of_readSwitch (h : readSwitch s = .ok state) {c : Char} (hc : c ∈ s.toList) :
    ∃ word ∈ onWords ++ offWords, c.toLower ∈ word.toList := by
  refine ⟨Text.lowerAscii s, ?_, ?_⟩
  · have hword := readSwitch_eq_ok_iff.mp h
    cases state with
    | true => exact List.mem_append_left _ hword
    | false => exact List.mem_append_right _ hword
  · rw [Text.lowerAscii, String.toList_ofList]
    exact List.mem_map_of_mem hc

/-- Digits stand for themselves in a word that has them. -/
theorem eq_of_readSwitch (h : readSwitch s = .ok state) {c : Char} (hc : c ∈ s.toList)
    (hdigit : Numeral.isDigit c = true) : s = if state then "1" else "0" := by
  have hwords : ∀ word ∈ switchWords state, word.toList.any Numeral.isDigit = true →
      word = if state then "1" else "0" := by
    cases state <;> decide +kernel
  have hlower : (Text.lowerAscii s).toList = s.toList.map Char.toLower := String.toList_ofList
  have hmem : c ∈ (Text.lowerAscii s).toList := by
    rw [hlower]
    exact List.mem_map.mpr ⟨c, hc, Numeral.toLower_of_isDigit hdigit⟩
  have hword := hwords _ (readSwitch_eq_ok_iff.mp h) (List.any_eq_true.mpr ⟨c, hmem, hdigit⟩)
  -- The word is one character long, so it is the digit.
  have hsingle : ∃ d, (Text.lowerAscii s).toList = [d] := by
    rw [hword]
    cases state <;> exact ⟨_, rfl⟩
  obtain ⟨d, hd⟩ := hsingle
  rw [hlower] at hd
  obtain ⟨c', hs, hlow⟩ := List.map_eq_singleton_iff.mp hd
  rw [hs, List.mem_singleton] at hc
  subst hc
  rw [Numeral.toLower_of_isDigit hdigit] at hlow
  subst hlow
  rw [← hword, ← String.toList_inj, hlower, hs, List.map_singleton, Numeral.toLower_of_isDigit hdigit]

/-- A numeral that is a word for a state denotes zero or one. -/
theorem eq_of_readSwitch_of_writes {n : Int} (h : readSwitch s = .ok state)
    (hwrites : Numeral.Writes s.toList n) : n = if state then 1 else 0 := by
  obtain ⟨c, hc, hdigit⟩ := hwrites.exists_isDigit
  rw [eq_of_readSwitch h hc hdigit] at hwrites
  cases state with
  | true => exact hwrites.unique (Numeral.writes_toString 1)
  | false => exact hwrites.unique (Numeral.writes_toString 0)

/-- Of the integers, zero and one are states. -/
theorem readSwitch_toString (n : Int) : (readSwitch (toString n)).toOption =
    if n = 0 then some false else if n = 1 then some true else none := by
  by_cases hzero : n = 0
  · subst hzero
    decide +kernel
  by_cases hone : n = 1
  · subst hone
    decide +kernel
  rw [if_neg hzero, if_neg hone]
  cases hread : readSwitch (toString n) with
  | error => rfl
  | ok state =>
    have heq := eq_of_readSwitch_of_writes hread (Numeral.writes_toString n)
    cases state with
    | true => exact absurd heq hone
    | false => exact absurd heq hzero

end Codemod.Setting
