import Codemod.Indentation.Scanner

set_option autoImplicit false

/-! # Scanning a line by its places

A scanner takes a line from the left, one to three characters at a time: a backslash in a literal
takes what it escapes along, and three quotes are one delimiter. The same is written down here for
a line with numbered places (`turn?`, `scanFrom?`): every look at a place of the line, and at the
part of the line from a place on, is one that fails where the line has no such place. None of them
ever fails, whatever a line ends with, and both ways of scanning agree (`scanFrom?_eq`). -/

namespace Codemod.Indentation.Scanner

variable {s : Scanner} {lit : Literal}

/-! ## What the scanner does next -/

/-- The number of characters that a backslash escapes: a carriage return and a line feed are
escaped together. -/
def escapedLength (rest : List Char) : Nat :=
  if ['\r', '\n'].isPrefixOf rest then 2 else 1

/-- Whether so many quotes come next. -/
def startsWithQuotes (n : Nat) (quote : Char) (chars : List Char) : Bool :=
  (List.replicate n quote).isPrefixOf chars

theorem startsWithQuotes_zero (quote : Char) (chars : List Char) :
    startsWithQuotes 0 quote chars = true := by
  cases chars <;> rfl

theorem startsWithQuotes_succ_cons (n : Nat) (quote c : Char) (chars : List Char) :
    startsWithQuotes (n + 1) quote (c :: chars) =
      (quote == c && startsWithQuotes n quote chars) := by
  rw [startsWithQuotes, List.replicate_succ, List.isPrefixOf_cons_cons, startsWithQuotes]

theorem startsWithQuotes_succ_nil (n : Nat) (quote : Char) :
    startsWithQuotes (n + 1) quote [] = false := rfl

theorem scanChars_nil (s : Scanner) : scanChars s [] = s := by
  rw [scanChars]

/-- One character inside of a literal. -/
theorem scanChars_inside (h : s.literal = some lit) (c : Char) (rest : List Char) :
    scanChars s (c :: rest) =
      if c = '\\' then scanChars s (rest.drop (escapedLength rest))
      else if lit.triple then
        if startsWithQuotes 3 lit.quote (c :: rest) then
          scanChars { s with literal := none } (rest.drop 2)
        else scanChars s rest
      else if c = lit.quote ∨ Text.isLineEnd c then scanChars { s with literal := none } rest
      else scanChars s rest := by
  rw [scanChars.eq_def]
  simp only [h]
  split
  · -- a backslash
    split
    · rfl
    · rename_i c₂ rest' hpair
      have hsingle : escapedLength (c₂ :: rest') = 1 := by
        rw [escapedLength, if_neg]
        intro hprefix
        obtain ⟨rest, heq⟩ := List.isPrefixOf_iff_prefix.mp hprefix
        cases heq
        exact hpair rest rfl rfl
      rw [hsingle, List.drop_succ_cons, List.drop_zero]
    · rw [List.drop_nil, scanChars_nil]
  · split
    · -- three quotes are looked for, so the line has to go on for two more characters
      split
      · rename_i c₂ c₃ rest'
        simp only [startsWithQuotes_succ_cons, startsWithQuotes_zero, Bool.and_true,
          Bool.and_eq_true, beq_iff_eq, List.drop_succ_cons, List.drop_zero]
        by_cases hthree : c = lit.quote ∧ c₂ = lit.quote ∧ c₃ = lit.quote
        · obtain ⟨h₁, h₂, h₃⟩ := hthree
          rw [if_pos ⟨h₁, h₂, h₃⟩, if_pos ⟨h₁.symm, h₂.symm, h₃.symm⟩]
        · rw [if_neg hthree, if_neg]
          rintro ⟨h₁, h₂, h₃⟩
          exact hthree ⟨h₁.symm, h₂.symm, h₃.symm⟩
      · rename_i hshort
        have hnot : startsWithQuotes 3 lit.quote (c :: rest) = false := by
          rcases rest with _ | ⟨c₂, _ | ⟨c₃, rest'⟩⟩
          · simp only [startsWithQuotes_succ_cons, startsWithQuotes_succ_nil, Bool.and_false]
          · simp only [startsWithQuotes_succ_cons, startsWithQuotes_succ_nil, Bool.and_false]
          · exact absurd rfl (hshort c₂ c₃ rest')
        simp only [hnot, Bool.false_eq_true, if_false]
    · rfl

/-- One character outside of literals. -/
theorem scanChars_outside (h : s.literal = none) (c : Char) (rest : List Char) :
    scanChars s (c :: rest) =
      if c = '#' then s
      else if c = '\'' ∨ c = '"' then
        if startsWithQuotes 2 c rest then
          scanChars { s with literal := some ⟨c, true⟩ } (rest.drop 2)
        else scanChars { s with literal := some ⟨c, false⟩ } rest
      else if isOpening c then scanChars { s with depth := s.depth + 1 } rest
      else if isClosing c then scanChars { s with depth := s.depth - 1 } rest
      else if c = '\\' then scanChars { s with continued := rest.all Text.isLineEnd } rest
      else scanChars s rest := by
  rw [scanChars.eq_def]
  simp only [h]
  split
  · rfl
  · split
    · split
      · rename_i c₂ c₃ rest'
        simp only [startsWithQuotes_succ_cons, startsWithQuotes_zero, Bool.and_true,
          Bool.and_eq_true, beq_iff_eq, List.drop_succ_cons, List.drop_zero]
        by_cases hthree : c₂ = c ∧ c₃ = c
        · obtain ⟨h₂, h₃⟩ := hthree
          rw [if_pos ⟨h₂, h₃⟩, if_pos ⟨h₂.symm, h₃.symm⟩]
        · rw [if_neg hthree, if_neg]
          rintro ⟨h₂, h₃⟩
          exact hthree ⟨h₂.symm, h₃.symm⟩
      · rename_i hshort
        have hnot : startsWithQuotes 2 c rest = false := by
          rcases rest with _ | ⟨c₂, _ | ⟨c₃, rest'⟩⟩
          · rfl
          · simp only [startsWithQuotes_succ_cons, startsWithQuotes_succ_nil, Bool.and_false]
          · exact absurd rfl (hshort c₂ c₃ rest')
        simp only [hnot, Bool.false_eq_true, if_false]
    · rfl

/-! ## Scanning by places -/

/-- The part of a line from a place on. The place after the last character is the last one that a
part can begin at. -/
def part? (chars : List Char) (i : Nat) : Option (List Char) :=
  if i ≤ chars.length then some (chars.drop i) else none

/-- One turn inside of a literal, at a place of a line with the character `c`: what the scanner
comes to, and the place that it goes on at. -/
def turnInside? (chars : List Char) (s : Scanner) (lit : Literal) (i : Nat) (c : Char) :
    Option (Scanner × Nat) := do
  if c = '\\' then
    let rest ← part? chars (i + 1)
    return (s, i + 1 + escapedLength rest)
  else if Text.isLineEnd c ∧ !lit.triple then return ({ s with literal := none }, i + 1)
  else if c = lit.quote ∧ !lit.triple then return ({ s with literal := none }, i + 1)
  else if c = lit.quote ∧ startsWithQuotes 3 lit.quote (chars.drop i) then
    return ({ s with literal := none }, i + 3)
  else return (s, i + 1)

/-- One turn outside of literals. A comment takes the scanner to the end of the line. -/
def turnOutside? (chars : List Char) (s : Scanner) (i : Nat) (c : Char) :
    Option (Scanner × Nat) := do
  if c = '#' then return (s, chars.length)
  else if c = '\'' ∨ c = '"' then
    if startsWithQuotes 3 c (chars.drop i) then
      return ({ s with literal := some ⟨c, true⟩ }, i + 3)
    else return ({ s with literal := some ⟨c, false⟩ }, i + 1)
  else if isOpening c then return ({ s with depth := s.depth + 1 }, i + 1)
  else if isClosing c then return ({ s with depth := s.depth - 1 }, i + 1)
  else if c = '\\' then
    let rest ← part? chars (i + 1)
    return ({ s with continued := rest.all Text.isLineEnd }, i + 1)
  else return (s, i + 1)

/-- One turn at a place of a line. There is nothing to come to if the turn asks for a place or a
part that the line does not have. -/
def turn? (chars : List Char) (s : Scanner) (i : Nat) : Option (Scanner × Nat) := do
  let c ← chars[i]?
  match s.literal with
  | some lit => turnInside? chars s lit i c
  | none => turnOutside? chars s i c

/-- Take turns from a place on until the line has no such place. There is no outcome if a turn
fails or does not get on. -/
def scanFrom? (chars : List Char) (s : Scanner) (i : Nat) : Option Scanner :=
  if i < chars.length then
    match turn? chars s i with
    | some (s', next) => if i < next then scanFrom? chars s' next else none
    | none => none
  else some s
termination_by chars.length - i

/-- Scan a line by its places. -/
def scanPlaces? (s : Scanner) (chars : List Char) : Option Scanner :=
  scanFrom? chars { s with continued := false } 0

section Turn

variable {chars rest : List Char} {i : Nat} {c : Char}

theorem drop_succ_of_drop (h : chars.drop i = c :: rest) : chars.drop (i + 1) = rest := by
  rw [← List.tail_drop, h, List.tail_cons]

theorem drop_add_three_of_drop (h : chars.drop i = c :: rest) :
    chars.drop (i + 3) = rest.drop 2 := by
  rw [← drop_succ_of_drop h, List.drop_drop]

theorem lt_length_of_drop (h : chars.drop i = c :: rest) : i < chars.length := by
  refine Nat.lt_of_not_le fun hend => ?_
  rw [List.drop_eq_nil_of_le hend] at h
  cases h

/-- After a character of the line a part begins, be it the last character. -/
theorem part?_of_drop (h : chars.drop i = c :: rest) : part? chars (i + 1) = some rest := by
  rw [part?, if_pos (Nat.succ_le_of_lt (lt_length_of_drop h)), drop_succ_of_drop h]

theorem exists_turnInside? (hs : s.literal = some lit) (hdrop : chars.drop i = c :: rest) :
    ∃ s' next, turnInside? chars s lit i c = some (s', next) ∧ i < next ∧
      scanChars s (c :: rest) = scanChars s' (chars.drop next) := by
  have hnext := drop_succ_of_drop hdrop
  rw [scanChars_inside hs, turnInside?, part?_of_drop hdrop, hdrop]
  by_cases hbackslash : c = '\\'
  · refine ⟨s, i + 1 + escapedLength rest, if_pos hbackslash, by omega, ?_⟩
    rw [if_pos hbackslash, ← List.drop_drop, hnext]
  rw [if_neg hbackslash, if_neg hbackslash]
  cases htriple : lit.triple with
  | true =>
    simp only [Bool.not_true, Bool.false_eq_true, and_false, if_false, if_true]
    by_cases hquotes : startsWithQuotes 3 lit.quote (c :: rest) = true
    · have hquote : c = lit.quote := by
        rw [startsWithQuotes_succ_cons, Bool.and_eq_true, beq_iff_eq] at hquotes
        exact hquotes.1.symm
      refine ⟨_, _, if_pos ⟨hquote, hquotes⟩, by omega, ?_⟩
      rw [if_pos hquotes, drop_add_three_of_drop hdrop]
    · refine ⟨_, _, if_neg fun h => hquotes h.2, by omega, ?_⟩
      rw [if_neg hquotes, hnext]
  | false =>
    simp only [Bool.not_false, and_true, if_false, Bool.false_eq_true]
    by_cases hend : Text.isLineEnd c = true
    · refine ⟨_, _, if_pos hend, by omega, ?_⟩
      rw [if_pos (.inr hend), hnext]
    by_cases hquote : c = lit.quote
    · refine ⟨_, _, (if_neg hend).trans (if_pos hquote), by omega, ?_⟩
      rw [if_pos (.inl hquote), hnext]
    · refine ⟨s, i + 1, by simp [hend, hquote], by omega, ?_⟩
      rw [if_neg (by simp [hend, hquote]), hnext]

theorem exists_turnOutside? (hs : s.literal = none) (hdrop : chars.drop i = c :: rest) :
    ∃ s' next, turnOutside? chars s i c = some (s', next) ∧ i < next ∧
      scanChars s (c :: rest) = scanChars s' (chars.drop next) := by
  have hnext := drop_succ_of_drop hdrop
  rw [scanChars_outside hs, turnOutside?, part?_of_drop hdrop, hdrop]
  by_cases hcomment : c = '#'
  · refine ⟨_, _, if_pos hcomment, lt_length_of_drop hdrop, ?_⟩
    rw [if_pos hcomment, List.drop_length, scanChars_nil]
  rw [if_neg hcomment, if_neg hcomment]
  by_cases hquote : c = '\'' ∨ c = '"'
  · rw [if_pos hquote, if_pos hquote, startsWithQuotes_succ_cons, BEq.rfl, Bool.true_and]
    by_cases htriple : startsWithQuotes 2 c rest = true
    · refine ⟨_, _, if_pos htriple, by omega, ?_⟩
      rw [if_pos htriple, drop_add_three_of_drop hdrop]
    · refine ⟨_, _, if_neg htriple, by omega, ?_⟩
      rw [if_neg htriple, hnext]
  rw [if_neg hquote, if_neg hquote]
  by_cases hopening : isOpening c = true
  · refine ⟨_, _, if_pos hopening, by omega, ?_⟩
    rw [if_pos hopening, hnext]
  rw [if_neg hopening, if_neg hopening]
  by_cases hclosing : isClosing c = true
  · refine ⟨_, _, if_pos hclosing, by omega, ?_⟩
    rw [if_pos hclosing, hnext]
  rw [if_neg hclosing, if_neg hclosing]
  by_cases hbackslash : c = '\\'
  · refine ⟨_, _, if_pos hbackslash, by omega, ?_⟩
    rw [if_pos hbackslash, hnext]
  · refine ⟨_, _, if_neg hbackslash, by omega, ?_⟩
    rw [if_neg hbackslash, hnext]

/-- A turn at a place of the line comes to a later place, from which on the scan ends as it does
from the first one on. -/
theorem exists_turn? (s : Scanner) (hi : i < chars.length) :
    ∃ s' next, turn? chars s i = some (s', next) ∧ i < next ∧
      scanChars s (chars.drop i) = scanChars s' (chars.drop next) := by
  have hdrop : chars.drop i = chars[i] :: chars.drop (i + 1) := List.drop_eq_getElem_cons hi
  rw [turn?, List.getElem?_eq_getElem hi, hdrop]
  cases hs : s.literal with
  | some lit => exact exists_turnInside? hs hdrop
  | none => exact exists_turnOutside? hs hdrop

end Turn

/-- The scan by places ends, and as the scan of what is left of the line does. -/
theorem scanFrom?_eq (chars : List Char) (s : Scanner) (i : Nat) :
    scanFrom? chars s i = some (scanChars s (chars.drop i)) := by
  fun_induction scanFrom? chars s i with
  | case1 s i hi s' next hturn hnext ih =>
    obtain ⟨_, _, heq, _, hscan⟩ := exists_turn? s hi
    rw [hturn] at heq
    cases heq
    rw [ih, hscan]
  | case2 s i hi s' next hturn hstuck =>
    obtain ⟨_, _, heq, hnext, _⟩ := exists_turn? s hi
    rw [hturn] at heq
    cases heq
    exact absurd hnext hstuck
  | case3 s i hi hturn =>
    obtain ⟨_, _, heq, _⟩ := exists_turn? s hi
    rw [hturn] at heq
    cases heq
  | case4 s i hi =>
    rw [List.drop_eq_nil_of_le (Nat.le_of_not_lt hi), scanChars_nil]

theorem scanPlaces?_eq (s : Scanner) (chars : List Char) :
    s.scanPlaces? chars = some (s.scan chars) :=
  scanFrom?_eq chars _ 0

end Codemod.Indentation.Scanner
