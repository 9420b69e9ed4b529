import Codemod.Json.Parser
import Codemod.Json.Printer
import Mathlib.Data.List.DropRight
import Mathlib.Data.List.Flatten

set_option autoImplicit false

/-! # Tables of strings, written and read

The indented form of an object of strings is read as that object (`parse?_prettyTable`). Strings are
read character by character, whatever has been escaped in them, and then members line by line. -/

namespace Codemod.Json

open Codemod.Json.Parser

/-! ## Strings -/

theorem hexDigit?_hexDigit : ∀ n < 16, Numeral.hexDigit? (Numeral.hexDigit n) = some n := by decide

/-- A letter after a backslash. -/
theorem stringBody_escape {c x : Char} (hx : escape? x = some c) (hu : x ≠ 'u') (fuel : Nat)
    (rest : List Char) :
    stringBody (fuel + 1) ('\\' :: x :: rest) =
      (stringBody fuel rest).map fun p => (c :: p.1, p.2) := by
  rw [stringBody.eq_def]
  split
  · rename_i h; cases h
  · rename_i h; cases h
  · rename_i h; cases h
  · rename_i h h'; cases h'; exact absurd rfl hu
  · rename_i h h'
    cases h; cases h'
    rw [hx]
    rcases stringBody fuel rest with _ | ⟨s, r⟩
    · rfl
    · rfl
  · rename_i hnot hfuel hc
    cases hfuel; cases hc
    exact absurd rfl (hnot x rest rfl)

/-- A character that stands for itself. -/
theorem stringBody_plain {c : Char} (hc : 0x20 ≤ c.toNat) (hq : c ≠ '"') (hb : c ≠ '\\') (fuel : Nat)
    (rest : List Char) :
    stringBody (fuel + 1) (c :: rest) =
      (stringBody fuel rest).map fun p => (c :: p.1, p.2) := by
  rw [stringBody.eq_def]
  split
  · rename_i h; cases h
  · rename_i h; cases h
  · rename_i h; cases h; exact absurd rfl hq
  · rename_i h h'; cases h'; exact absurd rfl hb
  · rename_i h h'; cases h'; exact absurd rfl hb
  · rename_i h h'
    cases h; cases h'
    rw [if_neg (by simp [hb]; omega)]
    rcases stringBody fuel rest with _ | ⟨s, r⟩
    · rfl
    · rfl

/-- A control character as its number. -/
theorem stringBody_unit {c : Char} (hc : c.toNat < 0x20) (fuel : Nat) (rest : List Char) :
    stringBody (fuel + 1) ('\\' :: 'u' :: '0' :: '0' :: Numeral.hexDigit (c.toNat / 16) ::
        Numeral.hexDigit (c.toNat % 16) :: rest) =
      (stringBody fuel rest).map fun p => (c :: p.1, p.2) := by
  have hhex : Numeral.hex? ['0', '0', Numeral.hexDigit (c.toNat / 16),
      Numeral.hexDigit (c.toNat % 16)] = some c.toNat := by
    have h₁ := hexDigit?_hexDigit (c.toNat / 16) (by omega)
    have h₂ := hexDigit?_hexDigit (c.toNat % 16) (by omega)
    have h₀ : Numeral.hexDigit? '0' = some 0 := by decide
    simp [Numeral.hex?, h₀, h₁, h₂]
    omega
  have hunit : unitEscape? c.toNat rest = some (c, rest) := by
    rw [unitEscape?.eq_def, if_pos (.inl (by omega)), Char.ofNat_toNat]
  rw [stringBody]
  simp only [hhex, hunit, Option.bind_eq_bind, Option.bind_some]
  rcases stringBody fuel rest with _ | ⟨s, r⟩
  · rfl
  · rfl

/-- What is read of an escaped character is the character. -/
theorem stringBody_escapeChar (fuel : Nat) (c : Char) (rest : List Char) :
    stringBody (fuel + 1) (escapeChar c ++ rest) =
      (stringBody fuel rest).map fun p => (c :: p.1, p.2) := by
  unfold escapeChar
  split
  case h_8 hquote hslash _ _ _ _ _ =>
    dsimp only
    split
    · rename_i h
      exact stringBody_unit h fuel rest
    · rename_i h
      exact stringBody_plain (Nat.not_lt.1 h) hquote hslash fuel rest
  all_goals exact stringBody_escape rfl (by decide) fuel rest

/-- Escaped characters are read up to the quote after them. -/
theorem stringBody_flatMap (s : List Char) (rest : List Char) {fuel : Nat}
    (hfuel : s.length < fuel) :
    stringBody fuel (s.flatMap escapeChar ++ '"' :: rest) = some (s, rest) := by
  induction s generalizing fuel with
  | nil =>
    obtain ⟨fuel, rfl⟩ := Nat.exists_eq_add_of_lt hfuel
    rfl
  | cons c s ih =>
    rw [List.length_cons] at hfuel
    obtain ⟨fuel, rfl⟩ : ∃ n, fuel = n + 1 := ⟨fuel - 1, by omega⟩
    rw [List.flatMap_cons, List.append_assoc, stringBody_escapeChar, ih (by omega)]
    rfl

theorem length_le_flatMap_escapeChar (s : List Char) :
    s.length ≤ (s.flatMap escapeChar).length := by
  induction s with
  | nil => exact Nat.le_refl 0
  | cons c s ih =>
    have hpos : 0 < (escapeChar c).length := by
      unfold escapeChar
      split
      case h_8 =>
        dsimp only
        split
        · exact Nat.succ_pos _
        · exact Nat.succ_pos _
      all_goals exact Nat.succ_pos _
    rw [List.flatMap_cons, List.length_append, List.length_cons]
    omega

/-- With all of the text as fuel a string is read up to its quote. -/
theorem stringBody_length (s : List Char) (rest : List Char) :
    stringBody ((s.flatMap escapeChar ++ '"' :: rest).length + 1)
      (s.flatMap escapeChar ++ '"' :: rest) = some (s, rest) := by
  refine stringBody_flatMap s rest ?_
  have h := length_le_flatMap_escapeChar s
  rw [List.length_append]
  omega

/-! ## Members -/

theorem skip_of_isBlank {c : Char} (h : isBlank c = true) (s : List Char) :
    skip (c :: s) = skip s :=
  List.dropWhile_cons_of_pos h

theorem skip_of_not_isBlank {c : Char} (h : isBlank c = false) (s : List Char) :
    skip (c :: s) = c :: s :=
  List.dropWhile_cons_of_neg (by simp [h])

/-- A string with other text after it starts with a quote. -/
theorem stringText_append (s : String) (rest : List Char) :
    stringText s ++ rest = '"' :: (s.toList.flatMap escapeChar ++ '"' :: rest) := by
  rw [stringText, List.cons_append, List.cons_append, List.append_assoc]
  rfl

/-- A string after a blank. -/
theorem value?_stringText (fuel : Nat) (s : String) (rest : List Char) :
    value? (fuel + 1) (' ' :: (stringText s ++ rest)) = some (.string s, rest) := by
  have hskip : skip (' ' :: (stringText s ++ rest)) =
      '"' :: (s.toList.flatMap escapeChar ++ '"' :: rest) := by
    rw [skip_of_isBlank (by decide), stringText_append, skip_of_not_isBlank (by decide)]
  rw [value?]
  simp only [hskip, stringBody_length, Option.map_some, String.ofList_toList]

/-- The line of a member of a table. -/
def tableLine (m : String × String) : List Char :=
  "\n  ".toList ++ stringText m.1 ++ ": ".toList ++ stringText m.2

/-- The lines of a table with commas between them. -/
def tableLines (members : List (String × String)) : List Char :=
  ((members.map tableLine).intersperse [',']).flatten

theorem tableLines_cons (m : String × String) {members : List (String × String)}
    (hne : members ≠ []) :
    tableLines (m :: members) = tableLine m ++ ',' :: tableLines members := by
  obtain ⟨m', members, rfl⟩ := List.exists_cons_of_ne_nil hne
  rfl

/-- A line starts with the name of its member, after blanks. -/
theorem skip_tableLine (m : String × String) (rest : List Char) :
    skip (tableLine m ++ rest) =
      '"' :: (m.1.toList.flatMap escapeChar ++ '"' :: ':' :: ' ' :: (stringText m.2 ++ rest)) := by
  have hline : tableLine m ++ rest =
      '\n' :: ' ' :: ' ' :: (stringText m.1 ++ ':' :: ' ' :: (stringText m.2 ++ rest)) := by
    simp [tableLine]
  rw [hline, skip_of_isBlank (by decide), skip_of_isBlank (by decide),
    skip_of_isBlank (by decide), stringText_append, skip_of_not_isBlank (by decide)]

/-- A line is read up to its end. -/
theorem members?_tableLine (fuel : Nat) (m : String × String) (rest : List Char) :
    members? (fuel + 2) (tableLine m ++ rest) =
      match skip rest with
      | ',' :: rest =>
        (members? (fuel + 1) rest).map fun (ms, r) => ((m.1, Json.string m.2) :: ms, r)
      | '\x7d' :: rest => some ([(m.1, .string m.2)], rest)
      | _ => none := by
  have hcolon : skip (':' :: ' ' :: (stringText m.2 ++ rest)) =
      ':' :: ' ' :: (stringText m.2 ++ rest) := skip_of_not_isBlank (by decide) _
  rw [members?, skip_tableLine]
  simp only [stringBody_length, hcolon, value?_stringText, Option.bind_eq_bind,
    Option.bind_some, String.ofList_toList] <;> rfl

/-- All lines are read up to the closing brace. -/
theorem members?_tableLines {members : List (String × String)} (hne : members ≠ []) {fuel : Nat}
    (hfuel : members.length < fuel) (rest : List Char) :
    members? fuel (tableLines members ++ '\n' :: '\x7d' :: rest) =
      some (members.map fun m => (m.1, .string m.2), rest) := by
  induction members generalizing fuel with
  | nil => exact absurd rfl hne
  | cons m members ih =>
    rw [List.length_cons] at hfuel
    obtain ⟨fuel, rfl⟩ : ∃ n, fuel = n + 2 := ⟨fuel - 2, by omega⟩
    by_cases hlast : members = []
    · subst hlast
      have hlines : tableLines [m] = tableLine m := by simp [tableLines]
      rw [hlines, members?_tableLine, skip_of_isBlank (by decide), skip_of_not_isBlank (by decide)]
      rfl
    · rw [tableLines_cons m hlast, List.append_assoc, members?_tableLine, List.cons_append,
        skip_of_not_isBlank (by decide)]
      simp only [ih hlast (by omega : members.length < fuel + 1)]
      rfl

theorem length_le_tableLines (members : List (String × String)) :
    members.length ≤ (tableLines members).length := by
  induction members with
  | nil => exact Nat.le_refl 0
  | cons m members ih =>
    by_cases hlast : members = []
    · subst hlast
      simp [tableLines, tableLine]
    · rw [tableLines_cons m hlast, List.length_append, List.length_cons, List.length_cons]
      omega

/-- Blanks before a member do not matter. -/
theorem members?_skip (fuel : Nat) (s : List Char) : members? fuel (skip s) = members? fuel s := by
  cases fuel with
  | zero => rfl
  | succ fuel =>
    have hskip : skip (skip s) = skip s := List.dropWhile_idempotent ..
    rw [members?, members?, hskip]

/-- A brace with members after it. -/
theorem value?_members (fuel : Nat) {s r : List Char} (h : skip s = '"' :: r) :
    value? (fuel + 1) ('\x7b' :: s) = (members? fuel s).map fun (ms, r) => (.object ms, r) := by
  rw [value?, skip_of_not_isBlank (by decide), ← members?_skip fuel s]
  simp only [h]
  rfl

theorem prettyTable_eq {members : List (String × String)} (hne : members ≠ []) :
    prettyTable members = '\x7b' :: (tableLines members ++ ['\n', '\x7d']) := by
  rw [prettyTable, if_neg (by simpa using hne)]
  rfl

/-- The lines of a table start with a name, after blanks. -/
theorem skip_tableLines {members : List (String × String)} (hne : members ≠ [])
    (rest : List Char) : ∃ r, skip (tableLines members ++ rest) = '"' :: r := by
  obtain ⟨m, more, rfl⟩ := List.exists_cons_of_ne_nil hne
  by_cases hlast : more = []
  · subst hlast
    have hlines : tableLines [m] = tableLine m := by simp [tableLines]
    exact ⟨_, hlines ▸ skip_tableLine m rest⟩
  · exact ⟨_, by rw [tableLines_cons m hlast, List.append_assoc, skip_tableLine]⟩

/-- The text of a table of strings is read as an object with the same members. -/
theorem parse?_prettyTable (members : List (String × String)) :
    parse? (prettyTable members) =
      some (.object (members.map fun m => (m.1, .string m.2))) := by
  by_cases hne : members = []
  · subst hne
    rfl
  · have hlong := length_le_tableLines members
    obtain ⟨r, hr⟩ := skip_tableLines hne ['\n', '\x7d']
    rw [parse?, prettyTable_eq hne, value?_members _ hr, members?_tableLines hne ?fuel []]
    case fuel =>
      simp
      omega
    rfl

end Codemod.Json
