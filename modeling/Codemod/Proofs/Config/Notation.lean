import Codemod.Config.Notation
import Codemod.Proofs.Number.Decimal

set_option autoImplicit false

/-! # Values of variables

What the text of a variable stands for, by how it starts after its blanks (`starts`): a truth value,
a table, a list, a string or a character if that takes up all of it, and else the text itself. What
starts in no such way is a plain word as far as nothing in it ends a word (`value_of_isWord`), and of
the plain words those are numbers that are numerals between blanks and fit into a word of 64 bits,
with a sign or without (`value_of_writes`). -/

namespace Codemod.Config.Notation

variable {s : List Char} {t : String}

/-! ## Blanks -/

theorem isBlank_of_isAsciiBlank {c : Char} (h : Text.isAsciiBlank c = true) :
    Text.isBlank c = true := by
  simp only [Text.isAsciiBlank, Bool.or_eq_true, beq_iff_eq] at h
  rcases h with (((rfl | rfl) | rfl) | rfl) | rfl <;> decide

/-- The blanks that are skipped are those that a trimmed text has lost anyway. -/
theorem trim_skip (s : List Char) : Text.trim (skip s) = Text.trim s := by
  have hdrop : (skip s).dropWhile Text.isBlank = s.dropWhile Text.isBlank := by
    induction s with
    | nil => rfl
    | cons c s ih =>
      unfold skip at ih ⊢
      by_cases hc : Text.isAsciiBlank c = true
      · rw [List.dropWhile_cons_of_pos hc, ih, List.dropWhile_cons_of_pos (isBlank_of_isAsciiBlank hc)]
      · rw [List.dropWhile_cons_of_neg hc]
  rw [Text.trim, Text.trim, hdrop]

/-! ## Plain words -/

theorem isWord64 {v : Int} : Numeral.IsWord 64 v ↔ -2 ^ 63 ≤ v ∧ v < 2 ^ 63 := by
  unfold Numeral.IsWord
  norm_num

/-- A numeral is signs and digits. -/
theorem mem_of_writes {v : Int} (h : Numeral.Writes s v) {c : Char} (hc : c ∈ s) :
    c = '+' ∨ c = '-' ∨ Numeral.isDigit c = true := by
  cases h with
  | unsigned hds => exact .inr (.inr (hds.2 c hc))
  | plus hds => exact (List.mem_cons.mp hc).imp_right fun hc => .inr (hds.2 c hc)
  | minus hds => exact .inr ((List.mem_cons.mp hc).imp_right fun hc => hds.2 c hc)

theorem not_mem_of_writes {v : Int} (h : Numeral.Writes s v) {c : Char} (hplus : c ≠ '+')
    (hminus : c ≠ '-') (hdigit : Numeral.isDigit c = false) : c ∉ s := by
  intro hc
  rcases mem_of_writes h hc with rfl | rfl | hc
  · exact hplus rfl
  · exact hminus rfl
  · rw [hdigit] at hc
    cases hc

theorem nonpos_of_minus {v : Int} (h : Numeral.Writes s v) (hhead : s.head? = some '-') :
    v ≤ 0 := by
  cases h with
  | unsigned hds =>
    obtain ⟨rest, rfl⟩ := List.head?_eq_some_iff.mp hhead
    exact absurd rfl (hds.head_ne (by decide))
  | plus => cases hhead
  | minus => omega

/-- A numeral is a number as far as a word with or without a sign can hold it, and else itself. -/
theorem word_of_writes {v : Int} (h : Numeral.Writes (Text.trim s) v) :
    word s = if -2 ^ 63 ≤ v ∧ v < 2 ^ 64 then .integer v
      else .text (String.ofList (Text.trim s)) := by
  have hpoint : (Text.trim s).contains '.' = false := by
    simpa using not_mem_of_writes h (by decide) (by decide) (by decide)
  unfold word
  generalize Text.trim s = w at h hpoint
  simp only [hpoint, Bool.false_eq_true, if_false]
  cases hunsigned : Numeral.unsigned? 64 w with
  | some n =>
    obtain ⟨hn, -, hfits⟩ := Numeral.unsigned?_eq_some_iff.mp hunsigned
    obtain rfl := hn.unique h
    exact (if_pos ⟨by omega, by exact_mod_cast hfits⟩).symm
  | none =>
    cases hsigned : Numeral.signed? 64 w with
    | some x =>
      obtain ⟨hx, hword⟩ := Numeral.signed?_eq_some_iff.mp hsigned
      obtain rfl := hx.unique h
      obtain ⟨hlow, hhigh⟩ := isWord64.mp hword
      exact (if_pos ⟨hlow, by omega⟩).symm
    | none =>
      refine (if_neg ?_).symm
      rintro ⟨hlow, hhigh⟩
      by_cases hsmall : v < 2 ^ 63
      · rw [Numeral.signed?_eq_some_iff.mpr ⟨h, isWord64.mpr ⟨hlow, hsmall⟩⟩] at hsigned
        cases hsigned
      · obtain ⟨n, rfl⟩ := Int.eq_ofNat_of_zero_le (by omega : 0 ≤ v)
        have hhead : w.head? ≠ some '-' := fun hminus => by
          have := nonpos_of_minus h hminus
          omega
        rw [Numeral.unsigned?_eq_some_iff.mpr ⟨h, hhead, by exact_mod_cast hhigh⟩] at hunsigned
        cases hunsigned

/-- A plain word is a number with a point, a numeral or itself. -/
theorem word_cases (s : List Char) :
    (∃ x, word s = .float x ∧ '.' ∈ Text.trim s) ∨
      (∃ v, word s = .integer v ∧ Numeral.Writes (Text.trim s) v) ∨
        word s = .text (String.ofList (Text.trim s)) := by
  unfold word
  generalize Text.trim s = w
  dsimp only
  split
  case h_1 x hx =>
    have hpoint : w.contains '.' = true := by
      by_contra hnot
      rw [if_neg hnot] at hx
      cases hx
    exact .inl ⟨x, rfl, by simpa using hpoint⟩
  case h_2 =>
    split
    case h_1 n hn => exact .inr (.inl ⟨n, rfl, (Numeral.unsigned?_eq_some_iff.mp hn).1⟩)
    case h_2 =>
      split
      case h_1 v hv => exact .inr (.inl ⟨v, rfl, (Numeral.signed?_eq_some_iff.mp hv).1⟩)
      case h_2 => exact .inr (.inr rfl)

/-! ## Whole variables -/

/-- What is read up to the end is the value, and if something is left over then it is the text. -/
theorem value_of_some {v : Value} {rest : List Char}
    (h : ∀ fuel, value? (fuel + 1) t.toList = some (v, rest)) :
    value t = if rest = [] then v else .text t := by
  unfold value
  rw [h]
  cases rest <;> rfl

theorem value_of_none (h : ∀ fuel, value? (fuel + 1) t.toList = none) : value t = .text t := by
  unfold value
  rw [h]

theorem value_of_bool {b : Bool} {rest : List Char}
    (h : skip t.toList = (toString b).toList ++ rest) :
    value t = if skip rest = [] then .bool b else .text t := by
  refine value_of_some fun fuel => ?_
  rw [value?, h]
  cases b <;> rfl

/-- What is read with some fuel is the value if it takes up the whole text. -/
theorem value_of_map {α : Type} {read : Nat → Option α} {v : α → Value} {rest : α → List Char}
    (h : ∀ fuel, value? (fuel + 1) t.toList = (read fuel).map fun a => (v a, rest a)) :
    value t = .text t ∨ ∃ a, value t = v a := by
  unfold value
  rw [h]
  cases read (2 * t.length + 1) with
  | none => exact .inl rfl
  | some a =>
    rw [Option.map_some]
    split
    · rename_i heq
      cases congrArg Prod.fst (Option.some.inj heq)
      exact .inr ⟨a, rfl⟩
    · exact .inl rfl

theorem value_of_table {rest : List Char} (h : skip t.toList = '\x7b' :: rest) :
    value t = .text t ∨ ∃ ms, value t = .table ms := by
  have hread : ∀ fuel, value? (fuel + 1) t.toList =
      (members? fuel [] rest).map fun p => (.table p.1, skip p.2) := by
    intro fuel
    rw [value?, h]
    -- With its first character known the reader comes down to this one branch.
    change ((members? fuel [] rest).map fun p => (Value.table p.1, p.2)).bind _ = _
    cases members? fuel [] rest <;> rfl
  exact (value_of_map hread).imp_right fun ⟨p, hp⟩ => ⟨p.1, hp⟩

theorem value_of_sequence {rest : List Char} (h : skip t.toList = '[' :: rest) :
    value t = .text t ∨ value t = .sequence := by
  have hread : ∀ fuel, value? (fuel + 1) t.toList =
      (items? fuel rest).map fun r => (.sequence, skip r) := by
    intro fuel
    rw [value?, h]
    change ((items? fuel rest).map fun r => (Value.sequence, r)).bind _ = _
    cases items? fuel rest <;> rfl
  exact (value_of_map hread).imp_right fun ⟨_, hvalue⟩ => hvalue

theorem value_of_string {rest : List Char} (h : skip t.toList = '"' :: rest) :
    value t =
      match string? rest with
      | some (s, after) => if skip after = [] then .text (String.ofList s) else .text t
      | none => .text t := by
  cases hstring : string? rest with
  | none =>
    refine value_of_none fun fuel => ?_
    rw [value?, h]
    change ((string? rest).map fun p => (Value.text (String.ofList p.1), p.2)).bind _ = _
    rw [hstring]
    rfl
  | some p =>
    refine value_of_some fun fuel => ?_
    rw [value?, h]
    change ((string? rest).map fun p => (Value.text (String.ofList p.1), p.2)).bind _ = _
    rw [hstring]
    rfl

theorem value_of_character {c : Char} {rest : List Char}
    (h : skip t.toList = '\'' :: c :: '\'' :: rest) :
    value t = if skip rest = [] then .text (String.singleton c) else .text t := by
  refine value_of_some fun fuel => ?_
  rw [value?, h]
  rfl

theorem value_of_apostrophe {rest : List Char} (h : skip t.toList = '\'' :: rest)
    (hnot : ∀ c after, rest ≠ c :: '\'' :: after) : value t = .text t := by
  refine value_of_none fun fuel => ?_
  rw [value?, h]
  split
  case h_6 heq =>
    cases heq
    split
    · exact absurd rfl (hnot _ _)
    · rfl
  case h_7 hother => exact absurd rfl (hother _)
  all_goals
    rename_i heq
    cases heq

/-- How a plain word starts: not like any other value. -/
structure IsWord (s : List Char) : Prop where
  not_bool (b : Bool) (rest : List Char) : s ≠ (toString b).toList ++ rest
  not_opening : ∀ c ∈ s.head?, c ∉ ['\x7b', '[', '"', '\'']

/-- How a value starts after its blanks. -/
inductive Starts (s : List Char) : Prop where
  | bool (b : Bool) (rest : List Char) (h : s = (toString b).toList ++ rest)
  | opening (c : Char) (rest : List Char) (hc : c ∈ ['\x7b', '[', '"', '\'']) (h : s = c :: rest)
  | word (h : IsWord s)

theorem starts (s : List Char) : Starts s := by
  by_cases hbool : ∃ (b : Bool) (rest : List Char), s = (toString b).toList ++ rest
  · obtain ⟨b, rest, h⟩ := hbool
    exact .bool b rest h
  by_cases hopening : ∃ c ∈ ['\x7b', '[', '"', '\''], s.head? = some c
  · obtain ⟨c, hc, hhead⟩ := hopening
    obtain ⟨rest, h⟩ := List.head?_eq_some_iff.mp hhead
    exact .opening c rest hc h
  · exact .word ⟨fun b rest h => hbool ⟨b, rest, h⟩, fun c hhead hc => hopening ⟨c, hc, hhead⟩⟩

theorem value?_of_isWord (h : IsWord (skip s)) (fuel : Nat) :
    value? (fuel + 1) s = some (word ((skip s).takeWhile (!isSeparator ·)),
      skip ((skip s).dropWhile (!isSeparator ·))) := by
  rw [value?]
  split
  · rename_i heq
    exact absurd heq (h.not_bool true _)
  · rename_i heq
    exact absurd heq (h.not_bool false _)
  · rename_i heq
    exact absurd (by decide) (h.not_opening '\x7b' (by rw [heq]; rfl))
  · rename_i heq
    exact absurd (by decide) (h.not_opening '[' (by rw [heq]; rfl))
  · rename_i heq
    exact absurd (by decide) (h.not_opening '"' (by rw [heq]; rfl))
  · rename_i heq
    exact absurd (by decide) (h.not_opening '\'' (by rw [heq]; rfl))
  · rfl

theorem mem_of_isSeparator {c : Char} (h : isSeparator c = true) :
    c ∈ [',', '\x7b', '\x7d', '[', ']'] := by
  simp only [isSeparator, Bool.or_eq_true, beq_iff_eq] at h
  rcases h with (((rfl | rfl) | rfl) | rfl) | rfl <;> decide

theorem isAsciiBlank_of_isSeparator {c : Char} (h : isSeparator c = true) :
    Text.isAsciiBlank c = false := by
  have hnone : ∀ c ∈ [',', '\x7b', '\x7d', '[', ']'], Text.isAsciiBlank c = false :=
    Text.forall_mem_of_all (by decide)
  exact hnone c (mem_of_isSeparator h)

theorem mem_skip_of_isSeparator {c : Char} (hc : c ∈ s) (h : isSeparator c = true) : c ∈ skip s := by
  rw [← List.takeWhile_append_dropWhile (p := Text.isAsciiBlank) (l := s)] at hc
  refine (List.mem_append.mp hc).resolve_left fun hblank => ?_
  have hc := List.mem_takeWhile_imp hblank
  rw [isAsciiBlank_of_isSeparator h] at hc
  cases hc

/-- What is left over of a text starts with the first character that ends a word. -/
theorem skip_dropWhile_ne_nil (h : ∃ c ∈ s, isSeparator c = true) :
    skip (s.dropWhile (!isSeparator ·)) ≠ [] := by
  have hhead := List.head?_dropWhile_not (!isSeparator ·) s
  cases hrest : s.dropWhile (!isSeparator ·) with
  | nil =>
    obtain ⟨c, hc, hsep⟩ := h
    have hnot := List.dropWhile_eq_nil_iff.mp hrest c hc
    simp [hsep] at hnot
  | cons c rest =>
    have hsep : isSeparator c = true := by simpa [hrest] using hhead
    rw [skip, List.dropWhile_cons_of_neg (by simp [isAsciiBlank_of_isSeparator hsep])]
    exact List.cons_ne_nil c rest

theorem word_skip (s : List Char) : word (skip s) = word s := by
  rw [word, word, trim_skip]

/-- What starts as a plain word is one if nothing in it ends a word. -/
theorem value_of_isWord (h : IsWord (skip t.toList)) :
    value t = if t.toList.any isSeparator then .text t else word t.toList := by
  rw [value_of_some (value?_of_isWord h)]
  by_cases hall : t.toList.any isSeparator = true
  · obtain ⟨c, hc, hsep⟩ := List.any_eq_true.mp hall
    rw [if_pos hall, if_neg (skip_dropWhile_ne_nil ⟨c, mem_skip_of_isSeparator hc hsep, hsep⟩)]
  · have hnone : ∀ c ∈ skip t.toList, (!isSeparator c) = true := by
      intro c hc
      have hmem : c ∈ t.toList := (List.dropWhile_sublist _).subset hc
      simpa using fun hsep => hall (List.any_eq_true.mpr ⟨c, hmem, hsep⟩)
    rw [if_neg hall, List.takeWhile_eq_self_iff.mpr hnone, List.dropWhile_eq_nil_iff.mpr hnone,
      word_skip]
    exact if_pos rfl

/-- A numeral between blanks is a number as far as a word can hold it, and else a text without the
blanks. -/
theorem value_of_writes {v : Int} (h : Numeral.Writes (Text.trim t.toList) v) :
    value t = if -2 ^ 63 ≤ v ∧ v < 2 ^ 64 then .integer v
      else .text (String.ofList (Text.trim t.toList)) := by
  -- Between blanks, signs and digits nothing starts another value or ends a word.
  have hnone : ∀ c ∈ ['t', 'f', '"', '\'', ',', '\x7b', '\x7d', '[', ']'], c ∉ t.toList := by
    intro c hspecial hc
    have hchars : ∀ c ∈ ['t', 'f', '"', '\'', ',', '\x7b', '\x7d', '[', ']'],
        Text.isBlank c = false ∧ c ≠ '+' ∧ c ≠ '-' ∧ Numeral.isDigit c = false :=
      Text.forall_mem_of_all (by decide)
    obtain ⟨hblank, hplus, hminus, hdigit⟩ := hchars c hspecial
    exact not_mem_of_writes h hplus hminus hdigit (Text.mem_trim hc hblank)
  have hhead : ∀ c rest, skip t.toList = c :: rest → c ∈ t.toList := fun c rest hrest =>
    (List.dropWhile_sublist _).subset (hrest ▸ List.mem_cons_self)
  have hword : IsWord (skip t.toList) := by
    refine ⟨fun b rest hrest => ?_, fun c hc hopening => ?_⟩
    · cases b with
      | true => exact hnone 't' (by decide) (hhead 't' _ hrest)
      | false => exact hnone 'f' (by decide) (hhead 'f' _ hrest)
    · obtain ⟨rest, hrest⟩ := List.head?_eq_some_iff.mp hc
      have hspecial : ∀ c ∈ ['\x7b', '[', '"', '\''],
          c ∈ ['t', 'f', '"', '\'', ',', '\x7b', '\x7d', '[', ']'] :=
        Text.forall_mem_of_all (by decide)
      exact hnone c (hspecial c hopening) (hhead c rest hrest)
  have hseparator : ¬ t.toList.any isSeparator = true := by
    rw [List.any_eq_true]
    rintro ⟨c, hc, hsep⟩
    exact hnone c (List.mem_append_right ['t', 'f', '"', '\''] (mem_of_isSeparator hsep)) hc
  rw [value_of_isWord hword, if_neg hseparator, word_of_writes h]

end Codemod.Config.Notation
