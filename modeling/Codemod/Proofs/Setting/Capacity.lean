import Codemod.Proofs.Setting.Indentation

set_option autoImplicit false

/-! # Indentations that are written down

No text is larger than `Indentation.maxTextSize` bytes, but a number of spaces is only held against
the bound of a count, which is about twice that. So there are settings that neither give an
indentation nor are refused: a number between the two bounds ends in a panic
(`indentationText_of_denotes`), and nothing else does (`indentationText_panics`). -/

namespace Codemod.Indentation

/-- Each space is one byte. -/
theorem utf8ByteSize_text_spaces (n : Nat) : (Indentation.spaces n).text.utf8ByteSize = n := by
  have hspace : Char.utf8Size ' ' = 1 := by decide
  induction n with
  | zero => rfl
  | succ n ih =>
    have hcons : (Indentation.spaces (n + 1)).text =
        String.singleton ' ' ++ (Indentation.spaces n).text := String.ofList_cons
    rw [hcons, String.utf8ByteSize_append, String.utf8ByteSize_singleton, hspace, ih, Nat.add_comm]

/-- What can be written down is what fits into a text. -/
theorem representable_iff {r : Indentation} :
    r.Representable ↔ r.text.utf8ByteSize ≤ maxTextSize := by
  cases r with
  | spaces n =>
    rw [utf8ByteSize_text_spaces]
    rfl
  | tab => exact iff_of_true trivial (by decide +kernel)

end Codemod.Indentation

namespace Codemod.Setting

variable {s : String} {n : Nat}

/-! ## Numbers of spaces -/

/-- A numeral has a digit in it, so it gives an indentation in no other way. -/
theorem Denotes.needsNumber {v : Int} (h : Denotes s v) : NeedsNumber s := by
  obtain ⟨before, body, after, heq, -, -, hwrites⟩ := h
  obtain ⟨c, hc, hdigit⟩ := hwrites.exists_isDigit
  have hmem : c ∈ s.toList := by
    rw [heq]
    exact List.mem_append_left _ (List.mem_append_right _ hc)
  refine ⟨fun hword => ?_, c, hmem, ?_⟩
  · have hletters : ∀ word ∈ tabWords, word.toList.any Numeral.isDigit = false := by decide +kernel
    have hlower : c ∈ (Text.lowerAscii s).toList := by
      rw [Text.lowerAscii, String.toList_ofList]
      exact List.mem_map.mpr ⟨c, hmem, Numeral.toLower_of_isDigit hdigit⟩
    exact List.any_eq_false.mp (hletters _ hword) c hlower hdigit
  · rintro rfl
    cases hdigit

/-- What becomes of a number of spaces. -/
theorem indentationText_of_denotes (h : Denotes s n) :
    indentationText s =
      if 1 ≤ n ∧ n < 2 ^ 63 then .returned (some (Indentation.spaces n).text)
      else if 1 ≤ n ∧ n < 2 ^ 64 then .panicked (some overflow)
      else .failed [(SettingError.notAnIndentation s).message] := by
  have hread := readIndentation_eq_of_needsNumber h.needsNumber
  by_cases hfits : 1 ≤ n ∧ n < 2 ^ 64
  · rw [readCount_eq_some_iff.mpr ⟨h, hfits⟩] at hread
    have hbound : (Indentation.spaces n).Representable ↔ n < 2 ^ 63 :=
      Nat.lt_succ_iff.symm
    simp only [indentationText, hread, hbound, hfits, true_and, and_self, if_true]
  · have hrefused : readIndentation s = .error (.notAnIndentation s) := by
      rw [hread]
      split
      case h_1 m hm =>
        obtain ⟨hdenotes, hm⟩ := readCount_eq_some_iff.mp hm
        have heq : (m : Int) = n := hdenotes.unique h
        exact absurd (by omega : 1 ≤ n ∧ n < 2 ^ 64) hfits
      case h_2 => rfl
    have hsmall : ¬ (1 ≤ n ∧ n < 2 ^ 63) := by omega
    rw [if_neg hsmall, if_neg hfits, indentationText, hrefused]

/-! ## Any text -/

/-- What gives an indentation: a word for a tab, the indentation itself, or a number of spaces. -/
theorem readIndentation_cases {r : Indentation} (h : readIndentation s = .ok (some r)) :
    r = .tab ∨ s = r.text ∨ ∃ n : Nat, Denotes s n ∧ 1 ≤ n ∧ n < 2 ^ 64 ∧ r = .spaces n := by
  unfold readIndentation at h
  split_ifs at h with hempty htab hspaces
  · cases h
  · cases h
    exact .inl rfl
  · cases h
    have hall : ∀ c ∈ s.toList, c = ' ' := by simpa using hspaces
    have hchars : s.toList = List.replicate s.toList.length ' ' :=
      List.eq_replicate_iff.mpr ⟨rfl, hall⟩
    exact .inr (.inl (by rw [Indentation.text, Indentation.chars, ← hchars, String.ofList_toList]))
  · split at h
    case h_1 value hvalue =>
      split_ifs at h with hfits
      cases h
      obtain ⟨n, rfl⟩ := Int.eq_ofNat_of_zero_le hfits.1.le
      have hlarge : n < 2 ^ 64 := by exact_mod_cast hfits.2
      exact .inr (.inr ⟨n, (integer?_eq_some_iff.mp hvalue).1, by omega, hlarge, rfl⟩)
    case h_2 => cases h

/-- An indentation that is too large comes from a number. -/
theorem exists_denotes_of_not_representable {r : Indentation}
    (hs : s.utf8ByteSize ≤ Indentation.maxTextSize) (h : readIndentation s = .ok (some r))
    (hlarge : ¬ r.Representable) : ∃ n : Nat, Denotes s n ∧ 2 ^ 63 ≤ n ∧ n < 2 ^ 64 := by
  rcases readIndentation_cases h with rfl | rfl | ⟨n, hn, -, hfits, rfl⟩
  · exact absurd trivial hlarge
  · exact absurd (Indentation.representable_iff.mpr hs) hlarge
  · have hbound : ¬ n < 2 ^ 63 := fun hsmall => hlarge (Nat.lt_succ_iff.mp hsmall)
    exact ⟨n, hn, by omega, hfits⟩

/-- The request for an indentation ends in a panic if it is given by a number of at least 2 ^ 63
spaces that is still a count, and only then; such a number should be refused, as it is from 2 ^ 64 on.
Any other text is answered: what is written down fits into a text and is the indentation that the
setting gives, and what gives none is refused. No text is larger than `Indentation.maxTextSize`, and
so the one that is given is not either. -/
theorem indentationText_panics (s : String) (hs : s.utf8ByteSize ≤ Indentation.maxTextSize) :
    ((∃ message, indentationText s = .panicked message) ↔
      ∃ n : Nat, Denotes s n ∧ 2 ^ 63 ≤ n ∧ n < 2 ^ 64) ∧
    (∀ text, indentationText s = .returned (some text) →
      text.utf8ByteSize ≤ Indentation.maxTextSize ∧
        ∃ r, readIndentation s = .ok (some r) ∧ text = r.text) ∧
    (∀ n : Nat, Denotes s n → 1 ≤ n → n < 2 ^ 63 →
      indentationText s = .returned (some (Indentation.spaces n).text)) ∧
    ∀ n : Nat, Denotes s n → 2 ^ 64 ≤ n →
      indentationText s = .failed [(SettingError.notAnIndentation s).message] ∧
        ∀ m, readCount s ≠ .ok (some m) := by
  refine ⟨⟨?_, ?_⟩, ?_, ?_, ?_⟩
  · rintro ⟨message, hpanic⟩
    unfold indentationText at hpanic
    split at hpanic
    case h_1 => cases hpanic
    case h_2 => cases hpanic
    case h_3 r hread =>
      split at hpanic
      case isTrue => cases hpanic
      case isFalse hlarge => exact exists_denotes_of_not_representable hs hread hlarge
  · rintro ⟨n, hn, hlow, hhigh⟩
    refine ⟨some overflow, ?_⟩
    rw [indentationText_of_denotes hn, if_neg (by omega), if_pos (by omega)]
  · intro text hreturned
    unfold indentationText at hreturned
    split at hreturned
    case h_1 => cases hreturned
    case h_2 => cases hreturned
    case h_3 r hread =>
      split at hreturned
      case isTrue hfits =>
        cases hreturned
        exact ⟨Indentation.representable_iff.mp hfits, r, hread, rfl⟩
      case isFalse => cases hreturned
  · intro n hn hpos hsmall
    rw [indentationText_of_denotes hn, if_pos ⟨hpos, hsmall⟩]
  · intro n hn hlarge
    refine ⟨?_, fun m hm => ?_⟩
    · rw [indentationText_of_denotes hn, if_neg (by omega), if_neg (by omega)]
    · obtain ⟨hdenotes, -, hfits⟩ := readCount_eq_some_iff.mp hm
      have heq : (m : Int) = n := hdenotes.unique hn
      omega

/-- The smallest number of spaces for which there is no text. -/
def tooWide : String := "9223372036854775808"

/-- Such a number is accepted as any other count is, and then ends the program. -/
theorem indentationText_tooWide :
    readCount tooWide = .ok (some (2 ^ 63)) ∧ indentationText tooWide = .panicked (some overflow) := by
  decide +kernel

theorem indentationText_panics_of_tooWide :
    tooWide.utf8ByteSize ≤ Indentation.maxTextSize ∧ Denotes tooWide (2 ^ 63 : Nat) ∧
      ∃ message, indentationText tooWide = .panicked message := by
  have hsize : tooWide.utf8ByteSize ≤ Indentation.maxTextSize := by decide +kernel
  have hread : integer? tooWide = some (2 ^ 63 : Nat) := by decide +kernel
  have hdenotes : Denotes tooWide (2 ^ 63 : Nat) := (integer?_eq_some_iff.mp hread).1
  exact ⟨hsize, hdenotes,
    (indentationText_panics tooWide hsize).1.mpr ⟨2 ^ 63, hdenotes, by norm_num, by norm_num⟩⟩

end Codemod.Setting
