import Codemod.Proofs.Detection
import Codemod.Proofs.Indentation.Votes
import Codemod.Proofs.Setting.Count

set_option autoImplicit false

/-! # Indentations as settings

An indentation is given by a word, by itself, or by a number of spaces. The number is read like any
other count, although its range is checked on its own (`readIndentation_eq_of_needsNumber`), and
whatever indentation has been read or detected is a level that can be given again by its own text
(`readIndentation_text`). -/

namespace Codemod.Indentation

/-- One tab, or at least one space. -/
def IsLevel (r : Indentation) : Prop := r = .tab ∨ ∃ n, 1 ≤ n ∧ r = .spaces n

/-- What is detected is a level: whoever votes for spaces is indented. -/
theorem isLevel_detect (text : List Char) : (detect text).IsLevel := by
  obtain ⟨poll, htally, hdetect⟩ := detect_tallied text
  rw [hdetect]
  rcases Nat.lt_trichotomy (spaceVotes (voters text)).length (tabVotes (voters text)).length with
    htabs | htie | hspaces
  · exact .inl (htally.result_tab htabs)
  · exact .inr ⟨4, by decide, htally.result_tie htie⟩
  · obtain ⟨line, hline, hresult, -⟩ := htally.result_spaces hspaces
    have hindented : leading line ≠ [] :=
      leading_ne_nil_of_mem_openers (List.mem_filter.mp hline).1
    exact .inr ⟨_, List.length_pos_iff.mpr hindented, hresult⟩

end Codemod.Indentation

namespace Codemod.Setting

variable {s : String} {r : Indentation}

/-! ## Numbers of spaces -/

/-- A text that can give an indentation only by a number: it is no word for a tab, and there is
something in it that is no space. -/
def NeedsNumber (s : String) : Prop :=
  Text.lowerAscii s ∉ tabWords ∧ ∃ c ∈ s.toList, c ≠ ' '

theorem NeedsNumber.ne_empty (h : NeedsNumber s) : s ≠ "" := by
  rintro rfl
  obtain ⟨-, c, hc, -⟩ := h
  cases hc

/-- The number of spaces is read like any other count. -/
theorem readIndentation_eq_of_needsNumber (h : NeedsNumber s) :
    readIndentation s =
      match readCount s with
      | .ok (some n) => .ok (some (.spaces n))
      | _ => .error (.notAnIndentation s) := by
  obtain ⟨htab, c, hc, hne⟩ := h
  have hs : s ≠ "" := NeedsNumber.ne_empty ⟨htab, c, hc, hne⟩
  have hspaces : ¬ s.toList.all (· == ' ') = true := by
    rw [List.all_eq_true]
    intro hall
    exact hne (by simpa using hall c hc)
  unfold readIndentation
  rw [if_neg (by simpa using hs), if_neg (by simpa using htab), if_neg hspaces,
    readCount_of_ne_empty hs]
  cases integer? s with
  | none => rfl
  | some value =>
    have hpow : (Nat.pow 2 countBits : Int) = 2 ^ 64 := rfl
    simp only [hpow]
    -- The bounds are the same, checked at once here and one after the other for a count.
    by_cases hneg : value ≤ 0
    · rw [if_neg (by omega), if_pos hneg]
    · by_cases hfits : value < 2 ^ 64
      · rw [if_pos (by omega), if_neg hneg, if_pos hfits]
      · rw [if_neg (by omega), if_neg hneg, if_neg hfits]

/-! ## Levels -/

theorem readIndentation_tab : readIndentation Indentation.tab.text = .ok (some .tab) := by
  decide +kernel

/-- Spaces stand for themselves. -/
theorem readIndentation_spaces {n : Nat} (hn : 1 ≤ n) :
    readIndentation (Indentation.spaces n).text = .ok (some (.spaces n)) := by
  obtain ⟨m, rfl⟩ := Nat.exists_eq_add_of_le' hn
  have hlist : (Indentation.spaces (m + 1)).text.toList = List.replicate (m + 1) ' ' :=
    String.toList_ofList
  have hempty : (Indentation.spaces (m + 1)).text ≠ "" := by
    intro h
    rw [h] at hlist
    cases hlist
  have htab : Text.lowerAscii (Indentation.spaces (m + 1)).text ∉ tabWords := by
    have hwords : ∀ w ∈ tabWords, w.toList.head? ≠ some ' ' := by decide
    intro hmem
    refine hwords _ hmem ?_
    rw [Text.lowerAscii, hlist, String.toList_ofList]
    rfl
  unfold readIndentation
  rw [if_neg (by simpa using hempty), if_neg (by simpa using htab), hlist, if_pos (by simp),
    List.length_replicate]

theorem readIndentation_text (h : r.IsLevel) : readIndentation r.text = .ok (some r) := by
  rcases h with rfl | ⟨n, hn, rfl⟩
  · exact readIndentation_tab
  · exact readIndentation_spaces hn

theorem isLevel_of_readIndentation (h : readIndentation s = .ok (some r)) : r.IsLevel := by
  unfold readIndentation at h
  split_ifs at h with hempty htab hspaces
  · cases h
  · cases h
    exact .inl rfl
  · cases h
    have hne : s.toList ≠ [] := by simpa using hempty
    exact .inr ⟨_, List.length_pos_iff.mpr hne, rfl⟩
  · split at h
    case h_1 value _ =>
      split_ifs at h with hvalue
      cases h
      exact .inr ⟨_, by omega, rfl⟩
    case h_2 => cases h

/-- A number of spaces is accepted exactly if it is accepted as a count, and gives as many spaces as
this says. Whatever indentation a setting gives, or is detected on an input, is one tab or at least
one space, and given as a setting it stands for itself. -/
theorem readIndentation_agrees (s : String) :
    (NeedsNumber s →
      (∀ n, (Indentation.spaces n).Representable →
        (readIndentation s = .ok (some (.spaces n)) ↔ readCount s = .ok (some n))) ∧
      ((∀ n, readCount s ≠ .ok (some n)) → readIndentation s = .error (.notAnIndentation s))) ∧
    (∀ r, readIndentation s = .ok (some r) →
      r.IsLevel ∧ readIndentation r.text = .ok (some r)) ∧
    ∀ input r, (Detection.indentation input).answer = .ok r →
      r.IsLevel ∧ readIndentation r.text = .ok (some r) := by
  refine ⟨fun hs => ⟨fun n _ => ?_, fun hnone => ?_⟩, fun r hr => ?_, fun input r hr => ?_⟩
  · rw [readIndentation_eq_of_needsNumber hs]
    split
    case h_1 m hm => rw [hm]; simp
    case h_2 hm =>
      constructor
      · intro h
        cases h
      · intro h
        exact absurd h (hm n)
  · rw [readIndentation_eq_of_needsNumber hs]
    split
    case h_1 m hm => exact absurd hm (hnone m)
    case h_2 => rfl
  · have hlevel := isLevel_of_readIndentation hr
    exact ⟨hlevel, readIndentation_text hlevel⟩
  · obtain ⟨text, rfl⟩ := Detection.exists_of_ask_eq_ok hr
    have hlevel := Indentation.isLevel_detect text
    exact ⟨hlevel, readIndentation_text hlevel⟩

end Codemod.Setting
