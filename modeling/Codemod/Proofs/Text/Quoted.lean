import Codemod.Proofs.Text.Blank
import Codemod.Setting

set_option autoImplicit false

/-! # Quoted values are read back

Where a quotation ends is said by its characters alone: at the first quote that no backslash escapes
(`ClosesAfter`), and that is where every reading of one ends (`exists_closesAfter_of_decodeBody`).
What is read from a quoted value is the value, whatever text comes after it (`decode_encode`). So no
two values have one quoted form, and the value that a refusal shows can be had from its message
(`quoted_unambiguous`). -/

namespace Codemod.Text.Quoted

variable {c : Char} {s text body lead rest before after : List Char}

/-! ## Where a quotation ends -/

/-- Whether what stands before a character escapes it: it ends with a backslash that is not escaped
itself. -/
def escapes (before : List Char) : Bool :=
  before.foldl (fun escaped c => c == '\\' && !escaped) false

theorem escapes_concat (before : List Char) (c : Char) :
    escapes (before ++ [c]) = (c == '\\' && !escapes before) := by
  simp only [escapes, List.foldl_append, List.foldl_cons, List.foldl_nil]

theorem escapes_eq_true_iff :
    escapes before = true ↔ ∃ earlier, before = earlier ++ ['\\'] ∧ escapes earlier = false := by
  constructor
  · intro h
    rcases List.eq_nil_or_concat before with rfl | ⟨earlier, c, rfl⟩
    · cases h
    · rw [List.concat_eq_append] at h ⊢
      rw [escapes_concat, Bool.and_eq_true, beq_iff_eq, Bool.not_eq_true'] at h
      exact ⟨earlier, by rw [h.1], h.2⟩
  · rintro ⟨earlier, rfl, h⟩
    rw [escapes_concat, h]
    rfl

theorem escapes_cons (hslash : c ≠ '\\') : escapes (c :: before) = escapes before := by
  simp [escapes, beq_false_of_ne hslash]

/-- What follows an escaped character is escaped only by what stands between. -/
theorem escapes_escaped (c : Char) (before : List Char) :
    escapes ('\\' :: c :: before) = escapes before := by
  simp [escapes]

/-- The quotation that a text goes on with ends after a body, at the first quote that is not
escaped. -/
structure ClosesAfter (text body rest : List Char) : Prop where
  eq_append : text = body ++ '\'' :: rest
  unescaped : escapes body = false
  first : ∀ before after, text = before ++ '\'' :: after → escapes before = false →
    body.length ≤ before.length

namespace ClosesAfter

theorem quote (rest : List Char) : ClosesAfter ('\'' :: rest) [] rest where
  eq_append := rfl
  unescaped := rfl
  first before _ _ _ := Nat.zero_le before.length

theorem plain (h : ClosesAfter text body rest) (hquote : c ≠ '\'') (hslash : c ≠ '\\') :
    ClosesAfter (c :: text) (c :: body) rest where
  eq_append := by rw [h.eq_append, List.cons_append]
  unescaped := by rw [escapes_cons hslash, h.unescaped]
  first before after heq hbefore := by
    cases before with
    | nil => exact absurd (List.cons.inj heq).1 hquote
    | cons d before =>
      obtain ⟨rfl, htext⟩ := List.cons.inj heq
      rw [escapes_cons hslash] at hbefore
      exact Nat.succ_le_succ (h.first before after htext hbefore)

theorem escape (h : ClosesAfter text body rest) (c : Char) :
    ClosesAfter ('\\' :: c :: text) ('\\' :: c :: body) rest where
  eq_append := by rw [h.eq_append, List.cons_append, List.cons_append]
  unescaped := by rw [escapes_escaped, h.unescaped]
  first before after heq hbefore := by
    -- the quote is neither the backslash nor the character that the backslash escapes
    match before with
    | [] => cases (List.cons.inj heq).1
    | [d] =>
      obtain ⟨rfl, -⟩ := List.cons.inj heq
      cases hbefore
    | d :: d' :: before =>
      obtain ⟨rfl, hnext⟩ := List.cons.inj heq
      obtain ⟨rfl, htext⟩ := List.cons.inj hnext
      rw [escapes_escaped] at hbefore
      exact Nat.succ_le_succ (Nat.succ_le_succ (h.first before after htext hbefore))

/-- A quote in the body has a backslash before it, which is not escaped itself. -/
theorem exists_backslash (h : ClosesAfter text body rest) (hbody : body = before ++ '\'' :: after) :
    ∃ earlier, before = earlier ++ ['\\'] ∧ escapes earlier = false := by
  rw [← escapes_eq_true_iff, ← Bool.not_eq_false]
  intro hfree
  have htext : text = before ++ '\'' :: (after ++ '\'' :: rest) := by
    rw [h.eq_append, hbody, List.append_assoc, List.cons_append]
  have hle := h.first before _ htext hfree
  rw [hbody, List.length_append, List.length_cons] at hle
  omega

end ClosesAfter

/-! ## Reading -/

theorem decodeBody_plain (hquote : c ≠ '\'') (hslash : c ≠ '\\') (text : List Char) :
    decodeBody (c :: text) = (decodeBody text).map fun (s, r) => (c :: s, r) := by
  rw [decodeBody.eq_def]
  simp [hslash]

/-- What is read with one more character is read without it up to the same place. -/
theorem exists_of_map_cons
    (h : ((decodeBody text).map fun (s, r) => (c :: s, r)) = some (s, rest)) :
    ∃ s', decodeBody text = some (s', rest) := by
  obtain ⟨⟨s', r⟩, hread, heq⟩ := Option.map_eq_some_iff.mp h
  obtain ⟨-, rfl⟩ := Prod.mk.inj heq
  exact ⟨s', hread⟩

/-- A reading ends at the first quote that is not escaped. -/
theorem exists_closesAfter_of_decodeBody (h : decodeBody text = some (s, rest)) :
    ∃ body, ClosesAfter text body rest := by
  fun_induction decodeBody text generalizing s with
  | case1 => cases h
  | case2 rest' =>
    obtain ⟨-, rfl⟩ := Prod.mk.inj (Option.some.inj h)
    exact ⟨[], .quote _⟩
  | case3 text ih | case4 text ih | case5 text ih | case6 c text _ _ _ ih =>
    obtain ⟨s', hread⟩ := exists_of_map_cons h
    obtain ⟨body, hbody⟩ := ih hread
    exact ⟨_, hbody.escape _⟩
  | case7 c text hquote _ _ _ hslash ih =>
    obtain ⟨s', hread⟩ := exists_of_map_cons h
    obtain ⟨body, hbody⟩ := ih hread
    -- a backslash at the very end leaves nothing to be read
    have hne : c ≠ '\\' := by
      rintro rfl
      cases text with
      | nil => cases hread
      | cons d text => exact hslash d text rfl rfl
    exact ⟨_, hbody.plain hquote hne⟩

theorem decodeBody_encodeChar (c : Char) (text : List Char) :
    decodeBody (encodeChar c ++ text) = (decodeBody text).map fun (s, r) => (c :: s, r) := by
  unfold encodeChar
  split
  · rfl
  · rfl
  · rfl
  · rfl
  · rfl
  · next hslash hquote _ _ _ => exact decodeBody_plain hquote hslash text

theorem decodeBody_encodeBody (s rest : List Char) :
    decodeBody (encodeBody s ++ '\'' :: rest) = some (s, rest) := by
  induction s with
  | nil => rfl
  | cons c s ih =>
    rw [encodeBody, List.flatMap_cons, List.append_assoc, decodeBody_encodeChar, ← encodeBody, ih]
    rfl

/-- A quoted value is read back whatever follows it. -/
theorem decode_encode (s rest : List Char) : decode (encode s ++ rest) = some (s, rest) := by
  rw [encode, List.append_assoc, List.cons_append, List.singleton_append]
  exact decodeBody_encodeBody s rest

/-- A quoted value ends with its own last quote, whatever follows it. -/
theorem closesAfter_encodeBody (s rest : List Char) :
    ClosesAfter (encodeBody s ++ '\'' :: rest) (encodeBody s) rest := by
  obtain ⟨body, hbody⟩ := exists_closesAfter_of_decodeBody (decodeBody_encodeBody s rest)
  have hsame : encodeBody s = body := List.append_cancel_right hbody.eq_append
  rwa [← hsame] at hbody

theorem encode_injective : Function.Injective encode := by
  intro s t h
  have hs := decode_encode s []
  rw [h, decode_encode] at hs
  exact (Prod.mk.inj (Option.some.inj hs)).1.symm

/-! ## One line -/

theorem forall_mem_encodeChar (c : Char) : ∀ d ∈ encodeChar c, d ≠ '\n' ∧ d ≠ '\r' ∧ d ≠ '\t' := by
  unfold encodeChar
  split
  · exact forall_mem_of_all rfl
  · exact forall_mem_of_all rfl
  · exact forall_mem_of_all rfl
  · exact forall_mem_of_all rfl
  · exact forall_mem_of_all rfl
  · next hfeed hcarriage htab =>
    intro d hd
    rw [List.mem_singleton.mp hd]
    exact ⟨hfeed, hcarriage, htab⟩

theorem forall_mem_encode (s : List Char) : ∀ d ∈ encode s, d ≠ '\n' ∧ d ≠ '\r' ∧ d ≠ '\t' := by
  intro d hd
  rw [encode, List.mem_append, List.mem_cons, List.mem_singleton] at hd
  rcases hd with (rfl | hd) | rfl
  · decide
  · obtain ⟨c, -, hc⟩ := List.mem_flatMap.mp hd
    exact forall_mem_encodeChar c d hc
  · decide

/-! ## Messages -/

/-- The first value that stands between quotes in a message, and what comes after it. -/
def quotation? (message : List Char) : Option (List Char × List Char) :=
  decode (message.dropWhile (· != '\''))

theorem quotation?_encode (hlead : '\'' ∉ lead) (s rest : List Char) :
    quotation? (lead ++ encode s ++ rest) = some (s, rest) := by
  have hall : ∀ c ∈ lead, (c != '\'') = true := by
    intro c hc
    exact bne_iff_ne.mpr (ne_of_mem_of_not_mem hc hlead)
  rw [quotation?, List.append_assoc, List.dropWhile_append_of_pos hall]
  exact decode_encode s rest

end Codemod.Text.Quoted

namespace Codemod.SettingError

/-- The value that a refusal shows as it was given. -/
def given? : SettingError → Option String
  | .notAnInteger given | .notASwitch given | .notALinesep given | .notAnIndentation given =>
    some given
  | .notPositive _ | .countOutOfRange _ => none

/-- No quote comes before the value. -/
theorem exists_lead {e : SettingError} {given : String} (h : e.given? = some given) :
    ∃ lead : String, '\'' ∉ lead.toList ∧ e.message = lead ++ Text.quoted given := by
  cases e with
  | notAnInteger | notASwitch | notALinesep | notAnIndentation =>
    obtain rfl := Option.some.inj h
    exact ⟨_, by decide +kernel, rfl⟩
  | notPositive | countOutOfRange => cases h

end Codemod.SettingError

namespace Codemod.Text

theorem toList_quoted (s : String) : (quoted s).toList = Quoted.encode s.toList :=
  String.toList_ofList

theorem quoted_inj {s t : String} : quoted s = quoted t ↔ s = t := by
  refine ⟨fun h => ?_, fun h => by rw [h]⟩
  rw [← String.toList_inj, toList_quoted, toList_quoted] at h
  exact String.toList_inj.mp (Quoted.encode_injective h)

/-- A quoted value can be told from every other one. It stands on one line; each quote between its
outer quotes has a backslash before it that is not escaped itself, so that the quotation ends with
the first quote that is not escaped, whatever follows; and the value that a refusal shows can be
had from the message, also when words without a quote come before it and any text after it. -/
theorem quoted_unambiguous (s : String) :
    (∀ t, quoted t = quoted s ↔ t = s) ∧
      (∀ c ∈ (quoted s).toList, c ≠ '\n' ∧ c ≠ '\r' ∧ c ≠ '\t') ∧
      (∃ body, (quoted s).toList = '\'' :: body ++ ['\''] ∧
        (∀ before after, body = before ++ '\'' :: after →
          ∃ earlier, before = earlier ++ ['\\'] ∧ Quoted.escapes earlier = false) ∧
        ∀ rest, Quoted.ClosesAfter (body ++ '\'' :: rest) body rest) ∧
      ∀ e : SettingError, e.given? = some s → ∀ lead rest, '\'' ∉ lead →
        Quoted.quotation? (lead ++ e.message.toList ++ rest) = some (s.toList, rest) := by
  refine ⟨fun t => quoted_inj, ?_, ⟨Quoted.encodeBody s.toList, toList_quoted s, ?_, ?_⟩, ?_⟩
  · rw [toList_quoted]
    exact Quoted.forall_mem_encode s.toList
  · intro before after hbody
    exact (Quoted.closesAfter_encodeBody s.toList []).exists_backslash hbody
  · exact Quoted.closesAfter_encodeBody s.toList
  · intro e hgiven lead rest hlead
    obtain ⟨words, hwords, hmessage⟩ := SettingError.exists_lead hgiven
    have hbefore : '\'' ∉ lead ++ words.toList := by
      rw [List.mem_append, not_or]
      exact ⟨hlead, hwords⟩
    rw [hmessage, String.toList_append, toList_quoted, ← List.append_assoc lead]
    exact Quoted.quotation?_encode hbefore s.toList rest

/-- A value in which a backslash stands before a quote, in the failure of a task and with a quote in
the text behind it. -/
theorem quoted_unambiguous_backslashedQuote :
    (quoted "it's \\' on\n").toList = '\'' :: "it\\'s \\\\\\' on\\n".toList ++ ['\''] ∧
      (∃ earlier, "it\\'s \\\\\\".toList = earlier ++ ['\\'] ∧ Quoted.escapes earlier = false) ∧
      SettingError.given? (.notASwitch "it's \\' on\n") = some "it's \\' on\n" ∧
      '\'' ∉ "task 4 failed: ".toList ∧
      Quoted.quotation? ("task 4 failed: ".toList
          ++ (SettingError.notASwitch "it's \\' on\n").message.toList ++ " for 'shared'".toList) =
        some ("it's \\' on\n".toList, " for 'shared'".toList) := by
  obtain ⟨-, -, ⟨body, hquoted, hescaped, -⟩, hread⟩ := quoted_unambiguous "it's \\' on\n"
  have htext : (quoted "it's \\' on\n").toList =
      '\'' :: "it\\'s \\\\\\' on\\n".toList ++ ['\''] := by decide +kernel
  have hbody : body = "it\\'s \\\\\\' on\\n".toList :=
    (List.cons.inj (List.append_cancel_right (hquoted.symm.trans htext))).2
  have hsplit : "it\\'s \\\\\\' on\\n".toList =
      "it\\'s \\\\\\".toList ++ '\'' :: " on\\n".toList := by decide +kernel
  have hlead : '\'' ∉ "task 4 failed: ".toList := by decide +kernel
  exact ⟨htext, hescaped _ _ (hbody.trans hsplit), rfl, hlead, hread _ rfl _ _ hlead⟩

end Codemod.Text
