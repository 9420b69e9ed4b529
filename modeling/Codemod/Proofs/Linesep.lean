import Codemod.Proofs.Detection
import Codemod.Proofs.Text.Line

set_option autoImplicit false

/-! # The separator that stands in most places

Where a separator stands in a text is said place by place, without cutting the text into lines
(`StandsAt`): a carriage return and a line feed behind it are a pair, and neither of the two is a
separator of its own. A separator stands in as many places as there are lines that end with it
(`votes_lines`), since what is in front of a line and what is behind it do not matter for the places
in it. So a text is said to use the separator that stands in most places, and of several such the
one that is preferred. The main statement is `linesep_iff_wins`. -/

namespace Codemod.Linesep

variable {text body rest : List Char} {sep other : Linesep}

/-! ## Places -/

/-- A separator stands at a place of a text. -/
def StandsAt (text : List Char) (i : Nat) : Linesep → Prop
  | .lf => text[i]? = some '\n' ∧ (i = 0 ∨ text[i - 1]? ≠ some '\r')
  | .crlf => text[i]? = some '\r' ∧ text[i + 1]? = some '\n'
  | .cr => text[i]? = some '\r' ∧ text[i + 1]? ≠ some '\n'

instance (text : List Char) (i : Nat) : (sep : Linesep) → Decidable (StandsAt text i sep)
  | .lf => inferInstanceAs (Decidable (_ ∧ _))
  | .crlf => inferInstanceAs (Decidable (_ ∧ _))
  | .cr => inferInstanceAs (Decidable (_ ∧ _))

/-- The number of places of a text where a separator stands. -/
def occurrences (sep : Linesep) (text : List Char) : Nat :=
  (List.range text.length).countP fun i => StandsAt text i sep

/-- A text that does not begin in the middle of a pair, if it is put behind another one. -/
def Follows (before text : List Char) : Prop :=
  before.getLast? = some '\r' → text.head? ≠ some '\n'

/-- What comes behind a text has no part in the places of the text. -/
theorem standsAt_append_left {before : List Char} (h : Follows before rest) {i : Nat}
    (hi : i < before.length) : StandsAt (before ++ rest) i sep ↔ StandsAt before i sep := by
  have hhere : (before ++ rest)[i]? = before[i]? := List.getElem?_append_left hi
  -- Only at the last place is the next character one of the rest.
  have hnext : before[i]? = some '\r' →
      ((before ++ rest)[i + 1]? = some '\n' ↔ before[i + 1]? = some '\n') := by
    intro hreturn
    by_cases hlast : i + 1 < before.length
    · rw [List.getElem?_append_left hlast]
    · have hend : before.length = i + 1 := by omega
      have hfeed : rest.head? ≠ some '\n' := by
        refine h ?_
        rw [List.getLast?_eq_getElem?, hend]
        exact hreturn
      rw [List.getElem?_append_right (by omega), hend, Nat.sub_self, ← List.head?_eq_getElem?,
        List.getElem?_eq_none (by omega)]
      exact ⟨fun h => absurd h hfeed, fun h => absurd h (by rintro ⟨⟩)⟩
  cases sep with
  | lf =>
    have hbefore : (before ++ rest)[i - 1]? = before[i - 1]? :=
      List.getElem?_append_left (by omega)
    rw [StandsAt, StandsAt, hhere, hbefore]
  | crlf =>
    rw [StandsAt, StandsAt, hhere]
    exact and_congr_right hnext
  | cr =>
    rw [StandsAt, StandsAt, hhere]
    exact and_congr_right fun hreturn => not_congr (hnext hreturn)

/-- What comes in front of a text moves its places and does nothing else to them. -/
theorem standsAt_append_right {before : List Char} (h : Follows before rest) (i : Nat) :
    StandsAt (before ++ rest) (before.length + i) sep ↔ StandsAt rest i sep := by
  have hat : ∀ j, (before ++ rest)[before.length + j]? = rest[j]? := by
    intro j
    rw [List.getElem?_append_right (Nat.le_add_right _ _), Nat.add_sub_cancel_left]
  cases sep with
  | lf =>
    rw [StandsAt, StandsAt, hat]
    refine and_congr_right fun hfeed => ?_
    cases i with
    | zero =>
      -- no line feed at the first place of the rest has a carriage return in front of it
      refine ⟨fun _ => .inl rfl, fun _ => ?_⟩
      by_cases hlength : before.length = 0
      · exact .inl hlength
      · refine .inr fun hreturn => ?_
        rw [Nat.add_zero, List.getElem?_append_left (by omega),
          ← List.getLast?_eq_getElem?] at hreturn
        rw [← List.head?_eq_getElem?] at hfeed
        exact h hreturn hfeed
    | succ i =>
      have hnot : before.length + (i + 1) ≠ 0 := Nat.succ_ne_zero _
      rw [show before.length + (i + 1) - 1 = before.length + i by omega, hat, or_iff_right hnot,
        or_iff_right (Nat.succ_ne_zero i), Nat.add_sub_cancel]
  | crlf => rw [StandsAt, StandsAt, Nat.add_assoc, hat, hat]
  | cr => rw [StandsAt, StandsAt, Nat.add_assoc, hat, hat]

theorem occurrences_append {before : List Char} (h : Follows before rest) :
    occurrences sep (before ++ rest) = occurrences sep before + occurrences sep rest := by
  rw [occurrences, List.length_append, List.range_add, List.countP_append, List.countP_map]
  have hleft : ∀ i ∈ List.range before.length,
      decide (StandsAt (before ++ rest) i sep) = true ↔ decide (StandsAt before i sep) = true := by
    intro i hi
    rw [decide_eq_true_iff, decide_eq_true_iff]
    exact standsAt_append_left h (List.mem_range.mp hi)
  have hright : ∀ i ∈ List.range rest.length,
      ((fun i => decide (StandsAt (before ++ rest) i sep)) ∘ (before.length + ·)) i = true ↔
        decide (StandsAt rest i sep) = true := by
    intro i _
    rw [Function.comp_apply, decide_eq_true_iff, decide_eq_true_iff]
    exact standsAt_append_right h i
  rw [List.countP_congr hleft, List.countP_congr hright, occurrences, occurrences]

/-! ## Bodies and separators -/

theorem occurrences_of_isBody (hbody : Text.IsBody body) : occurrences sep body = 0 := by
  have hends : Text.isLineEnd '\n' = true ∧ Text.isLineEnd '\r' = true := by decide
  have hnot : ∀ (c : Char) (i : Nat), Text.isLineEnd c = true → body[i]? ≠ some c := by
    intro c i hc hat
    have hmem := hbody c (List.mem_of_getElem? hat)
    rw [hc] at hmem
    cases hmem
  rw [occurrences, List.countP_eq_zero]
  intro i _
  rw [decide_eq_true_iff]
  cases sep with
  | lf => exact fun h => hnot _ _ hends.1 h.1
  | crlf => exact fun h => hnot _ _ hends.2 h.1
  | cr => exact fun h => hnot _ _ hends.2 h.1

/-- A separator holds no other one. -/
theorem occurrences_chars (sep other : Linesep) :
    occurrences other sep.chars = if sep = other then 1 else 0 := by
  cases sep <;> cases other <;> rfl

theorem follows_of_isBody (hbody : Text.IsBody body) (rest : List Char) : Follows body rest := by
  intro hreturn
  have hmem := hbody _ (List.mem_of_getLast? hreturn)
  exact absurd hmem (by decide)

/-- Behind a line comes a new one, unless a carriage return that ends it is the half of a pair. -/
theorem follows_line (hrest : sep = .cr → rest.head? ≠ some '\n') (body : List Char) :
    Follows (body ++ sep.chars) rest := by
  cases sep with
  | lf =>
    intro hreturn
    rw [chars, List.getLast?_concat] at hreturn
    cases hreturn
  | crlf =>
    intro hreturn
    rw [chars, List.getLast?_append] at hreturn
    cases hreturn
  | cr => exact fun _ => hrest rfl

/-- The places of a line and those of the text behind it. -/
theorem occurrences_line (hbody : Text.IsBody body) (hrest : sep = .cr → rest.head? ≠ some '\n') :
    occurrences other (body ++ sep.chars ++ rest) =
      (if sep = other then 1 else 0) + occurrences other rest := by
  rw [occurrences_append (follows_line hrest body), occurrences_append (follows_of_isBody hbody _),
    occurrences_of_isBody hbody, occurrences_chars, Nat.zero_add]

/-! ## Lines -/

theorem ofLine?_of_isBody (hbody : Text.IsBody body) : ofLine? body = none := by
  have hlast : ∀ c ∈ body.reverse, Text.isLineEnd c = false := fun c hc =>
    hbody c (List.mem_reverse.mp hc)
  rw [ofLine?]
  split
  case h_4 => rfl
  all_goals
    rename_i heq
    exact absurd (hlast _ (heq ▸ List.mem_cons_self)) (by decide)

theorem ofLine?_line (hbody : Text.IsBody body) (sep : Linesep) :
    ofLine? (body ++ sep.chars) = some sep := by
  rw [ofLine?, List.reverse_append]
  cases sep with
  | crlf => rfl
  | cr => rfl
  | lf =>
    rw [chars, List.reverse_singleton, List.singleton_append]
    split
    · -- the body does not end in the other half of a pair
      rename_i heq
      have hmem : '\r' ∈ body :=
        List.mem_reverse.mp ((List.cons_eq_cons.mp heq).2 ▸ List.mem_cons_self)
      exact absurd (hbody _ hmem) (by decide)
    · rename_i heq
      cases heq
    · rfl
    · rename_i hnot
      exact absurd rfl (hnot _)

/-- The lines that end with a separator are as many as the places where it stands. -/
theorem votes_lines (sep : Linesep) (text : List Char) :
    votes sep (Text.lines text) = occurrences sep text := by
  generalize hlines : Text.lines text = lines
  induction lines generalizing text with
  | nil =>
    have htext := Text.flatten_lines text
    rw [hlines] at htext
    subst htext
    rfl
  | cons line later ih =>
    rcases Text.of_lines_eq_cons hlines with
      ⟨hbody, rfl⟩ | ⟨body, ended, rest, hbody, hrest, rfl, rfl, rfl⟩
    · have htext := Text.flatten_lines text
      rw [hlines, List.flatten_cons, List.flatten_nil, List.append_nil] at htext
      subst htext
      rw [occurrences_of_isBody hbody, votes, List.countP_cons, ofLine?_of_isBody hbody]
      rfl
    · have hlater := ih rest rfl
      rw [votes] at hlater
      rw [occurrences_line hbody hrest, votes, List.countP_cons, hlater, ofLine?_line hbody,
        Nat.add_comm]
      simp only [beq_iff_eq, Option.some.injEq]

/-! ## The most places -/

/-- The place of a separator in the order of preference. -/
def rank (sep : Linesep) : Nat :=
  all.idxOf sep

/-- A separator stands in more places of a text than any other one, or in as many as one that is
less preferred. -/
def Wins (text : List Char) (sep : Linesep) : Prop :=
  ∀ other, other ≠ sep → occurrences other text < occurrences sep text ∨
    occurrences other text = occurrences sep text ∧ rank sep < rank other

theorem Wins.unique (h : Wins text sep) (h' : Wins text other) : sep = other := by
  by_contra hne
  have hother := h other (Ne.symm hne)
  have hsep := h' sep hne
  omega

/-- The separator that is found wins. -/
theorem wins_detect (text : List Char) : Wins text (detect text) := by
  have hlf : rank .lf < rank .crlf ∧ rank .lf < rank .cr := by decide
  have hcrlf : rank .crlf < rank .cr := by decide
  rw [detect]
  simp only [votes_lines]
  intro other hne
  split_ifs at hne ⊢ with hmost hmore
  · cases other with
    | lf => exact absurd rfl hne
    | crlf => omega
    | cr => omega
  · cases other with
    | lf => omega
    | crlf => exact absurd rfl hne
    | cr => omega
  · cases other with
    | lf => omega
    | crlf => omega
    | cr => exact absurd rfl hne

theorem detect_eq_iff : detect text = sep ↔ Wins text sep := by
  constructor
  · rintro rfl
    exact wins_detect text
  · exact (wins_detect text).unique

/-! ## Joined lines -/

/-- Where lines are joined only their separator stands, once between any two of them. -/
theorem occurrences_join {bodies : List (List Char)} (hbodies : ∀ body ∈ bodies, Text.IsBody body) :
    occurrences other (Text.join sep bodies) = if sep = other then bodies.length - 1 else 0 := by
  induction bodies with
  | nil => exact (ite_self 0).symm
  | cons body after ih =>
    obtain ⟨hbody, hafter⟩ := List.forall_mem_cons.mp hbodies
    by_cases hne : after = []
    · subst hne
      rw [Text.join, List.intercalate_singleton, occurrences_of_isBody hbody]
      exact (ite_self 0).symm
    · have hrest : sep = .cr → (Text.join sep after).head? ≠ some '\n' := by
        rintro rfl
        exact Text.head?_join hafter
      have hlength : 0 < after.length := List.length_pos_iff.mpr hne
      rw [Text.join_cons sep body hne, occurrences_line hbody hrest, ih hafter, List.length_cons]
      split
      · omega
      · rfl

theorem wins_join {bodies : List (List Char)} (hbodies : ∀ body ∈ bodies, Text.IsBody body)
    (hjoined : 2 ≤ bodies.length) : Wins (Text.join sep bodies) sep := by
  intro other hne
  rw [occurrences_join hbodies, occurrences_join hbodies, if_neg (Ne.symm hne), if_pos rfl]
  omega

theorem wins_of_isBody (hbody : Text.IsBody body) : Wins body .lf := by
  intro other hne
  rw [occurrences_of_isBody hbody, occurrences_of_isBody hbody]
  cases other with
  | lf => exact absurd rfl hne
  | crlf => exact .inr ⟨rfl, by decide⟩
  | cr => exact .inr ⟨rfl, by decide⟩

theorem answer_eq (text : String) :
    (Detection.linesep (.text text)).answer = .ok (detect text.toList) := by
  rw [Detection.linesep, Detection.ask_text]

theorem answer_of_wins {text : String} (h : Wins text.toList sep) :
    (Detection.linesep (.text text)).answer = .ok sep := by
  rw [answer_eq, detect_eq_iff.mpr h]

/-- The separator of a text is the one that stands in most of its places: pairs of a carriage
return and a line feed, line feeds with no carriage return in front, and carriage returns with no
line feed behind. Of several with equally many places it is the first of these: a line feed, a pair,
a carriage return. So it is a line feed where there is no separator at all, and where lines are
joined by one separator it is that one. -/
theorem linesep_iff_wins :
    (∀ text : String, ∃ found, (Detection.linesep (.text text)).answer = .ok found ∧
      ∀ sep, Wins text.toList sep ↔ sep = found) ∧
    (∀ text : String, Text.IsBody text.toList →
      (Detection.linesep (.text text)).answer = .ok .lf) ∧
    ∀ (sep : Linesep) (bodies : List (List Char)), (∀ body ∈ bodies, Text.IsBody body) →
      2 ≤ bodies.length →
      (Detection.linesep (.text (String.ofList (Text.join sep bodies)))).answer = .ok sep := by
  refine ⟨fun text => ⟨_, answer_eq text, fun sep => ?_⟩, fun text hbody => ?_,
    fun sep bodies hbodies hjoined => ?_⟩
  · rw [← detect_eq_iff, eq_comm]
  · exact answer_of_wins (wins_of_isBody hbody)
  · refine answer_of_wins ?_
    rw [String.toList_ofList]
    exact wins_join hbodies hjoined

/-- Two carriage returns, the second one half of a pair; a line feed; a carriage return at the
end. -/
def mixedText : String := "\r\r\nx\n\r"

theorem linesep_iff_wins_mixedText :
    (Detection.linesep (.text mixedText)).answer = .ok .cr ∧
      (Detection.linesep (.text "x")).answer = .ok .lf ∧
      (Detection.linesep (.text (String.ofList (Text.join .crlf [[], "x".toList, []])))).answer =
        .ok .crlf := by
  have hbody : Text.IsBody "x".toList := by decide
  have hwins : Wins mixedText.toList .cr := by
    intro other hne
    cases other with
    | lf => exact .inl (by decide +kernel)
    | crlf => exact .inl (by decide +kernel)
    | cr => exact absurd rfl hne
  obtain ⟨found, hanswer, hfound⟩ := linesep_iff_wins.1 mixedText
  refine ⟨?_, ?_, ?_⟩
  · rw [hanswer, (hfound .cr).mp hwins]
  · exact linesep_iff_wins.2.1 "x" hbody
  · exact linesep_iff_wins.2.2 .crlf [[], "x".toList, []] (by decide) (by decide)

end Codemod.Linesep
