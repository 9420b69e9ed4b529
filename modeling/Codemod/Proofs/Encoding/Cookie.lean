import Codemod.Encoding.Declaration

set_option autoImplicit false

/-! # Cookies

What a cookie is, said without the search for it: a place in a comment where the word `coding`
stands, a colon or an equals sign after it, and a name after that, which is taken as long as it
goes. Of several such places the first one counts. A line is found to have a cookie exactly if it
has one in this sense, and its name is the one that is found (`cookie?_eq_some_iff`). -/

namespace Codemod.Encoding

variable {text line name : List Char}

/-- A text that begins with a cookie with the given name. -/
inductive StartsWithCookie : List Char → List Char → Prop where
  | intro (sep : Char) (blanks name rest : List Char) (hsep : sep = ':' ∨ sep = '=')
    (hblanks : ∀ c ∈ blanks, c = ' ' ∨ c = '\t') (hne : name ≠ [])
    (hname : ∀ c ∈ name, isNameChar c = true) (hrest : ∀ c ∈ rest.head?, isNameChar c = false) :
    StartsWithCookie ("coding".toList ++ sep :: (blanks ++ (name ++ rest))) name

/-- A text in which a cookie with the given name begins at some place, and none before it. -/
def FirstCookie (text name : List Char) : Prop :=
  ∃ before rest, text = before ++ rest ∧ StartsWithCookie rest name ∧
    ∀ before' rest', text = before' ++ rest' → before'.length < before.length →
      ∀ name', ¬ StartsWithCookie rest' name'

/-- A line that is a comment, with blanks in front of it at most, whose first cookie has the given
name. -/
inductive HasCookie : List Char → List Char → Prop where
  | intro (indent comment name : List Char) (hindent : ∀ c ∈ indent, isIndent c = true)
    (hcookie : FirstCookie comment name) : HasCookie (indent ++ '#' :: comment) name

/-! ## Names -/

/-- A space or a tab, as they may stand before a name. -/
def isGap (c : Char) : Bool := c == ' ' || c == '\t'

theorem isGap_iff {c : Char} : isGap c = true ↔ c = ' ' ∨ c = '\t' := by
  rw [isGap, Bool.or_eq_true, beq_iff_eq, beq_iff_eq]

/-- No name begins with a space or a tab. -/
theorem not_isGap_of_isNameChar {c : Char} (h : isNameChar c = true) : isGap c = false := by
  refine Bool.eq_false_iff.mpr fun hgap => ?_
  rcases isGap_iff.mp hgap with rfl | rfl
  · exact absurd h (by decide)
  · exact absurd h (by decide)

theorem head?_dropWhile {p : Char → Bool} {c : Char} (h : c ∈ (text.dropWhile p).head?) :
    p c = false := by
  have hnot := List.head?_dropWhile_not p text
  rw [h] at hnot
  exact Bool.eq_false_iff.mpr (by simpa using hnot)

theorem nameAfter?_cons (sep : Char) (text : List Char) :
    nameAfter? (sep :: text) =
      if sep == ':' || sep == '=' then
        if ((text.dropWhile isGap).takeWhile isNameChar).isEmpty then none
        else some ((text.dropWhile isGap).takeWhile isNameChar)
      else none := rfl

theorem exists_of_nameAfter? (h : nameAfter? text = some name) :
    StartsWithCookie ("coding".toList ++ text) name := by
  cases text with
  | nil => cases h
  | cons sep text =>
    rw [nameAfter?_cons] at h
    split at h
    · rename_i hsep
      split at h
      · cases h
      · rename_i hempty
        cases h
        rw [Bool.or_eq_true, beq_iff_eq, beq_iff_eq] at hsep
        have htext : text = text.takeWhile isGap ++ ((text.dropWhile isGap).takeWhile isNameChar ++
            (text.dropWhile isGap).dropWhile isNameChar) := by
          rw [List.takeWhile_append_dropWhile, List.takeWhile_append_dropWhile]
        have hblanks : ∀ c ∈ text.takeWhile isGap, c = ' ' ∨ c = '\t' := fun c hc =>
          isGap_iff.mp (List.all_eq_true.mp List.all_takeWhile c hc)
        have hname : ∀ c ∈ (text.dropWhile isGap).takeWhile isNameChar, isNameChar c = true :=
          List.all_eq_true.mp List.all_takeWhile
        have hrest : ∀ c ∈ ((text.dropWhile isGap).dropWhile isNameChar).head?,
            isNameChar c = false := fun c hc => head?_dropWhile hc
        have hcookie := StartsWithCookie.intro sep _ _ _ hsep hblanks
          (mt List.isEmpty_iff.mpr hempty) hname hrest
        rwa [← htext] at hcookie
    · cases h

theorem nameAfter?_of_startsWithCookie {sep : Char} {blanks rest : List Char}
    (hsep : sep = ':' ∨ sep = '=') (hblanks : ∀ c ∈ blanks, c = ' ' ∨ c = '\t') (hne : name ≠ [])
    (hname : ∀ c ∈ name, isNameChar c = true) (hrest : ∀ c ∈ rest.head?, isNameChar c = false) :
    nameAfter? (sep :: (blanks ++ (name ++ rest))) = some name := by
  have hgap : (blanks ++ (name ++ rest)).dropWhile isGap = name ++ rest := by
    rw [List.dropWhile_append_of_pos fun c hc => isGap_iff.mpr (hblanks c hc)]
    -- what is dropped ends where the name begins
    cases name with
    | nil => exact absurd rfl hne
    | cons c name =>
      rw [List.cons_append, List.dropWhile_cons_of_neg]
      rw [not_isGap_of_isNameChar (hname c List.mem_cons_self)]
      exact Bool.false_ne_true
  have hend : rest.takeWhile isNameChar = [] := by
    cases rest with
    | nil => rfl
    | cons c rest =>
      rw [List.takeWhile_cons_of_neg]
      rw [hrest c rfl]
      exact Bool.false_ne_true
  have hsep' : (sep == ':' || sep == '=') = true := by
    rw [Bool.or_eq_true, beq_iff_eq, beq_iff_eq]
    exact hsep
  rw [nameAfter?_cons, if_pos hsep', hgap, List.takeWhile_append_of_pos hname, hend,
    List.append_nil, if_neg]
  rw [List.isEmpty_iff]
  exact hne

/-! ## Places -/

/-- The name in the cookie that a text begins with. -/
def cookieHere? (text : List Char) : Option (List Char) :=
  if "coding".toList.isPrefixOf text then nameAfter? (text.drop 6) else none

theorem cookieHere?_eq_some_iff : cookieHere? text = some name ↔ StartsWithCookie text name := by
  constructor
  · intro h
    rw [cookieHere?] at h
    split at h
    · rename_i hword
      obtain ⟨rest, rfl⟩ := List.isPrefixOf_iff_prefix.mp hword
      exact exists_of_nameAfter? h
    · cases h
  · rintro ⟨sep, blanks, name, rest, hsep, hblanks, hne, hname, hrest⟩
    have hword : "coding".toList.isPrefixOf
        ("coding".toList ++ sep :: (blanks ++ (name ++ rest))) = true :=
      List.isPrefixOf_iff_prefix.mpr (List.prefix_append _ _)
    rw [cookieHere?, if_pos hword]
    exact nameAfter?_of_startsWithCookie hsep hblanks hne hname hrest

theorem cookieIn?_cons (c : Char) (text : List Char) :
    cookieIn? (c :: text) = (cookieHere? (c :: text)).orElse fun _ => cookieIn? text := rfl

/-- The search goes from place to place and stops at the first cookie. -/
theorem cookieIn?_eq_some_iff : cookieIn? text = some name ↔ FirstCookie text name := by
  induction text with
  | nil =>
    constructor
    · rintro ⟨⟩
    · rintro ⟨before, rest, htext, hcookie, -⟩
      obtain ⟨rfl, rfl⟩ := List.append_eq_nil_iff.mp htext.symm
      have hhere := cookieHere?_eq_some_iff.mpr hcookie
      cases hhere
  | cons c text ih =>
    rw [cookieIn?_cons]
    cases hhere : cookieHere? (c :: text) with
    | some name' =>
      -- no place comes before this one
      have hstarts := cookieHere?_eq_some_iff.mp hhere
      constructor
      · rintro ⟨⟩
        exact ⟨[], c :: text, rfl, hstarts, fun _ _ _ hlt => absurd hlt (Nat.not_lt_zero _)⟩
      · rintro ⟨before, rest, htext, hcookie, hfirst⟩
        cases before with
        | nil =>
          rw [List.nil_append] at htext
          subst htext
          rw [cookieHere?_eq_some_iff.mpr hcookie] at hhere
          exact hhere.symm
        | cons d before =>
          exact absurd hstarts (hfirst [] (c :: text) rfl (Nat.zero_lt_succ _) name')
    | none =>
      -- a cookie of the whole text is one of the rest, at a place that counts one less there
      have hnot : ∀ name', ¬ StartsWithCookie (c :: text) name' := by
        intro name' hstarts
        rw [cookieHere?_eq_some_iff.mpr hstarts] at hhere
        cases hhere
      show cookieIn? text = some name ↔ _
      rw [ih]
      constructor
      · rintro ⟨before, rest, rfl, hcookie, hfirst⟩
        refine ⟨c :: before, rest, rfl, hcookie, fun before' rest' htext hlt => ?_⟩
        cases before' with
        | nil =>
          rw [List.nil_append] at htext
          rw [← htext]
          exact hnot
        | cons d before' =>
          obtain ⟨-, htext⟩ := List.cons_eq_cons.mp htext
          exact hfirst before' rest' htext (Nat.lt_of_succ_lt_succ hlt)
      · rintro ⟨before, rest, htext, hcookie, hfirst⟩
        cases before with
        | nil =>
          rw [List.nil_append] at htext
          rw [← htext] at hcookie
          exact absurd hcookie (hnot name)
        | cons d before =>
          obtain ⟨rfl, rfl⟩ := List.cons_eq_cons.mp htext
          refine ⟨before, rest, rfl, hcookie, fun before' rest' htext' hlt => ?_⟩
          exact hfirst (c :: before') rest' (congrArg (c :: ·) htext') (Nat.succ_lt_succ hlt)

/-! ## Lines -/

/-- What is found in a line is the name in its first cookie, and nothing is found in a line without
one. -/
theorem cookie?_eq_some_iff : cookie? line = some name ↔ HasCookie line name := by
  constructor
  · intro h
    rw [cookie?] at h
    split at h
    · rename_i comment hcomment
      have hline : line = line.takeWhile isIndent ++ '#' :: comment := by
        rw [← hcomment, List.takeWhile_append_dropWhile]
      rw [hline]
      exact .intro _ _ _ (List.all_eq_true.mp List.all_takeWhile) (cookieIn?_eq_some_iff.mp h)
    · cases h
  · rintro ⟨indent, comment, name, hindent, hcookie⟩
    have hcomment : (indent ++ '#' :: comment).dropWhile isIndent = '#' :: comment := by
      rw [List.dropWhile_append_of_pos hindent, List.dropWhile_cons_of_neg (by decide)]
    rw [cookie?, hcomment]
    exact cookieIn?_eq_some_iff.mpr hcookie

theorem cookie?_eq_none_iff : cookie? line = none ↔ ∀ name, ¬ HasCookie line name := by
  rw [Option.eq_none_iff_forall_ne_some]
  exact forall_congr' fun name => not_congr cookie?_eq_some_iff

end Codemod.Encoding
