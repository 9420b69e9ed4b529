import Codemod.Glob.Match
import Codemod.Proofs.Encoding.Utf8

set_option autoImplicit false

/-! # What all matches of a pattern start with

The start of a pattern up to a slash is taken literally if it has no wildcards, braces or backslashes,
and whatever the pattern stands for starts with it (`encode_prefix_of_matches`). What comes after it
cannot take it back: only two stars that are a whole name look at what was read before them, and they
take away no more than the slash, in place of which they ask for one (`Anchored`). -/

namespace Codemod.Glob

variable {pre rest s : List Char} {tokens : List Token} {groups : List Group} {fuel : Nat}
  {before : Option Char}

/-! ## The literal start -/

/-- A character that never means anything but itself before the first wildcard of a pattern; a closing
brace there is a fault. -/
def IsFixed (c : Char) : Prop := c ≠ '?' ∧ c ≠ '*' ∧ c ≠ '[' ∧ c ≠ '\x7b' ∧ c ≠ '\\'

/-- Fixed characters are read as they stand. -/
theorem parseFrom_of_isFixed (hpre : ∀ c ∈ pre, IsFixed c) {ts : List Token}
    (h : parseFrom (fuel + pre.length) before [] tokens (pre ++ rest) = .ok ts) :
    ∃ before', parseFrom fuel before' [] ((pre.map .literal).reverse ++ tokens) rest = .ok ts := by
  induction pre generalizing before tokens with
  | nil => exact ⟨before, h⟩
  | cons c pre ih =>
    obtain ⟨⟨hone, hmany, hclass, hopen, hescape⟩, hpre⟩ := List.forall_mem_cons.1 hpre
    have hnext : ∃ before', parseFrom (fuel + pre.length) before' [] (.literal c :: tokens)
        (pre ++ rest) = .ok ts := by
      rw [List.length_cons, ← Nat.add_assoc, List.cons_append] at h
      by_cases hclose : c = '\x7d'
      · subst hclose
        cases h
      by_cases hcomma : c = ','
      · subst hcomma
        exact ⟨_, h⟩
      rw [parseFrom] at h
      · exact ⟨_, h⟩
      all_goals assumption
    obtain ⟨before', hnext⟩ := hnext
    obtain ⟨before'', hfinal⟩ := ih hpre hnext
    refine ⟨before'', ?_⟩
    rw [List.map_cons, List.reverse_cons, List.append_assoc]
    exact hfinal

/-- A start that ends in a slash, if there is one at all. -/
def EndsInSlash (pre : List Char) : Prop := pre = [] ∨ ∃ init, pre = init ++ ['/']

/-- Tokens, in reverse, that were read after a literal start. Two stars can have taken the place of
the slash at its end. -/
def Anchored (pre : List Char) (tokens : List Token) : Prop :=
  (pre.map Token.literal).reverse <:+ tokens ∨
    ∃ init whole, pre = init ++ ['/'] ∧ (whole = .anyMiddle ∨ whole = .anyEnd) ∧
      whole :: (init.map Token.literal).reverse <:+ tokens

theorem Anchored.mono {ts : List Token} (h : Anchored pre tokens) (hts : tokens <:+ ts) :
    Anchored pre ts := by
  rcases h with h | ⟨init, whole, hpre, hwhole, h⟩
  · exact .inl (h.trans hts)
  · exact .inr ⟨init, whole, hpre, hwhole, h.trans hts⟩

theorem Anchored.cons (h : Anchored pre tokens) (t : Token) : Anchored pre (t :: tokens) :=
  h.mono (List.suffix_cons ..)

/-- Two stars alone are no start. -/
theorem Anchored.eq_nil (h : Anchored pre [.anyStart]) : pre = [] := by
  rcases h with h | ⟨init, whole, -, hwhole, h⟩
  · rcases pre with _ | ⟨c, pre⟩
    · rfl
    · have hmem : Token.literal c ∈ [Token.anyStart] := h.subset (by simp)
      simp at hmem
  · have hmem : whole ∈ [Token.anyStart] := h.subset (List.mem_cons_self ..)
    rcases hwhole with rfl | rfl
    · simp at hmem
    · simp at hmem

/-- The last token before two stars gives way to one that asks for the slash that they follow. -/
theorem Anchored.replace {last last' : Token} {others : List Token} (hslash : EndsInSlash pre)
    (h : Anchored pre (last :: others)) (hlast : last' = .anyMiddle ∨ last' = .anyEnd) :
    Anchored pre (last' :: others) := by
  rcases h with h | ⟨init, whole, hpre, hwhole', h⟩
  · rcases List.suffix_cons_iff.1 h with h | h
    · rcases hslash with rfl | ⟨init, rfl⟩
      · cases h
      · rw [List.map_append, List.reverse_append] at h
        cases h
        exact .inr ⟨init, last', rfl, hlast, List.suffix_refl _⟩
    · exact .inl (h.trans (List.suffix_cons ..))
  · rcases List.suffix_cons_iff.1 h with h | h
    · cases h
      exact .inr ⟨init, last', hpre, hlast, List.suffix_refl _⟩
    · exact .inr ⟨init, whole, hpre, hwhole', h.trans (List.suffix_cons ..)⟩

/-! ## Two stars -/

theorem length_doubleStar (before : Option Char) (inGroup : Bool) (tokens : List Token)
    (s : List Char) : (doubleStar before inGroup tokens s).2.2.length ≤ s.length := by
  unfold doubleStar
  dsimp only
  split
  · split <;> simp
  · split
    · simp
    · split
      · simp
      · simp
      · split <;> simp

theorem Anchored.closed (hslash : EndsInSlash pre) {last whole : Token} {others : List Token}
    (hwhole : whole = .anyMiddle ∨ whole = .anyEnd) :
    Anchored pre (last :: others) → Anchored pre (match last with
      | .anyStart => .anyStart :: others
      | .anyEnd => .anyEnd :: others
      | _ => whole :: others) := by
  intro h
  split
  · exact h
  · exact h
  · exact h.replace hslash hwhole

theorem Anchored.doubleStar (hslash : EndsInSlash pre) (h : Anchored pre tokens)
    (before : Option Char) (inGroup : Bool) (s : List Char) :
    Anchored pre (doubleStar before inGroup tokens s).1 := by
  have hplain : Anchored pre (.many :: .many :: tokens) := (h.cons _).cons _
  unfold Glob.doubleStar
  dsimp only
  cases tokens with
  | nil =>
    have hstart : Anchored pre [.anyStart] := h.cons _
    dsimp only
    split
    · exact hstart
    · exact hstart
    · exact hplain
  | cons last others =>
    dsimp only
    split
    · exact hplain
    · split
      · exact h.closed hslash (.inr rfl)
      · exact h.closed hslash (.inl rfl)
      · split
        · exact h.closed hslash (.inr rfl)
        · exact hplain

/-! ## Classes -/

theorem length_classBody {first inRange : Bool} {ranges : List (Char × Char)}
    {result : List (Char × Char) × List Char}
    (h : classBody first inRange ranges s = .ok result) : result.2.length ≤ s.length := by
  induction s generalizing first inRange ranges with
  | nil => cases h
  | cons c s ih =>
    rw [classBody] at h
    split at h
    · cases h
      exact Nat.le_succ _
    · split at h
      · exact Nat.le_succ_of_le (ih h)
      · split at h
        · exact Nat.le_succ_of_le (ih h)
        · split at h
          · rcases hextend : extendRange ranges c with fault | ranges'
            · rw [hextend] at h
              cases h
            · rw [hextend] at h
              exact Nat.le_succ_of_le (ih h)
          · exact Nat.le_succ_of_le (ih h)

theorem length_class? {result : Token × List Char} (h : class? s = .ok result) :
    result.2.length ≤ s.length := by
  have hbody (negated : Bool) {s' : List Char} (hs' : s'.length ≤ s.length)
      (h : (classBody true false [] s' >>= fun body =>
        pure (Token.oneOf negated body.1.reverse, body.2)) = Except.ok result) :
      result.2.length ≤ s.length := by
    rcases hclass : classBody true false [] s' with fault | body
    · rw [hclass] at h
      cases h
    · rw [hclass] at h
      cases h
      exact Nat.le_trans (length_classBody hclass) hs'
  unfold class? at h
  split at h
  rename_i negated s' hstart
  refine hbody negated ?_ h
  split at hstart
  · cases hstart
    exact Nat.le_succ _
  · cases hstart
    exact Nat.le_succ _
  · cases hstart
    exact Nat.le_refl _

/-! ## The rest of a pattern -/

/-- The tokens, in reverse, that stand outside all open groups. -/
def outermost : List Group → List Token → List Token
  | [], tokens => tokens
  | g :: groups, _ => outermost groups g.around

theorem Anchored.push (h : Anchored pre (outermost groups tokens)) (t : Token) :
    Anchored pre (outermost groups (t :: tokens)) := by
  cases groups with
  | nil => exact h.cons t
  | cons g groups => exact h

theorem Anchored.pushGroup {g : Group} (h : Anchored pre (outermost (g :: groups) tokens))
    (t : Token) : Anchored pre (outermost groups (t :: g.around)) := by
  have haround : Anchored pre (outermost groups g.around) := h
  exact haround.push t

theorem Anchored.pushStars (hslash : EndsInSlash pre) (h : Anchored pre (outermost groups tokens))
    (before : Option Char) (inGroup : Bool) (s : List Char) :
    Anchored pre (outermost groups (Glob.doubleStar before inGroup tokens s).1) := by
  cases groups with
  | nil => exact h.doubleStar hslash before inGroup s
  | cons g groups => exact h

/-- Reading a character takes nothing away from a literal start. -/
theorem parseFrom_cons {c : Char} {ts : List Token}
    (h : parseFrom (fuel + 1) before groups tokens (c :: rest) = .ok ts) :
    ∃ before' groups' tokens' rest', parseFrom fuel before' groups' tokens' rest' = .ok ts ∧
      rest'.length ≤ rest.length ∧ ∀ pre, EndsInSlash pre →
        Anchored pre (outermost groups tokens) → Anchored pre (outermost groups' tokens') := by
  rw [parseFrom.eq_def] at h
  split at h
  · exact absurd ‹fuel + 1 = 0› (Nat.succ_ne_zero fuel)
  · rename_i hnil
    cases hnil
  · rename_i hnil
    cases hnil
  rename_i hfuel hcons
  cases hfuel
  cases hcons
  split at h
  · exact ⟨_, _, _, _, h, Nat.le_refl _, fun _ _ hpre => hpre.push _⟩
  · split at h
    · exact ⟨_, _, _, _, h, Nat.le_succ_of_le (length_doubleStar ..),
        fun _ hslash hpre => hpre.pushStars hslash ..⟩
    · exact ⟨_, _, _, _, h, Nat.le_refl _, fun _ _ hpre => hpre.push _⟩
  · rcases hclass : class? rest with fault | ⟨token, rest'⟩
    · rw [hclass] at h
      cases h
    · rw [hclass] at h
      exact ⟨_, _, _, _, h, length_class? hclass, fun _ _ hpre => hpre.push _⟩
  · exact ⟨_, _, _, _, h, Nat.le_refl _, fun _ _ hpre => hpre⟩
  · split at h
    · cases h
    · exact ⟨_, _, _, _, h, Nat.le_refl _, fun _ _ hpre => hpre.pushGroup _⟩
  · split at h
    · exact ⟨_, _, _, _, h, Nat.le_refl _, fun _ _ hpre => hpre.push _⟩
    · exact ⟨_, _, _, _, h, Nat.le_refl _, fun _ _ hpre => hpre⟩
  · split at h
    · cases h
    · exact ⟨_, _, _, _, h, Nat.le_succ _, fun _ _ hpre => hpre.push _⟩
  · exact ⟨_, _, _, _, h, Nat.le_refl _, fun _ _ hpre => hpre.push _⟩

/-- Nor does reading a pattern to its end. -/
theorem anchored_of_parseFrom (hslash : EndsInSlash pre) {ts : List Token}
    (hanchored : Anchored pre (outermost groups tokens)) (hfuel : s.length < fuel)
    (h : parseFrom fuel before groups tokens s = .ok ts) : Anchored pre ts.reverse := by
  induction fuel generalizing before groups tokens s with
  | zero => cases hfuel
  | succ fuel ih =>
    cases s with
    | nil =>
      cases groups with
      | nil =>
        cases h
        rw [List.reverse_reverse]
        exact hanchored
      | cons g groups => cases h
    | cons c rest =>
      obtain ⟨before', groups', tokens', rest', h, hlength, hkeeps⟩ := parseFrom_cons h
      rw [List.length_cons] at hfuel
      exact ih (hkeeps pre hslash hanchored) (by omega) h

/-! ## Matches -/

theorem after?_eq_some_iff {a t r : List UInt8} : after? a t = some r ↔ t = a ++ r := by
  induction a generalizing t with
  | nil => simp [after?, eq_comm]
  | cons b a ih =>
    cases t with
    | nil => simp [after?]
    | cons b' t =>
      rw [after?]
      split
      · rename_i hb
        rw [ih, hb, List.cons_append, List.cons.injEq, and_iff_right rfl]
      · rename_i hb
        simp [Ne.symm hb]

theorem mem_restsOfAll_cons {t : Token} {ts : List Token} {bytes r : List UInt8} :
    r ∈ restsOfAll (t :: ts) bytes ↔ ∃ left ∈ t.rests bytes, r ∈ restsOfAll ts left := by
  simp [restsOfAll, List.mem_eraseDups]

/-- Literal tokens take their own bytes. -/
theorem exists_of_mem_restsOfAll {ts : List Token} {bytes r : List UInt8}
    (h : r ∈ restsOfAll (pre.map .literal ++ ts) bytes) :
    ∃ left, bytes = Encoding.Utf8.encode pre ++ left ∧ r ∈ restsOfAll ts left := by
  induction pre generalizing bytes with
  | nil => exact ⟨bytes, rfl, h⟩
  | cons c pre ih =>
    rw [List.map_cons, List.cons_append, mem_restsOfAll_cons] at h
    obtain ⟨left, hleft, h⟩ := h
    rw [Token.rests, Option.mem_toList, after?_eq_some_iff] at hleft
    obtain ⟨left', hleft', h⟩ := ih h
    exact ⟨left', by rw [hleft, hleft', Encoding.Utf8.encode_cons, List.append_assoc], h⟩

/-- Two stars that are a whole name ask for the slash before it. -/
theorem exists_of_mem_rests {whole : Token} (hwhole : whole = .anyMiddle ∨ whole = .anyEnd)
    {bytes left : List UInt8} (h : left ∈ whole.rests bytes) :
    ∃ more, bytes = Path.separator :: more := by
  have hslash : ∃ more, after? [Path.separator] bytes = some more := by
    refine Option.ne_none_iff_exists'.1 fun hnone => ?_
    rcases hwhole with rfl | rfl
    · rw [Token.rests, hnone] at h
      cases h
    · rw [Token.rests, hnone] at h
      cases h
  obtain ⟨more, hmore⟩ := hslash
  exact ⟨more, after?_eq_some_iff.1 hmore⟩

theorem encode_prefix_of_mem_restsOfAll {ts : List Token} (hanchored : Anchored pre ts.reverse)
    {bytes r : List UInt8} (h : r ∈ restsOfAll ts bytes) : Encoding.Utf8.encode pre <+: bytes := by
  rcases hanchored with hsuffix | ⟨init, whole, rfl, hwhole, hsuffix⟩
  · obtain ⟨more, rfl⟩ := List.reverse_suffix.1 hsuffix
    obtain ⟨left, hleft, -⟩ := exists_of_mem_restsOfAll h
    exact ⟨left, hleft.symm⟩
  · rw [← List.reverse_concat, List.reverse_suffix] at hsuffix
    obtain ⟨more, rfl⟩ := hsuffix
    rw [List.append_assoc] at h
    obtain ⟨left, hleft, h⟩ := exists_of_mem_restsOfAll h
    obtain ⟨_, hwholeleft, -⟩ := mem_restsOfAll_cons.1 h
    obtain ⟨more', rfl⟩ := exists_of_mem_rests hwhole hwholeleft
    refine ⟨more', ?_⟩
    rw [hleft, Encoding.Utf8.encode, List.flatMap_append, List.append_assoc]
    rfl

theorem encode_prefix_of_anchored {ts : List Token} (hanchored : Anchored pre ts.reverse)
    {bytes : List UInt8} (h : Pattern.matches ts bytes = true) :
    Encoding.Utf8.encode pre <+: bytes := by
  unfold Pattern.matches at h
  split at h
  · rw [hanchored.eq_nil]
    exact List.nil_prefix
  · rw [List.contains_iff_mem] at h
    exact encode_prefix_of_mem_restsOfAll hanchored h

/-- Whatever a pattern stands for starts as the pattern does, up to a slash before the first
wildcard. -/
theorem encode_prefix_of_matches {pattern : String} {ts : List Token}
    (hpattern : pattern.toList = pre ++ rest) (hpre : ∀ c ∈ pre, IsFixed c)
    (hslash : EndsInSlash pre) (hparse : parse pattern = .ok ts) {bytes : List UInt8}
    (h : Pattern.matches ts bytes = true) : Encoding.Utf8.encode pre <+: bytes := by
  have hread : parseFrom (pattern.length + 1) none [] [] pattern.toList = .ok ts := by
    rw [parse] at hparse
    rcases hresult : parseFrom (pattern.length + 1) none [] [] pattern.toList with fault | ts'
    · rw [hresult] at hparse
      cases hparse
    · rw [hresult] at hparse
      cases hparse
      rfl
  have hlength : pattern.length + 1 = rest.length + 1 + pre.length := by
    rw [← String.length_toList, hpattern, List.length_append]
    omega
  rw [hlength, hpattern] at hread
  obtain ⟨before, hrest⟩ := parseFrom_of_isFixed hpre hread
  refine encode_prefix_of_anchored (anchored_of_parseFrom hslash ?_ (Nat.lt_succ_self _) hrest) h
  rw [List.append_nil]
  exact .inl (List.suffix_refl _)

end Codemod.Glob
