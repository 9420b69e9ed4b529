import Codemod.Config.Notation

set_option autoImplicit false

/-! # Strings in variables

What stands between double quotes, and the text that it denotes (`Literal`), said apart from the
reader, which looks for the closing quote first and reads the escapes afterwards. The two agree
(`string?_eq_some_iff`): no escape has a quote or a backslash in it that could be taken for more than
its first character. -/

namespace Codemod.Config.Notation

/-! ## Escapes -/

/-- The letters that may follow a backslash, with the characters that they stand for. -/
def letters : List (Char × Char) :=
  [('b', '\x08'), ('t', '\t'), ('n', '\n'), ('f', '\x0c'), ('r', '\r'), ('"', '"'), ('\\', '\\')]

/-- What may follow a backslash, and the character that it stands for: a letter, or the code point in
four or eight hexadecimal digits. -/
inductive Escape : List Char → Char → Prop where
  | letter {x c : Char} (h : (x, c) ∈ letters) : Escape [x] c
  | short {digits : List Char} {c : Char} (hlength : digits.length = 4)
    (h : Toml.codePoint? digits = some c) : Escape ('u' :: digits) c
  | long {digits : List Char} {c : Char} (hlength : digits.length = 8)
    (h : Toml.codePoint? digits = some c) : Escape ('U' :: digits) c

theorem escape?_of_mem_letters {x c : Char} (h : (x, c) ∈ letters) (rest : List Char) :
    Toml.escape? (x :: rest) = some (c, rest) := by
  simp only [letters, List.mem_cons, Prod.mk.injEq, List.not_mem_nil, or_false] at h
  rcases h with h | h | h | h | h | h | h <;> obtain ⟨rfl, rfl⟩ := h <;> rfl

/-- An escape is read up to its end. -/
theorem Escape.escape? {e : List Char} {c : Char} (h : Escape e c) (rest : List Char) :
    Toml.escape? (e ++ rest) = some (c, rest) := by
  cases h with
  | letter h => exact escape?_of_mem_letters h rest
  | @short digits c hlength h =>
    rw [List.cons_append, Toml.escape?, if_neg (by rw [List.length_append]; omega),
      List.take_left' hlength, List.drop_left' hlength, h]
    rfl
  | @long digits c hlength h =>
    rw [List.cons_append, Toml.escape?, if_neg (by rw [List.length_append]; omega),
      List.take_left' hlength, List.drop_left' hlength, h]
    rfl

/-- Nothing else is read as an escape. -/
theorem exists_escape_of_escape? {s rest : List Char} {c : Char}
    (h : Toml.escape? s = some (c, rest)) : ∃ e, s = e ++ rest ∧ Escape e c := by
  unfold Toml.escape? at h
  split at h
  case h_8 digits =>
    split at h
    case isTrue => cases h
    case isFalse hlength =>
      obtain ⟨c, hpoint, heq⟩ := Option.map_eq_some_iff.mp h
      cases heq
      refine ⟨'u' :: digits.take 4, ?_, .short (List.length_take_of_le (Nat.not_lt.mp hlength)) hpoint⟩
      rw [List.cons_append, List.take_append_drop]
  case h_9 digits =>
    split at h
    case isTrue => cases h
    case isFalse hlength =>
      obtain ⟨c, hpoint, heq⟩ := Option.map_eq_some_iff.mp h
      cases heq
      refine ⟨'U' :: digits.take 8, ?_, .long (List.length_take_of_le (Nat.not_lt.mp hlength)) hpoint⟩
      rw [List.cons_append, List.take_append_drop]
  case h_10 => cases h
  all_goals
    cases h
    exact ⟨[_], rfl, .letter (by decide)⟩

/-! ## Strings -/

/-- What stands between double quotes, and the text that it denotes. -/
inductive Literal : List Char → List Char → Prop where
  | nil : Literal [] []
  | plain {c : Char} {inner t : List Char} (hc : Toml.isPlain c = true) (h : Literal inner t) :
    Literal (c :: inner) (c :: t)
  | escape {e inner t : List Char} {c : Char} (he : Escape e c) (h : Literal inner t) :
    Literal ('\\' :: (e ++ inner)) (c :: t)

/-- The search for the closing quote passes over plain characters. -/
theorem quotedEnd?_cons {c : Char} (hquote : c ≠ '"') (hslash : c ≠ '\\') (s : List Char) :
    quotedEnd? (c :: s) = (quotedEnd? s).map fun p => (c :: p.1, p.2) := by
  rw [quotedEnd?.eq_def]
  split
  · rename_i h
    cases h
  · rename_i h
    cases h
    exact absurd rfl hquote
  · rename_i h
    cases h
    exact absurd rfl hslash
  · rename_i h
    cases h
    rfl

theorem quotedEnd?_append {ds : List Char} (hds : ∀ d ∈ ds, d ≠ '"' ∧ d ≠ '\\') (s : List Char) :
    quotedEnd? (ds ++ s) = (quotedEnd? s).map fun p => (ds ++ p.1, p.2) := by
  induction ds with
  | nil => simp
  | cons d ds ih =>
    obtain ⟨⟨hquote, hslash⟩, hds⟩ := List.forall_mem_cons.mp hds
    rw [List.cons_append, quotedEnd?_cons hquote hslash, ih hds, Option.map_map]
    rfl

theorem quotedEnd?_escaped (c : Char) (s : List Char) :
    quotedEnd? ('\\' :: c :: s) = (quotedEnd? s).map fun p => ('\\' :: c :: p.1, p.2) := rfl

/-- A hexadecimal digit is neither a quote nor a backslash. -/
theorem forall_of_codePoint? {digits : List Char} {c : Char} (h : Toml.codePoint? digits = some c) :
    ∀ d ∈ digits, d ≠ '"' ∧ d ≠ '\\' := by
  obtain ⟨n, hn, -⟩ := Option.bind_eq_some_iff.mp h
  have hdigits : ∀ (ds : List Char) (m n : Nat),
      ds.foldlM (fun n d => do some (16 * n + (← Numeral.hexDigit? d))) m = some n →
        ∀ d ∈ ds, ∃ v, Numeral.hexDigit? d = some v := by
    intro ds
    induction ds with
    | nil => exact fun _ _ _ d hd => nomatch hd
    | cons d ds ih =>
      intro m n hfold
      rw [List.foldlM_cons] at hfold
      obtain ⟨k, hk, hrest⟩ := Option.bind_eq_some_iff.mp hfold
      obtain ⟨v, hv, -⟩ := Option.bind_eq_some_iff.mp hk
      exact List.forall_mem_cons.mpr ⟨⟨v, hv⟩, ih k n hrest⟩
  intro d hd
  obtain ⟨v, hv⟩ := hdigits digits 0 n hn d hd
  constructor
  · rintro rfl
    cases hv
  · rintro rfl
    cases hv

/-- The search for the closing quote passes over escapes. -/
theorem Escape.quotedEnd? {e : List Char} {c : Char} (h : Escape e c) (s : List Char) :
    quotedEnd? ('\\' :: (e ++ s)) = (quotedEnd? s).map fun p => ('\\' :: (e ++ p.1), p.2) := by
  cases h with
  | letter => rfl
  | short _ h =>
    rw [List.cons_append, quotedEnd?_escaped, quotedEnd?_append (forall_of_codePoint? h),
      Option.map_map]
    rfl
  | long _ h =>
    rw [List.cons_append, quotedEnd?_escaped, quotedEnd?_append (forall_of_codePoint? h),
      Option.map_map]
    rfl

theorem unescape?_plain {c : Char} (hc : Toml.isPlain c = true) (fuel : Nat) (s : List Char) :
    unescape? (fuel + 1) (c :: s) = (unescape? fuel s).map (c :: ·) := by
  simp only [Toml.isPlain, Bool.and_eq_true, bne_iff_ne] at hc
  obtain ⟨⟨htext, hquote⟩, hslash⟩ := hc
  rw [unescape?]
  · rw [if_pos htext]
  · exact hslash

theorem Literal.quotedEnd? {inner t : List Char} (h : Literal inner t) (rest : List Char) :
    quotedEnd? (inner ++ '"' :: rest) = some (inner, rest) := by
  induction h with
  | nil => rfl
  | @plain c inner t hc _ ih =>
    simp only [Toml.isPlain, Bool.and_eq_true, bne_iff_ne] at hc
    rw [List.cons_append, quotedEnd?_cons hc.1.2 hc.2, ih]
    rfl
  | @escape e inner t c he _ ih =>
    rw [List.cons_append, List.append_assoc, he.quotedEnd?, ih]
    rfl

theorem Literal.unescape? {inner t : List Char} (h : Literal inner t) {fuel : Nat}
    (hfuel : inner.length < fuel) : unescape? fuel inner = some t := by
  induction h generalizing fuel with
  | nil =>
    obtain ⟨fuel, rfl⟩ := Nat.exists_eq_add_of_lt hfuel
    rfl
  | @plain c inner t hc _ ih =>
    rw [List.length_cons] at hfuel
    obtain ⟨fuel, rfl⟩ : ∃ n, fuel = n + 1 := ⟨fuel - 1, by omega⟩
    rw [unescape?_plain hc, ih (by omega)]
    rfl
  | @escape e inner t c he _ ih =>
    rw [List.length_cons, List.length_append] at hfuel
    obtain ⟨fuel, rfl⟩ : ∃ n, fuel = n + 1 := ⟨fuel - 1, by omega⟩
    rw [Notation.unescape?, he.escape?]
    simp only [Option.bind_eq_bind, Option.bind_some, ih (by omega : inner.length < fuel)]
    rfl

/-- A string is read up to its closing quote. -/
theorem Literal.string? {inner t : List Char} (h : Literal inner t) (rest : List Char) :
    string? (inner ++ '"' :: rest) = some (t, rest) := by
  rw [Notation.string?, h.quotedEnd?]
  simp only [Option.bind_eq_bind, Option.bind_some, h.unescape? (Nat.lt_succ_self _)]

/-- What the search for the closing quote passes over stands before it. -/
theorem eq_append_of_quotedEnd? {s inner rest : List Char} (h : quotedEnd? s = some (inner, rest)) :
    s = inner ++ '"' :: rest := by
  induction s using quotedEnd?.induct generalizing inner with
  | case1 => cases h
  | case2 => cases h; rfl
  | case3 c s ih =>
    rw [quotedEnd?_escaped] at h
    obtain ⟨p, hp, heq⟩ := Option.map_eq_some_iff.mp h
    cases heq
    rw [ih hp]
    rfl
  | case4 c s hquote hslash ih =>
    rw [Notation.quotedEnd?] at h
    · obtain ⟨p, hp, heq⟩ := Option.map_eq_some_iff.mp h
      cases heq
      rw [ih hp]
      rfl
    · exact hquote
    · exact hslash

/-- What is read with no quote in it that is not escaped is the inside of a string. -/
theorem literal_of_unescape? {fuel : Nat} {inner t rest : List Char}
    (hend : quotedEnd? (inner ++ '"' :: rest) = some (inner, rest))
    (h : unescape? fuel inner = some t) : Literal inner t := by
  induction fuel generalizing inner t with
  | zero => cases h
  | succ fuel ih =>
    unfold Notation.unescape? at h
    split at h
    case h_1 hfuel => cases hfuel
    case h_2 =>
      cases h
      exact .nil
    case h_3 fuel' escaped hfuel =>
      cases hfuel
      obtain ⟨⟨c, more⟩, hescape, h⟩ := Option.bind_eq_some_iff.mp h
      obtain ⟨t, htext, heq⟩ := Option.bind_eq_some_iff.mp h
      cases heq
      obtain ⟨e, rfl, he⟩ := exists_escape_of_escape? hescape
      -- The search passes over the escape, so it still ends at the same quote.
      refine .escape he (ih ?_ htext)
      rw [List.cons_append, List.append_assoc, he.quotedEnd?] at hend
      obtain ⟨⟨inner, after⟩, hp, heq⟩ := Option.map_eq_some_iff.mp hend
      simp only [Prod.mk.injEq, List.cons.injEq, List.append_cancel_left_eq, true_and] at heq
      obtain ⟨rfl, rfl⟩ := heq
      exact hp
    case h_4 fuel' c more hslash hfuel =>
      cases hfuel
      -- A quote would have ended the search right here.
      have hquote : c ≠ '"' := by
        rintro rfl
        cases hend
      rw [List.cons_append, quotedEnd?_cons hquote hslash] at hend
      obtain ⟨⟨inner, after⟩, hp, heq⟩ := Option.map_eq_some_iff.mp hend
      cases heq
      split at h
      case isTrue htext =>
        obtain ⟨t, ht, rfl⟩ := Option.map_eq_some_iff.mp h
        have hslash : c ≠ '\\' := hslash
        refine .plain ?_ (ih hp ht)
        simp [Toml.isPlain, htext, hquote, hslash]
      case isFalse => cases h

/-- What is read as a string after its first quote is what it denotes, and its closing quote. -/
theorem string?_eq_some_iff {s t rest : List Char} :
    string? s = some (t, rest) ↔ ∃ inner, s = inner ++ '"' :: rest ∧ Literal inner t := by
  constructor
  · intro h
    obtain ⟨⟨inner, rest'⟩, hend, h⟩ := Option.bind_eq_some_iff.mp h
    obtain ⟨t', htext, heq⟩ := Option.bind_eq_some_iff.mp h
    cases heq
    have heq := eq_append_of_quotedEnd? hend
    rw [heq] at hend
    exact ⟨inner, heq, literal_of_unescape? hend htext⟩
  · rintro ⟨inner, rfl, h⟩
    exact h.string? rest

end Codemod.Config.Notation
