import Codemod.Proofs.Json.Table
import Codemod.Proofs.Number.Decimal

set_option autoImplicit false

/-! # Values, written and read

The text of a value without blanks is read as that value (`parse?_render`), as long as its numbers
are whole and some word holds them (`Json.IsExact`). The reader takes one unit of fuel for each step
down, and each step takes a character of the text away, so the length of the text is enough. -/

namespace Codemod

/-- A whole number that a word holds. -/
def JsonNumber.IsExact : JsonNumber → Prop
  | .natural n => n < 2 ^ 64
  | .negative n => 0 < n ∧ n ≤ 2 ^ 63
  | .double _ => False

namespace Json

open Codemod.Json.Parser

/-- A value in which all numbers are exact. -/
inductive IsExact : Json → Prop where
  | null : IsExact .null
  | bool (b : Bool) : IsExact (.bool b)
  | number {n : JsonNumber} (h : n.IsExact) : IsExact (.number n)
  | string (s : String) : IsExact (.string s)
  | array {items : List Json} (h : ∀ j ∈ items, IsExact j) : IsExact (.array items)
  | object {members : List (String × Json)} (h : ∀ m ∈ members, IsExact m.2) :
    IsExact (.object members)

/-- What may come after a number: nothing that it could go on with. -/
def EndsNumber (rest : List Char) : Prop :=
  ∀ c ∈ rest.head?, Numeral.isDigit c = false ∧ c ≠ '.' ∧ c ≠ 'e' ∧ c ≠ 'E'

theorem EndsNumber.cons {c : Char} (rest : List Char)
    (h : Numeral.isDigit c = false ∧ c ≠ '.' ∧ c ≠ 'e' ∧ c ≠ 'E') : EndsNumber (c :: rest) := by
  intro c' hc'
  cases hc'
  exact h

/-! ## Numbers -/

theorem digits_append {ds rest : List Char} (hds : ∀ c ∈ ds, Numeral.isDigit c = true)
    (hrest : EndsNumber rest) : digits (ds ++ rest) = (ds, rest) := by
  have hstop : rest.takeWhile Numeral.isDigit = [] ∧ rest.dropWhile Numeral.isDigit = rest := by
    cases rest with
    | nil => exact ⟨rfl, rfl⟩
    | cons c rest =>
      have hc := (hrest c rfl).1
      exact ⟨List.takeWhile_cons_of_neg (by simp [hc]), List.dropWhile_cons_of_neg (by simp [hc])⟩
  rw [digits, List.takeWhile_append_of_pos hds, List.dropWhile_append_of_pos hds, hstop.1, hstop.2,
    List.append_nil]

theorem exponent?_of_endsNumber {rest : List Char} (h : EndsNumber rest) :
    exponent? rest = some (0, rest) := by
  cases rest with
  | nil => rfl
  | cons c rest =>
    obtain ⟨-, -, hlower, hupper⟩ := h c rfl
    exact if_neg (by simp [hlower, hupper])

/-- The digits of a number have no zero in front. -/
theorem not_leadingZero (n : Nat) :
    ¬ (1 < (toString n).toList.length ∧ (toString n).toList.head? = some '0') := by
  rintro ⟨hlength, hhead⟩
  obtain rfl := Numeral.eq_zero_of_head?_toString hhead
  exact absurd hlength (by decide)

/-- A number starts with its sign, and the digits of its magnitude come next. -/
theorem numberText_sign {n : JsonNumber} (hn : n.IsExact) (rest : List Char) :
    ∃ negative magnitude,
      (match numberText n ++ rest with
        | '-' :: r => (true, r)
        | r => (false, r)) = (negative, (toString magnitude).toList ++ rest) ∧
      if negative then n = .negative magnitude ∧ 0 < magnitude ∧ magnitude ≤ 2 ^ 63
      else n = .natural magnitude ∧ magnitude < 2 ^ 64 := by
  cases n with
  | double x => cases hn
  | negative m => exact ⟨true, m, rfl, rfl, hn⟩
  | natural m =>
    refine ⟨false, m, ?_, rfl, hn⟩
    obtain ⟨hne, hdigits⟩ := Numeral.isDigits_toString m
    rw [numberText]
    obtain ⟨c, ds, hds⟩ := List.exists_cons_of_ne_nil hne
    have hc : c ≠ '-' := by
      rintro rfl
      exact absurd (hdigits '-' (hds ▸ List.mem_cons_self)) (by decide)
    rw [hds, List.cons_append]
    split
    · rename_i h
      exact absurd (List.cons.inj h).1 hc
    · rfl

/-- A number is read up to its end. -/
theorem number?_numberText {n : JsonNumber} (hn : n.IsExact) {rest : List Char}
    (hrest : EndsNumber rest) : number? (numberText n ++ rest) = some (n, rest) := by
  obtain ⟨negative, m, hsign, hn⟩ := numberText_sign hn rest
  have hdigits := Numeral.isDigits_toString m
  have hwhole : ¬ ((toString m).toList.isEmpty = true ∨
      1 < (toString m).toList.length ∧ (toString m).toList.head? = some '0') := by
    rw [not_or, List.isEmpty_iff]
    exact ⟨hdigits.1, not_leadingZero m⟩
  -- The sign is taken off first; what comes after it is the same for both kinds of numbers.
  unfold number?
  split
  rename_i heq
  cases heq.symm.trans hsign
  simp only [digits_append hdigits.2 hrest, Option.bind_eq_bind, if_neg hwhole]
  split
  · exact absurd rfl (hrest '.' rfl).2.1
  · simp only [Option.bind_some, exponent?_of_endsNumber hrest, Numeral.value_toString]
    have hscientific : ∀ c more, rest = c :: more → (c == 'e' || c == 'E') = false := by
      rintro c more rfl
      obtain ⟨-, -, hlower, hupper⟩ := hrest c rfl
      simp [hlower, hupper]
    cases negative with
    | true =>
      obtain ⟨rfl, hpos, hfits⟩ := hn
      have hfits : m ≤ 0x8000000000000000 := hfits
      cases rest with
      | nil => simp [hpos, hfits]
      | cons c more => simp [hpos, hfits, hscientific c more rfl]
    | false =>
      obtain ⟨rfl, hfits⟩ := hn
      have hfits : m < 0x10000000000000000 := hfits
      cases rest with
      | nil => simp [hfits]
      | cons c more => simp [hfits, hscientific c more rfl]

/-! ## Values -/

/-- A value is read from its text and nothing after it, with as much fuel as the text is long. -/
def Reads (j : Json) : Prop :=
  ∀ fuel rest, j.render.length ≤ fuel → EndsNumber rest →
    value? fuel (j.render ++ rest) = some (j, rest)

/-- A text starts with no blank, and not as what ends a list. -/
def Starts (s : List Char) : Prop :=
  ∃ c more, s = c :: more ∧ isBlank c = false ∧ c ≠ ']'

theorem starts_numberText {n : JsonNumber} (hn : n.IsExact) :
    ∃ c more, numberText n = c :: more ∧ (c = '-' ∨ Numeral.isDigit c = true) := by
  cases n with
  | double x => cases hn
  | negative m => exact ⟨'-', _, rfl, .inl rfl⟩
  | natural m =>
    obtain ⟨hne, hdigits⟩ := Numeral.isDigits_toString m
    obtain ⟨c, more, hmore⟩ := List.exists_cons_of_ne_nil hne
    exact ⟨c, more, hmore, .inr (hdigits c (hmore ▸ List.mem_cons_self))⟩

theorem ne_of_sign_or_digit {c d : Char} (hc : c = '-' ∨ Numeral.isDigit c = true) (hsign : d ≠ '-')
    (hdigit : Numeral.isDigit d = false) : c ≠ d := by
  rintro rfl
  rcases hc with rfl | hc
  · exact hsign rfl
  · rw [hdigit] at hc
    cases hc

theorem isBlank_of_sign_or_digit {c : Char} (hc : c = '-' ∨ Numeral.isDigit c = true) :
    isBlank c = false := by
  have hne : ∀ d ∈ [' ', '\n', '\t', '\r'], c ≠ d := by
    have hnone : ∀ d ∈ [' ', '\n', '\t', '\r'], d ≠ '-' ∧ Numeral.isDigit d = false :=
      Text.forall_mem_of_all (by decide)
    exact fun d hd => ne_of_sign_or_digit hc (hnone d hd).1 (hnone d hd).2
  simp [isBlank, hne]

/-- What a digit or a sign starts is a number. -/
theorem value?_number {c : Char} (hc : c = '-' ∨ Numeral.isDigit c = true) (fuel : Nat)
    (s : List Char) :
    value? (fuel + 1) (c :: s) = (number? (c :: s)).map fun (n, r) => (.number n, r) := by
  rw [value?, skip_of_not_isBlank (isBlank_of_sign_or_digit hc)]
  split
  all_goals rename_i heq
  all_goals first
    | rfl
    | exact absurd (List.cons.inj heq).1 (ne_of_sign_or_digit hc (by decide) (by decide))

theorem IsExact.starts {j : Json} (h : j.IsExact) : Starts j.render := by
  cases h with
  | null => exact ⟨'n', _, rfl, by decide, by decide⟩
  | bool b => cases b <;> exact ⟨_, _, rfl, by decide, by decide⟩
  | number hn =>
    obtain ⟨c, more, hmore, hc⟩ := starts_numberText hn
    exact ⟨c, more, hmore, isBlank_of_sign_or_digit hc,
      ne_of_sign_or_digit hc (by decide) (by decide)⟩
  | string s => exact ⟨'"', _, rfl, by decide, by decide⟩
  | array => exact ⟨'[', _, rfl, by decide, by decide⟩
  | object => exact ⟨'\x7b', _, rfl, by decide, by decide⟩

theorem Starts.append {s : List Char} (h : Starts s) (rest : List Char) : Starts (s ++ rest) := by
  obtain ⟨c, more, rfl, hc⟩ := h
  exact ⟨c, more ++ rest, rfl, hc⟩

/-! ## Lists -/

theorem value?_items {s : List Char} (h : Starts s) (fuel : Nat) :
    value? (fuel + 1) ('[' :: s) = (items? fuel s).map fun (js, r) => (.array js, r) := by
  obtain ⟨c, more, rfl, hblank, hc⟩ := h
  rw [value?, skip_of_not_isBlank (by decide)]
  simp only [skip_of_not_isBlank hblank]
  split
  · rename_i heq
    exact absurd (List.cons.inj heq).1 hc
  · rfl

theorem renderItems_cons (j : Json) {items : List Json} (hne : items ≠ []) :
    renderItems (j :: items) = j.render ++ ',' :: renderItems items := by
  obtain ⟨j', items, rfl⟩ := List.exists_cons_of_ne_nil hne
  rfl

theorem Starts.renderItems {j : Json} (h : Starts j.render) (items : List Json) :
    Starts (Json.renderItems (j :: items)) := by
  cases items with
  | nil => exact h
  | cons j' items => exact h.append _

/-- Items with commas between them are read up to the closing bracket. -/
theorem items?_renderItems {items : List Json} (hne : items ≠ []) (h : ∀ j ∈ items, Reads j)
    {fuel : Nat} (hfuel : (renderItems items).length < fuel) (rest : List Char) :
    items? fuel (renderItems items ++ ']' :: rest) = some (items, rest) := by
  induction items generalizing fuel with
  | nil => exact absurd rfl hne
  | cons j items ih =>
    obtain ⟨hj, hitems⟩ := List.forall_mem_cons.mp h
    -- One unit goes to this step; its item and the items after it are both shorter than the rest.
    obtain ⟨fuel, rfl⟩ : ∃ n, fuel = n + 1 := ⟨fuel - 1, by omega⟩
    by_cases hlast : items = []
    · subst hlast
      have hlength : j.render.length < fuel + 1 := hfuel
      have hread := hj fuel (']' :: rest) (by omega) (.cons rest (by decide))
      have hone : renderItems [j] = j.render := rfl
      rw [hone, items?, hread]
      rfl
    · rw [renderItems_cons j hlast, List.length_append, List.length_cons] at hfuel
      have hread := hj fuel (',' :: (renderItems items ++ ']' :: rest)) (by omega)
        (.cons _ (by decide))
      rw [renderItems_cons j hlast, List.append_assoc, List.cons_append, items?, hread]
      simp only [Option.bind_eq_bind, Option.bind_some,
        skip_of_not_isBlank (by decide : isBlank ',' = false),
        ih hlast hitems (by omega : (renderItems items).length < fuel), Option.map_some]

theorem Reads.array {items : List Json} (hstarts : ∀ j ∈ items, Starts j.render)
    (h : ∀ j ∈ items, Reads j) : Reads (.array items) := by
  intro fuel rest hfuel _
  have htext : (Json.array items).render = '[' :: (renderItems items ++ [']']) := rfl
  rw [htext, List.length_cons, List.length_append] at hfuel
  obtain ⟨fuel, rfl⟩ : ∃ n, fuel = n + 1 := ⟨fuel - 1, by omega⟩
  rw [htext, List.cons_append, List.append_assoc]
  cases items with
  | nil => rfl
  | cons j items =>
    have hj := (hstarts j List.mem_cons_self).renderItems items
    have hlength : (renderItems (j :: items)).length < fuel := by
      simp only [List.length_singleton] at hfuel
      omega
    rw [value?_items (hj.append _), List.singleton_append,
      items?_renderItems (List.cons_ne_nil j items) h hlength rest]
    rfl

/-! ## Objects -/

theorem renderMembers_cons (name : String) (j : Json) {members : List (String × Json)}
    (hne : members ≠ []) :
    renderMembers ((name, j) :: members) =
      stringText name ++ ':' :: j.render ++ ',' :: renderMembers members := by
  obtain ⟨m, members, rfl⟩ := List.exists_cons_of_ne_nil hne
  rfl

/-- A member is read up to what comes after its value. -/
theorem members?_member {j : Json} {fuel : Nat} {after : List Char} (name : String)
    (h : value? fuel (j.render ++ after) = some (j, after)) :
    members? (fuel + 1) (stringText name ++ ':' :: (j.render ++ after)) =
      match skip after with
      | ',' :: rest => (members? fuel rest).map fun (ms, r) => ((name, j) :: ms, r)
      | '\x7d' :: rest => some ([(name, j)], rest)
      | _ => none := by
  rw [members?, stringText_append, skip_of_not_isBlank (by decide)]
  simp only [stringBody_length, Option.bind_eq_bind, Option.bind_some,
    skip_of_not_isBlank (by decide : isBlank ':' = false), h, String.ofList_toList] <;> rfl

/-- Members with commas between them are read up to the closing brace. -/
theorem members?_renderMembers {members : List (String × Json)} (hne : members ≠ [])
    (h : ∀ m ∈ members, Reads m.2) {fuel : Nat} (hfuel : (renderMembers members).length < fuel)
    (rest : List Char) :
    members? fuel (renderMembers members ++ '\x7d' :: rest) = some (members, rest) := by
  induction members generalizing fuel with
  | nil => exact absurd rfl hne
  | cons m members ih =>
    obtain ⟨name, j⟩ := m
    obtain ⟨hj, hmembers⟩ := List.forall_mem_cons.mp h
    have hj : Reads j := hj
    obtain ⟨fuel, rfl⟩ : ∃ n, fuel = n + 1 := ⟨fuel - 1, by omega⟩
    by_cases hlast : members = []
    · subst hlast
      have hone : renderMembers [(name, j)] = stringText name ++ ':' :: j.render := rfl
      rw [hone, List.length_append, List.length_cons] at hfuel
      have hread := hj fuel ('\x7d' :: rest) (by omega) (.cons rest (by decide))
      rw [hone, List.append_assoc, List.cons_append, members?_member name hread,
        skip_of_not_isBlank (by decide)]
      rfl
    · rw [renderMembers_cons name j hlast, List.length_append, List.length_append, List.length_cons,
        List.length_cons] at hfuel
      have hread := hj fuel (',' :: (renderMembers members ++ '\x7d' :: rest)) (by omega)
        (.cons _ (by decide))
      rw [renderMembers_cons name j hlast, List.append_assoc, List.append_assoc, List.cons_append,
        List.cons_append, members?_member name hread, skip_of_not_isBlank (by decide)]
      simp only [ih hlast hmembers (by omega : (renderMembers members).length < fuel), Option.map_some]

theorem Reads.object {members : List (String × Json)} (h : ∀ m ∈ members, Reads m.2) :
    Reads (.object members) := by
  intro fuel rest hfuel _
  have htext : (Json.object members).render = '\x7b' :: (renderMembers members ++ ['\x7d']) := rfl
  rw [htext, List.length_cons, List.length_append] at hfuel
  obtain ⟨fuel, rfl⟩ : ∃ n, fuel = n + 1 := ⟨fuel - 1, by omega⟩
  rw [htext, List.cons_append, List.append_assoc]
  cases members with
  | nil => rfl
  | cons m members =>
    have hquote : ∃ r, skip (renderMembers (m :: members) ++ ('\x7d' :: rest)) = '"' :: r := by
      cases members <;> exact ⟨_, skip_of_not_isBlank (by decide) _⟩
    obtain ⟨r, hr⟩ := hquote
    have hlength : (renderMembers (m :: members)).length < fuel := by
      simp only [List.length_singleton] at hfuel
      omega
    rw [List.singleton_append, value?_members fuel hr,
      members?_renderMembers (List.cons_ne_nil m members) h hlength rest]
    rfl

/-! ## Any value -/

/-- A text that starts somehow is not empty, so there is fuel for it. -/
theorem Reads.of_starts {j : Json} (hstarts : Starts j.render)
    (h : ∀ fuel rest, EndsNumber rest →
      value? (fuel + 1) (j.render ++ rest) = some (j, rest)) : Reads j := by
  intro fuel rest hfuel hrest
  obtain ⟨c, more, htext, -⟩ := hstarts
  rw [htext, List.length_cons] at hfuel
  obtain ⟨fuel, rfl⟩ : ∃ n, fuel = n + 1 := ⟨fuel - 1, by omega⟩
  exact h fuel rest hrest

theorem IsExact.reads {j : Json} (h : j.IsExact) : Reads j := by
  induction h with
  | null => exact .of_starts IsExact.null.starts fun _ _ _ => rfl
  | bool b =>
    refine .of_starts (IsExact.bool b).starts fun _ _ _ => ?_
    cases b <;> rfl
  | @number n hn =>
    refine .of_starts (IsExact.number hn).starts fun fuel rest hrest => ?_
    obtain ⟨c, more, htext, hc⟩ := starts_numberText hn
    have hread := number?_numberText hn hrest
    rw [htext, List.cons_append] at hread
    rw [render, htext, List.cons_append, value?_number hc, hread]
    rfl
  | string s =>
    refine .of_starts (IsExact.string s).starts fun fuel rest _ => ?_
    rw [render, stringText_append, value?, skip_of_not_isBlank (by decide)]
    simp only [stringBody_length, Option.map_some, String.ofList_toList]
  | array h ih => exact .array (fun j hj => (h j hj).starts) ih
  | object _ ih => exact .object ih

/-- The text of an exact value is read as that value. -/
theorem parse?_render {j : Json} (h : j.IsExact) : parse? j.render = some j := by
  have hread := h.reads (2 * j.render.length + 2) [] (by omega) (fun _ hc => nomatch hc)
  rw [List.append_nil] at hread
  rw [parse?, hread]
  rfl

end Json

end Codemod
