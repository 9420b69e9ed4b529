import Codemod.Uuid
import Mathlib.Algebra.GroupWithZero.Nat
import Mathlib.Data.Finset.Card
import Mathlib.Data.List.Nodup

set_option autoImplicit false

/-! # Generated names are different

Whatever the source delivers, a generator hands out no name that it has handed out before
(`not_mem_used_of_next?`), so the names that it hands out one after another are all different
(`nodup_of_take?`). It passes over no other identifier (`next?_eq_some_iff`), and an identifier can
be told from its text, with dashes and without (`text_inj`), so there are as many names to be had
as the source has different identifiers (`names_never_repeat`). -/

namespace Codemod.Uuid

/-! ## Texts -/

theorem length_digits (u : Uuid) : u.digits.length = 32 := by
  rw [digits, List.length_map, List.length_range]

theorem hexDigit_inj {m n : Nat} (hm : m < 16) (hn : n < 16)
    (h : Numeral.hexDigit m = Numeral.hexDigit n) : m = n := by
  have hall : ∀ m n : Fin 16, Numeral.hexDigit m = Numeral.hexDigit n → m = n := by decide
  exact congrArg Fin.val (hall ⟨m, hm⟩ ⟨n, hn⟩ h)

/-- Numbers agree up to a power of sixteen if they have the same digits up to there. -/
theorem mod_eq_of_digits {m n k : Nat} (h : ∀ i < k, m / 16 ^ i % 16 = n / 16 ^ i % 16) :
    m % 16 ^ k = n % 16 ^ k := by
  induction k with
  | zero => rw [Nat.pow_zero, Nat.mod_one, Nat.mod_one]
  | succ k ih =>
    have hlower := ih fun i hi => h i (Nat.lt_succ_of_lt hi)
    rw [Nat.mod_pow_succ, Nat.mod_pow_succ, hlower, h k (Nat.lt_succ_self k)]

theorem digits_injective : Function.Injective digits := by
  intro u v h
  rw [digits, digits, List.map_inj_left] at h
  have hdigits : ∀ i < 32, u.value.toNat / 16 ^ i % 16 = v.value.toNat / 16 ^ i % 16 := by
    intro i hi
    have hplace := h (31 - i) (List.mem_range.mpr (by omega))
    rw [show 31 - (31 - i) = i by omega] at hplace
    exact hexDigit_inj (Nat.mod_lt _ (by decide)) (Nat.mod_lt _ (by decide)) hplace
  have hlt : ∀ w : Uuid, w.value.toNat < 16 ^ 32 := fun w => w.value.isLt
  have hmod := mod_eq_of_digits hdigits
  rw [Nat.mod_eq_of_lt (hlt u), Nat.mod_eq_of_lt (hlt v)] at hmod
  obtain ⟨a⟩ := u
  obtain ⟨b⟩ := v
  exact congrArg Uuid.mk (BitVec.eq_of_toNat_eq hmod)

theorem dash_notMem_digits (u : Uuid) : '-' ∉ u.digits := by
  have hall : ∀ n : Fin 16, Numeral.hexDigit n ≠ '-' := by decide
  intro h
  obtain ⟨i, -, hi⟩ := List.mem_map.mp h
  exact hall ⟨_, Nat.mod_lt _ (by decide)⟩ hi

/-- The digits are what is left of them between dashes when the dashes are taken away. -/
theorem filter_dashed {ns : List Nat} {ds : List Char} (h : '-' ∉ ds) :
    (dashed ns ds).filter (· != '-') = ds.take ns.sum := by
  have hall : ∀ {cs : List Char}, '-' ∉ cs → cs.filter (· != '-') = cs := by
    intro cs hcs
    refine List.filter_eq_self.mpr fun c hc => ?_
    simpa using ne_of_mem_of_not_mem hc hcs
  induction ns, ds using dashed.induct with
  | case1 ds => rfl
  | case2 n ds => simpa [dashed] using hall fun hmem => h (List.mem_of_mem_take hmem)
  | case3 n rest ds hne ih =>
    have hfirst := hall fun hmem => h (List.mem_of_mem_take (i := n) hmem)
    have hrest := ih fun hmem => h (List.mem_of_mem_drop hmem)
    rw [dashed, List.filter_append, hfirst, List.filter_cons_of_neg (by decide), hrest,
      List.sum_cons, List.take_add]
    exact hne

/-- An identifier can be told from its text in either form. -/
theorem text_inj {u v : Uuid} {dash : Bool} : u.text dash = v.text dash ↔ u = v := by
  refine ⟨fun h => digits_injective ?_, fun h => by rw [h]⟩
  have hchars := String.ofList_injective h
  cases dash with
  | false => exact hchars
  | true =>
    have hfilter := congrArg (List.filter (· != '-')) hchars
    rw [if_pos rfl, if_pos rfl, filter_dashed u.dash_notMem_digits,
      filter_dashed v.dash_notMem_digits] at hfilter
    rwa [List.take_of_length_le (by simp [length_digits, groups]),
      List.take_of_length_le (by simp [length_digits, groups])] at hfilter

end Codemod.Uuid

namespace Codemod.Uuid.Generator

variable {g g' : Generator} {source rest : List Uuid} {name : String} {names : List String}
  {n : Nat} {dash : Bool}

/-! ## Names -/

/-- The next name is new and is remembered. -/
theorem not_mem_used_of_next? (h : g.next? source = some (name, g', rest)) :
    name ∉ g.used ∧ g' = { g with used := name :: g.used } ∧ ∃ u : Uuid, name = u.text g.dash := by
  induction source with
  | nil => cases h
  | cons u source ih =>
    rw [next?] at h
    split at h
    · exact ih h
    · rename_i hnew
      cases h
      exact ⟨by simpa using hnew, rfl, u, rfl⟩

/-- The next names are new and different from each other. -/
theorem nodup_of_take? (h : g.take? n source = some (names, g', rest)) :
    names.length = n ∧ names.Nodup ∧ ∀ name ∈ names, name ∉ g.used ∧
      ∃ u : Uuid, name = u.text g.dash := by
  induction n generalizing g source names with
  | zero =>
    cases h
    exact ⟨rfl, List.nodup_nil, fun _ h => nomatch h⟩
  | succ n ih =>
    simp only [take?, Option.bind_eq_bind, Option.bind_eq_some_iff, Prod.exists] at h
    obtain ⟨name, g₁, source₁, hnext, names', g₂, source₂, htake, heq⟩ := h
    cases heq
    obtain ⟨hnew, rfl, hname⟩ := not_mem_used_of_next? hnext
    obtain ⟨hlength, hnodup, hall⟩ := ih htake
    refine ⟨by rw [List.length_cons, hlength], List.nodup_cons.2 ⟨fun hmem => ?_, hnodup⟩, ?_⟩
    · exact (hall name hmem).1 (List.mem_cons_self ..)
    · refine List.forall_mem_cons.2 ⟨⟨hnew, hname⟩, fun other hother => ?_⟩
      obtain ⟨hnot, htext⟩ := hall other hother
      exact ⟨fun hmem => hnot (List.mem_cons_of_mem _ hmem), htext⟩

/-! ## Identifiers that are passed over -/

/-- The first identifier of a source whose text is not among some names, with that text for a name,
and what is left of the source behind it. -/
def FirstNew (dash : Bool) (names : List String) (source : List Uuid) (name : String)
    (rest : List Uuid) : Prop :=
  ∃ skipped u, source = skipped ++ u :: rest ∧ (∀ v ∈ skipped, v.text dash ∈ names) ∧
    u.text dash ∉ names ∧ name = u.text dash

theorem FirstNew.cons {u : Uuid} (hu : u.text dash ∈ names)
    (h : FirstNew dash names source name rest) : FirstNew dash names (u :: source) name rest := by
  obtain ⟨skipped, v, rfl, hskipped, hnew, hname⟩ := h
  exact ⟨u :: skipped, v, rfl, List.forall_mem_cons.mpr ⟨hu, hskipped⟩, hnew, hname⟩

/-- A generator passes over what it has handed out before and over nothing else. -/
theorem next?_eq_some_iff :
    g.next? source = some (name, g', rest) ↔
      FirstNew g.dash g.used source name rest ∧ g' = { g with used := name :: g.used } := by
  constructor
  · intro h
    refine ⟨?_, (not_mem_used_of_next? h).2.1⟩
    induction source with
    | nil => cases h
    | cons u source ih =>
      rw [next?] at h
      split at h
      · rename_i hused
        exact (ih h).cons (by simpa using hused)
      · rename_i hnew
        cases h
        exact ⟨[], u, rfl, by simp, by simpa using hnew, rfl⟩
  · rintro ⟨⟨skipped, u, rfl, hskipped, hnew, rfl⟩, rfl⟩
    induction skipped with
    | nil => simp [next?, hnew]
    | cons v skipped ih =>
      obtain ⟨hv, hskipped⟩ := List.forall_mem_cons.mp hskipped
      rw [List.cons_append, next?]
      simpa [hv] using ih hskipped

/-- A generator goes on as long as the source has nothing new. -/
theorem next?_eq_none_iff : g.next? source = none ↔ ∀ u ∈ source, u.text g.dash ∈ g.used := by
  induction source with
  | nil => simp [next?]
  | cons u source ih =>
    rw [next?, List.forall_mem_cons, ← ih]
    by_cases hu : u.text g.dash ∈ g.used <;> simp [hu]

/-! ## How many names there are -/

/-- The identifiers of a source that a generator has not handed out. -/
def fresh (g : Generator) (source : List Uuid) : Finset Uuid :=
  source.toFinset.filter fun u => u.text g.dash ∉ g.used

/-- A name that is handed out is one of those that there were. -/
theorem card_fresh_of_next? (h : g.next? source = some (name, g', rest)) :
    (g.fresh source).card = (g'.fresh rest).card + 1 := by
  obtain ⟨⟨skipped, u, rfl, hskipped, hnew, rfl⟩, rfl⟩ := next?_eq_some_iff.mp h
  -- what is skipped is not fresh at all, so that the name itself is all that is lost
  rw [← Finset.card_insert_of_notMem (a := u) (by simp [fresh])]
  congr 1
  ext v
  simp only [fresh, List.toFinset_append, List.toFinset_cons, Finset.mem_filter, Finset.mem_union,
    Finset.mem_insert, List.mem_toFinset, List.mem_cons, not_or, text_inj]
  constructor
  · rintro ⟨hv | rfl | hv, hfresh⟩
    · exact absurd (hskipped v hv) hfresh
    · exact .inl rfl
    · by_cases huv : v = u
      · exact .inl huv
      · exact .inr ⟨hv, huv, hfresh⟩
  · rintro (rfl | ⟨hv, -, hfresh⟩)
    · exact ⟨.inr (.inl rfl), hnew⟩
    · exact ⟨.inr (.inr hv), hfresh⟩

theorem isSome_take?_iff : (g.take? n source).isSome ↔ n ≤ (g.fresh source).card := by
  induction n generalizing g source with
  | zero => simp [take?]
  | succ n ih =>
    rw [take?]
    cases hnext : g.next? source with
    | none =>
      have hfresh : g.fresh source = ∅ := by
        simpa [fresh, Finset.filter_eq_empty_iff] using next?_eq_none_iff.mp hnext
      simp [hfresh]
    | some answer =>
      obtain ⟨name, g', rest⟩ := answer
      rw [card_fresh_of_next? hnext, Nat.add_le_add_iff_right, ← ih]
      cases htake : g'.take? n rest <;> simp [htake]

/-- What a generator remembers is what it has handed out. -/
theorem used_of_take? (h : g.take? n source = some (names, g', rest)) :
    g' = { g with used := names.reverse ++ g.used } := by
  induction n generalizing g source names with
  | zero =>
    cases h
    rfl
  | succ n ih =>
    simp only [take?, Option.bind_eq_bind, Option.bind_eq_some_iff, Prod.exists] at h
    obtain ⟨name, g₁, source₁, hnext, names', g₂, source₂, htake, heq⟩ := h
    cases heq
    obtain ⟨-, rfl, -⟩ := not_mem_used_of_next? hnext
    simpa using ih htake

/-- A generator can be called as many times as its source has different identifiers. After any
number of calls it has handed out as many names, which are all different, and counts them, and the
next call answers with the first name of the source that is not among them. -/
theorem names_never_repeat (dash : Bool) (n : Nat) (source : List Uuid) :
    ((Generator.take? { dash } n source).isSome ↔ n ≤ source.toFinset.card) ∧
      ∀ names g rest, Generator.take? { dash } n source = some (names, g, rest) →
        names.length = n ∧ names.Nodup ∧ g.issued = n ∧
        (∀ name rest', (∃ g', g.next? rest = some (name, g', rest')) ↔
          FirstNew dash names rest name rest') ∧
        (g.next? rest = none ↔ ∀ u ∈ rest, u.text dash ∈ names) := by
  constructor
  · rw [isSome_take?_iff]
    simp [fresh]
  · intro names g rest h
    obtain ⟨hlength, hnodup, -⟩ := nodup_of_take? h
    obtain rfl := used_of_take? h
    refine ⟨hlength, hnodup, by simp [issued, hlength], fun name rest' => ?_, ?_⟩
    · simp [next?_eq_some_iff, FirstNew]
    · simp [next?_eq_none_iff]

/-- A source that delivers an identifier three times. -/
def stutteringSource : List Uuid := [⟨0⟩, ⟨0⟩, ⟨1⟩, ⟨0⟩, ⟨2⟩]

theorem names_never_repeat_stutteringSource :
    let names := [Uuid.text ⟨0⟩ true, Uuid.text ⟨1⟩ true]
    ∃ g, Generator.take? { dash := true } 2 stutteringSource = some (names, g, [⟨0⟩, ⟨2⟩]) ∧
      names.Nodup ∧ g.issued = 2 ∧ FirstNew true names [⟨0⟩, ⟨2⟩] (Uuid.text ⟨2⟩ true) [] := by
  intro names
  have htake : Generator.take? { dash := true } 2 stutteringSource =
      some (names, { dash := true, used := names.reverse }, [⟨0⟩, ⟨2⟩]) := by
    decide +kernel
  have hthird : Generator.next? { dash := true, used := names.reverse } [⟨0⟩, ⟨2⟩] =
      some (Uuid.text ⟨2⟩ true,
        { dash := true, used := Uuid.text ⟨2⟩ true :: names.reverse }, []) := by
    decide +kernel
  obtain ⟨-, hnodup, hissued, hnext, -⟩ :=
    (names_never_repeat true 2 stutteringSource).2 _ _ _ htake
  exact ⟨_, htake, hnodup, hissued, (hnext _ []).mp ⟨_, hthird⟩⟩

end Codemod.Uuid.Generator
