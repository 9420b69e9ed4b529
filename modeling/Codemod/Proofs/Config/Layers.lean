import Codemod.Config.Search
import Codemod.Proofs.Toml.Distinct

set_option autoImplicit false

/-! # Layers, key by key

What is laid over something else hides it key by key: the value of a key is that of the highest
source that gives it one, or both are tables (`Shows.over`). This goes for sources that give each key
once, as documents and environments do (`distinct_ofDocument`, `distinct_settings`). -/

namespace Codemod.Config

/-! ## Tables -/

namespace Members

variable {ms : Members} {key other : String} {value : Value}

@[simp]
theorem get?_nil (key : String) : get? [] key = none := rfl

theorem get?_cons (key other : String) (value : Value) (ms : Members) :
    get? ((key, value) :: ms) other = if key = other then some value else ms.get? other := by
  by_cases h : key = other
  · simp [get?, h]
  · simp [get?, h]

theorem get?_of_not_mem (h : key ∉ ms.map Prod.fst) : ms.get? key = none := by
  rw [get?, Option.map_eq_none_iff, List.find?_eq_none]
  intro m hm hkey
  exact h (List.mem_map.2 ⟨m, hm, beq_iff_eq.1 hkey⟩)

theorem get?_put (ms : Members) (key other : String) (value : Value) :
    (ms.put key value).get? other = if key = other then some value else ms.get? other := by
  induction ms with
  | nil => exact get?_cons key other value []
  | cons m ms ih =>
    obtain ⟨first, v⟩ := m
    simp only [put] at ih ⊢
    rw [List.filter_cons, get?_cons]
    by_cases hfirst : first = key
    · subst hfirst
      rw [if_neg (by simp), ih]
      by_cases hother : first = other <;> simp [hother]
    · rw [if_pos (by simpa using hfirst), List.cons_append, get?_cons, ih]
      by_cases hother : first = other
      · subst hother
        simp [Ne.symm hfirst]
      · simp [hother]

theorem distinct_put (h : DistinctKeys ms) (key : String) (value : Value) :
    DistinctKeys (ms.put key value) := by
  have hkept : DistinctKeys (ms.filter fun m => m.1 != key) :=
    h.sublist (List.filter_sublist.map _)
  exact hkept.append (by simp) value

end Members

/-! ## Laying over -/

/-- Whether a value is a table, the only kind of value that does not hide what is below it. -/
def Value.isTable : Value → Bool
  | .table _ => true
  | _ => false

theorem Value.over_of_not_table {upper : Value} (h : upper.isTable = false) (lower : Value) :
    upper.over lower = upper := by
  cases upper <;> first | rfl | cases h

theorem Value.isTable_over (upper lower : Value) : (upper.over lower).isTable = upper.isTable := by
  cases upper <;> cases lower <;> rfl

/-- What a value is when it is laid over what may be below it. -/
def Value.overAny (upper : Value) : Option Value → Value
  | some lower => upper.over lower
  | none => upper

theorem distinct_overMembers (upper : Members) {lower : Members} (h : DistinctKeys lower) :
    DistinctKeys (overMembers upper lower) := by
  induction upper generalizing lower with
  | nil => rwa [overMembers]
  | cons m upper ih =>
    rw [overMembers]
    exact ih (Members.distinct_put h _ _)

/-- A key of the upper table has its value there, laid over the one below, and the others are left
as they are. -/
theorem get?_overMembers {upper : Members} (h : DistinctKeys upper) (lower : Members)
    (key : String) :
    (overMembers upper lower).get? key =
      match upper.get? key with
      | some v => some (v.overAny (lower.get? key))
      | none => lower.get? key := by
  induction upper generalizing lower with
  | nil => rw [overMembers, Members.get?_nil]
  | cons m upper ih =>
    obtain ⟨first, v⟩ := m
    obtain ⟨hfirst, hupper⟩ := List.nodup_cons.1 h
    rw [overMembers, ih hupper, Members.get?_cons, Members.get?_put]
    by_cases hkey : first = key
    · subst hkey
      rw [Members.get?_of_not_mem hfirst, if_pos rfl, if_pos rfl]
      cases lower.get? first <;> rfl
    · rw [if_neg hkey, if_neg hkey]

theorem keys_ofTomlMembers (ms : Toml.Members) :
    (ofTomlMembers ms).map Prod.fst = ms.map Prod.fst := by
  induction ms with
  | nil => rfl
  | cons m ms ih => rw [ofTomlMembers, List.map_cons, List.map_cons, ih]

/-- A document gives each key once. -/
theorem distinct_ofDocument {text : List Char} {ms : Members} (h : ofDocument text = .ok ms) :
    DistinctKeys ms := by
  unfold ofDocument at h
  split at h
  · rename_i parsed hparse
    cases h
    rw [DistinctKeys, keys_ofTomlMembers]
    exact Toml.distinct_of_parse hparse
  · cases h

theorem distinct_foldl_overMembers (env : List (String × String)) {ms : Members}
    (h : DistinctKeys ms) : DistinctKeys
      (env.foldl (fun ms (name, value) => overMembers (Environment.membersOf name value) ms) ms) := by
  induction env generalizing ms with
  | nil => exact h
  | cons v env ih => exact ih (distinct_overMembers _ h)

/-- Nor is there a setting that an environment gives twice. -/
theorem distinct_settings (env : List (String × String)) :
    DistinctKeys (Environment.settings env) :=
  distinct_foldl_overMembers env List.nodup_nil

/-! ## Sources -/

/-- What the highest of some sources that has a key says about it. The highest source stands
first. -/
def topmost? (sources : List Members) (key : String) : Option Value :=
  sources.findSome? (·.get? key)

theorem topmost?_append (above below : List Members) (key : String) :
    topmost? (above ++ below) key = (topmost? above key).or (topmost? below key) := by
  rw [topmost?, List.findSome?_append]
  rfl

/-- A value stands for another one if it is that value or both are tables. -/
def Value.StandsFor (v w : Value) : Prop := v = w ∨ v.isTable = true ∧ w.isTable = true

theorem Value.StandsFor.overAny {v w : Value} (h : v.StandsFor w) (below : Option Value) :
    (v.overAny below).StandsFor w := by
  cases below with
  | none => exact h
  | some lower =>
    rcases h with rfl | ⟨hv, hw⟩
    · cases hv : v.isTable with
      | false => exact .inl (v.over_of_not_table hv lower)
      | true => exact .inr ⟨(v.isTable_over lower).trans hv, hv⟩
    · exact .inr ⟨(v.isTable_over lower).trans hv, hw⟩

/-- A table shows some sources if it says of every key what the highest of them says that has it. -/
def Shows (ms : Members) (sources : List Members) : Prop :=
  ∀ key, Option.Rel Value.StandsFor (ms.get? key) (topmost? sources key)

theorem Shows.single (ms : Members) : Shows ms [ms] := by
  intro key
  rw [topmost?, List.findSome?_cons, List.findSome?_nil]
  cases ms.get? key with
  | none => exact .none
  | some v => exact .some (.inl rfl)

/-- Laid over each other, two tables show the sources of both. -/
theorem Shows.over {upper lower : Members} {above below : List Members}
    (hdistinct : DistinctKeys upper) (hupper : Shows upper above) (hlower : Shows lower below) :
    Shows (overMembers upper lower) (above ++ below) := by
  intro key
  rw [get?_overMembers hdistinct, topmost?_append]
  have hkey := hupper key
  generalize upper.get? key = v at hkey ⊢
  generalize topmost? above key = w at hkey ⊢
  cases hkey with
  | none => exact hlower key
  | some hstands => exact .some (hstands.overAny _)

end Codemod.Config
