import Codemod.Toml.Parser
import Mathlib.Data.List.Nodup

set_option autoImplicit false

/-! # A document gives each key once

The members of the table that a document denotes have different keys (`distinct_of_parse`). While it
is read they are those of the table whose lines are read, as long as there has been no header, and
those of the tree after that: `Document.Top`. -/

namespace Codemod

/-- No key stands twice. -/
def DistinctKeys {γ : Type} (ms : List (String × γ)) : Prop := (ms.map Prod.fst).Nodup

theorem DistinctKeys.append {γ : Type} {ms : List (String × γ)} {key : String} (h : DistinctKeys ms)
    (hkey : key ∉ ms.map Prod.fst) (value : γ) : DistinctKeys (ms ++ [(key, value)]) := by
  rw [DistinctKeys, List.map_append]
  exact List.Nodup.append h (List.nodup_singleton _) (by simpa using hkey)

namespace Toml

namespace Members

variable {ms ms' : Members} {key : String} {value : Value}

theorem not_mem_of_get? (h : ms.get? key = none) : key ∉ ms.map Prod.fst := by
  unfold get? at h
  rw [Option.map_eq_none_iff, List.find?_eq_none] at h
  intro hmem
  obtain ⟨m, hm, rfl⟩ := List.mem_map.1 hmem
  exact h m hm (beq_self_eq_true _)

theorem distinct_put (h : DistinctKeys ms) (key : String) (value : Value) :
    DistinctKeys (ms.put key value) := by
  unfold put
  split
  · -- The keys are those that were there.
    have hkeys : (ms.map fun m => if m.1 == key then (key, value) else m).map Prod.fst =
        ms.map Prod.fst := by
      rw [List.map_map]
      refine List.map_congr_left fun m _ => ?_
      simp only [Function.comp_apply]
      split
      · rename_i hm
        exact (beq_iff_eq.1 hm).symm
      · rfl
    rw [DistinctKeys, hkeys]
    exact h
  · rename_i hnot
    exact h.append (by simpa using hnot) value

theorem distinct_add {withDots : Bool} {origin : Origin} (h : DistinctKeys ms)
    (hadd : add withDots key value origin ms = some ms') : DistinctKeys ms' := by
  unfold add at hadd
  split at hadd
  · cases hadd
  · split at hadd
    · cases hadd
    · rename_i hnone
      cases hadd
      exact h.append (not_mem_of_get? (by simpa using hnone)) value

/-- Keys stay different if they do where the path has come to its end. -/
theorem distinct_modify {dotted : Bool} {change : Origin → Members → Option Members}
    {path : List String} {origin : Origin} (h : DistinctKeys ms)
    (hchange : ∀ {origin ms ms'}, DistinctKeys ms → change origin ms = some ms' → DistinctKeys ms')
    (hmodify : modify dotted change path origin ms = some ms') : DistinctKeys ms' := by
  cases path with
  | nil => exact hchange h hmodify
  | cons key path =>
    unfold modify at hmodify
    split at hmodify
    · simp only [Option.bind_eq_bind, Option.bind_eq_some_iff] at hmodify
      obtain ⟨made, -, hput⟩ := hmodify
      cases hput
      exact distinct_put h _ _
    · split at hmodify
      · cases hmodify
      · simp only [Option.bind_eq_bind, Option.bind_eq_some_iff] at hmodify
        obtain ⟨made, -, hput⟩ := hmodify
        cases hput
        exact distinct_put h _ _
    · simp only [Option.bind_eq_bind, Option.bind_eq_some_iff] at hmodify
      obtain ⟨made, -, hput⟩ := hmodify
      cases hput
      exact distinct_put h _ _
    · cases hmodify

theorem distinct_insert {origin : Origin} {path : List String} (h : DistinctKeys ms)
    (hinsert : insert false origin ms path value = some ms') : DistinctKeys ms' := by
  unfold insert at hinsert
  split at hinsert
  · cases hinsert
  · exact distinct_modify h distinct_add hinsert

end Members

namespace Document

variable {d d' : Document} {path : List String}

/-- The members of the document as it has been read so far. -/
def top (d : Document) : Members :=
  match d.path with
  | [] => d.current
  | _ => d.root

theorem distinct_close {ms : Members} (h : DistinctKeys d.top) (hclose : d.close = some ms) :
    DistinctKeys ms := by
  unfold close at hclose
  unfold top at h
  split at hclose
  · rename_i hpath
    rw [List.reverse_eq_nil_iff.1 hpath] at h
    cases hclose
    exact h
  · rename_i key back hpath
    have hroot : DistinctKeys d.root := by
      split at h
      · rename_i hnil
        rw [hnil] at hpath
        cases hpath
      · exact h
    refine Members.distinct_modify hroot ?_ hclose
    -- The table is put under its key in any case.
    intro origin ms ms' hms hplace
    split at hplace
    all_goals
      split at hplace
      all_goals first
        | cases hplace
          exact Members.distinct_put hms _ _
        | cases hplace

theorem distinct_header {isRow : Bool} (h : DistinctKeys d.top)
    (hheader : d.header path isRow = some d') : DistinctKeys d'.top := by
  simp only [header, Option.bind_eq_bind, Option.bind_eq_some_iff] at hheader
  obtain ⟨root, hclose, hrest⟩ := hheader
  split at hrest
  · cases hrest
  · rename_i key back hpath
    simp only [Option.bind_eq_some_iff] at hrest
    obtain ⟨parent, hparent, hrest⟩ := hrest
    have hdistinct : DistinctKeys parent :=
      Members.distinct_modify (distinct_close h hclose)
        (fun hms hsame => Option.some.inj hsame ▸ hms) hparent
    have hd : d'.path = path ∧ d'.root = parent := by
      split at hrest <;> cases hrest <;> exact ⟨rfl, rfl⟩
    unfold top
    rw [hd.1, hd.2]
    cases path with
    | nil => cases hpath
    | cons first path => exact hdistinct

theorem distinct_assign {value : Value} (h : DistinctKeys d.top)
    (hassign : d.assign path value = some d') : DistinctKeys d'.top := by
  simp only [assign, Option.bind_eq_bind, Option.bind_eq_some_iff] at hassign
  obtain ⟨current, hinsert, hd⟩ := hassign
  cases hd
  cases hpath : d.path with
  | nil =>
    simp only [top, hpath] at h ⊢
    exact Members.distinct_insert h hinsert
  | cons key path =>
    simp only [top, hpath] at h ⊢
    exact h

end Document

variable {d d' : Document}

theorem distinct_header? {isRow : Bool} {s rest : List Char} (h : DistinctKeys d.top)
    (hheader : header? d isRow s = some (d', rest)) : DistinctKeys d'.top := by
  simp only [header?, Option.bind_eq_bind, Option.bind_eq_some_iff] at hheader
  obtain ⟨⟨path, rest₁⟩, -, rest₂, -, hheader⟩ := hheader
  have hd : d.header path isRow = some d' := by
    split at hheader
    all_goals
      simp only [Option.bind_eq_some_iff] at hheader
      obtain ⟨rest₃, -, d'', hd, rest₄, -, heq⟩ := hheader
      cases heq
      exact hd
  exact Document.distinct_header h hd

theorem distinct_assignment? {s rest : List Char} (h : DistinctKeys d.top)
    (hassign : assignment? d s = some (d', rest)) : DistinctKeys d'.top := by
  simp only [assignment?, Option.bind_eq_bind, Option.bind_eq_some_iff] at hassign
  obtain ⟨⟨path, rest₁⟩, -, rest₂, -, ⟨v, rest₃⟩, -, d'', hd, rest₄, -, heq⟩ := hassign
  cases heq
  exact Document.distinct_assign h hd

theorem distinct_lines? {fuel : Nat} {s : List Char} (h : DistinctKeys d.top)
    (hlines : lines? fuel d s = some d') : DistinctKeys d'.top := by
  induction fuel generalizing d s with
  | zero => cases hlines
  | succ fuel ih =>
    unfold lines? at hlines
    split at hlines
    · cases hlines
      exact h
    · simp only [Option.bind_eq_bind, Option.bind_eq_some_iff] at hlines
      obtain ⟨rest, -, hlines⟩ := hlines
      exact ih h hlines
    · simp only [Option.bind_eq_bind, Option.bind_eq_some_iff] at hlines
      obtain ⟨⟨d'', rest⟩, hheader, hlines⟩ := hlines
      exact ih (distinct_header? h hheader) hlines
    · simp only [Option.bind_eq_bind, Option.bind_eq_some_iff] at hlines
      obtain ⟨⟨d'', rest⟩, hheader, hlines⟩ := hlines
      exact ih (distinct_header? h hheader) hlines
    · split at hlines
      · exact ih h hlines
      · simp only [Option.bind_eq_bind, Option.bind_eq_some_iff] at hlines
        obtain ⟨⟨d'', rest⟩, hassign, hlines⟩ := hlines
        exact ih (distinct_assignment? h hassign) hlines

/-- A document gives each key at its top once. -/
theorem distinct_of_parse {s : List Char} {ms : Members} (h : parse? s = some ms) :
    DistinctKeys ms := by
  simp only [parse?, Option.bind_eq_bind, Option.bind_eq_some_iff] at h
  obtain ⟨d, hlines, hclose⟩ := h
  exact Document.distinct_close (distinct_lines? (d := {}) List.nodup_nil hlines) hclose

end Toml

end Codemod
