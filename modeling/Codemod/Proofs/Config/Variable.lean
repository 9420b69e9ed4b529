import Codemod.Proofs.Config.Key

set_option autoImplicit false

/-! # Settings in variables

Which variable of an environment gives a setting (`Sets`): the last one whose name comes down to its
key. What the others say under that key does not matter, and no source below says anything that
would (`sourceSaid_of_sets`). -/

namespace Codemod.Config.Environment

variable {env : List (String × String)} {name value key text : String} {ms : Members}

/-- A variable whose name comes down to a key, or leads into a table under it. -/
def Names (name key : String) : Prop := ∃ more, key? name = some (key :: more)

/-- The last variable with a key, and its text. -/
def Sets (env : List (String × String)) (key text : String) : Prop :=
  ∃ before name after, env = before ++ (name, text) :: after ∧ key? name = some [key] ∧
    ∀ v ∈ after, ¬ Names v.1 key

theorem distinct_membersOf (name value : String) : DistinctKeys (membersOf name value) := by
  unfold membersOf
  split
  · exact List.nodup_singleton _
  · exact List.nodup_nil

/-- A variable says nothing about the keys that its name does not start with. -/
theorem get?_overMembers_of_not_names (h : ¬ Names name key) (value : String) (ms : Members) :
    (overMembers (membersOf name value) ms).get? key = ms.get? key := by
  have hnone : (membersOf name value).get? key = none := by
    unfold membersOf
    split
    · rename_i part more hname
      have hpart : part ≠ key := by
        rintro rfl
        exact h ⟨more, hname⟩
      rw [Members.get?_cons, if_neg hpart]
      rfl
    · rfl
  rw [get?_overMembers (distinct_membersOf name value), hnone]

theorem get?_overMembers_of_key (h : key? name = some [key]) (value : String) (ms : Members) :
    (overMembers (membersOf name value) ms).get? key =
      some ((Notation.value value).overAny (ms.get? key)) := by
  have hsome : membersOf name value = [(key, Notation.value value)] := by
    rw [membersOf, h]
    rfl
  rw [get?_overMembers (distinct_membersOf name value), hsome, Members.get?_cons, if_pos rfl]

/-- Variables without a key leave what is there. -/
theorem get?_foldl (h : ∀ v ∈ env, ¬ Names v.1 key) (ms : Members) :
    (env.foldl (fun ms (name, value) => overMembers (membersOf name value) ms) ms).get? key =
      ms.get? key := by
  induction env generalizing ms with
  | nil => rfl
  | cons v env ih =>
    obtain ⟨hv, henv⟩ := List.forall_mem_cons.mp h
    rw [List.foldl_cons, ih henv, get?_overMembers_of_not_names hv]

/-- The last variable with a key is the one that counts. -/
theorem scalar_settings_of_sets (h : Sets env key text) :
    ((settings env).get? key).map Value.scalar = some (Notation.value text).scalar := by
  obtain ⟨before, name, after, rfl, hname, hafter⟩ := h
  rw [settings, List.foldl_append, List.foldl_cons, get?_foldl hafter, get?_overMembers_of_key hname,
    Option.map_some]
  have hself : (Notation.value text).StandsFor (Notation.value text) := .inl rfl
  rw [(hself.overAny _).scalar_eq]

/-- An environment in which no variable has a key has nothing under it. -/
theorem get?_settings_eq_none (h : ∀ v ∈ env, ¬ Names v.1 key) : (settings env).get? key = none :=
  get?_foldl h []

end Codemod.Config.Environment

namespace Codemod.Config

variable {k : Key} {env : List (String × String)} {text : String}

theorem sourceSaid_cons_of_some {ms : Members} {x : Scalar} (sources : List Members)
    (h : (ms.get? k.name).map Value.scalar = some x) : sourceSaid (ms :: sources) k = some x := by
  obtain ⟨v, hv, rfl⟩ := Option.map_eq_some_iff.mp h
  rw [sourceSaid, topmost?, List.findSome?_cons, hv]
  rfl

theorem sourceSaid_cons_of_none {ms : Members} (sources : List Members)
    (h : ms.get? k.name = none) : sourceSaid (ms :: sources) k = sourceSaid sources k := by
  rw [sourceSaid, topmost?, List.findSome?_cons, h]
  rfl

/-- A setting of the environment is what the variable says, whatever the other sources do. -/
theorem sourceSaid_of_sets (h : Environment.Sets env k.name text) (sources : List Members) :
    sourceSaid (Environment.settings env :: sources) k = some (Notation.value text).scalar :=
  sourceSaid_cons_of_some sources (Environment.scalar_settings_of_sets h)

end Codemod.Config
