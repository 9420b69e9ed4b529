set_option autoImplicit false

/-! # Actions that can fail

An action that can fail keeps the state in which it failed. What an action made of smaller ones
comes to is read off them with the `run` lemmas; where only the state matters, a property is
followed through them with `Keeps`. -/

namespace Codemod

variable {σ ε δ α β : Type}

/-! ## What an action comes to -/

theorem run_pure (a : α) (s : σ) : (pure a : ExceptT ε (StateM σ) α).run.run s = (.ok a, s) :=
  rfl

theorem run_throw (e : ε) (s : σ) :
    (throw e : ExceptT ε (StateM σ) α).run.run s = (.error e, s) :=
  rfl

theorem run_get (s : σ) : (get : ExceptT ε (StateM σ) σ).run.run s = (.ok s, s) :=
  rfl

theorem run_set (s t : σ) : (set t : ExceptT ε (StateM σ) PUnit).run.run s = (.ok ⟨⟩, t) :=
  rfl

theorem run_modify (f : σ → σ) (s : σ) :
    (modify f : ExceptT ε (StateM σ) PUnit).run.run s = (.ok ⟨⟩, f s) :=
  rfl

theorem mapError_ok (f : ε → δ) (a : α) : (Except.ok a).mapError f = .ok a :=
  rfl

theorem mapError_error (f : ε → δ) (e : ε) : (.error e : Except ε α).mapError f = .error (f e) :=
  rfl

theorem run_adapt (f : ε → δ) (action : ExceptT ε (StateM σ) α) (s : σ) :
    (ExceptT.adapt f action).run.run s =
      ((action.run.run s).1.mapError f, (action.run.run s).2) :=
  rfl

/-- After a failure nothing more is done. -/
theorem run_bind (action : ExceptT ε (StateM σ) α) (next : α → ExceptT ε (StateM σ) β) (s : σ) :
    (action >>= next).run.run s =
      match action.run.run s with
      | (.ok a, t) => (next a).run.run t
      | (.error e, t) => (.error e, t) := by
  rw [ExceptT.run_bind, StateT.run_bind]
  rcases action.run.run s with ⟨e | a, t⟩
  · rfl
  · rfl

theorem run_bind_of_ok {action : ExceptT ε (StateM σ) α} {s t : σ} {a : α}
    (h : action.run.run s = (.ok a, t)) (next : α → ExceptT ε (StateM σ) β) :
    (action >>= next).run.run s = (next a).run.run t := by
  rw [run_bind, h]

/-- Two things were done if both succeeded. -/
theorem run_bind_eq_ok_iff {action : ExceptT ε (StateM σ) α} {next : α → ExceptT ε (StateM σ) β}
    {s u : σ} {b : β} :
    (action >>= next).run.run s = (.ok b, u) ↔
      ∃ a t, action.run.run s = (.ok a, t) ∧ (next a).run.run t = (.ok b, u) := by
  rw [run_bind]
  rcases action.run.run s with ⟨e | a, t⟩
  · constructor
    · rintro ⟨⟩
    · rintro ⟨_, _, ⟨⟩, _⟩
  · constructor
    · exact fun h => ⟨a, t, rfl, h⟩
    · rintro ⟨_, _, ⟨⟩, h⟩
      exact h

theorem run_map (f : α → β) (action : ExceptT ε (StateM σ) α) (s : σ) :
    (f <$> action).run.run s = ((action.run.run s).1.map f, (action.run.run s).2) := by
  rw [map_eq_pure_bind, run_bind]
  rcases action.run.run s with ⟨e | a, t⟩
  · rfl
  · rfl

/-- A failure is handled in the state in which it came about. -/
theorem run_tryCatch (action : ExceptT ε (StateM σ) α) (handle : ε → ExceptT ε (StateM σ) α)
    (s : σ) :
    (tryCatch action handle).run.run s =
      match action.run.run s with
      | (.ok a, t) => (.ok a, t)
      | (.error e, t) => (handle e).run.run t := by
  change (match (action.run.run s : Except ε α × σ) with
    | (result, t) => (match result with
      | .ok a => pure (.ok a)
      | .error e => handle e : StateM σ (Except ε α)).run t) = _
  rcases action.run.run s with ⟨e | a, t⟩
  · rfl
  · rfl

/-! ## Properties that an action keeps -/

/-- A property of the state survives an action, whatever that comes to. -/
def Keeps (P : σ → Prop) (action : ExceptT ε (StateM σ) α) : Prop :=
  ∀ s, P s → P (action.run.run s).2

namespace Keeps

variable {P : σ → Prop} {action : ExceptT ε (StateM σ) α}

theorem pure (a : α) : Keeps P (Pure.pure a : ExceptT ε (StateM σ) α) :=
  fun _ h => h

theorem throw (e : ε) : Keeps P (MonadExcept.throw e : ExceptT ε (StateM σ) α) :=
  fun _ h => h

theorem get : Keeps P (MonadState.get : ExceptT ε (StateM σ) σ) :=
  fun _ h => h

theorem bind {next : α → ExceptT ε (StateM σ) β} (h : Keeps P action)
    (hnext : ∀ a, Keeps P (next a)) : Keeps P (action >>= next) := by
  intro s hs
  have hmid := h s hs
  rw [run_bind]
  rcases hrun : action.run.run s with ⟨e | a, t⟩
  · rw [hrun] at hmid
    exact hmid
  · rw [hrun] at hmid
    exact hnext a t hmid

theorem map (f : α → β) (h : Keeps P action) : Keeps P (f <$> action) := by
  intro s hs
  rw [run_map]
  exact h s hs

theorem tryCatch {handle : ε → ExceptT ε (StateM σ) α} (h : Keeps P action)
    (hhandle : ∀ e, Keeps P (handle e)) : Keeps P (MonadExcept.tryCatch action handle) := by
  intro s hs
  have hmid := h s hs
  rw [run_tryCatch]
  rcases hrun : action.run.run s with ⟨e | a, t⟩
  · rw [hrun] at hmid
    exact hhandle e t hmid
  · rw [hrun] at hmid
    exact hmid

end Keeps

/-! ## Actions that come to the same -/

/-- From related states two actions have the same outcome, and the states are related again. -/
def Agree (R : σ → σ → Prop) (action other : ExceptT ε (StateM σ) α) : Prop :=
  ∀ s t, R s t → (action.run.run s).1 = (other.run.run t).1 ∧
    R (action.run.run s).2 (other.run.run t).2

namespace Agree

variable {R : σ → σ → Prop} {action other : ExceptT ε (StateM σ) α}

theorem pure (a : α) : Agree R (Pure.pure a : ExceptT ε (StateM σ) α) (Pure.pure a) :=
  fun _ _ h => ⟨rfl, h⟩

/-- Two actions that agree fail alike or succeed alike. -/
theorem run_cases {s t : σ} (h : Agree R action other) (hst : R s t) :
    (∃ e s' t', action.run.run s = (.error e, s') ∧ other.run.run t = (.error e, t') ∧ R s' t') ∨
      ∃ a s' t', action.run.run s = (.ok a, s') ∧ other.run.run t = (.ok a, t') ∧ R s' t' := by
  obtain ⟨hsame, hleft⟩ := h s t hst
  rcases hrun : action.run.run s with ⟨e | a, s'⟩
  · rcases hrun' : other.run.run t with ⟨e' | a', t'⟩
    · rw [hrun, hrun'] at hsame hleft
      cases hsame
      exact .inl ⟨e, s', t', rfl, rfl, hleft⟩
    · rw [hrun, hrun'] at hsame
      cases hsame
  · rcases hrun' : other.run.run t with ⟨e' | a', t'⟩
    · rw [hrun, hrun'] at hsame
      cases hsame
    · rw [hrun, hrun'] at hsame hleft
      cases hsame
      exact .inr ⟨a, s', t', rfl, rfl, hleft⟩

theorem bind {next further : α → ExceptT ε (StateM σ) β} (h : Agree R action other)
    (hnext : ∀ a, Agree R (next a) (further a)) :
    Agree R (action >>= next) (other >>= further) := by
  intro s t hst
  rw [run_bind, run_bind]
  rcases h.run_cases hst with ⟨e, s', t', hrun, hrun', hleft⟩ | ⟨a, s', t', hrun, hrun', hleft⟩
  · rw [hrun, hrun']
    exact ⟨rfl, hleft⟩
  · rw [hrun, hrun']
    exact hnext a s' t' hleft

end Agree

end Codemod
