import Mathlib.Data.List.Basic

/-! Rules for programs with a state and errors, where an error keeps the state it was raised
in. A program is described by what it returns or raises from a given state.
-/

namespace PacketDissector.Library

variable {ε σ α β : Type}

/-- Run from s, the program x returns a and leaves t. -/
def Returns (x : EStateM ε σ α) (s : σ) (a : α) (t : σ) : Prop :=
  x.run s = .ok a t

/-- Run from s, the program x raises e and leaves t. -/
def Raises (x : EStateM ε σ α) (s : σ) (e : ε) (t : σ) : Prop :=
  x.run s = .error e t

variable {x : EStateM ε σ α} {f : α → EStateM ε σ β} {s t u : σ} {a : α} {b : β} {e : ε}

theorem returns_pure : Returns (pure a : EStateM ε σ α) s a s :=
  rfl

/-- Returning at once leaves the state, under any description of it. -/
theorem returns_pure_of_eq (same : s = t) : Returns (pure a : EStateM ε σ α) s a t :=
  same ▸ returns_pure

theorem returns_get : Returns (get : EStateM ε σ σ) s s s :=
  rfl

theorem returns_modify (g : σ → σ)
    : Returns (modify g : EStateM ε σ PUnit) s ⟨⟩ (g s) :=
  rfl

theorem raises_throw : Raises (throw e : EStateM ε σ α) s e s :=
  rfl

/-- A program that returns hands its value and its state to the one after it. -/
theorem Returns.bind (first : Returns x s a u) (rest : Returns (f a) u b t)
    : Returns (x >>= f) s b t := by
  simp only [Returns, EStateM.run_bind] at *
  rw [first]
  exact rest

/-- A value is made of the one that was returned. -/
theorem Returns.map (g : α → β) (returns : Returns x s a t) : Returns (g <$> x) s (g a) t := by
  rw [map_eq_pure_bind]
  exact returns.bind returns_pure

/-- An error of the first program ends both. -/
theorem Raises.bind_first (first : Raises x s e t) : Raises (x >>= f) s e t := by
  simp only [Raises, EStateM.run_bind] at *
  rw [first]

/-- An error of the second program, after the first has returned. -/
theorem Raises.bind_rest (first : Returns x s a u) (rest : Raises (f a) u e t)
    : Raises (x >>= f) s e t := by
  simp only [Returns, Raises, EStateM.run_bind] at *
  rw [first]
  exact rest

/-- A handler is not run when nothing is raised. -/
theorem returns_tryCatch {handler : ε → EStateM ε σ α} (returned : Returns x s a t)
    : Returns (tryCatch x handler) s a t := by
  simp only [Returns, EStateM.run] at *
  simp only [tryCatch, tryCatchThe, MonadExceptOf.tryCatch, EStateM.tryCatch]
  rw [returned]

/-- A program on one part of a larger state. -/
def focus {τ : Type} (view : τ → σ) (put : σ → τ → τ) (x : EStateM ε σ α)
    : EStateM ε τ α :=
  fun whole =>
    match x.run (view whole) with
    | .ok a s => .ok a (put s whole)
    | .error e s => .error e (put s whole)

/-- A focused program returns what it returns on its part, and changes only that part. -/
theorem returns_focus {τ : Type} {view : τ → σ} {put : σ → τ → τ} {whole : τ}
    (inner : Returns x (view whole) a t)
    : Returns (focus view put x) whole a (put t whole) := by
  simp only [Returns, EStateM.run, focus] at *
  rw [inner]

/-- A focused program raises what it raises on its part. -/
theorem raises_focus {τ : Type} {view : τ → σ} {put : σ → τ → τ} {whole : τ}
    (inner : Raises x (view whole) e t)
    : Raises (focus view put x) whole e (put t whole) := by
  simp only [Raises, EStateM.run, focus] at *
  rw [inner]

/-- A program that raises does not return. -/
theorem Raises.not_returns (raised : Raises x s e t) : ¬ Returns x s a u := by
  intro returned
  have same := raised.symm.trans returned
  cases same

/-- Run from s, the program x either returns a value and a state as required, or raises an
error as required. A closed instance is not to be run by a tactic that looks at its type.
-/
@[irreducible]
def Ends (x : EStateM ε σ α) (s : σ) (returned : α → σ → Prop) (raised : ε → Prop) : Prop :=
  match x.run s with
  | .ok a t => returned a t
  | .error e _ => raised e

variable {P : α → σ → Prop} {Q : β → σ → Prop} {E : ε → Prop}

theorem Returns.ends (returns : Returns x s a t) (holds : P a t) : Ends x s P E := by
  simp only [Returns] at returns
  simp only [Ends, returns]
  exact holds

theorem Raises.ends (raises : Raises x s e t) (holds : E e) : Ends x s P E := by
  simp only [Raises] at raises
  simp only [Ends, raises]
  exact holds

/-- A program that raises as required has no second part to run. -/
theorem Ends.bind (first : Ends x s P E) (rest : ∀ a t, P a t → Ends (f a) t Q E)
    : Ends (x >>= f) s Q E := by
  simp only [Ends, EStateM.run_bind] at *
  cases result : EStateM.run x s with
  | ok a t =>
      rw [result] at first
      exact rest a t first
  | error e t =>
      rw [result] at first
      exact first

/-- A weaker requirement is met as well. -/
theorem Ends.imp {P' : α → σ → Prop} {E' : ε → Prop} (ends : Ends x s P E)
    (value : ∀ a t, P a t → P' a t) (error : ∀ e, E e → E' e)
    : Ends x s P' E' := by
  simp only [Ends] at *
  cases result : EStateM.run x s with
  | ok a t =>
      rw [result] at ends
      exact value a t ends
  | error e t =>
      rw [result] at ends
      exact error e ends

/-- A second part may be replaced by one that ends no worse. -/
theorem Ends.bind_mono {g : α → EStateM ε σ β} {R : β → σ → Prop} {E' : ε → Prop}
    (whole : Ends (x >>= f) s Q E)
    (error : ∀ e, E e → E' e) (rest : ∀ a t, Ends (f a) t Q E → Ends (g a) t R E')
    : Ends (x >>= g) s R E' := by
  simp only [Ends, EStateM.run_bind] at *
  cases result : EStateM.run x s with
  | ok a t =>
      rw [result] at whole
      exact rest a t whole
  | error e t =>
      rw [result] at whole
      exact error e whole

/-- A handler that only raises leaves what is returned alone. -/
theorem Ends.tryCatch {E' : ε → Prop} {handler : ε → EStateM ε σ α} (ends : Ends x s P E)
    (raised : ∀ e t, E e → Ends (handler e) t P E')
    : Ends (tryCatch x handler) s P E' := by
  simp only [Ends, EStateM.run] at *
  simp only [MonadExcept.tryCatch, tryCatchThe, MonadExceptOf.tryCatch, EStateM.tryCatch]
  cases result : x s with
  | ok a t =>
      rw [result] at ends
      exact ends
  | error e t =>
      rw [result] at ends
      exact raised e _ ends

/-- Every program ends somehow. -/
theorem ends_any (x : EStateM ε σ α) (s : σ) : Ends x s (fun _ _ => True) fun _ => True := by
  simp only [Ends]
  cases EStateM.run x s <;> trivial

/-- After a program that returns, the rest decides how both end. -/
theorem Returns.bind_ends (first : Returns x s a t) (rest : Ends (f a) t Q E)
    : Ends (x >>= f) s Q E :=
  Ends.bind (P := fun b u => b = a ∧ u = t) (first.ends ⟨rfl, rfl⟩)
    fun _ _ same => by
      obtain ⟨rfl, rfl⟩ := same
      exact rest

/-- What a program returns is as required. -/
theorem Returns.value (returns : Returns x s a t) (ends : Ends x s P E) : P a t := by
  simp only [Returns] at returns
  simpa only [Ends, returns] using ends

/-- How both end is how the rest ends after a program that returns. -/
theorem Returns.ends_rest (first : Returns x s a t) (both : Ends (x >>= f) s Q E)
    : Ends (f a) t Q E := by
  simp only [Returns] at first
  simpa only [Ends, EStateM.run_bind, first] using both

theorem Raises.ends_error (raised : Raises x s e t) (ends : Ends x s P E) : E e := by
  simp only [Raises] at raised
  simpa only [Ends, raised] using ends

/-- A program either returns or raises. -/
theorem returns_or_raises (x : EStateM ε σ α) (s : σ)
    : (∃ a t, Returns x s a t) ∨ ∃ e t, Raises x s e t := by
  simp only [Returns, Raises]
  cases EStateM.run x s with
  | ok a t => exact Or.inl ⟨a, t, rfl⟩
  | error e t => exact Or.inr ⟨e, t, rfl⟩

/-- What a focused program ends in, on the part that it works on. -/
theorem ends_focus {τ : Type} {view : τ → σ} {put : σ → τ → τ} {whole : τ}
    {R : α → τ → Prop} (inner : Ends x (view whole) (fun a t => R a (put t whole)) E)
    : Ends (focus view put x) whole R E := by
  simp only [Ends, EStateM.run, focus] at *
  cases result : x (view whole) with
  | ok a t =>
      rw [result] at inner
      exact inner
  | error e t =>
      rw [result] at inner
      exact inner

/-- A program that cannot return raises. -/
theorem Ends.raises (ends : Ends x s (fun _ _ => False) E) : ∃ e t, Raises x s e t ∧ E e := by
  simp only [Ends] at ends
  cases result : EStateM.run x s with
  | ok a t =>
      rw [result] at ends
      exact ends.elim
  | error e t =>
      rw [result] at ends
      exact ⟨e, t, result, ends⟩

/-- A program that cannot raise returns. -/
theorem Ends.returns (ends : Ends x s P fun _ => False) : ∃ a t, Returns x s a t ∧ P a t := by
  simp only [Ends] at ends
  cases result : EStateM.run x s with
  | ok a t =>
      rw [result] at ends
      exact ⟨a, t, result, ends⟩
  | error e t =>
      rw [result] at ends
      exact ends.elim

end PacketDissector.Library
