/-!
# Actions

An action works on a state and may fail. What it did to the state before it failed stands.
-/

namespace Northbound

/-- A step on a state of type `σ` that yields an `α` or fails with an `ε`. -/
abbrev Action (ε σ α : Type) := ExceptT ε (StateM σ) α

namespace Action

variable {ε ε' σ τ α β : Type}

/-- The action with its failures reported as failures of another kind. -/
def mapError (f : ε → ε') (a : Action ε σ α) : Action ε' σ α := fun s =>
  match a s with
  | (.ok x, s) => (.ok x, s)
  | (.error e, s) => (.error (f e), s)

/-- The action on the part of a larger state that `get` reads and `set` writes. -/
def within (get : τ → σ) (set : σ → τ → τ) (a : Action ε σ α) : Action ε τ α := fun t =>
  match a (get t) with
  | (r, s) => (r, set s t)

/-- Fails or yields a value without looking at the state. -/
def ofExcept (r : Except ε α) : Action ε σ α := fun s => (r, s)

theorem pure_apply (x : α) (s : σ) : (pure x : Action ε σ α) s = (.ok x, s) := rfl

theorem get_apply (s : σ) : (get : Action ε σ σ) s = (.ok s, s) := rfl

theorem set_apply (s s' : σ) : (set s' : Action ε σ PUnit) s = (.ok ⟨⟩, s') := rfl

theorem modify_apply (f : σ → σ) (s : σ) : (modify f : Action ε σ PUnit) s = (.ok ⟨⟩, f s) := rfl

/-- A sequence of actions goes on only where the first one yields a value. -/
theorem bind_apply (a : Action ε σ α) (f : α → Action ε σ β) (s : σ) :
    (a >>= f) s = match a s with
      | (.ok x, s') => f x s'
      | (.error e, s') => (.error e, s') := by
  change (match a s with | (r, s') => ExceptT.bindCont f r s') = _
  rcases a s with ⟨e | x, s'⟩ <;> rfl

theorem bind_of_ok {a : Action ε σ α} {f : α → Action ε σ β} {s s' : σ} {x : α}
    (h : a s = (.ok x, s')) : (a >>= f) s = f x s' := by
  rw [bind_apply, h]

theorem bind_of_error {a : Action ε σ α} {f : α → Action ε σ β} {s s' : σ} {e : ε}
    (h : a s = (.error e, s')) : (a >>= f) s = (.error e, s') := by
  rw [bind_apply, h]

/-- A sequence that yields a value does so step by step. -/
theorem bind_eq_ok {a : Action ε σ α} {f : α → Action ε σ β} {s s' : σ} {y : β}
    (h : (a >>= f) s = (.ok y, s')) :
    ∃ x s₁, a s = (.ok x, s₁) ∧ f x s₁ = (.ok y, s') := by
  rw [bind_apply] at h
  rcases run : a s with ⟨e | x, s₁⟩
  · rw [run] at h
    cases h
  · rw [run] at h
    exact ⟨x, s₁, rfl, h⟩

theorem bind_eq_ok_iff {a : Action ε σ α} {f : α → Action ε σ β} {s s' : σ} {y : β} :
    (a >>= f) s = (.ok y, s') ↔ ∃ x s₁, a s = (.ok x, s₁) ∧ f x s₁ = (.ok y, s') :=
  ⟨bind_eq_ok, fun ⟨_, _, hx, hy⟩ => (bind_of_ok hx).trans hy⟩

theorem pure_eq_ok_iff {x y : α} {s s' : σ} :
    (pure x : Action ε σ α) s = (.ok y, s') ↔ x = y ∧ s = s' := by
  rw [pure_apply]
  constructor
  · intro h
    cases h
    exact ⟨rfl, rfl⟩
  · rintro ⟨rfl, rfl⟩
    rfl

theorem ofExcept_eq_ok_iff {r : Except ε α} {y : α} {s s' : σ} :
    (ofExcept r : Action ε σ α) s = (.ok y, s') ↔ r = .ok y ∧ s = s' :=
  Prod.mk.injEq .. ▸ Iff.rfl

/-- Changing the value of an action changes neither its failures nor its effect. -/
theorem map_apply (f : α → β) (a : Action ε σ α) (s : σ) :
    (f <$> a) s = ((a s).1.map f, (a s).2) := by
  have h : f <$> a = a >>= fun x => pure (f x) := map_eq_pure_bind f a
  rw [h, bind_apply]
  rcases a s with ⟨e | x, s'⟩ <;> rfl

theorem mapError_apply (f : ε → ε') (a : Action ε σ α) (s : σ) :
    a.mapError f s = ((a s).1.mapError f, (a s).2) := by
  simp only [mapError]
  rcases a s with ⟨e | x, s'⟩ <;> rfl

theorem within_apply (get : τ → σ) (set : σ → τ → τ) (a : Action ε σ α) (t : τ) :
    a.within get set t = ((a (get t)).1, set (a (get t)).2 t) := rfl

end Action

section MapError

variable {ε ε' α : Type} (f : ε → ε')

@[simp] theorem mapError_ok (x : α) : (Except.ok x : Except ε α).mapError f = .ok x := rfl

@[simp] theorem mapError_error (e : ε) :
    (Except.error e : Except ε α).mapError f = .error (f e) := rfl

end MapError

theorem eq_ok_of_toOption {ε α : Type} {x : Except ε α} {a : α} (h : x.toOption = some a) :
    x = .ok a := by
  cases x with
  | error e => cases h
  | ok b =>
      cases h
      rfl

/-- Of two steps that yield a value, each one does. -/
theorem except_bind_eq_ok_iff {ε α β : Type} {x : Except ε α} {f : α → Except ε β} {b : β} :
    x >>= f = .ok b ↔ ∃ a, x = .ok a ∧ f a = .ok b := by
  cases x with
  | error e => exact iff_of_false nofun nofun
  | ok a => exact ⟨fun h => ⟨a, rfl, h⟩, fun ⟨_, hx, h⟩ => Except.ok.inj hx ▸ h⟩

end Northbound
