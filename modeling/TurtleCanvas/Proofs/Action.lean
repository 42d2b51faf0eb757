import TurtleCanvas.Action

/-!
# Taking actions apart

An action in sequence with others is taken apart by what its first part gives.

* `Except.bind_eq_ok_iff`, `Except.bind_eq_error_iff` : when a computation of two parts gives a
  result, and when it fails;
* `Gives` : a computation gives a result with a property, which can be found out by running it;
* `Action.after_of_ok`, `Action.fault?_of_ok`, … : what an action leaves, by what it gives;
* `Action.Succeeds` : an action returns, and takes states with one property to states with another;
* `Action.SucceedsOr` : an action does that, or fails in one of some ways;
* `Action.FailsInto` : where an action fails on a state, it leaves one with a property;
* `Action.Matches` : two actions do the same on states in a relation.
-/

namespace TurtleCanvas

theorem Except.bind_eq_ok_iff {ε β γ : Type} {a : Except ε β} {f : β → Except ε γ} {c : γ} :
    (a >>= f) = .ok c ↔ ∃ b, a = .ok b ∧ f b = .ok c := by
  cases a with
  | error e => simp [bind, Except.bind]
  | ok b => simp [bind, Except.bind]

theorem Except.bind_eq_error_iff {ε β γ : Type} {a : Except ε β} {f : β → Except ε γ} {e : ε} :
    (a >>= f) = .error e ↔ a = .error e ∨ ∃ b, a = .ok b ∧ f b = .error e := by
  cases a with
  | error e' => simp [bind, Except.bind]
  | ok b => simp [bind, Except.bind]

theorem Except.ok_bind {β γ : Type} (b : β) (f : β → Except Fault γ) :
    (Except.ok b >>= f) = f b := rfl

/-- A computation gives a result, which has a property. -/
def Gives {ε β : Type} (r : Except ε β) (p : β → Prop) : Prop := ∃ b, r = .ok b ∧ p b

instance {ε β : Type} (p : β → Prop) [DecidablePred p] (r : Except ε β) : Decidable (Gives r p) :=
  match r with
  | .ok b => decidable_of_iff (p b) (by simp [Gives])
  | .error e => isFalse (by simp [Gives])

namespace Action

variable {σ τ β γ : Type}

theorem after_of_ok {a : Action σ β} {s t : σ} {b : β} (h : a s = .ok b t) : a.after s = t := by
  simp [after, h]

theorem after_of_error {a : Action σ β} {s t : σ} {e : Fault} (h : a s = .error e t) :
    a.after s = t := by
  simp [after, h]

theorem fault?_of_ok {a : Action σ β} {s t : σ} {b : β} (h : a s = .ok b t) :
    a.fault? s = none := by
  simp [fault?, h]

theorem fault?_of_error {a : Action σ β} {s t : σ} {e : Fault} (h : a s = .error e t) :
    a.fault? s = some e := by
  simp [fault?, h]

theorem exists_error_of_isSome {a : Action σ β} {s : σ} (h : (a.fault? s).isSome) :
    ∃ e, a s = .error e (a.after s) := by
  cases ha : a s with
  | ok b t => rw [fault?_of_ok ha] at h; exact nomatch h
  | error e t => exact ⟨e, by rw [after_of_error ha]⟩

theorem after_congr {a b : Action σ β} {s : σ} (h : a s = b s) : a.after s = b.after s := by
  simp only [after, h]

theorem fault?_congr {a b : Action σ β} {s : σ} (h : a s = b s) : a.fault? s = b.fault? s := by
  simp only [fault?, h]

theorem after_bind_of_ok {a : Action σ β} {f : β → Action σ γ} {s t : σ} {b : β}
    (h : a s = .ok b t) : (a >>= f).after s = (f b).after t := by
  simp only [after, bind_of_ok h]

theorem after_bind_of_error {a : Action σ β} {f : β → Action σ γ} {s t : σ} {e : Fault}
    (h : a s = .error e t) : (a >>= f).after s = t := by
  simp only [after, bind_of_error h]

/-! ### Actions that return -/

/-- The action returns on the states with a property, and leaves states with another one. -/
def Succeeds (P Q : σ → Prop) (a : Action σ Unit) : Prop :=
  ∀ s, P s → ∃ t, a s = .ok () t ∧ Q t

namespace Succeeds

variable {P Q R : σ → Prop}

theorem pure : Succeeds P P (pure () : Action σ Unit) := fun s hs => ⟨s, rfl, hs⟩

theorem bind {a : Action σ Unit} {f : Unit → Action σ Unit} (ha : Succeeds P Q a)
    (hf : Succeeds Q R (f ())) : Succeeds P R (a >>= f) := by
  intro s hs
  obtain ⟨t, ht, hQ⟩ := ha s hs
  rw [bind_of_ok ht]
  exact hf t hQ

theorem mono {a : Action σ Unit} {P' Q' : σ → Prop} (ha : Succeeds P Q a) (hP : ∀ s, P' s → P s)
    (hQ : ∀ s, Q s → Q' s) : Succeeds P' Q' a := by
  intro s hs
  obtain ⟨t, ht, htQ⟩ := ha s (hP s hs)
  exact ⟨t, ht, hQ t htQ⟩

end Succeeds

/-- The action returns on the states with a property, and leaves states with another one; or it fails
with a fault and leaves a state that go together. -/
def SucceedsOr (F : Fault → σ → Prop) (P Q : σ → Prop) (a : Action σ Unit) : Prop :=
  ∀ s, P s → (∃ t, a s = .ok () t ∧ Q t) ∨ ∃ e t, a s = .error e t ∧ F e t

theorem Succeeds.or {P Q : σ → Prop} {a : Action σ Unit} (h : Succeeds P Q a)
    (F : Fault → σ → Prop) : SucceedsOr F P Q a := fun s hs => .inl (h s hs)

namespace SucceedsOr

variable {F G : Fault → σ → Prop} {P Q R : σ → Prop}

theorem mono {a : Action σ Unit} (ha : SucceedsOr F P Q a) (h : ∀ e s, F e s → G e s) :
    SucceedsOr G P Q a :=
  fun s hs => (ha s hs).imp_right fun ⟨e, t, ht, hF⟩ => ⟨e, t, ht, h e t hF⟩

theorem bind {a : Action σ Unit} {f : Unit → Action σ Unit} (ha : SucceedsOr F P Q a)
    (hf : SucceedsOr F Q R (f ())) : SucceedsOr F P R (a >>= f) := by
  intro s hs
  rcases ha s hs with ⟨t, ht, hQ⟩ | ⟨e, t, ht, hF⟩
  · rw [bind_of_ok ht]
    exact hf t hQ
  · exact .inr ⟨e, t, bind_of_error ht, hF⟩

end SucceedsOr

/-! ### Actions that fail -/

/-- If the action fails on a state, it leaves one with a property. -/
def FailsInto (a : Action σ β) (s : σ) (P : σ → Prop) : Prop :=
  ∀ e t, a s = .error e t → P t

namespace FailsInto

variable {P : σ → Prop} {s : σ}

theorem of_ok {a : Action σ β} {b : β} {t : σ} (h : a s = .ok b t) : a.FailsInto s P :=
  fun _ _ he => nomatch h.symm.trans he

theorem bind {a : Action σ β} {f : β → Action σ γ} (ha : a.FailsInto s P)
    (hf : ∀ b t, a s = .ok b t → (f b).FailsInto t P) : (a >>= f).FailsInto s P := by
  intro e t h
  cases hs : a s with
  | ok b t' => exact hf b t' hs e t ((bind_of_ok hs).symm.trans h)
  | error e' t' =>
    rw [bind_of_error hs] at h
    obtain ⟨rfl, rfl⟩ := EStateM.Result.error.inj h
    exact ha e' t' hs

/-- A computation that fails leaves the state as it is. -/
theorem ofExcept_bind {r : Except Fault β} {f : β → Action σ γ} (hs : P s)
    (hf : ∀ b, r = .ok b → (f b).FailsInto s P) : (ofExcept r >>= f).FailsInto s P := by
  cases r with
  | ok b => exact hf b rfl
  | error e =>
    intro e' t h
    obtain ⟨-, rfl⟩ := EStateM.Result.error.inj h
    exact hs

end FailsInto

/-! ### Two actions -/

/-- Two actions do the same on states in a relation: both succeed with one result, or both fail with
one fault, and they leave states in the relation. -/
def Matches (R : σ → τ → Prop) (a : Action σ β) (b : Action τ β) : Prop :=
  ∀ s s', R s s' → ∃ t t', R t t' ∧
    ((∃ x, a s = .ok x t ∧ b s' = .ok x t') ∨ ∃ e, a s = .error e t ∧ b s' = .error e t')

namespace Matches

variable {R : σ → τ → Prop}

theorem bind {a : Action σ β} {b : Action τ β} {f : β → Action σ γ} {g : β → Action τ γ}
    (h : Matches R a b) (hrest : ∀ x, Matches R (f x) (g x)) : Matches R (a >>= f) (b >>= g) := by
  intro s s' hs
  obtain ⟨t, t', ht, ⟨x, ha, hb⟩ | ⟨e, ha, hb⟩⟩ := h s s' hs
  · rw [Action.bind_of_ok ha, Action.bind_of_ok hb]
    exact hrest x t t' ht
  · exact ⟨t, t', ht, .inr ⟨e, Action.bind_of_error ha, Action.bind_of_error hb⟩⟩

theorem pure (x : β) : Matches R (pure x : Action σ β) (pure x : Action τ β) :=
  fun s s' hs => ⟨s, s', hs, .inl ⟨x, rfl, rfl⟩⟩

theorem ofExcept (r : Except Fault β) :
    Matches R (Action.ofExcept r : Action σ β) (Action.ofExcept r) := by
  intro s s' hs
  cases r with
  | ok x => exact ⟨s, s', hs, .inl ⟨x, rfl, rfl⟩⟩
  | error e => exact ⟨s, s', hs, .inr ⟨e, rfl, rfl⟩⟩

end Matches

end Action

end TurtleCanvas
