import TurtleCanvas.Fault

/-!
# Actions on a state

An action works on a state and may fail.  What it did to the state before it failed stays done, so
an action always leaves a state.

* `Action` : an action.
* `Action.after` : the state that it leaves.
* `Action.ofExcept` : a computation that looks at no state.
* `Action.bind_of_ok`, `Action.bind_of_error` : what two actions in sequence do.
-/

namespace TurtleCanvas

/-- An action on a state that may fail. -/
abbrev Action (σ β : Type) := EStateM Fault σ β

namespace Action

variable {σ β γ : Type}

/-- The state that an action leaves, whether it fails or not. -/
def after (a : Action σ β) (s : σ) : σ :=
  match a s with
  | .ok _ s => s
  | .error _ s => s

/-- The fault that an action fails with, if it does. -/
def fault? (a : Action σ β) (s : σ) : Option Fault :=
  match a s with
  | .ok _ _ => none
  | .error e _ => some e

/-- A computation that may fail, as an action that leaves the state as it is. -/
@[inline] def ofExcept (r : Except Fault β) : Action σ β := fun s =>
  match r with
  | .ok b => .ok b s
  | .error e => .error e s

/-- An action that cannot fail. -/
@[inline] def change (f : σ → σ) : Action σ Unit := fun s => .ok () (f s)

/-! ### What actions leave -/

/-- An action after one that succeeds goes on from what that one left. -/
theorem bind_of_ok {a : Action σ β} {f : β → Action σ γ} {s t : σ} {b : β} (h : a s = .ok b t) :
    (a >>= f) s = f b t := by
  show EStateM.bind a f s = f b t
  simp only [EStateM.bind, h]

/-- Nothing is done after an action that fails. -/
theorem bind_of_error {a : Action σ β} {f : β → Action σ γ} {s t : σ} {e : Fault}
    (h : a s = .error e t) : (a >>= f) s = .error e t := by
  show EStateM.bind a f s = .error e t
  simp only [EStateM.bind, h]

@[simp] theorem after_ofExcept (r : Except Fault β) (s : σ) : (ofExcept r).after s = s := by
  cases r <;> rfl

@[simp] theorem after_change (f : σ → σ) (s : σ) : (change f).after s = f s := rfl

end Action

end TurtleCanvas
