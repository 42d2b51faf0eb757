import TurtleCanvas.Proofs.Turtle.Trace

/-!
# A turtle moves alike on all surfaces

What a turtle does does not depend on the surface that it draws on, as long as this takes its lines:
two surfaces that keep a relation whenever both are drawn a line on keep it along every motion.

* `Step.isMotion` says which steps only move and turn;
* `Scene.Alike` relates scenes with the same turtle on related surfaces;
* `Mimics` says that two actions keep scenes alike, and `Mimics.bind` that this holds of actions in
  sequence;
* `Step.mimics_perform` and `Step.alike_leave` say it of motions and of runs of them.
-/

namespace TurtleCanvas

/-- The step moves the turtle in straight steps, or turns it, and does nothing else. -/
def Step.isMotion {α : Type} : Step α → Bool
  | goTo _ _ | forward _ | back _ | turn _ | right _ | left _ | circle _ _ _ => true
  | _ => false

variable {α σ τ β γ : Type}

/-- Two scenes have the same turtle, with some pen, on surfaces in some relation. -/
structure Scene.Alike (R : σ → τ → Prop) (pen : Colour → Nat → Prop) (s : Scene α σ)
    (s' : Scene α τ) : Prop where
  turtle : s'.turtle = s.turtle
  surface : R s.surface s'.surface
  delay : s'.delay = s.delay
  pauses : s'.pauses = s.pauses
  pen : pen s.turtle.penColour s.turtle.penSize

/-- Two actions do the same on scenes that are alike: both succeed with one result, or both fail with
one fault, and they leave the scenes alike. -/
def Mimics (R : σ → τ → Prop) (pen : Colour → Nat → Prop) (a : Action (Scene α σ) β)
    (b : Action (Scene α τ) β) : Prop :=
  ∀ s s', s.Alike R pen s' → ∃ t t', t.Alike R pen t' ∧
    ((∃ x, a s = .ok x t ∧ b s' = .ok x t') ∨ ∃ e, a s = .error e t ∧ b s' = .error e t')

variable {R : σ → τ → Prop} {pen : Colour → Nat → Prop}

namespace Mimics

theorem alike_after {a : Action (Scene α σ) β} {b : Action (Scene α τ) β} (h : Mimics R pen a b)
    {s : Scene α σ} {s' : Scene α τ} (hs : s.Alike R pen s') :
    (a.after s).Alike R pen (b.after s') := by
  obtain ⟨t, t', ht, ⟨x, ha, hb⟩ | ⟨e, ha, hb⟩⟩ := h s s' hs
  · rwa [Action.after_of_ok ha, Action.after_of_ok hb]
  · rwa [Action.after_of_error ha, Action.after_of_error hb]

theorem bind {a : Action (Scene α σ) β} {b : Action (Scene α τ) β} {f : β → Action (Scene α σ) γ}
    {g : β → Action (Scene α τ) γ} (h : Mimics R pen a b) (hrest : ∀ x, Mimics R pen (f x) (g x)) :
    Mimics R pen (a >>= f) (b >>= g) := Action.Matches.bind h hrest

theorem pure (x : β) :
    Mimics R pen (pure x : Action (Scene α σ) β) (pure x : Action (Scene α τ) β) :=
  Action.Matches.pure x

theorem ofExcept (r : Except Fault β) :
    Mimics R pen (Action.ofExcept r : Action (Scene α σ) β) (Action.ofExcept r) :=
  Action.Matches.ofExcept r

theorem ask (r : Turtle α → Except Fault β) :
    Mimics R pen (Turtle.ask r : Action (Scene α σ) β) (Turtle.ask r) := by
  intro s s' hs
  refine ⟨s, s', hs, ?_⟩
  simp only [Turtle.ask, hs.turtle]
  cases r s.turtle with
  | ok x => exact .inl ⟨x, rfl, rfl⟩
  | error e => exact .inr ⟨e, rfl, rfl⟩

/-- A change of the turtle that leaves its pen alone. -/
theorem update {f : Turtle α → Turtle α}
    (hf : ∀ t, (f t).penColour = t.penColour ∧ (f t).penSize = t.penSize) :
    Mimics R pen (Turtle.update f : Action (Scene α σ) Unit) (Turtle.update f) := by
  intro s s' hs
  refine ⟨_, _, ?_, .inl ⟨(), rfl, rfl⟩⟩
  refine ⟨congrArg f hs.turtle, hs.surface, hs.delay, hs.pauses, ?_⟩
  rw [(hf s.turtle).1, (hf s.turtle).2]
  exact hs.pen

theorem pause : Mimics R pen (Turtle.pause : Action (Scene α σ) Unit) Turtle.pause := by
  rintro ⟨t, surface, delay, pauses, log⟩ ⟨t', surface', delay', pauses', log'⟩
    ⟨hturtle, hsurface, hdelay, hpauses, hpen⟩
  obtain rfl : delay' = delay := hdelay
  obtain rfl : pauses' = pauses := hpauses
  cases delay' with
  | none => exact ⟨_, _, ⟨hturtle, hsurface, rfl, rfl, hpen⟩, .inl ⟨(), rfl, rfl⟩⟩
  | some outcome =>
    refine ⟨⟨t, surface, some outcome, pauses' + 1, log⟩,
      ⟨t', surface', some outcome, pauses' + 1, log'⟩, ⟨hturtle, hsurface, rfl, rfl, hpen⟩, ?_⟩
    simp only [Turtle.pause]
    cases outcome (pauses' + 1) with
    | none => exact .inl ⟨(), rfl, rfl⟩
    | some e => exact .inr ⟨e, rfl, rfl⟩

variable [Scalar α]

theorem turn (angle : α) :
    Mimics R pen (Turtle.turn angle : Action (Scene α σ) Unit) (Turtle.turn angle) :=
  (ask _).bind fun _ => update fun _ => ⟨rfl, rfl⟩

theorem setPosition (x y : α) :
    Mimics R pen (Turtle.setPosition x y : Action (Scene α σ) Unit) (Turtle.setPosition x y) := by
  refine (ofExcept _).bind fun _ => bind ?_ fun _ =>
    (ofExcept _).bind fun _ => update fun _ => ⟨rfl, rfl⟩
  exact update fun _ => ⟨rfl, rfl⟩

end Mimics

/-! ### Lines -/

/-- Related surfaces both take the lines of a pen, and are related after that. -/
def TakeLines (α : Type) [Surface α σ] [Surface α τ] (R : σ → τ → Prop)
    (pen : Colour → Nat → Prop) : Prop :=
  ∀ (g : Segment α) colour width r c, pen colour width → R r c → ∃ r' c', R r' c' ∧
    Surface.line g colour width r = .ok () r' ∧ Surface.line g colour width c = .ok () c'

namespace Turtle

variable [Surface α σ] [Surface α τ]

theorem mimics_lineTo (h : TakeLines α R pen) (x y : α) :
    Mimics R pen (lineTo x y : Action (Scene α σ) Unit) (lineTo x y) := by
  intro s s' hs
  cases hdown : s.turtle.isDown with
  | false =>
    rw [lineTo_of_up hdown, lineTo_of_up (hs.turtle ▸ hdown)]
    exact ⟨s, s', hs, .inl ⟨(), rfl, rfl⟩⟩
  | true =>
    rw [lineTo_of_down hdown, lineTo_of_down (hs.turtle ▸ hdown), hs.turtle]
    obtain ⟨r, c, hrelated, hr, hc⟩ := h ⟨s.turtle.x, s.turtle.y, x, y⟩ _ _ _ _ hs.pen hs.surface
    refine ⟨{ s with surface := r }, { s' with surface := c }, { hs with surface := hrelated },
      .inl ⟨(), ?_, ?_⟩⟩
    · simp only [onSurface, hr]
    · simp only [onSurface, hc]

/-! ### Motions -/

variable [Scalar α]

theorem mimics_forward (h : TakeLines α R pen) (distance : α) :
    Mimics R pen (forward distance : Action (Scene α σ) Unit) (forward distance) :=
  (Mimics.ask _).bind fun _ => (mimics_lineTo h _ _).bind fun _ => Mimics.update fun _ => ⟨rfl, rfl⟩

theorem mimics_chords (h : TakeLines α R pen) (chord angle : α) (n : Nat) :
    Mimics R pen (chords chord angle n : Action (Scene α σ) Unit) (chords chord angle n) := by
  induction n with
  | zero => exact Mimics.pure ()
  | succ n ih =>
    exact (mimics_forward h chord).bind fun _ => (Mimics.turn angle).bind fun _ =>
      Mimics.pause.bind fun _ => ih

theorem mimics_circle (h : TakeLines α R pen) (radius extent : α)
    (steps : Option (Except Fault Int)) :
    Mimics R pen (circle radius extent steps : Action (Scene α σ) Unit)
      (circle radius extent steps) := by
  unfold circle
  split
  · exact Mimics.pure ()
  · split
    · exact Mimics.turn extent
    · exact (Mimics.ask _).bind fun _ => (Mimics.ofExcept _).bind fun _ =>
        (Mimics.ofExcept _).bind fun _ => (Mimics.ofExcept _).bind fun _ => mimics_chords h _ _ _

end Turtle

namespace Step

open Turtle

variable [Scalar α] [Surface α σ] [Surface α τ]

/-- **Every motion is the same on surfaces that take its lines.** -/
theorem mimics_perform (h : TakeLines α R pen) {step : Step α} (hstep : step.isMotion = true) :
    Mimics R pen (step.perform : Action (Scene α σ) Unit) step.perform := by
  cases step with
  | goTo x y => exact (mimics_lineTo h x y).bind fun _ => Mimics.setPosition x y
  | forward distance => exact mimics_forward h distance
  | back distance => exact (Mimics.ofExcept _).bind fun _ => mimics_forward h _
  | turn angle => exact Mimics.turn angle
  | right angle => exact Mimics.turn angle
  | left angle => exact (Mimics.ofExcept _).bind fun _ => Mimics.turn _
  | circle radius extent steps => exact mimics_circle h radius extent steps
  | _ => exact nomatch hstep

/-- A run of motions leaves alike scenes alike. -/
theorem alike_leave (h : TakeLines α R pen) {steps : List (Step α)}
    (hsteps : ∀ step ∈ steps, step.isMotion = true) {s : Scene α σ} {s' : Scene α τ}
    (hs : s.Alike R pen s') : (leave s steps).Alike R pen (leave s' steps) := by
  induction steps generalizing s s' with
  | nil => exact hs
  | cons step rest ih =>
    have hfirst := (mimics_perform h (hsteps step List.mem_cons_self)).alike_after hs
    exact ih (fun x hx => hsteps x (List.mem_cons_of_mem _ hx)) hfirst

end Step

end TurtleCanvas
