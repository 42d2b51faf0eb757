import TurtleCanvas.Proofs.Turtle.Trace

/-!
# Relations that compose along walks

* `Walk.Composes` is asked of a relation between a turtle, events and the turtle after them: that it
  holds of moves, turns and changes of the pen's style, and of two walks in sequence when it holds of
  both;
* `Step.Asks` is what a step asks beyond that;
* `Step.related_walkAll` says that the relation then holds of every run.
-/

namespace TurtleCanvas

variable {α : Type} [Scalar α]

/-- A relation of a turtle, events and the turtle after them that holds of moves, turns and changes
of the pen's style, and of two walks in sequence when it holds of both. -/
structure Walk.Composes (R : Turtle α → List (Event α) → Turtle α → Prop) : Prop where
  append {t u v : Turtle α} {es es' : List (Event α)} : R t es u → R u es' v → R t (es ++ es') v
  move (t : Turtle α) (x y : α) : R t [.move t { t with x, y }] { t with x, y }
  turn (t : Turtle α) {angle heading : α} : foldHeading angle = .ok heading →
    R t [] { t with heading }
  restyle (t : Turtle α) (penSize : Nat) (penColour : Colour) :
    R t [] { t with penSize, penColour }
  /-- A step to a point whose row cannot be read, with the pen up. -/
  drift {t : Turtle α} (x : α) : t.isDown = false → R t [] { t with x }

/-- What a step asks of a relation beyond that it composes. -/
def Step.Asks (R : Turtle α → List (Event α) → Turtle α → Prop) (t : Turtle α) : Step α → Prop
  | penUp => R t [] { t with isDown := false }
  | penDown => R t [] { t with isDown := true }
  | setPosition _ _ => ∀ x y, R t [] { t with x, y }
  | dot _ _ => ∀ diameter colour, R t [.dot t diameter colour] t
  | _ => True

variable {R : Turtle α → List (Event α) → Turtle α → Prop}

omit [Scalar α] in
/-- A relation holds upon a result if it does for every result, and for there being none. -/
theorem Walk.related_upon {β : Type} {r : Except Fault β} {t u : Turtle α} {pauses : Nat}
    {w : β → Walk α} (hu : R t [] u) (h : ∀ b, r = .ok b → R t (w b).events (w b).turtle) :
    R t (upon r u pauses w).events (upon r u pauses w).turtle := by
  cases r with
  | error e => exact hu
  | ok b => exact h b rfl

namespace Walk.Composes

theorem still (hR : Composes R) (t : Turtle α) : R t [] t := hR.restyle t t.penSize t.penColour

theorem andThen (hR : Composes R) {t : Turtle α} {w : Walk α} {next : Turtle α → Nat → Walk α}
    (hw : R t w.events w.turtle)
    (hnext : ∀ u pauses, R u (next u pauses).events (next u pauses).turtle) :
    R t (w.andThen next).events (w.andThen next).turtle := by
  cases hfault : w.fault with
  | some e => rw [andThen_of_some hfault]; exact hw
  | none => rw [andThen_of_none hfault]; exact hR.append hw (hnext _ _)

theorem pause (hR : Composes R) (delay : Delay) (t : Turtle α) (pauses : Nat) :
    R t (Walk.pause delay t pauses).events (Walk.pause delay t pauses).turtle := by
  unfold Walk.pause
  split
  · exact hR.still t
  · split
    · exact hR.still t
    · exact hR.still t

theorem forward (hR : Composes R) (distance : α) (t : Turtle α) (pauses : Nat) :
    R t (Walk.forward distance t pauses).events (Walk.forward distance t pauses).turtle :=
  related_upon (hR.still t) fun p _ => hR.move t p.1 p.2

theorem turns (hR : Composes R) (angle : α) (t : Turtle α) (pauses : Nat) :
    R t (Walk.turn angle t pauses).events (Walk.turn angle t pauses).turtle :=
  related_upon (hR.still t) fun _ h => by
    obtain ⟨_, -, hfold⟩ := Except.bind_eq_ok_iff.1 h
    exact hR.turn t hfold

theorem chords (hR : Composes R) (delay : Delay) (chord angle : α) (n : Nat) (t : Turtle α)
    (pauses : Nat) :
    R t (Walk.chords delay chord angle n t pauses).events
      (Walk.chords delay chord angle n t pauses).turtle := by
  induction n generalizing t pauses with
  | zero => exact hR.still t
  | succ n ih =>
    refine hR.andThen (hR.forward chord t pauses) fun u pauses => ?_
    refine hR.andThen (hR.turns angle u pauses) fun v pauses => ?_
    exact hR.andThen (hR.pause delay v pauses) ih

end Walk.Composes

namespace Step

open Walk (related_upon)

/-- A relation that composes holds of the walk of every step that gets what it asks. -/
theorem related_walk (hR : Walk.Composes R) (delay : Delay) {step : Step α} {t : Turtle α}
    (h : step.Asks R t) (pauses : Nat) :
    R t (step.walk delay t pauses).events (step.walk delay t pauses).turtle := by
  cases step with
  | penUp => exact h
  | penDown => exact h
  | penSize size => exact related_upon (hR.still t) fun n _ => hR.restyle t _ t.penColour
  | colour ink => exact related_upon (hR.still t) fun c _ => hR.restyle t t.penSize c
  | setHeading angle => exact related_upon (hR.still t) fun _ h => hR.turn t h
  | setPosition x y =>
    -- When the row cannot be read, the turtle is already in the new column.
    refine related_upon (hR.still t) fun x' _ => related_upon ?_ fun y' _ => h x' y'
    exact h x' t.y
  | goTo x y =>
    refine related_upon (hR.still t) fun x' _ => related_upon ?_ fun y' _ => hR.move t x' y'
    split
    · exact hR.still t
    · rename_i hd
      exact hR.drift x' (Bool.eq_false_iff.2 hd)
  | forward distance => exact hR.forward distance t pauses
  | back distance => exact related_upon (hR.still t) fun d _ => hR.forward d t pauses
  | turn angle => exact hR.turns angle t pauses
  | right angle => exact hR.turns angle t pauses
  | left angle => exact related_upon (hR.still t) fun a _ => hR.turns a t pauses
  | dot size ink =>
    exact related_upon (hR.still t) fun c _ => related_upon (hR.still t) fun d _ => h d c
  | circle radius extent steps =>
    rw [walk]
    split
    · exact hR.still t
    · split
      · exact hR.turns extent t pauses
      · exact related_upon (hR.still t) fun a _ =>
          hR.chords delay a.chord a.angle a.count t pauses

/-- A relation that composes holds of every run of steps that get what they ask. -/
theorem related_walkAll (hR : Walk.Composes R) (delay : Delay) {steps : List (Step α)}
    (h : ∀ step ∈ steps, ∀ t, step.Asks R t) (t : Turtle α) (pauses : Nat) :
    R t (walkAll delay steps t pauses).events (walkAll delay steps t pauses).turtle := by
  induction steps generalizing t pauses with
  | nil => exact hR.still t
  | cons step rest ih =>
    exact hR.append (related_walk hR delay (h step List.mem_cons_self t) pauses)
      (ih (fun x hx => h x (List.mem_cons_of_mem _ hx)) _ _)

end Step

end TurtleCanvas
