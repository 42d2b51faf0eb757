import TurtleCanvas.Turtle.Recorder
import TurtleCanvas.Turtle.Step

/-!
# Walks

A walk is what a turtle does, told without a surface: the moves and dots that a surface could take
notice of, each with the turtle at that moment, and what the turtle is like in the end.

* `Event` is a move in one straight step, or a dot, and `Event.drawn` what is drawn of it: a line
  from where the turtle was to where it is then, if the pen is down;
* `Walk` is a walk, and `Walk.andThen` one walk after another;
* `Step.walk` is the walk of one step of a program, `Step.walkProgram` that of a program which ends
  at the first step that fails, and `Step.walkAll` that of steps which all are taken.
-/

namespace TurtleCanvas

/-- What a surface could take notice of. -/
inductive Event (α : Type) where
  /-- A move in one straight step, with the turtle before and after it. -/
  | move (before after : Turtle α)
  /-- A dot, with the turtle that stamps it. -/
  | dot (turtle : Turtle α) (diameter : α) (colour : Colour)

namespace Event

variable {α : Type}

/-- What is drawn: a line from the position before a move to the position after it, in the colour
and width of the pen before it, if that pen is down; and every dot. -/
def drawn : Event α → List (Drawn α)
  | move before after =>
    if before.isDown then
      [.line ⟨before.x, before.y, after.x, after.y⟩ before.penColour before.penSize]
    else []
  | dot turtle diameter colour => [.dot turtle.x turtle.y diameter colour]

end Event

/-- What a turtle does. -/
structure Walk (α : Type) where
  events : List (Event α)
  /-- The turtle in the end. -/
  turtle : Turtle α
  /-- The number of pauses made in the end. -/
  pauses : Nat
  /-- What ended the walk before its time, if anything did. -/
  fault : Option Fault

namespace Walk

variable {α : Type}

/-- What is drawn of a walk, in order. -/
def drawn (w : Walk α) : List (Drawn α) := w.events.flatMap Event.drawn

/-- No event at all. -/
def still (t : Turtle α) (pauses : Nat) : Walk α := ⟨[], t, pauses, none⟩

/-- Nothing but a failure. -/
def stuck (t : Turtle α) (pauses : Nat) (e : Fault) : Walk α := ⟨[], t, pauses, some e⟩

/-- A move to a point. -/
def move (t : Turtle α) (pauses : Nat) (p : α × α) : Walk α :=
  ⟨[.move t { t with x := p.1, y := p.2 }], { t with x := p.1, y := p.2 }, pauses, none⟩

/-- What depends on a result, which may be that there is none. -/
def upon {β : Type} (r : Except Fault β) (t : Turtle α) (pauses : Nat) (next : β → Walk α) :
    Walk α :=
  match r with
  | .ok b => next b
  | .error e => stuck t pauses e

/-- One walk after another, unless the first one ended before its time. -/
def andThen (w : Walk α) (next : Turtle α → Nat → Walk α) : Walk α :=
  match w.fault with
  | some _ => w
  | none => { next w.turtle w.pauses with
      events := w.events ++ (next w.turtle w.pauses).events }

/-- A pause, if the turtle makes any. -/
def pause (delay : Delay) (t : Turtle α) (pauses : Nat) : Walk α :=
  match delay with
  | none => still t pauses
  | some outcome =>
    match outcome (pauses + 1) with
    | none => still t (pauses + 1)
    | some e => stuck t (pauses + 1) e

variable [Scalar α]

/-- A move by a distance along the heading. -/
def forward (distance : α) (t : Turtle α) (pauses : Nat) : Walk α :=
  upon (t.ahead distance) t pauses (move t pauses)

/-- A turn. -/
def turn (angle : α) (t : Turtle α) (pauses : Nat) : Walk α :=
  upon (t.turned angle) t pauses fun heading => still { t with heading } pauses

/-- A number of chords, with a turn and a pause after each. -/
def chords (delay : Delay) (chord angle : α) : Nat → Turtle α → Nat → Walk α
  | 0, t, pauses => still t pauses
  | n + 1, t, pauses =>
    (forward chord t pauses).andThen fun t pauses =>
      (turn angle t pauses).andThen fun t pauses =>
        (pause delay t pauses).andThen (chords delay chord angle n)

end Walk

/-- The chords of an arc. -/
structure Arc (α : Type) where
  count : Nat
  /-- The length of a chord, negative when it is walked backward. -/
  chord : α
  /-- The turn after a chord. -/
  angle : α

namespace Turtle

variable {α : Type} [Scalar α]

/-- The number of chords of an arc. -/
def arcChords (t : Turtle α) : Option (Except Fault Int) → Except Fault Nat
  | none => pure t.arcSteps
  | some steps => do return (max 1 (← steps)).toNat

/-- The chords of an arc of a radius and an extent. -/
def arc (t : Turtle α) (radius extent : α) (steps : Option (Except Fault Int)) :
    Except Fault (Arc α) := do
  let count ← t.arcChords steps
  let chord ← chordLength radius extent count
  let angle ← Scalar.div extent (Scalar.int count)
  return ⟨count, chord, angle⟩

end Turtle

namespace Step

open Walk

variable {α : Type} [Scalar α]

/-- The walk of a step. -/
def walk (delay : Delay) : Step α → Turtle α → Nat → Walk α
  | penUp, t, pauses => still { t with isDown := false } pauses
  | penDown, t, pauses => still { t with isDown := true } pauses
  | penSize size, t, pauses =>
    upon size t pauses fun n => still { t with penSize := (max 1 n).toNat } pauses
  | colour ink, t, pauses =>
    upon ink t pauses fun c => still { t with penColour := c } pauses
  | setHeading angle, t, pauses =>
    upon (foldHeading angle) t pauses fun heading => still { t with heading } pauses
  | setPosition x y, t, pauses =>
    upon (Scalar.toReal x) t pauses fun x =>
      upon (Scalar.toReal y) { t with x } pauses fun y => still { t with x, y } pauses
  | goTo x y, t, pauses =>
    upon (Scalar.toReal x) t pauses fun x' =>
      -- Without a line to draw the column is taken over before the row is looked at.
      upon (Scalar.toReal y) (if t.isDown then t else { t with x := x' }) pauses fun y' =>
        move t pauses (x', y')
  | forward distance, t, pauses => Walk.forward distance t pauses
  | back distance, t, pauses =>
    upon (Scalar.neg distance) t pauses fun d => Walk.forward d t pauses
  | turn angle, t, pauses => Walk.turn angle t pauses
  | right angle, t, pauses => Walk.turn angle t pauses
  | left angle, t, pauses => upon (Scalar.neg angle) t pauses fun a => Walk.turn a t pauses
  | dot size ink, t, pauses =>
    upon (ink.getD (.ok t.penColour)) t pauses fun c =>
      upon (Scalar.toReal (size.getD t.dotSize)) t pauses fun d => ⟨[.dot t d c], t, pauses, none⟩
  | circle radius extent steps, t, pauses =>
    if Scalar.isZero extent then still t pauses
    else if Scalar.isZero radius then Walk.turn extent t pauses
    else upon (t.arc radius extent steps) t pauses fun a =>
      chords delay a.chord a.angle a.count t pauses

/-- The walk of a program, which ends at the first step that fails. -/
def walkProgram (delay : Delay) : List (Step α) → Turtle α → Nat → Walk α
  | [], t, pauses => still t pauses
  | step :: rest, t, pauses => (step.walk delay t pauses).andThen (walkProgram delay rest)

/-- The walk of steps each of which goes on from what the one before it left, failed ones
included. -/
def walkAll (delay : Delay) : List (Step α) → Turtle α → Nat → Walk α
  | [], t, pauses => still t pauses
  | step :: rest, t, pauses =>
    let first := step.walk delay t pauses
    let others := walkAll delay rest first.turtle first.pauses
    { others with events := first.events ++ others.events }

end Step

end TurtleCanvas
