import TurtleCanvas.Canvas.Basic
import TurtleCanvas.Heading
import TurtleCanvas.Log.Basic

/-!
# The turtle

A turtle stands at a point of a surface, looks in a direction and holds a pen.  Columns grow to the
right and rows grow downward, and a heading grows clockwise as it is seen, so that a step along the
heading adds its cosine to the column and its sine to the row.

* `Surface` : what a turtle can draw on.
* `Turtle` : where a turtle stands and what pen it holds.
* `Scene` : a turtle with its surface and the pauses that it makes.
* `Turtle.forward`, `Turtle.goTo`, `Turtle.circle`, … : what a turtle can be told.
-/

namespace TurtleCanvas

/-- What a turtle can draw on: something that takes lines and dots. -/
class Surface (α σ : Type) where
  /-- Draw a line with a pen of a colour and width. -/
  line : Segment α → Colour → Nat → Action σ Unit
  /-- Draw a filled disk around a point. -/
  dot : (x y diameter : α) → Colour → Action σ Unit

/-- A canvas takes lines and dots. -/
instance {α : Type} [Scalar α] : Surface α Canvas where
  line s colour width := Canvas.drawLine s (.ok colour) width
  dot x y diameter colour := Canvas.dot x y diameter (.ok colour)

/-- A turtle with its pen. -/
structure Turtle (α : Type) where
  x : α
  y : α
  /-- The direction in degrees, from 0 to 360. -/
  heading : α
  /-- The pen is down: moves leave a line. -/
  isDown : Bool
  penSize : Nat
  penColour : Colour
  /-- The number of chords that an arc is drawn with. -/
  arcSteps : Nat

/-- What a turtle does between two chords of an arc: nothing, or a pause, which may fail the `k`-th
time it is made, `k` counted from 1. -/
abbrev Delay := Option (Nat → Option Fault)

/-- A turtle on a surface. -/
structure Scene (α σ : Type) where
  turtle : Turtle α
  surface : σ
  delay : Delay
  /-- The number of pauses made so far. -/
  pauses : Nat
  /-- What was logged so far, the last line first. -/
  log : Log

namespace Turtle

open Scalar

variable {α σ : Type} [Scalar α]

/-- A turtle at a point, with its pen down.  An arc takes at least one chord. -/
def create (x y heading : α) (arcSteps : Except Fault Int) : Except Fault (Turtle α) := do
  let x ← toReal x
  let y ← toReal y
  let heading ← foldHeading heading
  let steps ← arcSteps
  return ⟨x, y, heading, true, 1, Colour.black, (max 1 steps).toNat⟩

/-- The number of chords of an arc for which none is given. -/
def defaultArcSteps : Int := 30

/-- The point at a distance along the heading. -/
def ahead (t : Turtle α) (distance : α) : Except Fault (α × α) := do
  let x ← add t.x (← mul distance (← cos t.heading))
  let y ← add t.y (← mul distance (← sin t.heading))
  return (x, y)

/-- The heading turned clockwise by an angle. -/
def turned (t : Turtle α) (angle : α) : Except Fault α := do
  foldHeading (← add t.heading angle)

/-- The length of one of `steps` chords of an arc; it is negative when radius and extent have
different signs. -/
def chordLength (radius extent : α) (steps : Nat) : Except Fault α := do
  let arc ← mul (← mul (← mul (int 2) pi) radius) extent
  div arc (← mul (real 360) (int steps))

/-- The diameter of a dot for which none is given. -/
def dotSize (t : Turtle α) : α := int (max (t.penSize + 4) (2 * t.penSize) : Nat)

/-! ### Changing the turtle only -/

/-- Change the turtle of a scene. -/
@[inline] def update (f : Turtle α → Turtle α) : Action (Scene α σ) Unit :=
  Action.change fun s => { s with turtle := f s.turtle }

/-- Something that is worked out from the turtle alone. -/
@[inline] def ask {β : Type} (f : Turtle α → Except Fault β) : Action (Scene α σ) β := fun s =>
  match f s.turtle with
  | .ok b => .ok b s
  | .error e => .error e s

/-- Lift the pen. -/
def penUp : Action (Scene α σ) Unit := update fun t => { t with isDown := false }

/-- Lower the pen. -/
def penDown : Action (Scene α σ) Unit := update fun t => { t with isDown := true }

/-- Take a pen of a width, at least one pixel. -/
def setPenSize (size : Except Fault Int) : Action (Scene α σ) Unit := do
  let n ← Action.ofExcept size
  update fun t => { t with penSize := (max 1 n).toNat }

/-- Take a pen of a colour. -/
def setColour (ink : Ink) : Action (Scene α σ) Unit := do
  let colour ← Action.ofExcept ink
  update fun t => { t with penColour := colour }

/-- Look in a direction. -/
def setHeading (angle : α) : Action (Scene α σ) Unit := do
  let heading ← Action.ofExcept (foldHeading angle)
  update fun t => { t with heading }

/-- Turn clockwise. -/
def turn (angle : α) : Action (Scene α σ) Unit := do
  let heading ← ask fun t => t.turned angle
  update fun t => { t with heading }

/-- Turn counter-clockwise. -/
def turnLeft (angle : α) : Action (Scene α σ) Unit := do
  turn (← Action.ofExcept (neg angle))

/-- Stand at a point, without drawing.  The column is taken over before the row is looked at. -/
def setPosition (x y : α) : Action (Scene α σ) Unit := do
  let x ← Action.ofExcept (toReal x)
  update fun t => { t with x }
  let y ← Action.ofExcept (toReal y)
  update fun t => { t with y }

/-! ### Drawing -/

variable [Surface α σ]

/-- Let the surface of a scene take something. -/
def onSurface (paint : Action σ Unit) : Action (Scene α σ) Unit :=
  fun ⟨turtle, surface, delay, pauses, log⟩ =>
    match paint surface with
    | .ok _ surface => .ok () ⟨turtle, surface, delay, pauses, log⟩
    | .error e surface => .error e ⟨turtle, surface, delay, pauses, log⟩

/-- Draw a line from the turtle to a point if the pen is down. -/
def lineTo (x y : α) : Action (Scene α σ) Unit := do
  let t ← ask pure
  if t.isDown then onSurface (Surface.line ⟨t.x, t.y, x, y⟩ t.penColour t.penSize)

/-- Go to a point. -/
def goTo (x y : α) : Action (Scene α σ) Unit := do
  lineTo x y
  setPosition x y

/-- Go a distance along the heading, backward if it is negative. -/
def forward (distance : α) : Action (Scene α σ) Unit := do
  let p ← ask fun t => t.ahead distance
  lineTo p.1 p.2
  update fun t => { t with x := p.1, y := p.2 }

/-- Go a distance against the heading. -/
def back (distance : α) : Action (Scene α σ) Unit := do
  forward (← Action.ofExcept (neg distance))

/-- Stamp a dot, of a size that goes with the pen and in its colour unless others are given. -/
def stamp (size : Option α) (ink : Option Ink) : Action (Scene α σ) Unit := do
  let t ← ask pure
  let colour ← Action.ofExcept (ink.getD (.ok t.penColour))
  onSurface (Surface.dot t.x t.y (size.getD t.dotSize) colour)

/-- Make a pause, if the turtle makes any. -/
def pause : Action (Scene α σ) Unit := fun ⟨turtle, surface, delay, pauses, log⟩ =>
  match delay with
  | none => .ok () ⟨turtle, surface, delay, pauses, log⟩
  | some outcome =>
    match outcome (pauses + 1) with
    | none => .ok () ⟨turtle, surface, delay, pauses + 1, log⟩
    | some e => .error e ⟨turtle, surface, delay, pauses + 1, log⟩

/-- Draw chords, turning after each and pausing after that. -/
def chords (chord angle : α) : Nat → Action (Scene α σ) Unit
  | 0 => pure ()
  | n + 1 => do
    forward chord
    turn angle
    pause
    chords chord angle n

/-- Draw an arc as a run of chords.  The sign of the extent says which way the turtle turns, and it
goes backward when the radius has the other sign.  An arc of no radius only turns, one of no extent
does nothing. -/
def circle (radius extent : α) (steps : Option (Except Fault Int)) : Action (Scene α σ) Unit := do
  if isZero extent then pure ()
  else if isZero radius then turn extent
  else
    let t ← ask pure
    let n ← Action.ofExcept <| match steps with
      | none => pure t.arcSteps
      | some steps => do return (max 1 (← steps)).toNat
    let chord ← Action.ofExcept (chordLength radius extent n)
    let angle ← Action.ofExcept (div extent (int n))
    chords chord angle n

end Turtle

end TurtleCanvas
