import TurtleCanvas.Turtle.Basic

/-!
# Strokes

A stroke is drawn on a sheet whose rows grow upward and whose headings grow counter-clockwise: the
turtle jumps to the start of the stroke and follows its path.  Drawing it turns the sheet over, by a
height that the rows are counted down from.

* `PathItem` : a heading to take, or an arc to draw.
* `Stroke` : a stroke.
* `Stroke.draw` : draw a stroke.
-/

namespace TurtleCanvas

/-- An item of a path. -/
inductive PathItem (α : Type) where
  /-- Take a heading. -/
  | heading (angle : α)
  /-- Draw an arc of a radius and an extent. -/
  | arc (shape : Except Fault (α × α))

/-- A stroke; without a colour or a width of its own it keeps those of the pen. -/
structure Stroke (α : Type) where
  name : String
  start : Except Fault (α × α)
  path : List (PathItem α)
  colour : Option Ink
  width : Option (Except Fault Int)

namespace Stroke

variable {α σ : Type} [Scalar α] [Surface α σ]

/-- Follow one item of a path. -/
def followItem : PathItem α → Action (Scene α σ) Unit
  | .heading angle => do Turtle.setHeading (← Action.ofExcept (Scalar.neg angle))
  | .arc shape => do
    let (radius, extent) ← Action.ofExcept shape
    Turtle.circle radius extent none

/-- Follow a path. -/
def follow : List (PathItem α) → Action (Scene α σ) Unit
  | [] => pure ()
  | item :: rest => do
    followItem item
    follow rest

/-- Draw a stroke on a sheet of the given height. -/
def draw (height : α) (s : Stroke α) : Action (Scene α σ) Unit := do
  let (x, y) ← Action.ofExcept s.start
  Turtle.penUp
  Turtle.setPosition x (← Action.ofExcept (Scalar.sub height y))
  match s.colour with
  | some ink => Turtle.setColour ink
  | none => pure ()
  match s.width with
  | some width => Turtle.setPenSize width
  | none => pure ()
  Turtle.penDown
  follow s.path

/-- Draw strokes one after the other. -/
def drawAll (height : α) : List (Stroke α) → Action (Scene α σ) Unit
  | [] => pure ()
  | s :: rest => do
    s.draw height
    drawAll height rest

end Stroke

end TurtleCanvas
