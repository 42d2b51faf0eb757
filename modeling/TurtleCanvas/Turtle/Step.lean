import TurtleCanvas.Turtle.Basic

/-!
# Programs for a turtle

* `Step` : something that a turtle can be told.
* `Step.perform` : what it does.
* `Step.performAll` : a program, which ends at the first step that fails.
* `Step.leave` : what a program leaves when each step goes on from what the one before it left,
  failed ones included.
-/

namespace TurtleCanvas

/-- Something that a turtle can be told. -/
inductive Step (α : Type) where
  | penUp
  | penDown
  | penSize (size : Except Fault Int)
  | colour (ink : Ink)
  | setHeading (angle : α)
  | setPosition (x y : α)
  | goTo (x y : α)
  | forward (distance : α)
  | back (distance : α)
  | turn (angle : α)
  | right (angle : α)
  | left (angle : α)
  | dot (size : Option α) (ink : Option Ink)
  | circle (radius extent : α) (steps : Option (Except Fault Int))

namespace Step

variable {α σ : Type} [Scalar α] [Surface α σ]

/-- Let the turtle of a scene do what it is told. -/
def perform : Step α → Action (Scene α σ) Unit
  | penUp => Turtle.penUp
  | penDown => Turtle.penDown
  | penSize size => Turtle.setPenSize size
  | colour ink => Turtle.setColour ink
  | setHeading angle => Turtle.setHeading angle
  | setPosition x y => Turtle.setPosition x y
  | goTo x y => Turtle.goTo x y
  | forward distance => Turtle.forward distance
  | back distance => Turtle.back distance
  | turn angle => Turtle.turn angle
  | right angle => Turtle.turn angle
  | left angle => Turtle.turnLeft angle
  | dot size ink => Turtle.stamp size ink
  | circle radius extent steps => Turtle.circle radius extent steps

/-- A program, which ends at the first step that fails. -/
def performAll : List (Step α) → Action (Scene α σ) Unit
  | [] => pure ()
  | step :: rest => do
    step.perform
    performAll rest

/-- The scene after a program, each step of which goes on from what the one before it left. -/
def leave (scene : Scene α σ) (steps : List (Step α)) : Scene α σ :=
  steps.foldl (fun s step => (step.perform).after s) scene

end Step

end TurtleCanvas
