import TurtleCanvas.Canvas.Basic

/-!
# Runs of painting calls

* `Paint` : a call that paints on a canvas.
* `Canvas.perform` : what it does.
* `Canvas.performAll` : what a run of calls leaves, each call going on from what the one before it
  left, failed ones included.
-/

namespace TurtleCanvas

/-- A call that paints on a canvas.  The width of a pen is read before all else, and so is given
with the failure to read it. -/
inductive Paint (α : Type) where
  | pixel (x y : α) (ink : Ink)
  | line (s : Segment α) (ink : Ink) (penWidth : Except Fault Int)
  | dot (x y diameter : α) (ink : Ink)
  | clear

namespace Canvas

variable {α : Type} [Scalar α]

/-- Perform a painting call. -/
def perform : Paint α → Action Canvas Unit
  | .pixel x y ink => setPixel x y ink
  | .line s ink penWidth => fun c =>
    match penWidth with
    | .error e => .error e c
    | .ok n => drawLine s ink n c
  | .dot x y diameter ink => dot x y diameter ink
  | .clear => clear

/-- The canvas after a run of painting calls. -/
def performAll (c : Canvas) (calls : List (Paint α)) : Canvas :=
  calls.foldl (fun c call => (perform call).after c) c

end Canvas

end TurtleCanvas
