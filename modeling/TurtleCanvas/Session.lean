import TurtleCanvas.Canvas.Basic

/-!
# Drawing sessions

A session is what a drawing run and a window share: the canvas, the caption of the finished picture,
and whether the run is over.

* `Session` : the session.
* `Session.complete`, `Session.fail` : the run is over.
* `Session.wait` : wait for that.
* `Session.latestFrame` : the picture, unless it is still the one that was seen last.
-/

namespace TurtleCanvas

/-- What a drawing run and a window share. -/
structure Session where
  canvas : Canvas
  caption : Argument
  /-- What the run failed with, if it did. -/
  error : Option Fault
  /-- The run is over. -/
  isComplete : Bool

namespace Session

/-- The caption of a session for which none is given. -/
def defaultCaption : String := "BEIJING 2022"

/-- A session on a canvas. -/
def start (canvas : Canvas) (caption : Argument) : Session := ⟨canvas, caption, none, false⟩

/-- The run is over. -/
def complete (s : Session) : Session := { s with isComplete := true }

/-- The run has failed. -/
def fail (s : Session) (cause : Fault) : Session :=
  { s with error := some cause, isComplete := true }

/-- The longest time that can be waited, in nanoseconds. -/
def maxWait : Int := 2 ^ 63 - 1

/-- A time in seconds can be waited. -/
def canWait {α : Type} [Scalar α] (seconds : α) : Except Fault Bool := do
  Scalar.le (← Scalar.mul seconds (Scalar.int (10 ^ 9))) (Scalar.int maxWait)

/-- Wait for the run to be over, at most for a time, and tell whether it is.  The run is on no
thread of its own here, so that the wait changes nothing; the time is looked at only while the run
is not over. -/
def wait {α : Type} [Scalar α] (s : Session) (seconds : α) : Except Fault Bool := do
  if s.isComplete then return true
  else if ← Scalar.lt (Scalar.int 0) seconds then
    if ← canWait seconds then return false else .error .timeTooLong
  else return false

/-- A copy of the picture and the generation that it is from. -/
def frame (s : Session) : Nat × Picture := (s.canvas.generation, s.canvas.picture)

/-- The picture with its generation, unless that is the generation seen last. -/
def latestFrame (s : Session) (since : Option Nat) : Option (Nat × Picture) :=
  if since = some s.canvas.generation then none else some s.frame

end Session

/-- The generation that an argument equals, if it equals any. -/
def Argument.generation? (a : Argument) : Option Nat :=
  match a.number? with
  | some n =>
    match n.trunc with
    | .ok i => if 0 ≤ i ∧ n.eq (.int i) then some i.toNat else Option.none
    | .error _ => Option.none
  | Option.none => Option.none

end TurtleCanvas
