import TurtleCanvas.Scalar

/-!
# Pauses between chords

* `Pace` : how long the turtle waits after each chord.
* `Pace.ofSeconds`, `Pace.ofSpeed` : a pace by the length of a pause, and by chords per second.
-/

namespace TurtleCanvas

/-- How long the turtle waits after each chord. -/
inductive Pace where
  /-- Not at all. -/
  | noPause
  /-- For a number of seconds. -/
  | pause (seconds : Argument)

namespace Pace

open Scalar

/-- A pause of a number of seconds; none if that is not above zero. -/
def ofSeconds (seconds : Argument) : Except Fault Pace := do
  if ← le seconds (int 0) then pure .noPause else pure (.pause seconds)

/-- The pause that fits a number of chords per second; none without a speed. -/
def ofSpeed (speed : Argument) : Except Fault Pace := do
  if !speed.isTruthy then pure .noPause
  else if ← le speed (int 0) then pure .noPause
  else ofSeconds (← div (real 1) speed)

end Pace

end TurtleCanvas
