/-!
# Colours

* `Colour` : red, green and blue, as they were given.
-/

namespace TurtleCanvas

/-- A colour as it was given: whether its components fit a byte is found out when it is used. -/
structure Colour where
  red : Int
  green : Int
  blue : Int
  deriving Repr, DecidableEq, Inhabited

namespace Colour

/-- The three components in the order in which they are stored. -/
def components (c : Colour) : List Int := [c.red, c.green, c.blue]

/-- A component that can be stored in a byte. -/
def fitsByte (n : Int) : Bool := 0 ≤ n && n ≤ 255

/-- The colour of a fresh pen. -/
def black : Colour := ⟨0, 0, 0⟩

end Colour

end TurtleCanvas
