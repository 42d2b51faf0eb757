import TurtleCanvas.Number.Shortest

/-!
# Whole and real numbers

A number is given either exactly, as a whole number of any size, or as a double.  The two kinds
are compared exactly, never by rounding the whole number first.

* `Number` : a whole number or a double.
* `Number.lt`, `Number.le`, `Number.eq` : the exact order.
* `Number.text` : the number as text.
-/

namespace TurtleCanvas

/-- A whole number of any size, or a double. -/
inductive Number where
  | int (n : Int)
  | real (x : Float)
  deriving Inhabited

namespace Number

/-- The order of two numbers; a NaN stands in none. -/
def compare : Number → Number → Option Ordering
  | int a, int b => some (Ord.compare a b)
  | real x, int b => Binary64.compareInt x b
  | int a, real y => (Binary64.compareInt y a).map Ordering.swap
  | real x, real y =>
    if x < y then some .lt else if y < x then some .gt else if x == y then some .eq else none

/-- Strictly below. -/
def lt (a b : Number) : Bool := a.compare b == some .lt

/-- Below or equal. -/
def le (a b : Number) : Bool := a.compare b == some .lt || a.compare b == some .eq

/-- Equal in value: `1` and `1.0` are, as are `0.0` and `-0.0`. -/
def eq (a b : Number) : Bool := a.compare b == some .eq

/-- Neither infinite nor a NaN.  A whole number is finite. -/
def isFinite : Number → Bool
  | int _ => true
  | real x => Binary64.isFinite x

/-- The number as text. -/
def text : Number → String
  | int n => toString n
  | real x => Binary64.text x

end Number

end TurtleCanvas
