import TurtleCanvas.Number.Binary64

/-!
# Whole-number geometry with rounded intermediate results

A few lengths and crossings of the drawing rules pass through double arithmetic before they are cut
or rounded to whole numbers.  Here each such formula is done on whole numbers, with a rounding to
the precision of a double after each step.

* `isqrt` : the whole part of a square root.
* `Dyadic.ofInt`, `Dyadic.mul`, `Dyadic.div`, `Dyadic.sqrt` : rounded operations.
* `crossing` : where a line meets a coordinate.
-/

namespace TurtleCanvas

/-- The whole part of the square root. -/
def isqrt (n : Nat) : Nat :=
  if n = 0 then 0
  else
    let r := 2 * isqrt (n / 4)
    if (r + 1) * (r + 1) ≤ n then r + 1 else r
termination_by n
decreasing_by omega

namespace Binary64.Dyadic

/-- A quotient of two natural numbers that may be scaled by a power of two. -/
def ofScaledRatio (num den : Nat) (scale : Int) : Dyadic :=
  if 0 ≤ scale then nearest (num * 2 ^ scale.toNat) den else nearest num (den * 2 ^ (-scale).toNat)

/-- A natural number rounded. -/
def ofNat (n : Nat) : Dyadic := nearest n 1

/-- The product, rounded. -/
def mul (a b : Dyadic) : Dyadic := ofScaledRatio (a.magnitude * b.magnitude) 1 (a.scale + b.scale)

/-- The quotient, rounded. -/
def div (a b : Dyadic) : Dyadic := ofScaledRatio a.magnitude b.magnitude (a.scale - b.scale)

/-- The square root of a natural number, rounded.  A root with at least 60 bits is taken, and a
last bit tells whether it is exact. -/
def sqrt (n : Nat) : Dyadic :=
  let shifted := n * 4 ^ 60
  let root := isqrt shifted
  let rest := if root * root = shifted then 0 else 1
  nearest (2 * root + rest) (2 ^ 61)

/-- The whole part. -/
def floor (a : Dyadic) : Nat :=
  if 0 ≤ a.scale then a.magnitude * 2 ^ a.scale.toNat else a.magnitude / 2 ^ (-a.scale).toNat

/-- The nearest natural number, a half going to the even neighbour. -/
def round (a : Dyadic) : Nat :=
  if 0 ≤ a.scale then a.magnitude * 2 ^ a.scale.toNat
  else divRoundEven a.magnitude (2 ^ (-a.scale).toNat)

end Binary64.Dyadic

open Binary64

/-- A natural number with the sign of a product. -/
def withSign (negative : Bool) (n : Nat) : Int := if negative then -(n : Int) else n

/-- `a * b / c`, cut to a whole number: how far a line with the slope `b / c` gets over the
distance `a`. -/
def crossing (a b c : Int) : Int :=
  let product := (Dyadic.ofNat a.natAbs).mul (Dyadic.ofNat b.natAbs)
  let quotient := product.div (Dyadic.ofNat c.natAbs)
  withSign ((decide (a < 0) != decide (b < 0)) != decide (c < 0)) quotient.floor

end TurtleCanvas
