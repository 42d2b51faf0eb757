import TurtleCanvas.Argument.Reading

/-!
# The arithmetic of coordinates

The geometry of this library is written once, over any arithmetic that offers the operations of
`Scalar`.  Loosely given arguments are such an arithmetic: whole numbers stay exact, all else is
double arithmetic in the order written, and an operation on something that is no number fails.
Exact fields are others.

* `Scalar` : the operations.
* `Scalar.larger`, `Scalar.smaller` : the greater and the lesser of two values, the first when they
  do not compare.
* `instScalarArgument` : the arithmetic of arguments.
-/

namespace TurtleCanvas

/-- An arithmetic for coordinates and angles.  Every operation may fail, since what it is applied to
need not be a number. -/
class Scalar (α : Type) where
  /-- A whole number. -/
  int : Int → α
  /-- A whole number as a real. -/
  real : Int → α
  /-- The ratio of a circle's circumference to its diameter. -/
  pi : α
  /-- Not infinite and not undefined. -/
  isFinite : α → Except Fault Bool
  /-- The sum. -/
  add : α → α → Except Fault α
  /-- The difference. -/
  sub : α → α → Except Fault α
  /-- The product. -/
  mul : α → α → Except Fault α
  /-- The quotient. -/
  div : α → α → Except Fault α
  /-- The value with the other sign. -/
  neg : α → Except Fault α
  /-- Strictly below. -/
  lt : α → α → Except Fault Bool
  /-- Below or equal. -/
  le : α → α → Except Fault Bool
  /-- Equal to zero; what is no number is not. -/
  isZero : α → Bool
  /-- Equal to one; what is no number is not. -/
  isOne : α → Bool
  /-- The nearest whole number, a half going to the even neighbour. -/
  round : α → Except Fault Int
  /-- The whole part. -/
  trunc : α → Except Fault Int
  /-- The value as a real. -/
  toReal : α → Except Fault α
  /-- The remainder of the division that truncates its quotient. -/
  rem : α → α → Except Fault α
  /-- The cosine of an angle in degrees. -/
  cos : α → Except Fault α
  /-- The sine of an angle in degrees. -/
  sin : α → Except Fault α

namespace Scalar

variable {α : Type} [Scalar α]

/-- The greater of two values: the second only when it is strictly above the first. -/
def larger (a b : α) : Except Fault α := do
  if ← lt a b then pure b else pure a

/-- The lesser of two values: the second only when it is strictly below the first. -/
def smaller (a b : α) : Except Fault α := do
  if ← lt b a then pure b else pure a

/-- Every value is finite; the first that is not settles it. -/
def allFinite : List α → Except Fault Bool
  | [] => pure true
  | v :: rest => do
    if ← isFinite v then allFinite rest else pure false

end Scalar

/-! ### Loosely given arguments -/

namespace Argument

/-- An operation on two numbers as an operation on arguments. -/
def lift (f : Number → Number → Except Fault Number) (a b : Argument) : Except Fault Argument := do
  return .number (← f (← a.toNumber) (← b.toNumber))

/-- The product of two arguments.  A whole number times a text is the text repeated. -/
def times : Argument → Argument → Except Fault Argument
  | .number (.int n), .text s => .ok (.text (String.join (List.replicate n.toNat s)))
  | a, b => lift Number.mul a b

/-- A comparison of two numbers as a comparison of arguments. -/
def liftOrder (f : Number → Number → Bool) (a b : Argument) : Except Fault Bool := do
  return f (← a.toNumber) (← b.toNumber)

/-- An operation on doubles as an operation on an argument that is a number. -/
def onReal (f : Float → Float) (a : Argument) : Except Fault Argument := do
  return .real (f (← (← a.toNumber).toReal))

/-- The double nearest to the ratio of a circle's circumference to its diameter. -/
def circleRatio : Float := 3.141592653589793

/-- A function of doubles that leaves a NaN as it is. -/
def keepingNaN (f : Float → Float) (x : Float) : Float := if Binary64.isNaN x then x else f x

/-- A function of doubles with values from -1 to 1, as sine and cosine are.  Core says nothing of the
values of its own functions, so it is said here: what is beyond is no value. -/
def withinOne (f : Float → Float) (x : Float) : Float :=
  let y := f x
  if Binary64.compareInt y 1 = some .gt ∨ Binary64.compareInt y (-1) = some .lt then Binary64.nan
  else y

/-- An angle in degrees as one in radians. -/
def radians (x : Float) : Float := x * (circleRatio / 180.0)

/-- The double nearest to a whole number; the numbers of this library's own texts are small. -/
def realOf (n : Int) : Float := (Binary64.ofInt? n).getD (Binary64.infinity (decide (n < 0)))

/-- A number is finite unless it is an infinity or a NaN; a whole number beyond the largest double
cannot be asked. -/
def isFinite (a : Argument) : Except Fault Bool := do
  return Binary64.isFinite (← (← a.toNumber).toReal)

end Argument

/-- Arguments as coordinates. -/
instance instScalarArgument : Scalar Argument where
  int := .int
  real n := .real (Argument.realOf n)
  pi := .real Argument.circleRatio
  isFinite := Argument.isFinite
  add := Argument.lift Number.add
  sub := Argument.lift Number.sub
  mul := Argument.times
  div := Argument.lift Number.div
  neg a := do return .number (← a.toNumber).neg
  lt := Argument.liftOrder Number.lt
  le := Argument.liftOrder Number.le
  isZero a := a.number?.any fun n => n.eq (.int 0)
  isOne a := a.number?.any fun n => n.eq (.int 1)
  round a := do (← a.toNumber).round
  trunc := Argument.toInt
  toReal a := do return .real (← a.toReal)
  rem a b := do
    return .real (Binary64.rem (← (← a.toNumber).toReal) (← (← b.toNumber).toReal))
  cos := Argument.onReal fun x =>
    Argument.keepingNaN (Argument.withinOne Float.cos) (Argument.radians x)
  sin := Argument.onReal fun x =>
    Argument.keepingNaN (Argument.withinOne Float.sin) (Argument.radians x)

end TurtleCanvas
