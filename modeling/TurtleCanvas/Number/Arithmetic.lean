import TurtleCanvas.Fault

/-!
# Arithmetic of whole and real numbers

Two whole numbers are added, subtracted and multiplied exactly; as soon as one operand is a double
the other is rounded to a double first, which fails beyond the largest one.  A quotient is always a
double, and the quotient of two whole numbers is rounded only once.

* `Number.toReal` : the nearest double.
* `Number.add`, `Number.sub`, `Number.mul`, `Number.div`, `Number.neg` : the operations.
* `Number.trunc`, `Number.round` : whole numbers from numbers.
-/

namespace TurtleCanvas

namespace Number

/-- The double nearest to a number. -/
def toReal : Number → Except Fault Float
  | int n =>
    match Binary64.ofInt? n with
    | some x => .ok x
    | none => .error .beyondReal
  | real x => .ok x

/-- Apply an operation on whole numbers to two whole numbers, and otherwise its counterpart on
doubles. -/
def lift (onInt : Int → Int → Int) (onReal : Float → Float → Float) (a b : Number) :
    Except Fault Number :=
  match a, b with
  | int m, int n => .ok (.int (onInt m n))
  | a, b => do return .real (onReal (← a.toReal) (← b.toReal))

/-- The sum. -/
def add : Number → Number → Except Fault Number := lift (· + ·) (· + ·)

/-- The difference. -/
def sub : Number → Number → Except Fault Number := lift (· - ·) (· - ·)

/-- The product. -/
def mul : Number → Number → Except Fault Number := lift (· * ·) (· * ·)

/-- The number with the other sign. -/
def neg : Number → Number
  | int n => .int (-n)
  | real x => .real (-x)

/-- The quotient, a double. -/
def div : Number → Number → Except Fault Number
  | int m, int n =>
    if n = 0 then .error .divisionByZero
    else
      match Binary64.ofRatio? (decide (m < 0) != decide (n < 0)) m.natAbs n.natAbs with
      | some x => .ok (.real x)
      | none => .error .quotientBeyondReal
  | a, b => do
    let x ← a.toReal
    let y ← b.toReal
    if y == 0.0 then .error .realDivisionByZero else return .real (x / y)

/-- Turn a double into a whole number; infinities and NaNs have none. -/
def wholeOf (f : Float → Int) : Number → Except Fault Int
  | int n => .ok n
  | real x =>
    if Binary64.isFinite x then .ok (f x)
    else if Binary64.isNaN x then .error .nanToInt
    else .error .infinityToInt

/-- The whole part. -/
def trunc : Number → Except Fault Int := wholeOf Binary64.trunc

/-- The nearest whole number, a half going to the even neighbour. -/
def round : Number → Except Fault Int := wholeOf Binary64.round

end Number

end TurtleCanvas
