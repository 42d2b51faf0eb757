import TurtleCanvas.Argument.Reading

/-!
# Reading pairs

* `Argument.toPair` : a list of two items.
-/

namespace TurtleCanvas

/-- The two items of a list of two. -/
def pairOf {α : Type} : List α → Except Fault (α × α)
  | [a, b] => .ok (a, b)
  | items =>
    .error (if items.length < 2 then .tooFewItems 2 items.length else .tooManyItems 2)

/-- The argument as a pair. -/
def Argument.toPair (a : Argument) : Except Fault (Argument × Argument) := do
  pairOf (← a.toItems)

end TurtleCanvas
