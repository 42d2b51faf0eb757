import TurtleCanvas.Argument.Block

/-!
# Indices

An index picks along the axes of a picture, which has rows, columns and components.  Usually it is
the number of a place on the next axis.  It can also be a block of such numbers, a block of flags
that picks where they are true, or something that is along no axis at all.

* `Index` : an index.
* `Argument.toIndex` : the index that an argument is.
-/

namespace TurtleCanvas

/-- An index. -/
inductive Index where
  /-- The number of a place on an axis. -/
  | place (i : Int)
  /-- An axis of length one that the picture has not. -/
  | newAxis
  /-- An axis that the picture has not, of length one for `true` and zero for `false`. -/
  | flag (b : Bool)
  /-- Numbers of places on an axis. -/
  | places (numbers : Block Int)
  /-- The places where flags along one or more axes are true. -/
  | mask (flags : Block Bool)

/-- Whole numbers as those of 64 bits, from which numbers in the upper half wrap around.  The two
kinds of numbers must not be mixed. -/
def wrapLong? (numbers : List Int) : Option (List Int) :=
  if numbers.all Fault.fitsLong then some numbers
  else if numbers.all Fault.isUpperHalf then some (numbers.map fun n => n - 2 ^ 64)
  else none

namespace Argument

/-- The truth value that an argument is. -/
def flag? : Argument → Option Bool
  | flag b => some b
  | _ => Option.none

/-- The index that a block of arguments is. -/
def indexOfBlock (b : Block Argument) : Except Fault Index :=
  match b.items.mapM flag?, b.items.mapM whole? with
  | some (f :: flags), _ => .ok (.mask ⟨b.shape, f :: flags⟩)
  | _, some numbers =>
    match wrapLong? numbers with
    | some numbers => .ok (.places ⟨b.shape, numbers⟩)
    | Option.none => .error .notAnIndex
  | _, Option.none => .error .notAnIndex

/-- The index that an argument is. -/
def toIndex : Argument → Except Fault Index
  | none => .ok .newAxis
  | flag b => .ok (.flag b)
  | number (.int i) =>
    if Fault.fitsLong i then .ok (.place i)
    else .error (if Fault.isUpperHalf i then .beyondLong else .notAnIndex)
  | number (.real _) | text _ => .error .notAnIndex
  | list items => do indexOfBlock (← (list items).toBlock maxAxes)

end Argument

end TurtleCanvas
