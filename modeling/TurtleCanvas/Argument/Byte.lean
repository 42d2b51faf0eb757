import TurtleCanvas.Argument.Reading
import TurtleCanvas.Picture

/-!
# Reading bytes

A byte is stored from anything that a whole number can be read from, if that fits it.

* `Argument.toByte` : the byte of an argument.
-/

namespace TurtleCanvas

/-- The byte of a whole number, which must fit it. -/
def byteOfInt (n : Int) : Except Fault UInt8 :=
  if Colour.fitsByte n then .ok (clampByte n) else .error (.ofComponent n)

/-- The byte of an argument. -/
def Argument.toByte (a : Argument) : Except Fault UInt8 := do byteOfInt (← a.toInt)

end TurtleCanvas
