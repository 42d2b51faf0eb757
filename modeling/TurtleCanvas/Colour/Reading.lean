import TurtleCanvas.Argument.Reading
import TurtleCanvas.Colour.Specifier

/-!
# Reading colours

* `Argument.toColour` : a colour from its text, or from a list of its components.
-/

namespace TurtleCanvas

/-- The colour of three components; further ones are dropped. -/
def Colour.ofComponents : List Int → Except Fault Colour
  | r :: g :: b :: _ => .ok ⟨r, g, b⟩
  | few => .error (.tooFewItems 3 few.length)

/-- The argument as a colour: the text of one, or a list of components, of which the first three
are read as whole numbers. -/
def Argument.toColour : Argument → Except Fault Colour
  | text s => Colour.parse s
  | list items => do Colour.ofComponents (← (items.take 3).mapM Argument.toInt)
  | _ => .error .wrongKind

end TurtleCanvas
