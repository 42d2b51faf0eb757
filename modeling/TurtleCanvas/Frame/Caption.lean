import TurtleCanvas.Argument.Reading
import TurtleCanvas.Picture

/-!
# Captions

How a text looks, and which texts cannot be drawn, is up to the library and the font that draw it.

* `Lettering` : a way to draw texts.
* `Picture.withCaption` : the picture with a caption at a place.
-/

namespace TurtleCanvas

/-- A way to draw texts. -/
class Lettering where
  /-- The picture with a text drawn on it in black, from a place on. -/
  text (p : Picture) (place caption : Argument) : Except Fault Picture

/-- The picture with a caption at a place.  Without a caption, or with an empty one, it stays as it
is and the place is not looked at. -/
def Picture.withCaption [Lettering] (p : Picture) (caption place : Argument) :
    Except Fault Picture :=
  if caption.isTruthy then Lettering.text p place caption else .ok p

end TurtleCanvas
