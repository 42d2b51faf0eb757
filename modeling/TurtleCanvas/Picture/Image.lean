import TurtleCanvas.Fault
import TurtleCanvas.Memory
import TurtleCanvas.Picture

/-!
# Pictures as images

To be written on, scaled or saved, a picture is copied into an image: a block of memory of four
bytes a pixel.  The sides of an image are counted in 32 bits, and so are the bits of a row on the
way into it.

* `Image.checkSide`, `Image.checkRoom` : an image of a size can be made.
* `Picture.toImage` : the picture as an image.
-/

namespace TurtleCanvas

namespace Image

/-- A side of an image fits 32 bits. -/
def checkSide (n : Nat) : Except Fault Unit :=
  if 2 ^ 63 ≤ n then .error .beyondLong
  else if 2 ^ 31 ≤ n then .error .beyondWord
  else .ok ()

/-- The greatest width of an image, whose rows have four bytes a pixel. -/
def maxWidth : Nat := 2 ^ 29 - 2

/-- The greatest width of a picture that is copied into an image.  The bits of a row, 24 a pixel,
are counted with room for seven pixels more. -/
def maxRow : Nat := (2 ^ 31 - 1) / 24 - 7

/-- There is memory for an image. -/
def checkRoom [Memory] (width height : Nat) : Except Fault Unit :=
  if maxWidth < width ∨ Memory.room < 4 * (width * height) then .error .noRoomForZoom else .ok ()

end Image

/-- The picture as an image, which shows the same. -/
def Picture.toImage [Memory] (p : Picture) : Except Fault Picture := do
  Image.checkSide p.width
  Image.checkSide p.height
  Image.checkRoom p.width p.height
  if Image.maxRow < p.width then .error .noRoomForZoom else return p

end TurtleCanvas
