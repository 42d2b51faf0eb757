import TurtleCanvas.Frame.Caption
import TurtleCanvas.Frame.Zoom

/-!
# Frames

* `Picture.compose` : what a window shows of a picture: the picture with a caption, scaled.
-/

namespace TurtleCanvas

/-- Where a caption stands. -/
def captionPlace : Argument := .list [.int 240, .int 450]

/-- The picture as an image, with a caption at a place, and then scaled. -/
def Picture.compose {α : Type} [Scalar α] [Memory] [Lettering] (p : Picture)
    (caption place : Argument) (scale : α) : Except Fault Picture := do
  let image ← p.toImage
  let captioned ← image.withCaption caption place
  captioned.zoom scale

end TurtleCanvas
