import TurtleCanvas.Canvas.Basic
import TurtleCanvas.Folder
import TurtleCanvas.Log.Basic

/-!
# Saving the canvas

* `Canvas.save` : save the canvas, and log that it was saved.
-/

namespace TurtleCanvas

/-- Save the canvas under a path and log it.  It is copied into an image before the path is looked
at. -/
def Canvas.save [Memory] [Disk] (c : Canvas) (path : String) : Action (Folder × Log) Unit :=
  fun (folder, log) =>
    match c.picture.toImage with
    | .error e => .error e (folder, log)
    | .ok image =>
      match Folder.save image path folder with
      | .ok _ folder => .ok () (folder, .pictureSaved c.width c.height path :: log)
      | .error e folder => .error e (folder, log)

end TurtleCanvas
