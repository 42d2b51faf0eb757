import TurtleCanvas.Folder
import TurtleCanvas.Frame.Caption
import TurtleCanvas.Frame.Mask

/-!
# The machine at hand

What programs are run on: a machine with memory for blocks of eight gigabytes, a font of which the
shapes of some texts are known, and a disk that takes every picture.
-/

namespace TurtleCanvas

instance : Memory := ⟨2 ^ 33, by decide⟩

instance : Lettering := ⟨Picture.drawCaption⟩

instance : Disk := ⟨fun _ _ _ => .done⟩

end TurtleCanvas
