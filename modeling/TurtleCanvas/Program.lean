import TurtleCanvas.Config
import TurtleCanvas.Drawing
import TurtleCanvas.Log.Setup
import TurtleCanvas.Mascot.Sections
import TurtleCanvas.Pace
import TurtleCanvas.Platform
import TurtleCanvas.Window

/-!
# The program

The program draws the mascot on a fresh canvas and saves it, with or without a window that shows the
canvas while it is drawn.

* `Outcome` : what is left when the program has run.
* `Program.draw` : what the program does with its settings.
* `Program.run` : what it does with a command line.
-/

namespace TurtleCanvas

/-- How the program ended. -/
inductive Ending where
  /-- With an exit code of its own. -/
  | finished (code : Nat)
  /-- By its command line, before it began. -/
  | exited (exit : CommandLine.Exit)
  /-- With a failure that nothing took care of. -/
  | failed (cause : Fault)

/-- What is left when the program has run. -/
structure Outcome where
  ending : Ending
  /-- The events of the run, the last first, and what the log shows of them. -/
  log : Log
  output : LogOutput
  folder : Folder
  pace : Pace
  /-- The number of pauses that were made. -/
  pauses : Nat
  window : Option (Window Argument)

namespace Program

variable [Memory] [Lettering] [Disk]

/-- The program before it has done anything. -/
def nothingDone (folder : Folder) (ending : Ending) : Outcome :=
  ⟨ending, [], .initial, folder, .noPause, 0, none⟩

/-- What the turtle does after each chord: pauses that never fail, if it makes any. -/
def delayOf : Pace → Delay
  | .noPause => none
  | .pause _ => some fun _ => none

/-- The script of the program: the whole mascot on a sheet as high as the canvas. -/
def script (height : Nat) : Script Argument := Mascot.drawAll (.int height)

/-- What is left of a drawing run when the program ends. -/
def outcomeOf (ending : Ending) (o : LogOutput) (pace : Pace) (s : Studio Argument) : Outcome :=
  ⟨ending, s.log, o, s.folder, pace, s.pauses, none⟩

/-- The end of a drawing run without a window: only a picture that cannot be saved is taken care
of. -/
def endingOf : Except Fault Unit → Ending × Log
  | .ok _ => (.finished 0, [])
  | .error (.cannotSave path reason) =>
    (.finished 1, [.cannotSave (.cannotSave path reason)])
  | .error e => (.failed e, [])

/-- Draw without a window. -/
def drawUnseen (studio : Studio Argument) (path : Except Fault String) (pace : Pace)
    (arcSteps : Except Fault Int) (o : LogOutput) : Outcome :=
  let run := Studio.runDrawing (script studio.session.canvas.height) path (delayOf pace) arcSteps
  let (result, studio) : Except Fault Unit × Studio Argument := match run studio with
    | .ok _ s => (.ok (), s)
    | .error e s => (.error e, s)
  let (ending, log) := endingOf result
  let left := outcomeOf ending o pace studio
  { left with log := log ++ left.log }

/-- Draw while a window is open: the window looks at the session once the drawing has ended. -/
def drawSeen (studio : Studio Argument) (path : Except Fault String) (pace : Pace)
    (arcSteps : Except Fault Int) (scale : Argument) (o : LogOutput) : Outcome :=
  let run := Studio.startDrawing (script studio.session.canvas.height) path (delayOf pace) arcSteps
  let studio := run.after studio
  let window := Window.default studio.session scale
  let left (ending : Ending) (log : Log) (w : Window Argument) : Outcome :=
    { outcomeOf ending o pace studio with log := log ++ w.log ++ studio.log, window := some w }
  match window.run with
  | .error e w => left (.failed e) [] w
  | .ok _ w =>
    match studio.session.error with
    | some cause => left (.finished 1) [.drawingFailed cause] w
    | none => left (.finished 0) [] w

/-- What the program does with its settings. -/
def draw (config : Config) (folder : Folder) : Outcome :=
  match LogOutput.setup config.logLevel .initial with
  | .error e _ => nothingDone folder (.failed e)
  | .ok _ o =>
    let failed (e : Fault) : Outcome := { nothingDone folder (.failed e) with output := o }
    match Canvas.create config.width config.height config.background.toColour with
    | .error e =>
      match e with
      | .sizeNotWhole .. | .sizeNotPositive .. =>
        { nothingDone folder (.finished 1) with output := o, log := [.cannotCreate e] }
      | e => failed e
    | .ok canvas =>
      match Pace.ofSpeed config.speed with
      | .error e => failed e
      | .ok pace =>
        let session := Session.start canvas (.text Session.defaultCaption)
        let studio : Studio Argument := ⟨session, folder, [], none, 0⟩
        let path := config.outputPath.toPath
        if config.showWindow.isTruthy then
          drawSeen studio path pace config.arcSteps.toInt config.scale o
        else drawUnseen studio path pace config.arcSteps.toInt o

/-- What the program does with a command line. -/
def run (words : List String) (folder : Folder) : Outcome :=
  match CommandLine.parse words with
  | .error exit => nothingDone folder (.exited exit)
  | .ok options =>
    match Config.ofOptions options with
    | .error e => nothingDone folder (.failed e)
    | .ok config => draw config folder

end Program

end TurtleCanvas
