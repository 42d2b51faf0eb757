import TurtleCanvas.Canvas.Save
import TurtleCanvas.Session
import TurtleCanvas.Turtle.Step

/-!
# Drawing runs

A drawing run puts a fresh turtle on the canvas of a session, lets a script tell it what to draw,
says that the session is over and saves the canvas.  On a thread of its own, a run that fails leaves
its failure in the session.

* `Script` : a program for a turtle on a canvas.
* `Studio` : what a drawing run works with.
* `Studio.runDrawing` : a drawing run.
* `Studio.startDrawing` : a drawing run on a thread of its own, once that has ended.
-/

namespace TurtleCanvas

/-- What a drawing run works with, and what is seen of it afterwards. -/
structure Studio (α : Type) where
  session : Session
  folder : Folder
  log : Log
  /-- The turtle that the script was given, as the script left it. -/
  turtle : Option (Turtle α)
  /-- The number of pauses that the turtle made. -/
  pauses : Nat

/-- A program for a turtle on a canvas. -/
abbrev Script (α : Type) := Action (Scene α Canvas) Unit

/-- A line of a written script. -/
inductive ScriptLine (α : Type) where
  /-- Something that the turtle is told. -/
  | tell (step : Step α)
  /-- A failure. -/
  | fail (cause : Fault)

/-- The script that lines spell out; it ends at the first line that fails. -/
def Script.ofLines {α : Type} [Scalar α] :
    List (ScriptLine α) → Action (Scene α Canvas) Unit
  | [] => pure ()
  | .tell step :: rest => do
    step.perform
    Script.ofLines rest
  | .fail cause :: _ => Action.ofExcept (.error cause)

/-- A thread that was started. -/
structure Worker where
  name : String
  /-- The thread does not keep the program from ending. -/
  daemon : Bool
  alive : Bool
  deriving Repr, DecidableEq

namespace Studio

variable {α : Type} [Scalar α] [Memory] [Disk]

/-- Log an event. -/
def note (e : LogEvent) : Action (Studio α) Unit :=
  Action.change fun s => { s with log := e :: s.log }

/-- A turtle in the corner of the canvas. -/
def newTurtle (arcSteps : Except Fault Int) : Except Fault (Turtle α) :=
  Turtle.create (Scalar.real 0) (Scalar.real 0) (Scalar.real 0) arcSteps

/-- Let a script draw on the canvas of the session.  Whatever it has drawn when it fails stays. -/
def draw (turtle : Turtle α) (script : Script α) (delay : Delay) : Action (Studio α) Unit :=
  fun ⟨⟨canvas, caption, error, isComplete⟩, folder, log, _, pauses⟩ =>
    match script ⟨turtle, canvas, delay, pauses, log⟩ with
    | .ok _ ⟨turtle, canvas, _, pauses, log⟩ =>
      .ok () ⟨⟨canvas, caption, error, isComplete⟩, folder, log, some turtle, pauses⟩
    | .error e ⟨turtle, canvas, _, pauses, log⟩ =>
      .error e ⟨⟨canvas, caption, error, isComplete⟩, folder, log, some turtle, pauses⟩

/-- Say that the session is over. -/
def complete : Action (Studio α) Unit :=
  Action.change fun s => { s with session := s.session.complete }

/-- Save the canvas. -/
def save (path : Except Fault String) : Action (Studio α) Unit := fun s =>
  match path with
  | .error e => .error e s
  | .ok path =>
    match s.session.canvas.save path (s.folder, s.log) with
    | .ok _ (folder, log) => .ok () { s with folder, log }
    | .error e (folder, log) => .error e { s with folder, log }

/-- A drawing run: it ends with the turtle.  The session is over before the canvas is saved, and the
path is looked at only then. -/
def runDrawing (script : Script α) (path : Except Fault String) (delay : Delay)
    (arcSteps : Except Fault Int) : Action (Studio α) (Turtle α) := do
  let turtle ← Action.ofExcept (newTurtle arcSteps)
  let s ← get
  note (.drawingStarted s.session.canvas.width s.session.canvas.height)
  draw turtle script delay
  complete
  note .drawingFinished
  save path
  return (← get).turtle.getD turtle

/-- A drawing run on a thread of its own, once that has ended.  Nothing fails for the caller: the
session holds the failure. -/
def startDrawing (script : Script α) (path : Except Fault String) (delay : Delay)
    (arcSteps : Except Fault Int) : Action (Studio α) Worker := fun s =>
  let worker : Worker := ⟨"dwen-drawing", true, false⟩
  match runDrawing script path delay arcSteps s with
  | .ok _ s => .ok worker s
  | .error e s => .ok worker { s with
      session := s.session.fail e
      log := .threadFailed :: s.log }

end Studio

end TurtleCanvas
