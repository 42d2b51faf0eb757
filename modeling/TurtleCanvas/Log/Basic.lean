import TurtleCanvas.Fault

/-!
# The log

* `Level` : how much an event matters.
* `LogEvent` : what is logged.
* `LogEvent.line` : an event as a line of text.
* `Log.shown` : the events that a log of a level shows.
-/

namespace TurtleCanvas

/-- How much an event matters. -/
inductive Level where
  | debug
  | info
  | error
  | critical
  deriving DecidableEq, Repr

namespace Level

/-- The levels as numbers; a log shows the events at its own level and above. -/
def value : Level → Int
  | debug => 10
  | info => 20
  | error => 40
  | critical => 50

/-- The name that stands in front of a line. -/
def name : Level → String
  | debug => "DEBUG"
  | info => "INFO"
  | error => "ERROR"
  | critical => "CRITICAL"

end Level

/-- What is logged. -/
inductive LogEvent where
  /-- A drawing run has begun. -/
  | drawingStarted (width height : Nat)
  /-- A section of the mascot is next. -/
  | drawingSection (name : String)
  /-- The script of a drawing run has ended. -/
  | drawingFinished
  /-- The canvas has been saved. -/
  | pictureSaved (width height : Nat) (path : String)
  /-- A drawing run on a thread of its own has failed. -/
  | threadFailed
  /-- The window has shown the finished picture. -/
  | finalFrameShown
  /-- The window has been closed. -/
  | windowClosed
  /-- There is no canvas to draw on. -/
  | cannotCreate (cause : Fault)
  /-- A drawing run could not save its picture. -/
  | cannotSave (cause : Fault)
  /-- The drawing run that a window waited for has failed. -/
  | drawingFailed (cause : Fault)

namespace LogEvent

/-- How much an event matters. -/
def level : LogEvent → Level
  | drawingSection _ => .debug
  | threadFailed => .error
  | cannotCreate _ | cannotSave _ | drawingFailed _ => .critical
  | _ => .info

/-- The wording of an event; a finished script tells how many seconds it took. -/
def text (seconds : String) : LogEvent → String
  | drawingStarted w h => "Drawing started on " ++ toString w ++ "x" ++ toString h ++ " canvas"
  | drawingSection name => "Drawing " ++ name
  | drawingFinished => "Drawing finished in " ++ seconds ++ "s"
  | pictureSaved w h path =>
    "Saved " ++ toString w ++ "x" ++ toString h ++ " canvas to " ++ path
  | threadFailed => "Drawing thread failed"
  | finalFrameShown => "Drawing complete, final frame shown"
  | windowClosed => "Window closed"
  | cannotCreate cause => "Cannot create canvas: " ++ cause.message
  | cannotSave cause => cause.message
  | drawingFailed cause => "Drawing failed: " ++ cause.message

/-- An event as a line, with its level in front. -/
def line (seconds : String) (e : LogEvent) : String := e.level.name ++ " - " ++ e.text seconds

end LogEvent

/-- What was logged, the last event first. -/
abbrev Log := List LogEvent

/-- The events that a log of a level shows, the first event first. -/
def Log.shown (log : Log) (level : Int) : List LogEvent :=
  (log.filter fun e => level ≤ e.level.value).reverse

end TurtleCanvas
