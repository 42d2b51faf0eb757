import TurtleCanvas.Action
import TurtleCanvas.Frame.Compose
import TurtleCanvas.Log.Basic
import TurtleCanvas.Session

/-!
# The window

A window looks at a session from time to time.  At each tick it shows the canvas if it has changed
since it was last shown, and schedules the next tick; once the session is over it shows the canvas
with the caption and schedules nothing more.

* `Window` : the window with the ticks that are scheduled.
* `Window.openOn` : a new window.
* `Window.tick` : one look at the session.
* `Window.run`, `Window.fire`, `Window.close` : what happens to a window.
-/

namespace TurtleCanvas

/-- What a window asks of the desktop, which is handed its title and its least size as they are
given. -/
inductive WindowCall where
  | title (text : Argument)
  | minimumSize (extents : List Argument)
  | geometry (text : String)
  | watchClosing
  | mainLoop

/-- A window on a session. -/
structure Window (α : Type) where
  session : Session
  /-- The time between two ticks, in milliseconds. -/
  refresh : Argument
  scale : α
  /-- The generation that was looked at last. -/
  seen : Option Nat
  /-- The finished picture has been shown. -/
  finished : Bool
  /-- The picture that is shown. -/
  image : Option Picture
  /-- The number of pictures shown so far. -/
  shown : Nat
  /-- The times until the scheduled ticks, the oldest first. -/
  pending : List Argument
  destroyed : Bool
  /-- What was asked of the desktop, the first first. -/
  calls : List WindowCall
  log : Log

namespace Window

/-- The title of a window for which none is given. -/
def defaultTitle : Argument := .text "冰墩墩"

/-- The least size, and the first size, of a window for which none is given. -/
def defaultSize : Argument := .list [.int 300, .int 300]

/-- The time between two ticks for which none is given. -/
def defaultRefresh : Argument := .int 30

/-- The text of a size, of which the first two items count. -/
def sizeText : List Argument → Except Fault String
  | width :: height :: _ => .ok (width.plainText ++ "x" ++ height.plainText)
  | few => .error (.gapUnfilled few.length)

variable {α : Type} [Scalar α] [Memory] [Lettering]

/-- A window on a session, which shows nothing yet. -/
def blank (session : Session) (refresh : Argument) (scale : α) (calls : List WindowCall) :
    Window α where
  session := session
  refresh := refresh
  scale := scale
  seen := none
  finished := false
  image := none
  shown := 0
  pending := []
  destroyed := false
  calls := calls
  log := []

/-- A window on a session.  Its sizes must be lists. -/
def openOn (session : Session) (title minimum initial refresh : Argument) (scale : α) :
    Except Fault (Window α) := do
  let extents ← minimum.toItems
  let geometry ← sizeText (← initial.toItems)
  return blank session refresh scale
    [.title title, .minimumSize extents, .geometry geometry, .watchClosing]

/-- A window on a session with nothing but its scale given. -/
def default (session : Session) (scale : α) : Window α :=
  blank session defaultRefresh scale
    [.title defaultTitle, .minimumSize [.int 300, .int 300], .geometry "300x300", .watchClosing]

/-- Show a picture with a caption. -/
def present (picture : Picture) (caption : Argument) : Action (Window α) Unit := fun w =>
  match picture.compose caption captionPlace w.scale with
  | .ok image => .ok () { w with image := some image, shown := w.shown + 1 }
  | .error e => .error e w

/-- Schedule the next tick. -/
def schedule : Action (Window α) Unit :=
  Action.change fun w => { w with pending := w.pending ++ [w.refresh] }

/-- Show the finished picture. -/
def showFinal : Action (Window α) Unit := fun w =>
  (do
    present w.session.canvas.picture w.session.caption
    Action.change fun w => { w with finished := true, log := .finalFrameShown :: w.log } :
    Action (Window α) Unit) w

/-- Show the picture if it has changed.  Its generation is noted before it is shown. -/
def showLatest : Action (Window α) Unit := fun w =>
  match w.session.latestFrame w.seen with
  | none => .ok () w
  | some (generation, picture) => present picture .none { w with seen := some generation }

/-- One look at the session. -/
def tick : Action (Window α) Unit := fun w =>
  if w.session.isComplete then showFinal w
  else
    (do
      showLatest
      schedule : Action (Window α) Unit) w

/-- Look at the session and wait for what happens to the window. -/
def run : Action (Window α) Unit := do
  tick
  Action.change fun w => { w with calls := w.calls ++ [.mainLoop] }

/-- Let the oldest scheduled tick happen, if there is one. -/
def fire : Action (Window α) Bool := fun w =>
  match w.pending with
  | [] => .ok false w
  | _ :: rest =>
    (do
      tick
      return true : Action (Window α) Bool) { w with pending := rest }

/-- Close the window. -/
def close : Action (Window α) Unit :=
  Action.change fun w => { w with destroyed := true, log := .windowClosed :: w.log }

end Window

end TurtleCanvas
