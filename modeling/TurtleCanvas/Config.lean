import TurtleCanvas.CommandLine
import TurtleCanvas.Text.LetterCase

/-!
# Configuration

* `Config` : the settings of the program.
* `Config.ofOptions` : the settings that a command line asks for.
-/

namespace TurtleCanvas

/-- The settings of the program.  They are looked at when they are needed, and so may hold
anything. -/
structure Config where
  width : Argument
  height : Argument
  background : Argument
  outputPath : Argument
  /-- Chords per second. -/
  speed : Argument
  arcSteps : Argument
  showWindow : Argument
  scale : Argument
  logLevel : Argument

namespace Config

/-- The settings of a program that is told nothing. -/
def default : Config where
  width := .int 600
  height := .int 800
  background := .list [.int 224, .int 224, .int 224]
  outputPath := .text "bdd.png"
  speed := .int Options.defaultSpeed
  arcSteps := .int 30
  showWindow := .flag true
  scale := .real 1.0
  logLevel := .text "INFO"

/-- A text in upper case; nothing else has letters. -/
def upper : Argument → Except Fault Argument
  | .text s => .ok (.text (Text.toUpper s))
  | _ => .error .lacksOperation

/-- The speed asked for, or zero if that is not above zero. -/
def speedOf (speed : Argument) : Except Fault Argument := do
  Scalar.larger (Scalar.real 0) (← Scalar.toReal speed)

/-- The scale asked for, or one if that is not above zero. -/
def scaleOf (scale : Argument) : Except Fault Argument := do
  if scale.isTruthy then
    if ← Scalar.lt (Scalar.int 0) scale then Scalar.toReal scale else return .real 1.0
  else return .real 1.0

/-- The settings that a command line asks for. -/
def ofOptions (o : Options) : Except Fault Config := do
  let speed ← speedOf o.speed
  let scale ← scaleOf o.scale
  let logLevel ← upper o.logLevel
  return { default with speed, showWindow := .flag !o.noWindow, scale, logLevel }

end Config

end TurtleCanvas
