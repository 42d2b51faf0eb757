import TurtleCanvas.Action

/-!
# Setting up the log

* `LogOutput` : where the log goes and which level it shows.
* `LogOutput.setup` : set the level, and open an output if there is none yet.
-/

namespace TurtleCanvas

/-- Where the log goes: the line formats of its outputs, and the level from which events are
shown, which is a whole number or a flag. -/
structure LogOutput where
  formats : List String
  level : Argument

namespace LogOutput

/-- The log before it is set up: no output, warnings and above. -/
def initial : LogOutput := ⟨[], .int 30⟩

/-- The level as a number. -/
def threshold (o : LogOutput) : Int := o.level.whole?.getD 0

/-- The line format of an output. -/
def lineFormat : String := "%(asctime)s - %(levelname)s - %(message)s"

/-- The levels by their names. -/
def levelNames : List (String × Int) :=
  [("CRITICAL", 50), ("FATAL", 50), ("ERROR", 40), ("WARN", 30), ("WARNING", 30), ("INFO", 20),
    ("DEBUG", 10), ("NOTSET", 0)]

/-- The level that an argument names: a whole number or a flag, or a name as it stands in the
table. -/
def levelOf : Argument → Except Fault Argument
  | .text s =>
    match levelNames.lookup s with
    | some n => .ok (.int n)
    | none => .error (.unknownLevel s)
  | a => if a.whole?.isSome then .ok a else .error .wrongKind

/-- The level that is set when none is given. -/
def defaultLevel : Argument := .text "INFO"

/-- Set the level, and then open an output if there is none. -/
def setup (level : Argument) : Action LogOutput Unit := fun o =>
  match levelOf level with
  | .error e => .error e o
  | .ok level => .ok () ⟨if o.formats.isEmpty then [lineFormat] else o.formats, level⟩

end LogOutput

end TurtleCanvas
