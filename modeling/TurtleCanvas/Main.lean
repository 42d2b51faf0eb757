import TurtleCanvas.Frame.Png
import TurtleCanvas.Program

/-!
# The command

Runs the program with the words of its command line, writes the pictures that it saved and prints
its log.
-/

open TurtleCanvas

/-- Milliseconds as seconds with two places. -/
def secondsText (milliseconds : Nat) : String :=
  let hundredths := milliseconds / 10
  let rest := hundredths % 100
  toString (hundredths / 100) ++ "." ++ (if rest < 10 then "0" else "") ++ toString rest

/-- Write the pictures that a run saved. -/
def writePictures (folder : Folder) : IO Unit :=
  folder.files.forM fun (names, content) => do
    if let .ok picture := content then
      IO.FS.writeBinFile (String.intercalate "/" names) picture.toPng

def main (words : List String) : IO UInt32 := do
  let started ← IO.monoMsNow
  let outcome := Program.run words ⟨[], [], []⟩
  writePictures outcome.folder
  let seconds := secondsText ((← IO.monoMsNow) - started)
  (outcome.log.shown outcome.output.threshold).forM fun e => IO.eprintln (e.line seconds)
  match outcome.ending with
  | .finished code => return code.toUInt32
  | .exited exit =>
    IO.print exit.output
    IO.eprint exit.errors
    return exit.code.toUInt32
  | .failed cause =>
    IO.eprintln cause.message
    return 1
