import TurtleCanvas.Platform
import TurtleCanvas.Proofs.Canvas.Reach

/-!
# Clearing a canvas

A fresh canvas is filled with its background, and clearing it fills it with its background again.
The two take the colour to bytes in their own manner.  No call in between changes the size of the
canvas or its background, so that all depends on whether the background fits bytes.

* `Canvas.background_performAll` says that no run of calls changes the background, whatever its
  colours;
* `Canvas.clear_restores` says that clearing after any run gives the fresh canvas back if the
  background fits bytes, and fails without a change if it does not;
* `Canvas.not_clear_overflowing` is a canvas that can be made but not cleared.
-/

namespace TurtleCanvas

namespace Canvas

variable {α : Type} [Scalar α]

/-! ### Backgrounds -/

theorem background_enact (planned : Except Fault (Option (List Span × Colour))) (c : Canvas) :
    ((enact planned).after c).background = c.background := by
  rcases planned with e | _ | ⟨spans, colour⟩
  · rfl
  · rfl
  · simp only [Action.after, enact]
    split_ifs
    · rfl
    · rfl

theorem background_setPixel (x y : α) (ink : Ink) (c : Canvas) :
    ((setPixel x y ink).after c).background = c.background := by
  rcases h : pixelPlan c.width c.height x y ink with e | _ | ⟨⟨i, j⟩, colour⟩
  · simp [Action.after, setPixel, h]
  · simp [Action.after, setPixel, h]
  · rcases hs : colour.storeIn (c.picture.pixel i j) with ⟨pixel, _ | n⟩
    · simp only [Action.after, setPixel, h, store, hs]
    · simp only [Action.after, setPixel, h, store, hs]

theorem background_clear (c : Canvas) : (clear.after c).background = c.background := by
  cases h : c.background.firstBeyondByte? with
  | some n => simp [Action.after, clear, h]
  | none => simp [Action.after, clear, h]

/-- No call changes the background of the canvas, in whatever colour. -/
theorem background_perform (call : Paint α) (c : Canvas) :
    ((perform call).after c).background = c.background := by
  cases call with
  | pixel x y ink => exact background_setPixel x y ink c
  | line s ink penWidth =>
    cases penWidth with
    | error e => rfl
    | ok n =>
      show ((drawLine s ink n).after c).background = _
      rw [after_drawLine]
      exact background_enact _ c
  | dot x y diameter ink =>
    show ((dot x y diameter ink).after c).background = _
    rw [after_dot]
    exact background_enact _ c
  | clear => exact background_clear c

theorem background_performAll (c : Canvas) (calls : List (Paint α)) :
    (c.performAll calls).background = c.background := by
  induction calls generalizing c with
  | nil => rfl
  | cons call rest ih => exact (ih _).trans (background_perform call c)

/-- A colour that does not fit bytes has a first component that does not. -/
theorem exists_firstBeyondByte? {colour : Colour} (h : ¬ colour.FitsBytes) :
    ∃ n ∈ colour.components, ¬ (0 ≤ n ∧ n ≤ 255) ∧ colour.firstBeyondByte? = some n := by
  obtain ⟨m, hm, hbeyond⟩ : ∃ m ∈ colour.components, ¬ (0 ≤ m ∧ m ≤ 255) := by
    simpa [Colour.FitsBytes] using h
  have hfound : colour.firstBeyondByte?.isSome := List.find?_isSome.2 ⟨m, hm, by
    simpa [← Colour.fitsByte_iff] using hbeyond⟩
  obtain ⟨n, hn⟩ := Option.isSome_iff_exists.1 hfound
  refine ⟨n, List.mem_of_find?_eq_some hn, fun hfits => ?_, hn⟩
  have hnot := List.find?_some (p := fun n => !Colour.fitsByte n) hn
  simp [Colour.fitsByte_iff.2 hfits] at hnot

/-! ### Clearing -/

/-- **Clearing restores the fresh canvas.**  Let a canvas be made and any calls be made on it, in
any colours, failed ones included.  If its background fits bytes, clearing it returns, counts one
call more, and leaves the canvas otherwise as it was made.  If it does not, clearing fails at a
component that does not fit and changes nothing. -/
theorem clear_restores [Memory] {width height : Argument} {ink : Ink} {c : Canvas}
    (hc : create width height ink = .ok c) (calls : List (Paint α)) :
    let d := c.performAll calls
    (c.background.FitsBytes → clear d = .ok () { c with generation := d.generation + 1 }) ∧
      (¬ c.background.FitsBytes → ∃ n ∈ c.background.components, ¬ (0 ≤ n ∧ n ≤ 255) ∧
        clear d = .error (.ofComponent n) d) := by
  intro d
  obtain ⟨w, h, colour, pixel, -, hpixel, rfl, -, -⟩ := create_spec hc
  have hbackground : d.background = colour := background_performAll _ calls
  obtain ⟨hwidth, hheight⟩ :
      d.width = w ∧ d.height = h := size_performAll ⟨.filled w h pixel, colour, 0⟩ calls
  constructor
  · intro hfits
    obtain rfl : colour.clamped = pixel :=
      Except.ok.inj ((backgroundPixel_of_fits hfits).symm.trans hpixel)
    have hclear : clear d = .ok () ⟨.filled d.width d.height d.background.clamped, d.background,
        d.generation + 1⟩ :=
      perform_clear (α := α) (hbackground ▸ Colour.firstBeyondByte?_eq_none hfits)
    rw [hclear, hwidth, hheight, hbackground]
  · intro hbeyond
    obtain ⟨n, hmem, hn, hfirst⟩ := exists_firstBeyondByte? hbeyond
    exact ⟨n, hmem, hn, perform_clear_of_some (α := α) (hbackground ▸ hfirst)⟩

/-- A run that stores a part of a colour and fails, paints in a colour beyond bytes, and clears. -/
def tornRun : List (Paint Argument) :=
  [.pixel (.int 0) (.int 0) (.ok ⟨10, 300, 0⟩), .dot (.int 1) (.int 0) (.int 0) (.ok ⟨300, 0, 0⟩),
    .clear, .line ⟨.int 0, .int 0, .int 1, .int 0⟩ (.ok ⟨1, 2, 3⟩) (.ok 1),
    .pixel .none .none (.ok .black)]

/-- The run leaves nothing behind on a cleared canvas. -/
theorem clear_restores_tornRun :
    create (.int 2) (.int 1) (.ok ⟨255, 255, 255⟩) = .ok smallCanvas ∧
      smallCanvas.background.FitsBytes ∧
      clear (smallCanvas.performAll tornRun) =
        .ok () { smallCanvas with generation := (smallCanvas.performAll tornRun).generation + 1 } := by
  have hcreate : create (.int 2) (.int 1) (.ok ⟨255, 255, 255⟩) = .ok smallCanvas := rfl
  have hfits : smallCanvas.background.FitsBytes := by decide
  exact ⟨hcreate, hfits, (clear_restores hcreate tornRun).1 hfits⟩

/-- A canvas whose background does not fit bytes. -/
def overflowing : Canvas := ⟨.filled 2 1 ⟨44, 0, 0⟩, ⟨300, 0, 0⟩, 0⟩

/-- A canvas can be made with a background that does not fit bytes, and cannot be cleared. -/
theorem not_clear_overflowing :
    create (.int 2) (.int 1) (.ok ⟨300, 0, 0⟩) = .ok overflowing ∧
      clear overflowing = .error (.ofComponent 300) overflowing :=
  ⟨rfl, rfl⟩

end Canvas

end TurtleCanvas
