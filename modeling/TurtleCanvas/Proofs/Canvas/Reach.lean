import TurtleCanvas.Proofs.Argument.Value
import TurtleCanvas.Proofs.Canvas.Basic
import TurtleCanvas.Proofs.Canvas.Footprint

/-!
# Canvases that can be reached

A canvas that was made and painted on has a size for which there was room, and so the numbers that
its size gives rise to are doubles.

* `Canvas.IsReached` says that a canvas can be made and painted on, on some machine, and
  `Canvas.IsReachedHere` that it can on the machine at hand;
* `Canvas.IsReached.size_le` bounds its size;
* `Canvas.exists_paddedBox` says that the rectangle that a line is clipped to is worked out exactly.
-/

namespace TurtleCanvas

open Argument (hasValue_int)
open Binary64 (Representable representable_int representable_half)

namespace Canvas

/-- A canvas that painting calls leave of a fresh one, on the machine at hand. -/
def IsReachedHere [Memory] (c : Canvas) : Prop :=
  ∃ width height background c₀ calls, create width height background = .ok c₀ ∧
    c = c₀.performAll (α := Argument) calls

/-- A canvas that painting calls leave of a fresh one, on some machine. -/
def IsReached (c : Canvas) : Prop := ∃ _ : Memory, c.IsReachedHere

theorem IsReachedHere.room [Memory] {c : Canvas} (h : c.IsReachedHere) :
    (0 < c.width ∧ 0 < c.height) ∧ checkRoom c.width c.height = .ok () := by
  obtain ⟨width, height, background, c₀, calls, hc, rfl⟩ := h
  obtain ⟨hw, hh⟩ := size_performAll c₀ calls
  rw [hw, hh]
  exact room_of_create hc

theorem IsReached.size_pos {c : Canvas} (h : c.IsReached) : 0 < c.width ∧ 0 < c.height := by
  obtain ⟨_, hc⟩ := h
  exact hc.room.1

theorem IsReached.size_le {c : Canvas} (h : c.IsReached) :
    c.width ≤ 2 ^ 47 ∧ c.height ≤ 2 ^ 47 := by
  obtain ⟨_, hc⟩ := h
  exact le_of_checkRoom hc.room.1.1 hc.room.1.2 hc.room.2

/-- A white canvas of two pixels. -/
def smallCanvas : Canvas := ⟨.filled 2 1 ⟨255, 255, 255⟩, ⟨255, 255, 255⟩, 0⟩

theorem isReached_smallCanvas : smallCanvas.IsReached :=
  ⟨⟨2 ^ 33, by decide⟩, .int 2, .int 1, .ok ⟨255, 255, 255⟩, smallCanvas, [], rfl, rfl⟩

/-! ### The rectangle that a line is clipped to -/

theorem representable_of_eq_half {r : ℚ} (n : ℤ) (hn : n.natAbs < 2 ^ 53) (hr : r = n / 2) :
    Representable r :=
  hr ▸ representable_half hn

/-- How far beyond the canvas a line of a thickness is still drawn. -/
def padding (thickness : ℕ) : ℚ := thickness / 2 + 1

/-- The rectangle of a canvas, grown by half a line's thickness and a pixel, is worked out without
rounding. -/
theorem exists_paddedBox {width height thickness : ℕ} (hw : width ≤ 2 ^ 47) (hh : height ≤ 2 ^ 47)
    (ht : thickness ≤ 2 ^ 49) :
    ∃ box : Box Argument, paddedBox width height thickness = .ok box ∧
      box.xmin.HasValue (-padding thickness) ∧ box.ymin.HasValue (-padding thickness) ∧
      box.xmax.HasValue ((width - 1 : ℤ) + padding thickness) ∧
      box.ymax.HasValue ((height - 1 : ℤ) + padding thickness) := by
  obtain ⟨h, hh', hhalf⟩ := (hasValue_int (n := thickness)
    (representable_int (by omega))).exists_half (representable_half (by omega))
  obtain ⟨pad, hpad, hpadv⟩ := hhalf.exists_add
    (hasValue_int (n := 1) (representable_int (by decide)))
    (representable_of_eq_half (thickness + 2) (by omega) (by push_cast; ring))
  have hpadding : (((thickness : ℤ) : ℚ) / 2 + (1 : ℤ)) = padding thickness := by
    rw [padding]
    push_cast
    ring
  rw [hpadding] at hpadv
  obtain ⟨low, hlow, hlowv⟩ := hpadv.exists_neg
  have last : ∀ size : ℕ, size ≤ 2 ^ 47 → ∃ high, Scalar.add (.int (size - 1)) pad = .ok high ∧
      high.HasValue ((size - 1 : ℤ) + padding thickness) := fun size hsize =>
    (hasValue_int (n := size - 1) (representable_int (by omega))).exists_add hpadv
      (representable_of_eq_half (2 * (size - 1) + thickness + 2) (by omega)
        (by rw [padding]; push_cast; ring))
  obtain ⟨right, hright, hrightv⟩ := last width hw
  obtain ⟨bottom, hbottom, hbottomv⟩ := last height hh
  refine ⟨⟨low, low, right, bottom⟩, ?_, hlowv, hlowv, hrightv, hbottomv⟩
  simp only [Except.bind_eq_ok_iff, paddedBox]
  exact ⟨h, hh', pad, hpad, low, hlow, right, hright, bottom, hbottom, rfl⟩

end Canvas

end TurtleCanvas
