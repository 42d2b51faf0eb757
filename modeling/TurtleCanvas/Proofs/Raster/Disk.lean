import Mathlib.Algebra.Order.Ring.Abs
import Mathlib.Tactic.Linarith
import Mathlib.Tactic.Ring
import TurtleCanvas.Raster.Stroke

/-!
# The pixels of a filled disk

The stepping follows an eighth of the edge of a disk, from the end of its middle row up to the
diagonal.  Each point that it comes to is the last one of its row, and, when the edge moves inward
after it, the last one of its column too.  So the runs that belong to the point, and to its mirror
image in the diagonal, are whole rows of the disk, and no row is passed over.

* `Raster.OnEdge` is what is kept from point to point, and `Raster.OnEdge.next` that it is kept;
* `Raster.InRows` says that a pixel lies in some of the rows of a disk, and
  `Raster.covers_diskRows_iff` that these rows are filled from a point of the edge on;
* `Raster.covers_disk_iff` says that a disk has just the pixels whose middles are no farther from the
  middle of its centre than its radius.
-/

namespace TurtleCanvas

namespace Raster

variable {radius dx dy : ℤ}

/-! ### Points of the edge -/

/-- The stepping is at the last pixel of a row of the disk, unless it has passed the diagonal. -/
structure OnEdge (radius dx dy : ℤ) : Prop where
  nonneg : 0 ≤ dy
  /-- The pixel belongs to the disk. -/
  inside : dy ≤ dx → dx ^ 2 + dy ^ 2 ≤ radius ^ 2
  /-- The pixel beside it does not. -/
  outside : radius ^ 2 < (dx + 1) ^ 2 + dy ^ 2

theorem onEdge_start (h : 0 ≤ radius) : OnEdge radius radius 0 := by
  refine ⟨le_rfl, fun _ => by linarith, ?_⟩
  nlinarith

/-- The edge moves inward just when the pixel in the next row would not belong to the disk. -/
theorem OnEdge.next (h : OnEdge radius dx dy) (hle : dy ≤ dx) :
    OnEdge radius (if radius ^ 2 < dx ^ 2 + (dy + 1) ^ 2 then dx - 1 else dx) (dy + 1) := by
  have hinside := h.inside hle
  have houtside := h.outside
  have hnonneg := h.nonneg
  split_ifs with hpast
  · refine ⟨by omega, fun hle' => ?_, by rwa [sub_add_cancel]⟩
    -- Two columns to the right of the diagonal, a step to the left outweighs one up.
    linarith [show (dx - 1) ^ 2 + (dy + 1) ^ 2 = dx ^ 2 + dy ^ 2 - 2 * (dx - dy - 1) by ring]
  · exact ⟨by omega, fun _ => not_lt.1 hpast, by nlinarith⟩

theorem add_sq_le_of_abs_le {a b v : ℤ} (hle : |v| ≤ a) (hin : a ^ 2 + b ^ 2 ≤ radius ^ 2) :
    v ^ 2 + b ^ 2 ≤ radius ^ 2 := by
  have hsq := pow_le_pow_left₀ (abs_nonneg v) hle 2
  rw [sq_abs] at hsq
  linarith

/-- A pixel of the disk is no farther out than the last one of its row. -/
theorem abs_le_of_add_sq_le {a b v : ℤ} (ha : 0 ≤ a) (hin : v ^ 2 + b ^ 2 ≤ radius ^ 2)
    (hout : radius ^ 2 < (a + 1) ^ 2 + b ^ 2) : |v| ≤ a := by
  by_contra hgt
  have hsq := pow_le_pow_left₀ (by omega) (show a + 1 ≤ |v| by omega) 2
  rw [sq_abs] at hsq
  linarith

/-! ### Runs -/

theorem covers_diskBand_iff (hdx : 0 ≤ dx) (hdy : 0 ≤ dy) (c : Point) (x y : ℤ) :
    Span.Covers (diskBand c dx dy) x y ↔ |y - c.y| = dy ∧ |x - c.x| ≤ dx ∨
      |y - c.y| = dx ∧ |x - c.x| ≤ dy := by
  simp only [diskBand, Span.covers_cons, Span.not_covers_nil, Span.Holds, or_false, abs_le,
    abs_eq hdx, abs_eq hdy]
  omega

/-- The pixel belongs to the disk, and lies in one of the rows between two distances from the row of
the centre. -/
structure InRows (c : Point) (radius low high x y : ℤ) : Prop where
  inside : (x - c.x) ^ 2 + |y - c.y| ^ 2 ≤ radius ^ 2
  low_le : low ≤ |y - c.y|
  le_high : |y - c.y| ≤ high

/-- The runs of a point of the edge are the row of the point, a part of the row mirrored in the
diagonal, and all of that row when the edge moves inward. -/
theorem OnEdge.band (h : OnEdge radius dx dy) (hle : dy ≤ dx) (c : Point) (x y : ℤ) :
    (Span.Covers (diskBand c dx dy) x y → InRows c radius dy dx x y) ∧
      (InRows c radius dy dx x y → |y - c.y| = dy → Span.Covers (diskBand c dx dy) x y) ∧
      (InRows c radius dy dx x y → |y - c.y| = dx → radius ^ 2 < dx ^ 2 + (dy + 1) ^ 2 →
        Span.Covers (diskBand c dx dy) x y) := by
  have hdx : 0 ≤ dx := h.nonneg.trans hle
  have hin := h.inside hle
  rw [covers_diskBand_iff hdx h.nonneg]
  refine ⟨?_, ?_, ?_⟩
  · rintro (⟨hy, hx⟩ | ⟨hy, hx⟩)
    · exact ⟨by rw [hy]; exact add_sq_le_of_abs_le hx hin, hy.ge, hy ▸ hle⟩
    · exact ⟨by rw [hy]; exact add_sq_le_of_abs_le hx (by linarith), hy ▸ hle, hy.le⟩
  · rintro ⟨hmem, -, -⟩ hy
    rw [hy] at hmem
    exact .inl ⟨hy, abs_le_of_add_sq_le hdx hmem h.outside⟩
  · rintro ⟨hmem, -, -⟩ hy hpast
    rw [hy] at hmem
    exact .inr ⟨hy, abs_le_of_add_sq_le h.nonneg hmem (by linarith)⟩

/-- **From a point of the edge on whole rows are filled**: those from its row up to its column, which
is a row mirrored in the diagonal. -/
theorem covers_diskRows_iff (c : Point) {err plus minus : ℤ} (h : OnEdge radius dx dy)
    (herr : err = dx ^ 2 + dy ^ 2 - radius ^ 2) (hplus : plus = 2 * dy + 1)
    (hminus : minus = 2 * dx - 1) (x y : ℤ) :
    Span.Covers (diskRows c dx dy err plus minus) x y ↔ InRows c radius dy dx x y := by
  induction dx, dy, err, plus, minus using diskRows.induct with
  | case1 dx dy err plus minus hle inward onward =>
    obtain ⟨hband, hrow, hcolumn⟩ := h.band hle c x y
    have hnext := h.next hle
    -- The error that has been summed up is by how much the next pixel is outside the disk.
    have herr' : err + plus = dx ^ 2 + (dy + 1) ^ 2 - radius ^ 2 := by rw [herr, hplus]; ring
    rw [diskRows, if_pos hle, Span.covers_append]
    by_cases hpast : radius ^ 2 < dx ^ 2 + (dy + 1) ^ 2
    · rw [if_pos hpast] at hnext
      rw [if_pos (by linarith), inward hnext (by rw [herr', hminus]; ring) (by omega) (by omega)]
      constructor
      · rintro (hcovers | ⟨hin, hlow, hhigh⟩)
        · exact hband hcovers
        · exact ⟨hin, by omega, by omega⟩
      · intro hmem
        rcases hmem.low_le.eq_or_lt with hy | hlow
        · exact .inl (hrow hmem hy.symm)
        rcases hmem.le_high.eq_or_lt with hy | hhigh
        · exact .inl (hcolumn hmem hy hpast)
        · exact .inr ⟨hmem.inside, by omega, by omega⟩
    · rw [if_neg hpast] at hnext
      rw [if_neg (by linarith), onward hnext herr' (by omega) hminus]
      constructor
      · rintro (hcovers | ⟨hin, hlow, hhigh⟩)
        · exact hband hcovers
        · exact ⟨hin, by omega, hhigh⟩
      · intro hmem
        rcases hmem.low_le.eq_or_lt with hy | hlow
        · exact .inl (hrow hmem hy.symm)
        · exact .inr ⟨hmem.inside, by omega, hmem.le_high⟩
  | case2 dx dy err plus minus hgt =>
    rw [diskRows, if_neg hgt]
    exact iff_of_false (Span.not_covers_nil x y) fun hmem => hgt (hmem.low_le.trans hmem.le_high)

/-- **A disk has the pixels that are no farther from its centre than its radius**, and no others. -/
theorem covers_disk_iff (c : Point) (radius : ℕ) (x y : ℤ) :
    Span.Covers (disk c radius) x y ↔ (x - c.x) ^ 2 + (y - c.y) ^ 2 ≤ (radius : ℤ) ^ 2 := by
  have hradius : (0 : ℤ) ≤ radius := by omega
  rw [disk, covers_diskRows_iff c (onEdge_start hradius) (by ring) (by ring) rfl]
  constructor
  · rintro ⟨hin, -, -⟩
    rwa [sq_abs] at hin
  · intro hin
    refine ⟨by rwa [sq_abs], abs_nonneg _, ?_⟩
    exact abs_le_of_sq_le_sq (by linarith [sq_nonneg (x - c.x)]) hradius

/-- A disk stays in the square around it. -/
theorem abs_le_of_covers_disk {c : Point} {radius : ℕ} {x y : ℤ}
    (h : Span.Covers (disk c radius) x y) : |x - c.x| ≤ radius ∧ |y - c.y| ≤ radius := by
  rw [covers_disk_iff] at h
  have hradius : (0 : ℤ) ≤ radius := Int.natCast_nonneg radius
  exact ⟨abs_le_of_sq_le_sq (by linarith [sq_nonneg (y - c.y)]) hradius,
    abs_le_of_sq_le_sq (by linarith [sq_nonneg (x - c.x)]) hradius⟩

end Raster

end TurtleCanvas
