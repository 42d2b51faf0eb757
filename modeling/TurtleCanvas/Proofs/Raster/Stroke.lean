import Mathlib.Tactic.FinCases
import TurtleCanvas.Proofs.Raster.Disk
import TurtleCanvas.Proofs.Raster.Polygon

/-!
# How far thick lines reach

A thick line is a rectangle along the line with a disk at each end.  The corners of the rectangle are
half the thickness, rounded up, away from the ends in each direction, or one unit more where rounding
adds one.  That unit, and what the borders of the rectangle get to the right, do not make up a pixel,
if the rows that are filled are not too many.

* `Raster.abs_offset_le` says how far the corners are from the line;
* `Raster.inBox_of_covers_thickLine` says that a thick line reaches no farther out of the rectangle of
  its ends than half its thickness, rounded up, and one pixel.
-/

namespace TurtleCanvas

namespace Raster

open Point Binary64.Dyadic

variable {p q : Point} {T : ℕ}

/-- The pixel of a point, in units. -/
def inUnits (p : Point) : Point := ⟨p.x * unit, p.y * unit⟩

/-- The shares of half the thickness along the two axes are at most one unit above it. -/
theorem abs_offset_le (hpq : p ≠ q) (hT : T ≤ maxThickness) (hshort : IsShort p q) :
    |(offset p q T).x| ≤ ((T + 1) / 2 : ℕ) * unit + 1 ∧
      |(offset p q T).y| ≤ ((T + 1) / 2 : ℕ) * unit + 1 := by
  obtain ⟨hx, hy⟩ := hshort
  rw [← neg_sub, Int.natAbs_neg] at hx
  have hhalf : T * 32768 + (if T % 2 = 1 then 32768 else 0) = (T + 1) / 2 * 65536 := by
    split_ifs <;> omega
  have htotal : (T + 1) / 2 * 65536 ≤ 2 ^ 50 := by
    unfold maxThickness at hT
    omega
  have hlength : 0 < (p.x - q.x).natAbs * (p.x - q.x).natAbs +
      (q.y - p.y).natAbs * (q.y - p.y).natAbs := by
    by_cases hcolumn : p.x = q.x
    · have hrow : 0 < (q.y - p.y).natAbs := by
        have : p.y ≠ q.y := fun h => hpq (by rw [Point.mk.injEq]; exact ⟨hcolumn, h⟩)
        omega
      exact Nat.add_pos_right _ (Nat.mul_pos hrow hrow)
    · have hcolumn : 0 < (p.x - q.x).natAbs := by omega
      exact Nat.add_pos_left (Nat.mul_pos hcolumn hcolumn) _
  have hsign : ∀ (negative : Bool) (n : ℕ), n ≤ (T + 1) / 2 * 65536 + 1 →
      |withSign negative n| ≤ ((T + 1) / 2 : ℕ) * unit + 1 := by
    intro negative n hn
    unfold unit
    cases negative with
    | false =>
      show |(n : ℤ)| ≤ _
      rw [abs_of_nonneg (Int.natCast_nonneg n)]
      omega
    | true =>
      show |-(n : ℤ)| ≤ _
      rw [abs_neg, abs_of_nonneg (Int.natCast_nonneg n)]
      omega
  rw [offset]
  dsimp only
  rw [hhalf]
  exact ⟨hsign _ _ (round_share_le hlength (by omega) (Nat.le_add_left _ _) htotal),
    hsign _ _ (round_share_le hlength (by omega) (Nat.le_add_right _ _) htotal)⟩

/-- The corners of a rectangle are as far from the ends of its line as the offset. -/
theorem inBox_rectangle {d : Point} {D : ℤ} (hd : |d.x| ≤ D ∧ |d.y| ≤ D) (p q : Point) (i : Fin 4) :
    InBox D (inUnits p) (inUnits q) (rectangle p q d i) := by
  have hx := abs_le.1 hd.1
  have hy := abs_le.1 hd.2
  unfold InBox inUnits
  fin_cases i
  all_goals
    simp only [rectangle]
    omega

/-- Corners around two points that are not too far apart are not either. -/
theorem isShort_of_inBox {R : ℕ} (hR : R ≤ maxThickness) (hcolumns : (q.x - p.x).natAbs ≤ 2 ^ 32)
    (hrows : (q.y - p.y).natAbs ≤ 2 ^ 32) {r s : Point}
    (hr : InBox (R * unit + 1) (inUnits p) (inUnits q) r)
    (hs : InBox (R * unit + 1) (inUnits p) (inUnits q) s) : IsShort r s := by
  unfold maxThickness at hR
  unfold InBox inUnits unit at hr hs
  dsimp only at hr hs
  unfold IsShort
  omega

/-- Units that are fewer than those of a pixel make up one pixel at most. -/
theorem NearlyInBox.inBox {R : ℕ} {x y : ℤ}
    (h : NearlyInBox (R * unit + 1) (inUnits p) (inUnits q) x y)
    (hcount : y + R < min p.y q.y + unit) : InBox (R + 1) p q ⟨x, y⟩ := by
  obtain ⟨hupper, hlower, hleft, hright⟩ := h
  unfold toPixel inUnits unit at hupper hlower hleft hright
  unfold unit at hcount
  dsimp only at hupper hlower hleft hright
  unfold InBox
  dsimp only
  omega

theorem inBox_of_covers_disk {R : ℕ} {x y : ℤ}
    (h : Span.Covers (disk p R) x y ∨ Span.Covers (disk q R) x y) : InBox R p q ⟨x, y⟩ := by
  unfold InBox
  dsimp only
  rcases h with h | h
  · have hsquare := abs_le_of_covers_disk h
    rw [abs_le, abs_le] at hsquare
    omega
  · have hsquare := abs_le_of_covers_disk h
    rw [abs_le, abs_le] at hsquare
    omega

/-- **How far a thick line reaches**: half its thickness, rounded up, and one pixel. -/
theorem inBox_of_covers_thickLine {width height : ℕ} (hwidth : 0 < width) (hT : T ≤ maxThickness)
    (hcolumns : (q.x - p.x).natAbs ≤ 2 ^ 32) (hrows : (q.y - p.y).natAbs ≤ 2 ^ 32) {x y : ℤ}
    (hy : 0 ≤ y ∧ y < height) (hcount : (height : ℤ) + ((T + 1) / 2 : ℕ) ≤ min p.y q.y + unit)
    (h : Span.Covers (thickLine width height p q T) x y) :
    InBox (((T + 1) / 2 : ℕ) + 1) p q ⟨x, y⟩ := by
  have hradius : ((T : ℤ) * 32768 + 32768) / 65536 = ((T + 1) / 2 : ℕ) := by omega
  simp only [thickLine, hradius, Span.covers_append, or_assoc] at h
  rcases h with h | h
  · split_ifs at h with hpq
    · exact absurd h (Span.not_covers_nil x y)
    · have hcorner := inBox_rectangle (abs_offset_le hpq hT ⟨by omega, by omega⟩) p q
      have hR : (T + 1) / 2 ≤ maxThickness := by
        unfold maxThickness at hT ⊢
        omega
      exact (nearlyInBox_quadrangle hwidth (by omega) hcorner
        (fun i j => isShort_of_inBox hR hcolumns hrows (hcorner i) (hcorner j)) h).inBox (by omega)
  · exact (inBox_of_covers_disk h).mono (by omega)

end Raster

end TurtleCanvas
