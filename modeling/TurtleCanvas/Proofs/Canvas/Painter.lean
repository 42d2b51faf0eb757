import TurtleCanvas.Canvas.Basic

/-!
# What the painter can be given

The painter counts with numbers of 32 bits.  It takes no point, no radius and no canvas beyond them,
and no line that is very thick.  Nothing of that is met on canvases whose sides, with what can be
drawn next to them, fit 32 bits.

* `Point.FitsWord`, `Canvas.IsCounted` and `Canvas.TakesDisk` are the conditions for points, for
  canvases with thin lines on them, and for disks;
* `Canvas.takesPoint_iff` says which points are taken;
* `Canvas.spans_line` and `Canvas.spans_disk` are what is painted of shapes that are taken, and
  `Canvas.spans_disk_of_not_fits` says that no other disk is.
-/

namespace TurtleCanvas

/-- The coordinates of a point fit 32 bits. -/
def Point.FitsWord (p : Point) : Prop :=
  (-2 ^ 31 ≤ p.x ∧ p.x < 2 ^ 31) ∧ -2 ^ 31 ≤ p.y ∧ p.y < 2 ^ 31

namespace Canvas

/-- The painter can count the pixels of a canvas of a size, and those next to it. -/
def IsCounted (width height : Nat) : Prop := width + 1 < 2 ^ 31 ∧ height + 1 < 2 ^ 31

instance (width height : Nat) : Decidable (IsCounted width height) :=
  inferInstanceAs (Decidable (_ ∧ _))

theorem IsCounted.le {width height : Nat} (h : IsCounted width height) :
    width ≤ 2 ^ 47 ∧ height ≤ 2 ^ 47 := by
  obtain ⟨hw, hh⟩ := h
  omega

theorem takesNumber_iff {v : Int} : Raster.takesNumber v = true ↔ -2 ^ 31 ≤ v ∧ v < 2 ^ 31 := by
  simp only [Raster.takesNumber, Bool.and_eq_true, decide_eq_true_eq]

theorem takesCoordinate_iff {size : Nat} {v : Int} : Raster.takesCoordinate size v = true ↔
    size < 2 ^ 31 ∧ -2 ^ 31 ≤ v ∧ v < 2 ^ 31 := by
  rw [Raster.takesCoordinate, Bool.and_eq_true, takesNumber_iff, takesNumber_iff]
  omega

theorem takesPoint_iff {width height : Nat} {p : Point} :
    Raster.takesPoint width height p = true ↔
      (width < 2 ^ 31 ∧ height < 2 ^ 31) ∧ p.FitsWord := by
  rw [Raster.takesPoint, Bool.and_eq_true, takesCoordinate_iff, takesCoordinate_iff]
  exact and_and_and_comm

/-- The painter can be given a disk on a canvas of a size. -/
def TakesDisk (width height : Nat) (centre : Point) (radius : Nat) : Prop :=
  (width < 2 ^ 31 ∧ height < 2 ^ 31) ∧ centre.FitsWord ∧ radius < 2 ^ 31

/-- The painter can be given the disks of no size on a canvas that it can count, and next to it. -/
theorem takesDisk_zero {width height : Nat} (h : IsCounted width height) {centre : Point}
    (hx : -((0 : Nat) : Int) - 1 ≤ centre.x ∧ centre.x ≤ width + (0 : Nat))
    (hy : -((0 : Nat) : Int) - 1 ≤ centre.y ∧ centre.y ≤ height + (0 : Nat)) :
    TakesDisk width height centre 0 := by
  obtain ⟨hw, hh⟩ := h
  simp only [TakesDisk, Point.FitsWord]
  omega

/-- The runs of a disk that the painter can be given. -/
theorem spans_disk {width height : Nat} {centre : Point} {radius : Nat}
    (h : TakesDisk width height centre radius) :
    (Shape.disk centre radius).spans width height = .ok (Raster.disk centre radius) := by
  obtain ⟨hsides, hcentre, hradius⟩ := h
  rw [Shape.spans, takesPoint_iff.2 ⟨hsides, hcentre⟩,
    takesNumber_iff.2 ⟨by omega, by exact_mod_cast hradius⟩]
  rfl

/-- A disk has no runs when its centre or its radius does not fit 32 bits. -/
theorem spans_disk_of_not_fits {centre : Point} {radius : Nat}
    (h : ¬ (centre.FitsWord ∧ radius < 2 ^ 31)) (width height : Nat) :
    (Shape.disk centre radius).spans width height = .error .pointRefused := by
  rw [Shape.spans, if_neg]
  rw [Bool.and_eq_true, takesPoint_iff, takesNumber_iff]
  rintro ⟨⟨-, hcentre⟩, -, hradius⟩
  exact h ⟨hcentre, by exact_mod_cast hradius⟩

/-- The runs of a line that is not too thick, between points that are not too far away. -/
theorem spans_line {width height : Nat} {p q : Point} {T : Nat} (hT : T ≤ Raster.maxThickness)
    (hp : Raster.takesPoint width height p = true) (hq : Raster.takesPoint width height q = true) :
    (Shape.line p q T).spans width height = .ok (Raster.line width height p q T) := by
  rw [Shape.spans, if_neg (Nat.not_lt.2 hT), hp, hq]
  rfl

end Canvas

end TurtleCanvas
