import TurtleCanvas.Proofs.Raster.Line
import TurtleCanvas.Proofs.Raster.Rounded

/-!
# Lines cut to the picture

A line that leaves the picture is cut off at the sides of the picture that it crosses.  Where it
crosses them is rounded, but a crossing lies between the two ends that the line has just then.  So
however often a line is cut, what is left of it stays in the rectangle of its ends.

* `Point.InBox` says that a point is at most a distance outside the rectangle of two others;
* `Raster.cutRows_spec` says what one cut does, and `Raster.cutRows_both` and
  `Raster.cutColumns_both` what the cuts at both ends do;
* `Raster.inBox_of_visible?` is what all of them leave, and `Raster.inBox_of_covers_thinLine` what is
  drawn of a line one pixel thick.
-/

namespace TurtleCanvas

namespace Point

variable {d d' : ℤ} {p q r p' q' : Point}

/-- The point `r` is at most `d` outside the rectangle of `p` and `q`. -/
def InBox (d : ℤ) (p q r : Point) : Prop :=
  (min p.x q.x - d ≤ r.x ∧ r.x ≤ max p.x q.x + d) ∧ min p.y q.y - d ≤ r.y ∧ r.y ≤ max p.y q.y + d

/-- A line is short enough for its crossings to be rounded by less than one. -/
def IsShort (p q : Point) : Prop := (q.x - p.x).natAbs ≤ 2 ^ 50 ∧ (q.y - p.y).natAbs ≤ 2 ^ 50

/-- The point with its column and row exchanged. -/
def transposed (p : Point) : Point := ⟨p.y, p.x⟩

theorem inBox_left (p q : Point) : InBox 0 p q p := by
  unfold InBox
  omega

theorem inBox_right (p q : Point) : InBox 0 p q q := by
  unfold InBox
  omega

theorem InBox.comm (h : InBox d p q r) : InBox d q p r := by
  unfold InBox at h ⊢
  omega

theorem InBox.mono (h : InBox d p q r) (hd : d ≤ d') : InBox d' p q r := by
  unfold InBox at h ⊢
  omega

/-- What lies between points in a rectangle is in it. -/
theorem InBox.between (hp : InBox d p q p') (hq : InBox d p q q') (hr : InBox 0 p' q' r) :
    InBox d p q r := by
  unfold InBox at hp hq hr ⊢
  omega

theorem InBox.transposed (h : InBox d p q r) :
    InBox d p.transposed q.transposed r.transposed := And.symm h

/-- Part of a short line is short. -/
theorem IsShort.between (h : IsShort p q) (hp : InBox 0 p q p') (hq : InBox 0 p q q') :
    IsShort p' q' := by
  unfold IsShort at h ⊢
  unfold InBox at hp hq
  omega

theorem IsShort.comm (h : IsShort p q) : IsShort q p := by
  unfold IsShort at h ⊢
  omega

end Point

namespace Raster

open Point

variable {p q p' q' : Point} {width height : ℕ}

/-! ### Cutting -/

/-- An end of a line that is not in the range is moved to the end of the range, which is on the way to
the other end of the line if that lies elsewhere. -/
theorem limit_between {v w last : ℤ} (hlast : 0 ≤ last) (hv : side v last ≠ .inRange)
    (hw : side v last ≠ side w last) :
    (0 ≤ (side v last).limit last ∧ (side v last).limit last ≤ last) ∧
      (v < (side v last).limit last ∧ (side v last).limit last ≤ w ∨
        w ≤ (side v last).limit last ∧ (side v last).limit last < v) := by
  by_cases hbefore : v < 0
  · have hside : side v last = .before := if_pos hbefore
    have hw0 : ¬ w < 0 := fun h => hw (hside.trans (if_pos h).symm)
    have hlimit : Side.before.limit last = 0 := rfl
    rw [hside, hlimit]
    omega
  · by_cases hbehind : last < v
    · have hside : side v last = .behind := by rw [side, if_neg hbefore, if_pos hbehind]
      have hwlast : ¬ (¬ w < 0 ∧ last < w) := fun h =>
        hw (hside.trans (by rw [side, if_neg h.1, if_pos h.2]))
      have hlimit : Side.behind.limit last = last := rfl
      rw [hside, hlimit]
      omega
    · exact absurd (by rw [side, if_neg hbefore, if_neg hbehind]) hv

/-- **Cutting an end off** moves it along the line into the rows of the picture, if the line does not
miss them as a whole. -/
theorem cutRows_spec {bottom : ℤ} (hbottom : 0 ≤ bottom) (hshort : IsShort p q)
    (hcut : side p.y bottom = .inRange ∨ side p.y bottom ≠ side q.y bottom) :
    InBox 0 p q (cutRows p q bottom) ∧ side (cutRows p q bottom).y bottom = .inRange := by
  rw [cutRows]
  split_ifs with hside
  · exact ⟨inBox_left p q, hside⟩
  · obtain ⟨hrange, hway⟩ := limit_between hbottom hside (hcut.resolve_left hside)
    dsimp only
    generalize (side p.y bottom).limit bottom = y at hrange hway ⊢
    obtain ⟨hx, hy⟩ := hshort
    have hcross := crossing_between (a := y - p.y) (b := q.x - p.x) (c := q.y - p.y) (by omega)
      (by omega) hx
    generalize crossing (y - p.y) (q.x - p.x) (q.y - p.y) = x at hcross ⊢
    refine ⟨?_, side_eq_inRange_iff.2 hrange⟩
    unfold InBox
    dsimp only
    omega

/-- The second end is cut off the line that is left when the first has been. -/
theorem cutRows_both {bottom : ℤ} (hbottom : 0 ≤ bottom) (hshort : IsShort p q)
    (hcut : side p.y bottom = .inRange ∨ side p.y bottom ≠ side q.y bottom) :
    InBox 0 p q (cutRows p q bottom) ∧ InBox 0 p q (cutRows q (cutRows p q bottom) bottom) := by
  obtain ⟨hp, hside⟩ := cutRows_spec hbottom hshort hcut
  generalize cutRows p q bottom = p' at hp hside ⊢
  have hshort' : IsShort q p' := (hshort.between hp (inBox_right p q)).comm
  have hcut' : side q.y bottom = .inRange ∨ side q.y bottom ≠ side p'.y bottom := by
    rw [hside]
    exact eq_or_ne _ _
  obtain ⟨hq, -⟩ := cutRows_spec hbottom hshort' hcut'
  exact ⟨hp, (inBox_right p q).between hp hq⟩

/-- Columns are cut like rows. -/
theorem cutColumns_eq (p q : Point) (right : ℤ) :
    cutColumns p q right = (cutRows p.transposed q.transposed right).transposed := by
  have hside : side p.transposed.y right = side p.x right := rfl
  rw [cutColumns, cutRows, hside]
  split_ifs
  · rfl
  · rfl

theorem cutColumns_both {right : ℤ} (hright : 0 ≤ right) (hshort : IsShort p q)
    (hcut : side p.x right = .inRange ∨ side p.x right ≠ side q.x right) :
    InBox 0 p q (cutColumns p q right) ∧ InBox 0 p q (cutColumns q (cutColumns p q right) right) := by
  have hshort' : IsShort p.transposed q.transposed := hshort.symm
  obtain ⟨hp, hq⟩ := cutRows_both hright hshort' hcut
  rw [cutColumns_eq p q, cutColumns_eq q]
  exact ⟨hp.transposed, hq.transposed⟩

/-- **What is visible of a line stays in the rectangle of its ends.** -/
theorem inBox_of_visible? {width height : ℤ} (hwidth : 0 < width) (hheight : 0 < height)
    (hshort : IsShort p q) (h : visible? width height p q = some (p', q')) :
    InBox 0 p q p' ∧ InBox 0 p q q' := by
  rw [visible?] at h
  dsimp only at h
  split_ifs at h with hmisses hinside hcolumns
  · obtain ⟨rfl, rfl⟩ := Prod.mk.inj (Option.some.inj h)
    exact ⟨inBox_left p q, inBox_right p q⟩
  · obtain ⟨rfl, rfl⟩ := Prod.mk.inj (Option.some.inj h)
    have hrows : side p.y (height - 1) = .inRange ∨
        side p.y (height - 1) ≠ side q.y (height - 1) := by
      simp only [missesBy, Bool.or_eq_true, Bool.and_eq_true, bne_iff_ne, beq_iff_eq] at hmisses
      tauto
    obtain ⟨hp, hq⟩ := cutRows_both (by omega) hshort hrows
    generalize cutRows q (cutRows p q (height - 1)) (height - 1) = q1 at hq hcolumns ⊢
    generalize cutRows p q (height - 1) = p1 at hp hcolumns ⊢
    simp only [Bool.and_eq_true, bne_iff_ne, beq_iff_eq, not_and_or, not_not] at hcolumns
    obtain ⟨hp', hq'⟩ := cutColumns_both (by omega) (hshort.between hp hq) hcolumns
    exact ⟨hp.between hq hp', hp.between hq hq'⟩

/-! ### Thin lines -/

/-- **A line one pixel thick stays in the rectangle of its ends.** -/
theorem inBox_of_covers_thinLine (hwidth : 0 < width) (hheight : 0 < height)
    (hshort : IsShort p q) {x y : ℤ} (h : Span.Covers (thinLine width height p q) x y) :
    InBox 0 p q ⟨x, y⟩ := by
  rw [thinLine] at h
  cases hvisible : visible? width height p q with
  | none =>
    rw [hvisible] at h
    exact absurd h (Span.not_covers_nil x y)
  | some ends =>
    obtain ⟨p', q'⟩ := ends
    rw [hvisible, Span.covers_map_ofPoint_iff, mem_segmentPixels_iff] at h
    obtain ⟨k, hk, hpixel⟩ := h
    obtain ⟨hp, hq⟩ := inBox_of_visible? (by omega) (by omega) hshort hvisible
    have hbetween := between_pixelAlong p' q' hk
    rw [hpixel] at hbetween
    refine hp.between hq ?_
    unfold InBox
    omega

end Raster

end TurtleCanvas
