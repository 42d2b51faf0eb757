import TurtleCanvas.Proofs.Argument.Clip
import TurtleCanvas.Proofs.Binary64.Bounded
import TurtleCanvas.Proofs.Canvas.Margin
import TurtleCanvas.Proofs.Canvas.NonFinite

/-!
# Lines between points that are not too far away

A line is clipped with doubles, and what is left of it need not lie in the margin of the canvas.  It
does up to one pixel as long as no end is farther away than `2 ^ 50`: then a distance from a side is
rounded by at most a quarter of a pixel, a parameter moves a point by at most half a pixel, and the
way along the line is rounded by at most another quarter.

* `Argument.Within` says that an argument is a double, and within a bound if it is finite, and
  `Argument.LiesBetween` that it is a number between two others;
* `Segment.exists_coordinate` bounds the error of a coordinate, and `Segment.exists_clip_near` says
  that what is left of a segment is near to the rectangle that it is clipped to;
* `Canvas.exists_lineShape_of_near` says that such a line can be rounded to pixels that fit 32 bits,
  and `Canvas.exists_drawLine` that it can be drawn on a canvas on which all widths can.
-/

namespace TurtleCanvas

open Argument (real reads_real IsInterval)
open Binary64 (value Representable representable_half unitError)

/-! ### Doubles as arguments -/

namespace Argument

/-- A double that is at most a bound in magnitude, unless it is an infinity or a NaN. -/
def Within (b : ℚ) (a : Argument) : Prop := ∃ x, a = real x ∧ Binary64.Within b x

/-- An argument is a number between two others. -/
def LiesBetween (low high : ℚ) (a : Argument) : Prop := ∃ q, a.HasValue q ∧ low ≤ q ∧ q ≤ high

variable {a : Argument} {b : ℚ}

theorem Within.mono (h : a.Within b) {b' : ℚ} (hb : b ≤ b') : a.Within b' := by
  obtain ⟨x, rfl, hx⟩ := h
  exact ⟨x, rfl, hx.mono hb⟩

theorem Within.fitsReal (h : a.Within b) : a.FitsReal := by
  obtain ⟨x, rfl, -⟩ := h
  exact fitsReal_real x

theorem Within.liesBetween_or_isNonFinite (h : a.Within b) : a.LiesBetween (-b) b ∨ a.IsNonFinite := by
  obtain ⟨x, rfl, hx⟩ := h
  cases hfinite : Binary64.isFinite x with
  | true =>
    obtain ⟨hlow, hhigh⟩ := abs_le.1 (hx hfinite)
    exact .inl ⟨value x, ⟨_, rfl, hfinite, rfl⟩, hlow, hhigh⟩
  | false => exact .inr (isNonFinite_real hfinite)

/-- A whole number is read as a double that is as small. -/
theorem exists_reads_within {n : ℤ} {m : ℕ} (hn : n.natAbs ≤ m) (hm : m < 2 ^ 53) :
    ∃ x, (int n).Reads x ∧ Binary64.Within m x := by
  obtain ⟨x, hx, -, hvalue⟩ :=
    (hasValue_int (Binary64.representable_int (n := n) (by omega))).exists_reads
  refine ⟨x, hx, Binary64.within_of_value_eq hvalue ?_⟩
  rw [← Int.cast_abs, Int.abs_eq_natAbs]
  exact_mod_cast hn

theorem within_of_toReal {n : ℤ} {m : ℕ} (hn : n.natAbs ≤ m) (hm : m < 2 ^ 53)
    (h : Scalar.toReal (int n) = .ok a) : a.Within m := by
  obtain ⟨x, ⟨k, hk, hx⟩, hwithin⟩ := exists_reads_within hn hm
  obtain ⟨y, hy, h⟩ := Except.bind_eq_ok_iff.1 h
  obtain rfl := Except.ok.inj h
  obtain rfl := Except.ok.inj (((toReal_of_number? hk).trans hx).symm.trans hy)
  exact ⟨x, rfl, hwithin⟩

/-- A number moves by half a unit at most when it is rounded. -/
theorem LiesBetween.exists_round {low high : ℚ} (h : a.LiesBetween low high) :
    ∃ n, Scalar.round a = .ok n ∧ low - 1 / 2 ≤ n ∧ n ≤ high + 1 / 2 := by
  obtain ⟨q, hq, hlow, hhigh⟩ := h
  obtain ⟨hbelow, habove⟩ := roundHalfEven_bounds q
  exact ⟨_, hq.round_eq_roundHalfEven, by linarith, by linarith⟩

end Argument

/-- Points at most so far away are clipped with an error of less than a pixel. -/
def farthest : ℚ := 2 ^ 50

namespace Segment

/-! ### One coordinate -/

variable {a d low high : Argument} {x D L H : ℚ}

/-- A difference that is not too large is rounded by at most a quarter. -/
theorem exists_sub_quarter (ha : a.HasValue x) (hd : d.HasValue D) (hle : |x - D| ≤ 2 ^ 51) :
    ∃ c r, Scalar.sub a d = .ok c ∧ c.HasValue r ∧ |r| ≤ 2 ^ 51 ∧ |r - (x - D)| ≤ 1 / 4 := by
  have hbound : (2 : ℚ) ^ 53 * 2 ^ (-2 : ℤ) = 2 ^ 51 := by norm_num
  have hquarter : (2 : ℚ) ^ (-2 : ℤ) = 1 / 4 := by norm_num
  have hsub := ha.exists_sub_near hd (e := -2) (by decide) (by decide)
  rw [hbound, hquarter] at hsub
  exact hsub hle

/-- The two inequalities that keep a coordinate between two sides are those of the exact distances
from the sides, to a quarter of a pixel. -/
theorem exists_inequalities (ha : a.HasValue x) (hd : d.HasValue D) (hlow : low.HasValue L)
    (hhigh : high.HasValue H) (hL : |x - L| ≤ 2 ^ 51) (hH : |H - x| ≤ 2 ^ 51) :
    ∃ n p q, Scalar.neg d = .ok n ∧ Scalar.sub a low = .ok p ∧ Scalar.sub high a = .ok q ∧
      ∃ P Q, HasValues (n, p) (-D, P) ∧ HasValues (d, q) (D, Q) ∧
        |P - (x - L)| ≤ 1 / 4 ∧ |Q - (H - x)| ≤ 1 / 4 := by
  obtain ⟨n, hn, hnD⟩ := hd.exists_neg
  obtain ⟨p, P, hp, hpP, -, hP⟩ := exists_sub_quarter ha hlow hL
  obtain ⟨q, Q, hq, hqQ, -, hQ⟩ := exists_sub_quarter hhigh ha hH
  exact ⟨n, p, q, hn, hp, hq, P, Q, ⟨hnD, hpP⟩, ⟨hd, hqQ⟩, hP, hQ⟩

/-- **The coordinate of a point that nearly satisfies the inequalities** is at most one pixel outside
the sides. -/
theorem exists_coordinate (ha : a.HasValue x) (hd : d.HasValue D) (hD : |D| ≤ 2 ^ 51)
    (hL : Representable (L - 1)) (hH : Representable (H + 1)) {P Q : ℚ}
    (hP : |P - (x - L)| ≤ 1 / 4) (hQ : |Q - (H - x)| ≤ 1 / 4) {t : Float}
    (ht : Binary64.isFinite t = true) (h0 : 0 ≤ value t) (h1 : value t ≤ 1)
    (hlow : -D * value t ≤ P + |-D| * unitError) (hhigh : D * value t ≤ Q + |D| * unitError) :
    ∃ step, Scalar.mul (real t) d = .ok step ∧ ∃ c, Scalar.add a step = .ok c ∧
      c.LiesBetween (L - 1) (H + 1) := by
  obtain ⟨u, hu, hufinite, rfl⟩ := ha.exists_reads
  obtain ⟨v, hv, hvfinite, rfl⟩ := hd.exists_reads
  have hstep : |value t * value v| ≤ 2 ^ 53 * 2 ^ (-2 : ℤ) := by
    rw [abs_mul, abs_of_nonneg h0]
    calc value t * |value v| ≤ |value v| := mul_le_of_le_one_left (abs_nonneg _) h1
      _ ≤ 2 ^ 51 := hD
      _ = 2 ^ 53 * 2 ^ (-2 : ℤ) := by norm_num
  obtain ⟨hfinite, herror⟩ :=
    (Binary64.beside_mul ht hvfinite).abs_value_sub_le (by decide) (by decide) hstep
  have hslope : |value v| * unitError ≤ 1 / 2 := by
    calc |value v| * unitError ≤ 2 ^ 51 * unitError := by
          rw [unitError]
          gcongr
      _ = 1 / 2 := by
          rw [unitError]
          norm_num
  have hquarter : (2 : ℚ) ^ (-2 : ℤ) = 1 / 4 := by norm_num
  rw [hquarter] at herror
  rw [abs_neg] at hlow
  have hP := abs_le.1 hP
  have hQ := abs_le.1 hQ
  have herror := abs_le.1 herror
  have hsum := Binary64.beside_add hufinite hfinite
  obtain ⟨hcfinite, hclow, hchigh⟩ := Binary64.isFinite_of_atLeast_of_atMost
    (hsum.atLeast _ hL (by linarith [hP.2, herror.1]))
    (hsum.atMost _ hH (by linarith [hQ.2, herror.2]))
  exact ⟨_, hv.real_mul t, _, hu.lift_real _, value (u + t * v), ⟨_, rfl, hcfinite, rfl⟩, hclow, hchigh⟩

/-- A whole or half number that is not too large, as the sides of a rectangle are. -/
def IsSide (q : ℚ) : Prop := ∃ n : ℤ, n.natAbs ≤ 2 ^ 50 ∧ q = n / 2

theorem IsSide.abs_le (h : IsSide L) : |L| ≤ 2 ^ 50 := by
  obtain ⟨n, hn, rfl⟩ := h
  have hn' : |(n : ℚ)| ≤ 2 ^ 50 := by
    rw [← Int.cast_abs, Int.abs_eq_natAbs]
    exact_mod_cast hn
  rw [abs_div, abs_of_pos (two_pos : (0 : ℚ) < 2)]
  exact (half_le_self (abs_nonneg _)).trans hn'

theorem IsSide.representable_sub (h : IsSide L) : Representable (L - 1) := by
  obtain ⟨n, hn, rfl⟩ := h
  rw [show (n / 2 - 1 : ℚ) = ((n - 2 : ℤ) : ℚ) / 2 by push_cast; ring]
  exact representable_half (by omega)

theorem IsSide.representable_add (h : IsSide H) : Representable (H + 1) := by
  obtain ⟨n, hn, rfl⟩ := h
  rw [show (n / 2 + 1 : ℚ) = ((n + 2 : ℤ) : ℚ) / 2 by push_cast; ring]
  exact representable_half (by omega)

/-- Along one axis, the inequalities for the parameters of the points between two sides can be worked
out, and where they are nearly satisfied so can the coordinate, which is near to the sides. -/
theorem exists_axis {a₀ a₁ : Argument} (h₀ : a₀.LiesBetween (-farthest) farthest)
    (h₁ : a₁.LiesBetween (-farthest) farthest) (hlow : low.HasValue L) (hhigh : high.HasValue H)
    (hL : IsSide L) (hH : IsSide H) :
    ∃ d n p q, Scalar.sub a₁ a₀ = .ok d ∧ Scalar.neg d = .ok n ∧ Scalar.sub a₀ low = .ok p ∧
      Scalar.sub high a₀ = .ok q ∧
      ∃ D P Q, HasValues (n, p) (-D, P) ∧ HasValues (d, q) (D, Q) ∧
        ∀ t, Binary64.isFinite t = true → 0 ≤ value t → value t ≤ 1 →
          -D * value t ≤ P + |-D| * unitError → D * value t ≤ Q + |D| * unitError →
          ∃ step, Scalar.mul (real t) d = .ok step ∧
            ∃ c, Scalar.add a₀ step = .ok c ∧ c.LiesBetween (L - 1) (H + 1) := by
  obtain ⟨x₀, hx₀, hx₀low, hx₀high⟩ := h₀
  obtain ⟨x₁, hx₁, hx₁low, hx₁high⟩ := h₁
  rw [farthest] at hx₀low hx₀high hx₁low hx₁high
  have hL' := abs_le.1 hL.abs_le
  have hH' := abs_le.1 hH.abs_le
  obtain ⟨d, D, hd, hdD, hD, -⟩ :=
    exists_sub_quarter hx₁ hx₀ (abs_le.2 ⟨by linarith, by linarith⟩)
  obtain ⟨n, p, q, hn, hp, hq, P, Q, hnp, hdq, hP, hQ⟩ := exists_inequalities hx₀ hdD hlow hhigh
    (abs_le.2 ⟨by linarith, by linarith⟩) (abs_le.2 ⟨by linarith, by linarith⟩)
  refine ⟨d, n, p, q, hd, hn, hp, hq, D, P, Q, hnp, hdq, ?_⟩
  intro t ht h0 h1 hbelow habove
  exact exists_coordinate hx₀ hdD hD hL.representable_sub hH.representable_add hP hQ ht h0 h1
    hbelow habove

/-! ### Clipping -/

/-- The sides of a rectangle have exact values, which are whole or half numbers. -/
structure HasSides (box : Box Argument) (sides : Box ℚ) : Prop where
  xmin : box.xmin.HasValue sides.xmin
  ymin : box.ymin.HasValue sides.ymin
  xmax : box.xmax.HasValue sides.xmax
  ymax : box.ymax.HasValue sides.ymax
  isSide : ∀ q ∈ [sides.xmin, sides.ymin, sides.xmax, sides.ymax], IsSide q

/-- The ends of a segment are at most a pixel outside a rectangle. -/
structure StaysBeside (kept : Segment Argument) (sides : Box ℚ) : Prop where
  x0 : kept.x0.LiesBetween (sides.xmin - 1) (sides.xmax + 1)
  y0 : kept.y0.LiesBetween (sides.ymin - 1) (sides.ymax + 1)
  x1 : kept.x1.LiesBetween (sides.xmin - 1) (sides.xmax + 1)
  y1 : kept.y1.LiesBetween (sides.ymin - 1) (sides.ymax + 1)

/-- **A segment between distant points is clipped to the rectangle**, up to a pixel. -/
theorem exists_clip_near {s : Segment Argument}
    (hs : ∀ v ∈ [s.x0, s.y0, s.x1, s.y1], v.LiesBetween (-farthest) farthest) {box : Box Argument}
    {sides : Box ℚ} (hbox : HasSides box sides) :
    ∃ kept?, s.clip box = .ok kept? ∧ ∀ kept ∈ kept?, kept.StaysBeside sides := by
  have hfinite : s.isFinite = .ok true :=
    Argument.allFinite_of_hasValue fun v hv => (hs v hv).imp fun _ h => h.1
  have hsides := hbox.isSide
  simp only [List.forall_mem_cons] at hs hsides
  obtain ⟨hx0, hy0, hx1, hy1, -⟩ := hs
  obtain ⟨hxmin, hymin, hxmax, hymax, -⟩ := hsides
  obtain ⟨dx, nx, px, qx, hdx, hnx, hpx, hqx, DX, PX, QX, hleft, hright, hcolumn⟩ :=
    exists_axis hx0 hx1 hbox.xmin hbox.xmax hxmin hxmax
  obtain ⟨dy, ny, py, qy, hdy, hny, hpy, hqy, DY, PY, QY, hupper, hlower, hrow⟩ :=
    exists_axis hy0 hy1 hbox.ymin hbox.ymax hymin hymax
  have hbounds : s.bounds box dx dy = .ok [(nx, px), (dx, qx), (ny, py), (dy, qy)] := by
    simp only [bounds, hnx, hpx, hqx, hny, hpy, hqy]
    rfl
  have hexact : List.Forall₂ HasValues [(nx, px), (dx, qx), (ny, py), (dy, qy)]
      [(-DX, PX), (DX, QX), (-DY, PY), (DY, QY)] :=
    .cons hleft (.cons hright (.cons hupper (.cons hlower .nil)))
  obtain ⟨kept?, hkept, hends⟩ := exists_clip_of_bounds
    (G := fun p => p.1.LiesBetween (sides.xmin - 1) (sides.xmax + 1) ∧
      p.2.LiesBetween (sides.ymin - 1) (sides.ymax + 1))
    hfinite hdx hdy hbounds hexact (by
      intro t ht h0 h1 hnear
      simp only [NearlySatisfies, List.forall_mem_cons] at hnear
      obtain ⟨hl, hr, hu, hd, -⟩ := hnear
      obtain ⟨_, hmulx, x, hx, hxnear⟩ := hcolumn t ht h0 h1 hl hr
      obtain ⟨_, hmuly, y, hy, hynear⟩ := hrow t ht h0 h1 hu hd
      refine ⟨(x, y), ?_, hxnear, hynear⟩
      simp only [pointAt, Except.bind_eq_ok_iff]
      exact ⟨_, hmulx, x, hx, _, hmuly, y, hy, rfl⟩)
  refine ⟨kept?, hkept, ?_⟩
  intro kept hmem
  obtain ⟨⟨hstartx, hstarty⟩, hstopx, hstopy⟩ := hends kept hmem
  exact ⟨hstartx, hstarty, hstopx, hstopy⟩

end Segment

namespace Canvas

/-! ### Lines on a canvas -/

theorem takesPoint_of_fitsWord {p : Point} (h : p.FitsWord) {width height : ℕ}
    (hw : width ≤ Raster.maxThickness) (hh : height ≤ Raster.maxThickness) :
    Raster.takesPoint width height p = true := by
  unfold Raster.maxThickness at hw hh
  exact takesPoint_iff.2 ⟨⟨by omega, by omega⟩, h⟩

/-- The sides of the rectangle that a line is clipped to. -/
theorem exists_paddedBox_hasSides {width height T : ℕ} (hw : width ≤ 2 ^ 47) (hh : height ≤ 2 ^ 47)
    (hT : T ≤ 2 ^ 49) : ∃ box : Box Argument, paddedBox width height T = .ok box ∧
      Segment.HasSides box (marginBox width height T) := by
  obtain ⟨box, hbox, hxmin, hymin, hxmax, hymax⟩ := exists_paddedBox hw hh hT
  have hfirst : Segment.IsSide (-padding T) :=
    ⟨-(T + 2), by omega, by rw [padding]; push_cast; ring⟩
  have hlast : ∀ size : ℕ, size ≤ 2 ^ 47 → Segment.IsSide ((size - 1 : ℤ) + padding T) :=
    fun size hsize => ⟨2 * (size - 1) + T + 2, by omega, by rw [padding]; push_cast; ring⟩
  have hsides : (marginBox width height T : Box ℚ) = ⟨-padding T, -padding T,
      (width - 1 : ℤ) + padding T, (height - 1 : ℤ) + padding T⟩ := by
    rw [marginBox_eq, padding]
    push_cast
    rfl
  rw [hsides]
  refine ⟨box, hbox, hxmin, hymin, hxmax, hymax, ?_⟩
  simp only [List.forall_mem_cons, List.not_mem_nil, false_implies, implies_true, and_true]
  exact ⟨hfirst, hfirst, hlast width hw, hlast height hh⟩

/-- Lines of all widths can be drawn on the canvas. -/
def TakesAllWidths (c : Canvas) : Prop := sizeLimit c.width c.height ≤ Raster.maxThickness

/-- A canvas that takes all widths is not large. -/
theorem TakesAllWidths.bounds {c : Canvas} (hc : c.TakesAllWidths) (penWidth : ℤ) :
    c.width ≤ Raster.maxThickness ∧ c.height ≤ Raster.maxThickness ∧
      thickness c.width c.height penWidth ≤ Raster.maxThickness := by
  unfold TakesAllWidths sizeLimit at hc
  refine ⟨by omega, by omega, ?_⟩
  unfold thickness sizeLimit
  omega

/-- What is at most a pixel outside the margin is moved to a pixel that fits 32 bits. -/
theorem exists_round_beside {size T : ℕ} (hsize : size ≤ Raster.maxThickness)
    (hT : T ≤ Raster.maxThickness) {a : Argument}
    (h : a.LiesBetween (-(T / 2 + 1) - 1) (size - 1 + (T / 2 + 1) + 1)) :
    ∃ n, Scalar.round a = .ok n ∧ -2 ^ 31 ≤ n ∧ n < 2 ^ 31 := by
  obtain ⟨n, hn, hlow, hhigh⟩ := h.exists_round
  have hsize' : (size : ℚ) ≤ 32767 := by exact_mod_cast hsize
  have hT' : (T : ℚ) ≤ 32767 := by exact_mod_cast hT
  have hfirst : ((-2 ^ 31 : ℤ) : ℚ) ≤ n := by
    push_cast
    linarith
  have hlast : (n : ℚ) < ((2 ^ 31 : ℤ) : ℚ) := by
    push_cast
    linarith
  exact ⟨n, hn, by exact_mod_cast hfirst, by exact_mod_cast hlast⟩

/-- What is at most a pixel outside the margin goes between pixels that fit 32 bits. -/
theorem exists_pixels_beside {width height T : ℕ} (hw : width ≤ Raster.maxThickness)
    (hh : height ≤ Raster.maxThickness) (hT : T ≤ Raster.maxThickness) {kept : Segment Argument}
    (h : kept.StaysBeside (marginBox width height T)) : ∃ p q : Point,
      (Scalar.round kept.x0 = .ok p.x ∧ Scalar.round kept.y0 = .ok p.y) ∧
      (Scalar.round kept.x1 = .ok q.x ∧ Scalar.round kept.y1 = .ok q.y) ∧
      p.FitsWord ∧ q.FitsWord := by
  rw [marginBox_eq] at h
  obtain ⟨i0, hi0, hi0fits⟩ := exists_round_beside hw hT h.x0
  obtain ⟨j0, hj0, hj0fits⟩ := exists_round_beside hh hT h.y0
  obtain ⟨i1, hi1, hi1fits⟩ := exists_round_beside hw hT h.x1
  obtain ⟨j1, hj1, hj1fits⟩ := exists_round_beside hh hT h.y1
  exact ⟨⟨i0, j0⟩, ⟨i1, j1⟩, ⟨hi0, hj0⟩, ⟨hi1, hj1⟩, ⟨hi0fits, hj0fits⟩, hi1fits, hj1fits⟩

/-- **What is left of a line between points that are not too far away** is at most a pixel outside the
margin, and is moved to pixels that fit 32 bits. -/
theorem exists_lineShape_of_near {c : Canvas} (hc : c.TakesAllWidths) {s : Segment Argument}
    (hs : ∀ v ∈ [s.x0, s.y0, s.x1, s.y1], v.LiesBetween (-farthest) farthest) (penWidth : ℤ) :
    let T := thickness c.width c.height penWidth
    ∃ box kept? shape?, paddedBox c.width c.height T = .ok box ∧
      Segment.HasSides box (marginBox c.width c.height T) ∧ s.clip box = .ok kept? ∧
      (∀ kept ∈ kept?, kept.StaysBeside (marginBox c.width c.height T)) ∧
      lineShape c.width c.height s penWidth = .ok shape? ∧
      ∀ shape ∈ shape?, ∃ p q, shape = .line p q T ∧ p.FitsWord ∧ q.FitsWord := by
  intro T
  obtain ⟨hw, hh, hT⟩ := hc.bounds penWidth
  have hmax : Raster.maxThickness ≤ 2 ^ 47 := by decide
  obtain ⟨box, hbox, hsides⟩ := exists_paddedBox_hasSides (hw.trans hmax) (hh.trans hmax)
    (hT.trans (by decide))
  obtain ⟨kept?, hkept, hbeside⟩ := Segment.exists_clip_near hs hsides
  cases kept? with
  | none =>
    have hshape : lineShape c.width c.height s penWidth = .ok none := by
      rw [lineShape, hbox, Except.ok_bind, hkept]
      rfl
    refine ⟨box, none, none, hbox, hsides, hkept, hbeside, hshape, ?_⟩
    intro shape h
    exact absurd h (Option.not_mem_none shape)
  | some kept =>
    obtain ⟨p, q, ⟨hpx, hpy⟩, ⟨hqx, hqy⟩, hp, hq⟩ := exists_pixels_beside hw hh hT (hbeside kept rfl)
    have hshape : lineShape c.width c.height s penWidth = .ok (some (.line p q T)) := by
      rw [lineShape, hbox, Except.ok_bind, hkept, Except.ok_bind]
      simp only [hpx, hpy, hqx, hqy]
      rfl
    refine ⟨box, some kept, some (.line p q T), hbox, hsides, hkept, hbeside, hshape, ?_⟩
    intro shape h
    exact ⟨p, q, (Option.mem_some_iff.1 h).symm, hp, hq⟩

/-- A line between pixels that fit 32 bits is drawn on a canvas that takes all widths. -/
theorem exists_drawLine_of_lineShape {c : Canvas} (hc : c.TakesAllWidths) {s : Segment Argument}
    {colour : Colour} (hcolour : colour.FitsBytes) {penWidth : ℤ} {shape? : Option Shape}
    (hshape : lineShape c.width c.height s penWidth = .ok shape?)
    (hline : ∀ shape ∈ shape?, ∃ p q, shape = .line p q (thickness c.width c.height penWidth) ∧
      p.FitsWord ∧ q.FitsWord) :
    ∃ c', drawLine s (.ok colour) penWidth c = .ok () c' ∧ c'.TakesAllWidths := by
  obtain ⟨hw, hh, hT⟩ := hc.bounds penWidth
  cases shape? with
  | none => exact ⟨c, drawLine_of_lineShape_none hshape _, hc⟩
  | some shape =>
    obtain ⟨p, q, rfl, hp, hq⟩ := hline shape rfl
    refine ⟨_, drawLine_of_spans hcolour hshape (spans_line hT (takesPoint_of_fitsWord hp hw hh)
      (takesPoint_of_fitsWord hq hw hh)), ?_⟩
    rw [TakesAllWidths, width_mark, height_mark]
    exact hc

/-- **A line between points that are not too far away can be drawn** on a canvas that takes all
widths, and so can one from or to no finite point. -/
theorem exists_drawLine {c : Canvas} (hc : c.TakesAllWidths) {s : Segment Argument}
    (hs : ∀ v ∈ [s.x0, s.y0, s.x1, s.y1], v.Within farthest) {colour : Colour}
    (hcolour : colour.FitsBytes) (penWidth : ℤ) :
    ∃ c', drawLine s (.ok colour) penWidth c = .ok () c' ∧ c'.TakesAllWidths := by
  by_cases hnon : ∃ v ∈ [s.x0, s.y0, s.x1, s.y1], v.IsNonFinite
  · obtain ⟨hw, hh, -⟩ := hc.bounds penWidth
    have hmax : Raster.maxThickness ≤ 2 ^ 47 := by decide
    have hfinite : s.isFinite = .ok false :=
      Argument.allFinite_of_isNonFinite (fun v hv => (hs v hv).fitsReal) hnon
    have hshape := lineShape_of_isFinite (hw.trans hmax) (hh.trans hmax) hfinite penWidth
    exact ⟨c, drawLine_of_lineShape_none hshape _, hc⟩
  · have hnear : ∀ v ∈ [s.x0, s.y0, s.x1, s.y1], v.LiesBetween (-farthest) farthest := fun v hv =>
      (hs v hv).liesBetween_or_isNonFinite.resolve_right fun h => hnon ⟨v, hv, h⟩
    obtain ⟨-, -, shape?, -, -, -, -, hshape, hline⟩ := exists_lineShape_of_near hc hnear penWidth
    exact exists_drawLine_of_lineShape hc hcolour hshape hline

end Canvas

end TurtleCanvas
