import TurtleCanvas.Proofs.Canvas.Dots
import TurtleCanvas.Proofs.Raster.Disk

/-!
# Painting a single pixel

A pixel can be set, a thin line can be drawn from a point to itself, and a dot of no size can be
drawn on it.  The first rounds the point and looks whether that is a pixel of the canvas.  The others
look first whether the point is near the canvas, each in its own way, and round it then.  All of them
paint the pixel that the point is on, for points anywhere.

* `Canvas.clip_point` says that clipping a point is comparing it with the sides of the rectangle, and
  `Canvas.lineShape_point` what a line from a point to itself is drawn as;
* `Geometry.PaintsOnly` says that a call is to paint one pixel, and `Geometry.paintsOnly_pixel`,
  `Geometry.paintsOnly_line` and `Geometry.paintsOnly_dot` that the three calls are;
* `Canvas.perform_single_pixel` says that they leave the same pixels.
-/

namespace TurtleCanvas

open Argument (hasValue_real)
open Binary64 (Representable representable_zero representable_one)

namespace Canvas

variable {x y diameter : Argument} {p q : ℚ} {width height : ℕ}

/-! ### A line from a point to itself -/

/-- A point is clipped away if it misses a bound. -/
theorem narrow_of_point (bounds : List (Argument × Argument)) {misses : List Bool}
    (h : List.Forall₂ (fun b miss => b.1.HasValue 0 ∧
      Scalar.lt b.2 (Scalar.int 0) = .ok miss) bounds misses) (t0 t1 : Argument) :
    Segment.narrow bounds t0 t1 = .ok (if misses.any id then none else some (t0, t1)) := by
  induction h with
  | nil => rfl
  | @cons b miss rest _ hb _ ih =>
    obtain ⟨hzero, hlt⟩ := hb
    rw [Segment.narrow, if_pos hzero.isZero, hlt, Except.ok_bind]
    cases miss with
    | true => rfl
    | false => simpa using ih

theorem exists_pointAt (hx : x.HasValue p) (hy : y.HasValue q) {dx dy t : Argument} {r : ℚ}
    (hdx : dx.HasValue 0) (hdy : dy.HasValue 0) (ht : t.HasValue r) :
    ∃ z : Argument × Argument, Segment.pointAt ⟨x, y, x, y⟩ dx dy t = .ok z ∧ z.1.HasValue p ∧
      z.2.HasValue q := by
  have hmul : Representable (r * 0) := by rw [mul_zero]; exact representable_zero
  obtain ⟨mx, hmx, hmx0⟩ := ht.exists_mul hdx hmul
  obtain ⟨my, hmy, hmy0⟩ := ht.exists_mul hdy hmul
  rw [mul_zero] at hmx0 hmy0
  obtain ⟨px, hpx, hpxp⟩ := hx.exists_add hmx0 (by rw [add_zero]; exact hx.representable)
  obtain ⟨py, hpy, hpyq⟩ := hy.exists_add hmy0 (by rw [add_zero]; exact hy.representable)
  rw [add_zero] at hpxp hpyq
  refine ⟨(px, py), ?_, hpxp, hpyq⟩
  simp only [Segment.pointAt, hmx, hmy, hpx, hpy, Except.ok_bind]
  rfl

/-- The sides of a rectangle have exact values of a moderate size. -/
structure BoxIs (box : Box Argument) (b : Box ℚ) : Prop where
  xmin : box.xmin.HasValue b.xmin ∧ |b.xmin| < 2 ^ 53
  ymin : box.ymin.HasValue b.ymin ∧ |b.ymin| < 2 ^ 53
  xmax : box.xmax.HasValue b.xmax ∧ |b.xmax| < 2 ^ 53
  ymax : box.ymax.HasValue b.ymax ∧ |b.ymax| < 2 ^ 53

/-- **Clipping a point is comparing it with the sides of the rectangle.**  Nothing of it is lost to
rounding if it is inside. -/
theorem clip_point {box : Box Argument} {b : Box ℚ} (hbox : BoxIs box b) (hx : x.Denotes p)
    (hy : y.Denotes q) (hfits : x.FitsReal ∧ y.FitsReal) :
    ((p, q) ∈ b.points → ∃ s, Segment.clip ⟨x, y, x, y⟩ box = .ok (some s) ∧ s.x0.HasValue p ∧
      s.y0.HasValue q ∧ s.x1.HasValue p ∧ s.y1.HasValue q) ∧
      ((p, q) ∉ b.points → Segment.clip ⟨x, y, x, y⟩ box = .ok none) := by
  obtain ⟨dx, hdx, hdx0⟩ := hx.exists_sub_self
  obtain ⟨dy, hdy, hdy0⟩ := hy.exists_sub_self
  obtain ⟨ndx, hndx, hndx0⟩ := hdx0.exists_neg
  obtain ⟨ndy, hndy, hndy0⟩ := hdy0.exists_neg
  rw [neg_zero] at hndx0 hndy0
  obtain ⟨left, hleft, hleft'⟩ := (hx.exists_sub_bound hfits.1 hbox.xmin.1 hbox.xmin.2).1
  obtain ⟨right, hright, hright'⟩ := (hx.exists_sub_bound hfits.1 hbox.xmax.1 hbox.xmax.2).2
  obtain ⟨upper, hupper, hupper'⟩ := (hy.exists_sub_bound hfits.2 hbox.ymin.1 hbox.ymin.2).1
  obtain ⟨lower, hlower, hlower'⟩ := (hy.exists_sub_bound hfits.2 hbox.ymax.1 hbox.ymax.2).2
  have hfinite : Segment.isFinite (⟨x, y, x, y⟩ : Segment Argument) = .ok true :=
    (Argument.allFinite_of_denotes (by simpa using ⟨⟨p, hx⟩, ⟨q, hy⟩, ⟨p, hx⟩, ⟨q, hy⟩⟩)).1
      (by simpa using ⟨hfits.1, hfits.2, hfits⟩)
  have hbounds : Segment.bounds ⟨x, y, x, y⟩ box dx dy =
      .ok [(ndx, left), (dx, right), (ndy, upper), (dy, lower)] := by
    simp only [Segment.bounds, hndx, hndy, hleft, hright, hupper, hlower, Except.ok_bind]
    rfl
  have hnarrow := narrow_of_point [(ndx, left), (dx, right), (ndy, upper), (dy, lower)]
    (.cons ⟨hndx0, hleft'⟩ (.cons ⟨hdx0, hright'⟩ (.cons ⟨hndy0, hupper'⟩
      (.cons ⟨hdy0, hlower'⟩ .nil)))) (Scalar.real 0) (Scalar.real 1)
  rw [Box.mem_points_iff]
  constructor
  · rintro ⟨⟨hxmin, hxmax⟩, hymin, hymax⟩
    have hp : |p| < 2 ^ 53 := abs_lt.2 ⟨(abs_lt.1 hbox.xmin.2).1.trans_le hxmin,
      hxmax.trans_lt (abs_lt.1 hbox.xmax.2).2⟩
    have hq : |q| < 2 ^ 53 := abs_lt.2 ⟨(abs_lt.1 hbox.ymin.2).1.trans_le hymin,
      hymax.trans_lt (abs_lt.1 hbox.ymax.2).2⟩
    obtain ⟨z, hz, hzx, hzy⟩ := exists_pointAt (hx.hasValue hp) (hy.hasValue hq) hdx0 hdy0
      (hasValue_real (n := 0) (by rw [Int.cast_zero]; exact representable_zero))
    obtain ⟨w, hw, hwx, hwy⟩ := exists_pointAt (hx.hasValue hp) (hy.hasValue hq) hdx0 hdy0
      (hasValue_real (n := 1) (by rw [Int.cast_one]; exact representable_one))
    refine ⟨⟨z.1, z.2, w.1, w.2⟩, ?_, hzx, hzy, hwx, hwy⟩
    simp only [List.any_cons, List.any_nil, id, decide_eq_false (not_lt.2 hxmin),
      decide_eq_false (not_lt.2 hxmax), decide_eq_false (not_lt.2 hymin),
      decide_eq_false (not_lt.2 hymax), Bool.or_self, Bool.false_eq_true, if_false] at hnarrow
    simp only [Segment.clip, hfinite, hdx, hdy, hbounds, hnarrow, hz, hw, Except.ok_bind, if_true]
    rfl
  · intro houtside
    have hmisses : [decide (p < b.xmin), decide (b.xmax < p), decide (q < b.ymin),
        decide (b.ymax < q)].any id = true := by
      simp only [List.any_cons, List.any_nil, id, Bool.or_eq_true, decide_eq_true_eq,
        Bool.false_eq_true, or_false]
      by_contra hnot
      simp only [not_or, not_lt] at hnot
      exact houtside ⟨⟨hnot.1, hnot.2.1⟩, hnot.2.2⟩
    rw [hmisses, if_pos rfl] at hnarrow
    simp only [Segment.clip, hfinite, hdx, hdy, hbounds, hnarrow, Except.ok_bind, if_true]
    rfl

/-- **What a thin line from a point to itself is drawn as.** -/
theorem lineShape_point (hw : width ≤ 2 ^ 47) (hh : height ≤ 2 ^ 47) (hx : x.Denotes p)
    (hy : y.Denotes q) (hfits : x.FitsReal ∧ y.FitsReal) {penWidth : ℤ} (hpen : penWidth ≤ 1)
    (hpositive : 0 < width) :
    ((p, q) ∈ (marginBox width height 1 : Box ℚ).points →
      lineShape width height ⟨x, y, x, y⟩ penWidth =
        .ok (some (.line (.nearest (p, q)) (.nearest (p, q)) 1))) ∧
      ((p, q) ∉ (marginBox width height 1 : Box ℚ).points →
        lineShape width height ⟨x, y, x, y⟩ penWidth = .ok none) := by
  have hthickness : thickness width height penWidth = 1 := by
    simp only [thickness, sizeLimit]
    omega
  obtain ⟨box, hpadded, hxmin, hymin, hxmax, hymax⟩ :=
    exists_paddedBox hw hh (by decide : 1 ≤ 2 ^ 49)
  have hlast : ∀ {size : ℕ}, size ≤ 2 ^ 47 → |(size : ℚ) - 1 + (1 / 2 + 1)| < 2 ^ 53 := by
    intro size hsize
    have hsize' : (size : ℚ) ≤ 2 ^ 47 := by exact_mod_cast hsize
    have hnonneg : (0 : ℚ) ≤ size := size.cast_nonneg
    exact abs_lt.2 ⟨by linarith, by linarith⟩
  have hbox : BoxIs box (marginBox width height 1) := by
    rw [marginBox_eq, Nat.cast_one]
    simp only [padding, Int.cast_sub, Int.cast_natCast, Int.cast_one, Nat.cast_one]
      at hxmin hymin hxmax hymax
    exact ⟨⟨hxmin, by norm_num⟩, ⟨hymin, by norm_num⟩, ⟨hxmax, hlast hw⟩, ⟨hymax, hlast hh⟩⟩
  obtain ⟨hinside, houtside⟩ := clip_point hbox hx hy hfits
  rw [lineShape, hthickness, hpadded, Except.ok_bind]
  constructor
  · intro hmem
    obtain ⟨s, hclip, hx0, hy0, hx1, hy1⟩ := hinside hmem
    rw [hclip, Except.ok_bind]
    simp only [hx0.denotes.round_eq, hy0.denotes.round_eq, hx1.denotes.round_eq,
      hy1.denotes.round_eq, Except.ok_bind]
    rfl
  · intro hmem
    rw [houtside hmem]
    rfl

/-- A thin line from a point to itself has its pixel, if that is in the picture. -/
theorem covers_thinLine_self (c : Point) {i j : ℕ} (hi : i < width) (hj : j < height) :
    Span.Covers (Raster.thinLine width height c c) i j ↔ c = .ofPixel (i, j) := by
  constructor
  · intro h
    have hshort : c.IsShort c := by simp [Point.IsShort]
    have hbox := Raster.inBox_of_covers_thinLine (by omega) (by omega) hshort h
    obtain ⟨u, v⟩ := c
    simp only [Point.InBox, Point.ofPixel, Point.mk.injEq] at hbox ⊢
    omega
  · rintro rfl
    rw [thinLine_of_inside ⟨hi, hj⟩ ⟨hi, hj⟩, Span.covers_map_ofPoint_iff, Raster.segmentPixels_self]
    exact List.mem_singleton_self _

/-! ### A dot of no size -/

theorem covers_disk_zero_iff (c : Point) (i j : ℕ) :
    Span.Covers (Raster.disk c (0 : ℕ)) i j ↔ c = .ofPixel (i, j) := by
  obtain ⟨u, v⟩ := c
  rw [Raster.covers_disk_iff, Point.ofPixel, Point.mk.injEq]
  constructor
  · intro h
    obtain ⟨hx, hy⟩ := (add_eq_zero_iff_of_nonneg (sq_nonneg (i - u : ℤ)) (sq_nonneg (j - v : ℤ))).1
      (le_antisymm h (by positivity))
    rw [sq_eq_zero_iff] at hx hy
    omega
  · rintro ⟨rfl, rfl⟩
    simp

end Canvas

/-! ### Calls that paint one pixel -/

namespace Geometry

variable {x y diameter : Argument} {p q : ℚ} {width height : ℕ}

/-- On a canvas of a size, a call is to paint the pixel `place` if that is on the canvas, and nothing
else. -/
def PaintsOnly (width height : ℕ) (g : Geometry Argument) (place : Point) : Prop :=
  ∃ spans?, g.spans width height = .ok spans? ∧ ∀ i j : ℕ, i < width → j < height →
    ((∃ spans, spans? = some spans ∧ Span.Covers spans i j) ↔ place = .ofPixel (i, j))

/-- A call with nothing to paint paints only a pixel that is not on the canvas. -/
theorem paintsOnly_of_none {g : Geometry Argument} {place : Point}
    (hspans : g.spans width height = .ok none)
    (h : ∀ i j, i < width → j < height → place ≠ .ofPixel (i, j)) :
    g.PaintsOnly width height place :=
  ⟨none, hspans, fun i j hi hj => by simp [h i j hi hj]⟩

/-- Setting a pixel paints the pixel nearest to the point, however large its coordinates are. -/
theorem paintsOnly_pixel (hx : x.Denotes p) (hy : y.Denotes q) :
    (pixel x y).PaintsOnly width height (.nearest (p, q)) := by
  have hpixel : ∃ place, Canvas.pixelAt width height x y = .ok place := by
    rw [Canvas.pixelAt, hx.round_eq, Except.ok_bind, hy.round_eq, Except.ok_bind]
    split_ifs
    · exact ⟨_, rfl⟩
    · exact ⟨_, rfl⟩
  obtain ⟨place, hplace⟩ := hpixel
  have hspans : (pixel x y).spans width height = .ok (place.map fun z => [.ofPoint ⟨z.1, z.2⟩]) := by
    rw [spans, hplace]
    cases place <;> rfl
  refine ⟨_, hspans, fun i j hi hj => ?_⟩
  have hmem : (i, j) ∈ (pixel x y).footprint width height ↔ _ := mem_footprint_iff
  rw [mem_footprint_pixel_iff, hspans, hx.round_eq, hy.round_eq] at hmem
  simp only [hi, hj, and_self, true_and, Except.ok.injEq] at hmem
  rw [← hmem, Point.nearest, Point.ofPixel, Point.mk.injEq]

/-- A thin line from a point to itself paints the pixel nearest to the point. -/
theorem paintsOnly_line (hcounted : Canvas.IsCounted width height) (hpositive : 0 < width)
    (hx : x.Denotes p) (hy : y.Denotes q) (hfits : x.FitsReal ∧ y.FitsReal) {penWidth : ℤ}
    (hpen : penWidth ≤ 1) :
    (line ⟨x, y, x, y⟩ (.ok penWidth)).PaintsOnly width height (.nearest (p, q)) := by
  obtain ⟨hw, hh⟩ := hcounted.le
  obtain ⟨hinside, houtside⟩ := Canvas.lineShape_point hw hh hx hy hfits hpen hpositive
  by_cases hmem : (p, q) ∈ (Canvas.marginBox width height 1 : Box ℚ).points
  · have htakes : Raster.takesPoint width height (.nearest (p, q)) = true :=
      Canvas.takesPoint_of_margin hcounted.1 hcounted.2 (z := (p, q)) hmem
    refine ⟨_, spans_line_iff.2 ⟨penWidth, rfl, _, hinside hmem,
      Canvas.spans_line (by decide) htakes htakes⟩, fun i j hi hj => ?_⟩
    simp only [Option.some.injEq, exists_eq_left']
    exact Canvas.covers_thinLine_self _ hi hj
  · have hspans : (line ⟨x, y, x, y⟩ (.ok penWidth)).spans width height = .ok none := by
      rw [spans, Except.ok_bind, houtside hmem]
      rfl
    exact paintsOnly_of_none hspans fun i j hi hj h =>
      hmem (Canvas.mem_marginBox_of_nearest hi hj h 1)

/-- A dot of no size paints the pixel nearest to its centre. -/
theorem paintsOnly_dot (hcounted : Canvas.IsCounted width height) (hx : x.Denotes p)
    (hy : y.Denotes q) (hfits : x.FitsReal ∧ y.FitsReal) (hd : diameter.HasValue 0) :
    (dot x y diameter).PaintsOnly width height (.nearest (p, q)) := by
  obtain ⟨hw, hh⟩ := hcounted.le
  have hshape := Canvas.dotShape_of_denotes hw hh hx hy hd.denotes
    (by simpa using ⟨hfits.1, hfits.2, hd.fitsReal⟩)
  rw [Canvas.cappedRadius_of_nonpos le_rfl] at hshape
  by_cases hreach : Canvas.InReach 0 width p ∧ Canvas.InReach 0 height q
  · simp only [hreach, and_self, if_true] at hshape
    have htakes : Canvas.TakesDisk width height (.nearest (p, q)) 0 :=
      Canvas.takesDisk_zero hcounted (Canvas.round_of_inReach hreach.1)
        (Canvas.round_of_inReach hreach.2)
    refine ⟨_, spans_dot_iff.2 ⟨_, hshape, Canvas.spans_disk htakes⟩, fun i j _ _ => ?_⟩
    simp only [Option.some.injEq, exists_eq_left']
    exact Canvas.covers_disk_zero_iff _ i j
  · simp only [hreach, if_false] at hshape
    have hspans : (dot x y diameter).spans width height = .ok none := by
      rw [spans, hshape]
      rfl
    refine paintsOnly_of_none hspans fun i j hi hj h => ?_
    refine Canvas.not_inBox_of_not_inReach (z := (p, q)) hreach hi hj ?_
    rw [h]
    simp [Point.InBox]

/-- A shape with nothing to paint is none. -/
theorem eq_none_of_spans {shape? : Except Fault (Option Canvas.Shape)}
    (h : (do
      match ← shape? with
      | none => return none
      | some shape => return some (← shape.spans width height)) =
        (Except.ok none : Except Fault (Option (List Span)))) : shape? = .ok none := by
  obtain ⟨_ | shape, hshape, h⟩ := Except.bind_eq_ok_iff.1 h
  · exact hshape
  · obtain ⟨_, -, h⟩ := Except.bind_eq_ok_iff.1 h
    simp [pure, Except.pure] at h

/-- A call with nothing to paint returns and changes nothing. -/
theorem perform_of_spans_none {g : Geometry Argument} {c : Canvas}
    (h : g.spans c.width c.height = .ok none) (ink : Ink) :
    Canvas.perform (g.inked ink) c = .ok () c := by
  cases g with
  | pixel x y =>
    obtain ⟨_ | place, hplace, h⟩ := Except.bind_eq_ok_iff.1 h
    · show Canvas.setPixel x y ink c = _
      simp only [Canvas.setPixel, Canvas.pixelPlan, hplace]
      rfl
    · simp [pure, Except.pure] at h
  | line s penWidth =>
    obtain ⟨n, rfl, h⟩ := Except.bind_eq_ok_iff.1 h
    show Canvas.enact (Canvas.plan _ _ _ _) c = _
    rw [eq_none_of_spans h]
    rfl
  | dot x y diameter =>
    show Canvas.enact (Canvas.plan _ _ _ _) c = _
    rw [eq_none_of_spans h]
    rfl

/-- **A call that paints only one pixel** returns, and leaves the picture with that pixel painted. -/
theorem PaintsOnly.exists_perform {g : Geometry Argument} {c : Canvas} {place : Point}
    (h : g.PaintsOnly c.width c.height place) {colour : Colour} (hcolour : colour.FitsBytes) :
    ∃ c', Canvas.perform (g.inked (.ok colour)) c = .ok () c' ∧
      c'.picture = c.picture.paint [.ofPoint place] colour.clamped := by
  have hink : Ink.Fits (.ok colour) := fun _ h => Except.ok.inj h ▸ hcolour
  have hplace : ∀ i j : ℕ, Span.Covers [.ofPoint place] i j ↔ place = .ofPixel (i, j) := by
    intro i j
    rw [← List.map_singleton, Span.covers_map_ofPoint_iff, List.mem_singleton, eq_comm]
    rfl
  obtain ⟨spans?, hspans, hcovers⟩ := h
  cases spans? with
  | none =>
    refine ⟨c, perform_of_spans_none hspans _, ?_⟩
    rw [Picture.paint_of_not_covers _ fun i j hi hj hpainted => ?_]
    simpa using (hcovers i j hi hj).2 ((hplace i j).1 hpainted)
  | some spans =>
    refine ⟨c.mark spans colour, Canvas.perform_of_painted hink
      (painted_eq_some_iff.2 ⟨hspans, rfl⟩), ?_⟩
    rw [Canvas.mark, Colour.brushed_eq hcolour]
    refine Picture.paint_congr _ fun i j hi hj => ?_
    rw [hplace, ← hcovers i j hi hj]
    simp

end Geometry

namespace Canvas

variable {x y diameter : Argument} {p q : ℚ}

/-! ### Numbers that fit no double -/

/-- A line or a dot at a number that fits no double fails and changes nothing. -/
theorem after_of_not_fitsReal {c : Canvas} (hw : c.width ≤ 2 ^ 47) (hh : c.height ≤ 2 ^ 47)
    (hx : x.Denotes p) (hy : y.Denotes q) (hd : diameter.Denotes 0)
    (hfits : ¬ (x.FitsReal ∧ y.FitsReal)) {g : Geometry Argument} {penWidth : ℤ}
    (hg : g = .line ⟨x, y, x, y⟩ (.ok penWidth) ∨ g = .dot x y diameter) {colour : Colour}
    (hcolour : colour.FitsBytes) : (perform (g.inked (.ok colour))).after c = c := by
  have hink : Ink.Fits (.ok colour) := fun _ h => Except.ok.inj h ▸ hcolour
  obtain ⟨v, hv, hnot⟩ : ∃ v ∈ [x, y], ¬ v.FitsReal := by
    by_contra hall
    simp only [List.mem_cons, List.not_mem_nil, or_false, not_exists, not_and, not_not,
      forall_eq_or_imp, forall_eq] at hall
    exact hfits hall
  have hspans : ∃ e, g.spans c.width c.height = .error e := by
    rcases hg with rfl | rfl
    · have hfinite := (Argument.allFinite_of_denotes (l := [x, y, x, y])
        (by simpa using ⟨⟨p, hx⟩, ⟨q, hy⟩, ⟨p, hx⟩, ⟨q, hy⟩⟩)).2
        ⟨v, List.mem_append_left [x, y] hv, hnot⟩
      have hthickness : thickness c.width c.height penWidth ≤ 2 ^ 49 := by
        simp only [thickness, sizeLimit]
        omega
      obtain ⟨box, hbox, -⟩ := exists_paddedBox hw hh hthickness
      refine ⟨.beyondReal, ?_⟩
      rw [Geometry.spans, Except.ok_bind, lineShape, hbox, Except.ok_bind, Segment.clip,
        Segment.isFinite, hfinite]
      rfl
    · refine ⟨.beyondReal, ?_⟩
      rw [Geometry.spans, dotShape_of_not_fitsReal hx hy hd
        ⟨v, List.mem_append_left [diameter] hv, hnot⟩]
      rfl
  obtain ⟨e, he⟩ := hspans
  exact after_of_not_painted hink (by simp [Geometry.painted, he])

/-- A number that fits no double is on no pixel. -/
theorem nearest_ne_of_not_fitsReal {width height : ℕ} (hw : width ≤ 2 ^ 47) (hh : height ≤ 2 ^ 47)
    (hx : x.Denotes p) (hy : y.Denotes q) (hfits : ¬ (x.FitsReal ∧ y.FitsReal)) {i j : ℕ}
    (hi : i < width) (hj : j < height) : Point.nearest (p, q) ≠ .ofPixel (i, j) := by
  intro h
  obtain ⟨hcolumn, hrow⟩ := Point.mk.inj h
  have hfit : ∀ {a : Argument} {r : ℚ} {k size : ℕ}, size ≤ 2 ^ 47 → k < size → a.Denotes r →
      roundHalfEven r = k → a.FitsReal := by
    intro a r k size hsize hk ha hround
    obtain ⟨hlow, hhigh⟩ := bounds_of_round hround hk
    have hsize' : (size : ℚ) ≤ 2 ^ 47 := by exact_mod_cast hsize
    exact (ha.hasValue (abs_lt.2 ⟨by linarith, by linarith⟩)).fitsReal
  exact hfits ⟨hfit hw hi hx hcolumn, hfit hh hj hy hrow⟩

/-- **Three ways to paint one pixel agree.**  On every canvas that can be made, let a point be given
by two finite numbers, whole ones of any size or doubles, anywhere.  Setting the pixel there paints
the pixel that the coordinates round to, if it is on the canvas, and changes no other pixel.  If the
painter can count the canvas, then drawing a line from the point to itself with a pen no wider than
one, and drawing a dot of no size, leave the same picture.  The first always returns, and the others
do unless a coordinate is a whole number beyond all doubles. -/
theorem perform_single_pixel {c : Canvas} (hc : c.IsReached) (hx : x.Denotes p) (hy : y.Denotes q)
    (hd : diameter.Denotes 0) {penWidth : ℤ} (hpen : penWidth ≤ 1) {colour : Colour}
    (hcolour : colour.FitsBytes) :
    ∃ painted : Picture,
      ((painted.width = c.width ∧ painted.height = c.height) ∧
        ∀ i j, i < c.width → j < c.height → painted.pixel i j =
          if roundHalfEven p = i ∧ roundHalfEven q = j then colour.clamped
          else c.picture.pixel i j) ∧
      (∃ c', perform (.pixel x y (.ok colour)) c = .ok () c' ∧ c'.picture = painted) ∧
      (IsCounted c.width c.height → ∀ call ∈
        [Paint.line ⟨x, y, x, y⟩ (.ok colour) (.ok penWidth), .dot x y diameter (.ok colour)],
        ((perform call).after c).picture = painted ∧
          (x.FitsReal → y.FitsReal → ∃ c', perform call c = .ok () c')) := by
  have hpaints : (Geometry.pixel x y).PaintsOnly c.width c.height (.nearest (p, q)) :=
    Geometry.paintsOnly_pixel hx hy
  have hpixel := hpaints.exists_perform hcolour
  refine ⟨_, ⟨⟨Picture.width_paint _ _ _, Picture.height_paint _ _ _⟩, fun i j hi hj => ?_⟩,
    hpixel, fun hcounted => ?_⟩
  · rw [Picture.pixel_paint _ _ hi hj]
    simp only [Span.covers_cons, Span.not_covers_nil, or_false, Span.holds_ofPoint, Point.nearest,
      and_comm]
  -- The line and the dot look whether they can ask for a finite point before anything else.
  have hagree : ∀ g : Geometry Argument,
      g = .line ⟨x, y, x, y⟩ (.ok penWidth) ∨ g = .dot x y diameter →
      ((perform (g.inked (.ok colour))).after c).picture =
          c.picture.paint [.ofPoint (.nearest (p, q))] colour.clamped ∧
        (x.FitsReal → y.FitsReal → ∃ c', perform (g.inked (.ok colour)) c = .ok () c') := by
    intro g hg
    by_cases hfits : x.FitsReal ∧ y.FitsReal
    · have hpaints : g.PaintsOnly c.width c.height (.nearest (p, q)) := by
        rcases hg with rfl | rfl
        · exact Geometry.paintsOnly_line hcounted hc.size_pos.1 hx hy hfits hpen
        · exact Geometry.paintsOnly_dot hcounted hx hy hfits (hd.hasValue (by norm_num))
      obtain ⟨c', hperform, hpicture⟩ := hpaints.exists_perform hcolour
      exact ⟨by rw [Action.after_of_ok hperform, hpicture], fun _ _ => ⟨c', hperform⟩⟩
    · obtain ⟨hw, hh⟩ := hc.size_le
      refine ⟨?_, fun hx' hy' => absurd ⟨hx', hy'⟩ hfits⟩
      rw [after_of_not_fitsReal hw hh hx hy hd hfits hg hcolour,
        Picture.paint_of_not_covers _ fun i j hi hj hcovers => ?_]
      refine nearest_ne_of_not_fitsReal hw hh hx hy hfits hi hj ?_
      rw [← List.map_singleton, Span.covers_map_ofPoint_iff, List.mem_singleton] at hcovers
      exact hcovers.symm
  intro call hcall
  rcases List.mem_cons.1 hcall with rfl | hcall
  · exact hagree _ (.inl rfl)
  · obtain rfl := List.mem_singleton.1 hcall
    exact hagree _ (.inr rfl)

/-- A point halfway between a pixel of the canvas and one below it, given by a whole number and a
double, is drawn on the pixel. -/
theorem perform_single_pixel_halfway :
    ∃ c', perform (.line (⟨.int 1, .real 0.5, .int 1, .real 0.5⟩ : Segment Argument) (.ok .black)
        (.ok 0)) smallCanvas = .ok () c' ∧
      c'.picture.pixel 1 0 = Colour.black.clamped ∧
      c'.picture.pixel 0 0 = smallCanvas.picture.pixel 0 0 := by
  have hx := Argument.denotes_int 1
  have hy : (Argument.real 0.5).Denotes (1 / 2) := ⟨_, rfl, by decide +kernel, by decide +kernel⟩
  have hpen : (0 : ℤ) ≤ 1 := by decide
  have hblack : Colour.black.FitsBytes := by decide
  have hone : roundHalfEven ((1 : ℤ) : ℚ) = 1 := roundHalfEven_intCast 1
  have hhalf : roundHalfEven (1 / 2 : ℚ) = 0 := roundHalfEven_eq_iff.2 ⟨by norm_num, by simp⟩
  have hcounted : IsCounted smallCanvas.width smallCanvas.height := by decide
  obtain ⟨painted, ⟨-, hpixels⟩, -, hcalls⟩ := perform_single_pixel isReached_smallCanvas hx hy
    (Argument.denotes_int 0) hpen hblack
  obtain ⟨hpicture, hreturns⟩ := hcalls hcounted _ List.mem_cons_self
  obtain ⟨c', hline⟩ := hreturns (hx.hasValue (by norm_num)).fitsReal (Argument.fitsReal_real _)
  rw [Action.after_of_ok hline] at hpicture
  refine ⟨c', hline, ?_, ?_⟩
  · rw [hpicture, hpixels 1 0 (by decide) (by decide), hone, hhalf]
    rfl
  · rw [hpicture, hpixels 0 0 (by decide) (by decide), hone]
    rfl

/-- The pixel in the corner of a canvas is set, but a line from it to itself fails and paints nothing
if the width of the pen is the infinity below all numbers. -/
theorem line_endlessly_thin :
    let corner : Argument := .int 0
    let width : Argument := .real (Binary64.infinity true)
    Scalar.le width (.int 1) = .ok true ∧
      (∃ c', perform (.pixel corner corner (.ok .black)) smallCanvas = .ok () c' ∧
        c'.picture.pixel 0 0 = Colour.black.clamped) ∧
      perform (.line ⟨corner, corner, corner, corner⟩ (.ok .black) width.toInt) smallCanvas =
        .error .infinityToInt smallCanvas ∧
      smallCanvas.picture.pixel 0 0 ≠ Colour.black.clamped := by
  intro corner width
  have hbelow : Scalar.le width (.int 1) = .ok true := by rfl
  have hwidth : width.toInt = .error .infinityToInt := by rfl
  refine ⟨hbelow, ⟨_, rfl, by decide +kernel⟩, ?_, by decide +kernel⟩
  rw [hwidth]
  rfl

end Canvas

end TurtleCanvas
