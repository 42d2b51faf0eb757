import TurtleCanvas.Proofs.Argument.Difference
import TurtleCanvas.Proofs.Canvas.Capped
import TurtleCanvas.Proofs.Raster.Clipped

/-!
# Which dots are painted

A dot is looked at before it is painted.  Its radius is half its diameter, rounded and capped, and
its centre is compared with the sides of the canvas before it is rounded.  Half a diameter is worked
out as a double, and nothing of that is seen in the radius: doubles are halved exactly unless they
are next to nothing, and a diameter that is no double is so large that its radius is capped, or so
far below zero that it has none.  So the radius is that of the number that the diameter is.

A centre that is passed over is more than a radius and one pixel before the canvas, or more than a
radius behind it.  Rounding moves it by half a pixel at most, which is not enough for the square
around it to get back to the canvas.  For a centre that is not passed over, the same bounds hold
once it is rounded, because they are whole numbers.

* `Binary64.roundHalfEven_half` says that half a double is rounded as half its value is;
* `Canvas.dotShape_of_denotes` says what a dot is drawn as, and `Canvas.dotShape_of_not_fitsReal`
  that it fails for whole numbers beyond all doubles;
* `Canvas.takesDisk_of_bounds` says that the painter can be given the disks near a canvas that is not
  huge;
* `Canvas.dot_out_of_sight` says that a dot that is passed over could not be seen, and that any other
  one is painted with a small radius around a centre near the canvas, if the painter can be given
  them;
* `Canvas.dot_beyond_doubles` is a dot that fails.
-/

namespace TurtleCanvas

open Binary64 (Representable)

variable {K : Type} [Field K] [LinearOrder K] [IsStrictOrderedRing K] [FloorRing K]

theorem roundHalfEven_eq_zero {v : K} (h : |v| ≤ 1 / 2) : roundHalfEven v = 0 :=
  roundHalfEven_eq_iff.2 ⟨by simpa using h, by simp⟩

namespace Binary64

/-- Half the value of a double is the value of a double, unless it is next to nothing. -/
theorem Representable.half {r : ℚ} (h : Representable r) : Representable (r / 2) ∨ |r| ≤ 1 := by
  obtain ⟨n, e, hn, he, he', rfl⟩ := h
  rcases he.lt_or_eq with hlt | rfl
  · left
    refine ⟨n, e - 1, hn, by omega, by omega, ?_⟩
    rw [zpow_sub_one₀ two_ne_zero, mul_div_assoc, div_eq_mul_inv]
  · right
    have hunit : (0 : ℚ) < 2 ^ (-1074 : ℤ) := by positivity
    have hn' : |(n : ℚ)| ≤ 2 ^ (53 : ℤ) := by
      rw [← Int.cast_abs, Int.abs_eq_natAbs]
      exact_mod_cast hn.le
    calc |(n : ℚ) * 2 ^ (-1074 : ℤ)| = |(n : ℚ)| * 2 ^ (-1074 : ℤ) := by
          rw [abs_mul, abs_of_pos hunit]
      _ ≤ 2 ^ (53 : ℤ) * 2 ^ (-1074 : ℤ) := by gcongr
      _ = 2 ^ (-1021 : ℤ) := by rw [← zpow_add₀ two_ne_zero]; rfl
      _ ≤ 1 := zpow_le_one_of_nonpos₀ one_le_two (by decide)

/-- **Half a double is rounded as half its value is.** -/
theorem roundHalfEven_half {x : Float} (hx : isFinite x = true) :
    roundHalfEven (value (x / Argument.realOf 2)) = roundHalfEven (value x / 2) := by
  have hhalf := Argument.beside_half hx
  rcases (representable_value x hx).half with hr | hsmall
  · rw [(hhalf.value_eq hr).2]
  · have hsmall' : |value x / 2| ≤ 1 / 2 := by
      rw [abs_div, abs_of_pos (two_pos : (0 : ℚ) < 2)]
      linarith
    have hhalf' : |value (x / Argument.realOf 2)| ≤ 1 / 2 :=
      (hhalf.abs_value_le (by simpa using representable_half (n := 1) (by decide)) hsmall').2
    rw [roundHalfEven_eq_zero hhalf', roundHalfEven_eq_zero hsmall']

end Binary64

namespace Canvas

variable {width height : ℕ}

/-! ### The radius -/

omit [IsStrictOrderedRing K] in
theorem cappedRadius_le (width height : ℕ) (diameter : K) :
    cappedRadius width height diameter ≤ 2 * (width + height) := by
  rw [cappedRadius]
  exact min_le_right _ _

theorem cappedRadius_of_nonpos {diameter : K} (h : diameter ≤ 0) :
    cappedRadius width height diameter = 0 := by
  have hround : roundHalfEven (diameter / 2) ≤ 0 := by
    have hhigh := (roundHalfEven_bounds (diameter / 2)).2
    have : (roundHalfEven (diameter / 2) : K) < (1 : ℤ) := by push_cast; linarith
    have : roundHalfEven (diameter / 2) < 1 := by exact_mod_cast this
    omega
  rw [cappedRadius_eq]
  omega

theorem cappedRadius_of_le {diameter : K} (h : 4 * (width + height) ≤ diameter) :
    cappedRadius width height diameter = 2 * (width + height) := by
  have hround : 2 * (width + height : ℕ) ≤ roundHalfEven (diameter / 2) := by
    have hlow := (roundHalfEven_bounds (diameter / 2)).1
    have : ((2 * (width + height : ℕ) - 1 : ℤ) : K) < roundHalfEven (diameter / 2) := by
      push_cast
      linarith
    have : 2 * (width + height : ℕ) - 1 < roundHalfEven (diameter / 2) := by exact_mod_cast this
    omega
  rw [cappedRadius_eq, sizeLimit]
  omega

/-- A diameter and the double beside it have one radius. -/
theorem cappedRadius_beside (hw : width ≤ 2 ^ 47) (hh : height ≤ 2 ^ 47) {n : Number} {d : ℚ}
    (hd : n.Denotes d) {x : Float} (hx : n.toReal = .ok x) :
    cappedRadius width height (Binary64.value x) = cappedRadius width height d := by
  obtain ⟨hfinite, hbeside⟩ := hd.beside hx
  have hcap : 4 * ((width : ℚ) + height) ≤ 2 ^ 52 := by
    have : 4 * (width + height) ≤ 2 ^ 52 := by omega
    exact_mod_cast this
  have hbound : (2 : ℚ) ^ 52 < 2 ^ 53 := by norm_num
  have hmoderate : |(2 : ℚ) ^ 52| < 2 ^ 53 := by norm_num
  rcases lt_or_ge |d| (2 ^ 53) with hsmall | hlarge
  · rw [(hbeside.value_eq (hd.representable_of_abs_lt hsmall)).2]
  · rcases le_abs.1 hlarge with hlarge | hlarge
    · have hvalue : 2 ^ 52 < Binary64.value x := (hd.value_lt_iff hx hmoderate).2.2 (by linarith)
      rw [cappedRadius_of_le (hcap.trans hvalue.le), cappedRadius_of_le (by linarith)]
    · have hvalue : Binary64.value x < 0 := (hd.value_lt_iff hx (by norm_num)).1.2 (by linarith)
      rw [cappedRadius_of_nonpos hvalue.le, cappedRadius_of_nonpos (by linarith)]

variable {x y diameter : Argument} {p q d : ℚ}

/-- **The radius of a dot is that of its diameter.** -/
theorem dotRadius_of_denotes (hw : width ≤ 2 ^ 47) (hh : height ≤ 2 ^ 47)
    (hd : diameter.Denotes d) (hfits : diameter.FitsReal) :
    dotRadius width height diameter = .ok (cappedRadius width height d) := by
  obtain ⟨n, hn, hnd⟩ := hd
  obtain ⟨m, z, hm, hz⟩ := hfits
  obtain rfl := Option.some.inj (hn.symm.trans hm)
  obtain ⟨hfinite, -⟩ := hnd.beside hz
  have hisFinite : Scalar.isFinite diameter = .ok true :=
    Argument.Denotes.isFinite ⟨n, hn, hnd⟩ ⟨n, z, hn, hz⟩
  have hhalf := Argument.div_two hn hz
  obtain ⟨half, hdiv, hhalfFinite⟩ := Argument.exists_half_of_isFinite hisFinite
  obtain rfl := Number.real.inj (Argument.number.inj (Except.ok.inj (hhalf.symm.trans hdiv)))
  have hdenotes : (Argument.real (z / Argument.realOf 2)).Denotes
      (Binary64.value (z / Argument.realOf 2)) := ⟨_, rfl, hhalfFinite, rfl⟩
  have hround : Scalar.round (Argument.real (z / Argument.realOf 2)) =
      .ok (roundHalfEven (Binary64.value z / 2)) := by
    rw [hdenotes.round_eq, Binary64.roundHalfEven_half hfinite]
  rw [dotRadius, hhalf, Except.ok_bind, hround, ← cappedRadius_beside hw hh hnd hz, cappedRadius_eq]
  rfl

/-! ### The centre -/

theorem nearRange_of_denotes (hx : x.Denotes p) (radius size : ℕ) :
    nearRange radius size x = .ok (decide (InReach radius size p)) := by
  have hlow : ((-(radius : ℤ) - 1 : ℤ) : ℚ) = -(radius : ℚ) - 1 := by push_cast; ring
  have hhigh : ((size + radius : ℤ) : ℚ) = size + radius := by push_cast; ring
  rw [nearRange, hx.int_le_eq, Except.ok_bind, hx.le_int_eq, hlow, hhigh]
  by_cases h : -(radius : ℚ) - 1 ≤ p
  · simp [InReach, h]
  · simp only [InReach, h, decide_false, Bool.false_eq_true, if_false, false_and]
    rfl

/-- A coordinate that is out of reach is rounded to one that the radius does not bring back. -/
theorem round_of_not_inReach {radius size : ℕ} {v : K} (h : ¬ InReach radius size v) :
    roundHalfEven v + radius < 0 ∨ (size : ℤ) + radius ≤ roundHalfEven v := by
  obtain ⟨hbelow, habove⟩ := roundHalfEven_bounds v
  rcases not_and_or.1 h with hlow | hhigh
  · left
    have : (roundHalfEven v : K) + radius < (0 : ℤ) := by push_cast; linarith
    exact_mod_cast this
  · right
    have : ((size + radius - 1 : ℤ) : K) < roundHalfEven v := by push_cast; linarith
    have : (size + radius - 1 : ℤ) < roundHalfEven v := by exact_mod_cast this
    omega

/-- A coordinate that is in reach is rounded to one that is in the same range. -/
theorem round_of_inReach {radius size : ℕ} {v : K} (h : InReach radius size v) :
    -(radius : ℤ) - 1 ≤ roundHalfEven v ∧ roundHalfEven v ≤ size + radius := by
  obtain ⟨hbelow, habove⟩ := roundHalfEven_bounds v
  obtain ⟨hlow, hhigh⟩ := h
  constructor
  · have : ((-radius - 2 : ℤ) : K) < roundHalfEven v := by push_cast; linarith
    have : (-radius - 2 : ℤ) < roundHalfEven v := by exact_mod_cast this
    omega
  · have : (roundHalfEven v : K) < (size + radius + 1 : ℤ) := by push_cast; linarith
    have : roundHalfEven v < (size + radius + 1 : ℤ) := by exact_mod_cast this
    omega

/-- What is passed over has no pixel in the square of its radius. -/
theorem not_inBox_of_not_inReach {radius : ℕ} {z : K × K}
    (h : ¬ (InReach radius width z.1 ∧ InReach radius height z.2)) {i j : ℕ} (hi : i < width)
    (hj : j < height) :
    ¬ Point.InBox radius (.nearest z) (.nearest z) (.ofPixel (i, j)) := by
  intro hbox
  simp only [Point.InBox, Point.nearest, Point.ofPixel, min_self, max_self] at hbox
  rcases not_and_or.1 h with hx | hy
  · rcases round_of_not_inReach hx with hlow | hhigh <;> omega
  · rcases round_of_not_inReach hy with hlow | hhigh <;> omega

/-! ### Dots -/

/-- **What a dot is drawn as.** -/
theorem dotShape_of_denotes (hw : width ≤ 2 ^ 47) (hh : height ≤ 2 ^ 47) (hx : x.Denotes p)
    (hy : y.Denotes q) (hd : diameter.Denotes d) (hfits : ∀ v ∈ [x, y, diameter], v.FitsReal) :
    dotShape width height x y diameter =
      let r := cappedRadius width height d
      .ok (if InReach r width p ∧ InReach r height q then some (.disk (.nearest (p, q)) r)
        else none) := by
  have hfinite : Scalar.allFinite [x, y, diameter] = .ok true :=
    (Argument.allFinite_of_denotes (by simpa using ⟨⟨p, hx⟩, ⟨q, hy⟩, ⟨d, hd⟩⟩)).1 hfits
  rw [dotShape, hfinite, Except.ok_bind, if_pos rfl,
    dotRadius_of_denotes hw hh hd (hfits _ (by simp)), Except.ok_bind, nearRange_of_denotes hx,
    Except.ok_bind]
  generalize cappedRadius width height d = r
  by_cases hp : InReach r width p
  · rw [decide_eq_true hp, if_pos rfl, nearRange_of_denotes hy, Except.ok_bind]
    by_cases hq : InReach r height q
    · rw [decide_eq_true hq, if_pos rfl, hx.round_eq, hy.round_eq]
      simp only [hp, hq, and_self, if_true]
      rfl
    · simp only [hp, hq, and_false, decide_false, Bool.false_eq_true, if_false]
      rfl
  · simp only [hp, false_and, decide_false, Bool.false_eq_true, if_false]
    rfl

/-- A dot is not drawn with a number that fits no double. -/
theorem dotShape_of_not_fitsReal (hx : x.Denotes p) (hy : y.Denotes q) (hd : diameter.Denotes d)
    (hfits : ∃ v ∈ [x, y, diameter], ¬ v.FitsReal) :
    dotShape width height x y diameter = .error .beyondReal := by
  have hfinite : Scalar.allFinite [x, y, diameter] = .error .beyondReal :=
    (Argument.allFinite_of_denotes (by simpa using ⟨⟨p, hx⟩, ⟨q, hy⟩, ⟨d, hd⟩⟩)).2 hfits
  rw [dotShape, hfinite]
  rfl

/-- The painter can be given every disk near a canvas that is not huge. -/
theorem takesDisk_of_bounds {centre : Point} {r : ℕ} (hsize : 3 * (width + height) < 2 ^ 31)
    (hr : r ≤ 2 * (width + height)) (hx : -(r : ℤ) - 1 ≤ centre.x ∧ centre.x ≤ width + r)
    (hy : -(r : ℤ) - 1 ≤ centre.y ∧ centre.y ≤ height + r) : TakesDisk width height centre r := by
  unfold TakesDisk Point.FitsWord
  omega

theorem dot_of_takesDisk {c : Canvas} {centre : Point} {r : ℕ} {colour : Colour}
    (hcolour : colour.FitsBytes)
    (hshape : dotShape c.width c.height x y diameter = .ok (some (.disk centre r)))
    (h : TakesDisk c.width c.height centre r) :
    dot x y diameter (.ok colour) c = .ok () (c.mark (Raster.disk centre r) colour) :=
  dot_of_spans hcolour hshape (spans_disk h)

/-- A dot that the painter cannot be given leaves the canvas as it is. -/
theorem dot_of_not_fits {c : Canvas} {centre : Point} {r : ℕ} {colour : Colour}
    (hcolour : colour.FitsBytes)
    (hshape : dotShape c.width c.height x y diameter = .ok (some (.disk centre r)))
    (h : ¬ (centre.FitsWord ∧ r < 2 ^ 31)) :
    dot x y diameter (.ok colour) c = .error .pointRefused c := by
  have hspans := spans_disk_of_not_fits h c.width c.height
  have htakes : (Shape.disk centre r).takes colour = true := canMakeOut_of_fits hcolour
  have hplan : plan c.width c.height (dotShape c.width c.height x y diameter) (.ok colour) =
      .error .pointRefused := by
    simp only [plan, hshape, hspans, htakes, Except.ok_bind, if_true]
    rfl
  rw [dot, hplan, enact]

/-- **A dot is passed over only when it cannot be seen.**  On every canvas that can be made, let the
centre and the diameter of a dot be finite numbers, doubles or whole numbers that fit one, and let `r`
be half the diameter, rounded, not below zero and capped.  The dot is passed over, and then no pixel
of the canvas is in the square of `r` around the rounded centre; or it is to be painted as the disk of
that centre and of `r`, both of which are bounded by the size of the canvas.  It is painted then, and
counted once, if the painter can be given that disk on that canvas, as it always can on canvases
whose sides add up to less than a third of `2 ^ 31`.  It is refused, without a change, if the centre
or `r` does not fit 32 bits.  A whole number beyond all doubles is refused as well. -/
theorem dot_out_of_sight {c : Canvas} (hc : c.IsReached) (hx : x.Denotes p) (hy : y.Denotes q)
    (hd : diameter.Denotes d) {colour : Colour} (hcolour : colour.FitsBytes) :
    let r := cappedRadius c.width c.height d
    let centre := Point.nearest (p, q)
    ((∀ v ∈ [x, y, diameter], v.FitsReal) →
      (dot x y diameter (.ok colour) c = .ok () c ∧ ∀ i j, i < c.width → j < c.height →
          ¬ Point.InBox r centre centre (.ofPixel (i, j))) ∨
        (dotShape c.width c.height x y diameter = .ok (some (.disk centre r)) ∧
          r ≤ 2 * (c.width + c.height) ∧
          (-(r : ℤ) - 1 ≤ centre.x ∧ centre.x ≤ c.width + r) ∧
          (-(r : ℤ) - 1 ≤ centre.y ∧ centre.y ≤ c.height + r) ∧
          (TakesDisk c.width c.height centre r → ∃ c', dot x y diameter (.ok colour) c = .ok () c' ∧
            c'.generation = c.generation + 1) ∧
          (3 * (c.width + c.height) < 2 ^ 31 → TakesDisk c.width c.height centre r) ∧
          (¬ (centre.FitsWord ∧ r < 2 ^ 31) →
            dot x y diameter (.ok colour) c = .error .pointRefused c))) ∧
      ((∃ v ∈ [x, y, diameter], ¬ v.FitsReal) →
        dot x y diameter (.ok colour) c = .error .beyondReal c) := by
  intro r centre
  obtain ⟨hw, hh⟩ := hc.size_le
  refine ⟨fun hfits => ?_, fun hfits =>
    dot_of_dotShape_error (dotShape_of_not_fitsReal hx hy hd hfits) _⟩
  have hshape : dotShape c.width c.height x y diameter =
      .ok (if InReach r c.width p ∧ InReach r c.height q then some (.disk centre r) else none) :=
    dotShape_of_denotes hw hh hx hy hd hfits
  by_cases hreach : InReach r c.width p ∧ InReach r c.height q
  · rw [if_pos hreach] at hshape
    have hr : r ≤ 2 * (c.width + c.height) := cappedRadius_le _ _ _
    have hcolumn := round_of_inReach hreach.1
    have hrow := round_of_inReach hreach.2
    exact .inr ⟨hshape, hr, hcolumn, hrow, fun h => ⟨_, dot_of_takesDisk hcolour hshape h, rfl⟩,
      fun hsize => takesDisk_of_bounds hsize hr hcolumn hrow, dot_of_not_fits hcolour hshape⟩
  · rw [if_neg hreach] at hshape
    exact .inl ⟨dot_of_dotShape_none hshape _, fun i j hi hj =>
      not_inBox_of_not_inReach (z := (p, q)) hreach hi hj⟩

/-- A dot whose centre is half a pixel behind a canvas is rounded away from it, and still reaches it
with a radius of one. -/
theorem dot_out_of_sight_beside :
    ∃ c', dot (.real 2.5 : Argument) (.int 0) (.int 2) (.ok .black) smallCanvas = .ok () c' ∧
      c'.generation = 1 := by
  have hx : (Argument.real 2.5).Denotes (5 / 2) := ⟨_, rfl, by decide +kernel, by decide +kernel⟩
  have hy := Argument.denotes_int 0
  have hd := Argument.denotes_int 2
  have hblack : Colour.black.FitsBytes := by decide
  have hfits : ∀ v ∈ [Argument.real 2.5, .int 0, .int 2], v.FitsReal := by
    simpa using ⟨Argument.fitsReal_real _, (hy.hasValue (by norm_num)).fitsReal,
      (hd.hasValue (by norm_num)).fitsReal⟩
  rcases (dot_out_of_sight isReached_smallCanvas hx hy hd hblack).1 hfits with
    ⟨-, hmisses⟩ | ⟨-, -, -, -, hpainted, htakes, -⟩
  · -- The pixel in the second column is in the square.
    refine absurd ?_ (hmisses 1 0 (by decide) (by decide))
    have hradius : cappedRadius smallCanvas.width smallCanvas.height ((2 : ℤ) : ℚ) = 1 := by
      rw [cappedRadius_eq, roundHalfEven_of_eq (n := 1) (by norm_num)]
      rfl
    have hcolumn : roundHalfEven (5 / 2 : ℚ) = 2 :=
      roundHalfEven_eq_iff.2 ⟨by norm_num [abs_le], fun _ => by decide⟩
    have hcentre : Point.nearest ((5 / 2, (0 : ℤ)) : ℚ × ℚ) = ⟨2, 0⟩ := by
      rw [Point.nearest, hcolumn, roundHalfEven_intCast]
    rw [hradius, hcentre]
    simp [Point.InBox, Point.ofPixel]
  · exact hpainted (htakes (by decide))

/-- A dot in the corner of a canvas whose diameter is a finite number beyond all doubles has a capped
radius, with which it would cover the canvas.  It fails. -/
theorem dot_beyond_doubles :
    smallCanvas.IsReached ∧ (Argument.int (10 ^ 400)).Denotes ((10 ^ 400 : ℤ) : ℚ) ∧
      cappedRadius smallCanvas.width smallCanvas.height ((10 ^ 400 : ℤ) : ℚ) = 6 ∧
      dot (.int 0 : Argument) (.int 0) (.int (10 ^ 400)) (.ok .black) smallCanvas =
        .error .beyondReal smallCanvas := by
  have hd := Argument.denotes_int (10 ^ 400)
  have hvast : ¬ (Argument.int (10 ^ 400)).FitsReal := by
    rintro ⟨n, x, hn, hx⟩
    obtain rfl := Option.some.inj hn
    have hnone : Binary64.ofInt? (10 ^ 400) = none := by decide +kernel
    rw [Number.toReal, hnone] at hx
    cases hx
  have hcapped : 4 * ((smallCanvas.width : ℚ) + smallCanvas.height) ≤ ((10 ^ 400 : ℤ) : ℚ) := by
    have hle : (4 * (smallCanvas.width + smallCanvas.height) : ℤ) ≤ 10 ^ 400 := by decide +kernel
    exact_mod_cast Int.cast_le (R := ℚ).2 hle
  have hzero := Argument.denotes_int 0
  refine ⟨isReached_smallCanvas, hd, cappedRadius_of_le hcapped, dot_of_dotShape_error
    (dotShape_of_not_fitsReal hzero hzero hd ⟨.int (10 ^ 400), ?_, hvast⟩) _⟩
  exact List.mem_cons_of_mem _ (List.mem_cons_of_mem _ List.mem_cons_self)

end Canvas

end TurtleCanvas
