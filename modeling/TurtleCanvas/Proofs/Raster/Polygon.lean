import TurtleCanvas.Proofs.Raster.Clipped
import TurtleCanvas.Raster.Polygon

/-!
# How far four-sided areas reach

The edges of an area and its two borders go down in steps that are cut to whole units.  An edge stays
in the rectangle of its ends all the same, as its steps are cut towards zero.  The steps of a border
are rounded up by half a unit first, so that it may get half a unit to the right of its corners with
each row.  The rows are those of the corners.

* `Raster.mul_edgeSlope` and `Raster.mul_borderSlope` are the bounds of the way made in such steps;
* `Raster.exists_of_covers_edgeLine` says what is drawn of an edge;
* `Raster.Border.ComesDown` is what every row keeps of a border, `Raster.Border.ComesDown.bounds` says
  where the border is then, and `Raster.bounds_of_covers_scanRows` what the rows cover;
* `Raster.NearlyInBox` is where this leaves pixels, and `Raster.nearlyInBox_quadrangle` says that
  those of an area with its edges are there.
-/

namespace TurtleCanvas

namespace Raster

open Point

/-! ### Steps that are cut to whole units -/

/-- What a quotient that is cut to a whole number makes up lies between zero and the whole. -/
theorem mul_tdiv_between (n : ℤ) {d : ℤ} (hd : 0 < d) :
    min 0 n ≤ d * n.tdiv d ∧ d * n.tdiv d ≤ max 0 n := by
  have hnonneg : ∀ {m : ℤ}, 0 ≤ m → 0 ≤ d * m.tdiv d ∧ d * m.tdiv d ≤ m := fun hm =>
    ⟨Int.mul_nonneg hd.le (Int.tdiv_nonneg hm hd.le), Int.mul_tdiv_self_le hm⟩
  rcases le_total 0 n with hn | hn
  · have := hnonneg hn
    omega
  · have := hnonneg (Int.neg_nonneg.2 hn)
    rw [Int.neg_tdiv, mul_neg] at this
    omega

/-- The way made in `k` steps along an edge that rises by `n` over a distance of at least `k`
pixels. -/
theorem mul_edgeSlope (n : ℤ) {m k : ℤ} (hk : 0 ≤ k) (hkm : k * unit ≤ m) (hm : 0 < m) :
    min 0 n ≤ k * (n * unit).tdiv m ∧ k * (n * unit).tdiv m ≤ max 0 n := by
  have hslope := mul_tdiv_between (n * unit) hm
  generalize (n * unit).tdiv m = s at hslope ⊢
  have hcomm : k * unit * s = k * s * unit := by ring
  unfold unit at hkm hslope hcomm
  rcases le_total 0 n with hn | hn
  · have hs : 0 ≤ s := nonneg_of_mul_nonneg_right (by omega) hm
    have hpart := Int.mul_le_mul_of_nonneg_right hkm hs
    have hway := Int.mul_nonneg hk hs
    omega
  · have hs : s ≤ 0 := nonpos_of_mul_nonpos_right (by omega) hm
    have hpart := Int.mul_le_mul_of_nonpos_right hkm hs
    have hway := Int.mul_nonpos_of_nonneg_of_nonpos hk hs
    omega

/-- The way made in `k` of the `m` rows of a border that gets `n` to the right in all of them. -/
theorem mul_borderSlope (n : ℤ) {m k : ℤ} (hk : 0 ≤ k) (hkm : k ≤ m) (hm : 0 < m) :
    min 0 n ≤ k * (n * 2 + m).tdiv (2 * m) ∧
      2 * (k * (n * 2 + m).tdiv (2 * m)) ≤ max 0 (2 * n) + k := by
  have hslope := mul_tdiv_between (n * 2 + m) (by omega : 0 < 2 * m)
  generalize (n * 2 + m).tdiv (2 * m) = s at hslope ⊢
  rw [mul_assoc] at hslope
  rcases le_total 0 s with hs | hs
  · have hway := Int.mul_nonneg hk hs
    refine ⟨by omega, ?_⟩
    rcases le_total 0 n with hn | hn
    · -- Both sides are multiplied by the number of all rows.
      have hpart : m * (2 * (k * s)) ≤ m * (2 * n + k) :=
        calc m * (2 * (k * s)) = k * (2 * (m * s)) := by ring
          _ ≤ k * (n * 2 + m) := Int.mul_le_mul_of_nonneg_left (by omega) hk
          _ = 2 * n * k + m * k := by ring
          _ ≤ 2 * n * m + m * k := by gcongr
          _ = m * (2 * n + k) := by ring
      have := Int.le_of_mul_le_mul_left hpart hm
      omega
    · -- A border that gets to the left does not move to the right by rounding.
      have hsmall : s < 1 := by
        by_contra hone
        have := Int.mul_le_mul_of_nonneg_left (not_lt.1 hone) hm.le
        omega
      obtain rfl : s = 0 := by omega
      omega
  · have hway := Int.mul_nonpos_of_nonneg_of_nonpos hk hs
    have hpart := Int.mul_le_mul_of_nonpos_right hkm hs
    omega

/-! ### Edges as lines -/

theorem toPixel_mono : Monotone toPixel := fun a b h => by
  unfold toPixel unit
  omega

theorem covers_stride_iff {step p : Point} {count : ℕ} {x y : ℤ} :
    Span.Covers (stride step count (p.add ⟨32768, 32768⟩)) x y ↔
      ∃ k < count, toPixel (p.x + k * step.x) = x ∧ toPixel (p.y + k * step.y) = y := by
  induction count generalizing p with
  | zero =>
    refine iff_of_false (Span.not_covers_nil x y) ?_
    rintro ⟨k, hk, -⟩
    exact Nat.not_lt_zero k hk
  | succ count ih =>
    have hnext : (p.add ⟨32768, 32768⟩).add step = (p.add step).add ⟨32768, 32768⟩ := by
      simp only [Point.add, Point.mk.injEq]
      exact ⟨by ring, by ring⟩
    have hfirst : (∃ k < count + 1, toPixel (p.x + k * step.x) = x ∧ toPixel (p.y + k * step.y) = y) ↔
        (toPixel p.x = x ∧ toPixel p.y = y) ∨ ∃ k < count,
          toPixel ((p.add step).x + k * step.x) = x ∧ toPixel ((p.add step).y + k * step.y) = y := by
      rw [Nat.exists_lt_succ_left]
      simp only [Point.add, Nat.cast_zero, zero_mul, add_zero, Nat.cast_add, Nat.cast_one, add_mul,
        one_mul, add_assoc, add_comm (step.x), add_comm (step.y)]
    rw [stride, Span.covers_cons, Span.holds_ofPoint, hnext, ih, hfirst, and_comm]
    rfl

variable {p q : Point} {x y : ℤ}

/-- A line that runs more to the right than up or down stays between its ends. -/
theorem exists_of_covers_flat (hle : p.x ≤ q.x) {m : ℤ} (hm : q.x - p.x ≤ m) (hpos : 0 < m)
    (h : Span.Covers (.ofPoint ⟨toPixel q.x, toPixel q.y⟩ ::
      stride ⟨unit, ((q.y - p.y) * unit).tdiv m⟩ ((q.x - p.x) / unit + 1).toNat
        (p.add ⟨32768, 32768⟩)) x y) :
    ∃ r, InBox 0 p q r ∧ toPixel r.x = x ∧ toPixel r.y = y := by
  rw [Span.covers_cons, Span.holds_ofPoint, covers_stride_iff] at h
  rcases h with ⟨hy, hx⟩ | ⟨k, hk, hx, hy⟩
  · exact ⟨q, inBox_right p q, hx, hy⟩
  · have hway : (k : ℤ) * unit ≤ q.x - p.x := by
      unfold unit at hk ⊢
      omega
    have hrise := mul_edgeSlope (q.y - p.y) (Int.natCast_nonneg k) (hway.trans hm) hpos
    have hright : 0 ≤ (k : ℤ) * unit := by
      unfold unit
      omega
    refine ⟨⟨p.x + k * unit, p.y + k * ((q.y - p.y) * unit).tdiv m⟩, ?_, hx, hy⟩
    unfold InBox
    dsimp only
    omega

/-- A line that runs more down than to the sides is one that runs to the right, with columns and rows
exchanged. -/
theorem exists_of_covers_steep (hle : p.y ≤ q.y) {m : ℤ} (hm : q.y - p.y ≤ m) (hpos : 0 < m)
    (h : Span.Covers (.ofPoint ⟨toPixel q.x, toPixel q.y⟩ ::
      stride ⟨((q.x - p.x) * unit).tdiv m, unit⟩ ((q.y - p.y) / unit + 1).toNat
        (p.add ⟨32768, 32768⟩)) x y) :
    ∃ r, InBox 0 p q r ∧ toPixel r.x = x ∧ toPixel r.y = y := by
  have h' : Span.Covers (.ofPoint ⟨toPixel q.transposed.x, toPixel q.transposed.y⟩ ::
      stride ⟨unit, ((q.transposed.y - p.transposed.y) * unit).tdiv m⟩
        ((q.transposed.x - p.transposed.x) / unit + 1).toNat
        (p.transposed.add ⟨32768, 32768⟩)) y x := by
    rw [Span.covers_cons, Span.holds_ofPoint, covers_stride_iff] at h ⊢
    rcases h with ⟨hy, hx⟩ | ⟨k, hk, hx, hy⟩
    · exact .inl ⟨hx, hy⟩
    · exact .inr ⟨k, hk, hy, hx⟩
  obtain ⟨r, hr, hry, hrx⟩ := exists_of_covers_flat (p := p.transposed) (q := q.transposed) hle hm
    hpos h'
  exact ⟨r.transposed, hr.transposed, hrx, hry⟩

/-- **What is drawn of an edge** are pixels that points between its ends round to. -/
theorem exists_of_covers_edgeLine {width height : ℕ} (hwidth : 0 < width) (hheight : 0 < height)
    (hshort : IsShort p q) (h : Span.Covers (edgeLine width height p q) x y) :
    ∃ r, InBox 0 p q r ∧ toPixel r.x = x ∧ toPixel r.y = y := by
  rw [edgeLine] at h
  cases hvisible : visible? (width * unit) (height * unit) p q with
  | none =>
    rw [hvisible] at h
    exact absurd h (Span.not_covers_nil x y)
  | some ends =>
    obtain ⟨p', q'⟩ := ends
    have hsize : 0 < (width : ℤ) * unit ∧ 0 < (height : ℤ) * unit := by
      unfold unit
      omega
    obtain ⟨hp, hq⟩ := inBox_of_visible? hsize.1 hsize.2 hshort hvisible
    suffices ∃ r, InBox 0 p' q' r ∧ toPixel r.x = x ∧ toPixel r.y = y by
      obtain ⟨r, hr, hpixel⟩ := this
      exact ⟨r, hp.between hq hr, hpixel⟩
    have hbound : ∀ n : ℤ, 0 < ((n.natAbs ||| 1 : ℕ) : ℤ) ∧ n ≤ ((n.natAbs ||| 1 : ℕ) : ℤ) ∧
        -n ≤ ((n.natAbs ||| 1 : ℕ) : ℤ) := by
      intro n
      have hone : 1 ≤ n.natAbs ||| 1 := Nat.right_le_or
      have hself : n.natAbs ≤ n.natAbs ||| 1 := Nat.left_le_or
      omega
    -- A line to the left or up is drawn from its other end.
    simp only [hvisible] at h
    split_ifs at h with hflat hback hback
    · obtain ⟨hpos, -, hle⟩ := hbound (q'.x - p'.x)
      rw [neg_sub] at h hle
      obtain ⟨r, hr, hpixel⟩ := exists_of_covers_flat (p := q') (q := p') (by omega) hle hpos h
      exact ⟨r, hr.comm, hpixel⟩
    · obtain ⟨hpos, hle, -⟩ := hbound (q'.x - p'.x)
      exact exists_of_covers_flat (by omega) hle hpos h
    · obtain ⟨hpos, -, hle⟩ := hbound (q'.y - p'.y)
      rw [neg_sub] at h hle
      obtain ⟨r, hr, hpixel⟩ := exists_of_covers_steep (p := q') (q := p') (by omega) hle hpos h
      exact ⟨r, hr.comm, hpixel⟩
    · obtain ⟨hpos, hle, -⟩ := hbound (q'.y - p'.y)
      exact exists_of_covers_steep (by omega) hle hpos h

/-! ### Borders -/

variable {v : Corners} {top row lo hi : ℤ} {b b' : Border}

/-- A border comes down an edge: it left the corner `i` in the row `start`, towards the corner `j`,
and has not yet reached the row in which it turns. -/
def Border.ComesDown (v : Corners) (top row : ℤ) (b : Border) : Prop :=
  ∃ (i j : Fin 4) (start : ℤ), (top ≤ start ∧ start ≤ row) ∧ row < b.turn ∧
    b.slope = (((v j).x - (v i).x) * 2 + (b.turn - start)).tdiv (2 * (b.turn - start)) ∧
    b.x = (v i).x + (row - start) * b.slope

/-- A border that is about to enter a row turns in it, or comes down an edge. -/
def Border.IsReady (v : Corners) (top row : ℤ) (b : Border) : Prop :=
  b.turn ≤ row ∨ b.ComesDown v top row

/-- **Where a border is**: between the corners, but for half a unit to the right in each row. -/
theorem Border.ComesDown.bounds (h : b.ComesDown v top row)
    (hv : ∀ i, lo ≤ (v i).x ∧ (v i).x ≤ hi) : lo ≤ b.x ∧ 2 * b.x ≤ 2 * hi + (row - top) := by
  obtain ⟨i, j, start, hstart, hturn, hslope, hx⟩ := h
  have hway := mul_borderSlope ((v j).x - (v i).x) (by omega : 0 ≤ row - start)
    (by omega : row - start ≤ b.turn - start) (by omega)
  rw [← hslope, ← sub_eq_iff_eq_add'.2 hx] at hway
  have hi := hv i
  have hj := hv j
  omega

theorem Border.ComesDown.down (h : b.ComesDown v top row) : b.down.IsReady v top (row + 1) := by
  obtain ⟨i, j, start, hstart, hturn, hslope, hx⟩ := h
  rcases (Int.add_one_le_iff.2 hturn).eq_or_lt with hlast | hlt
  · exact .inl hlast.ge
  · refine .inr ⟨i, j, start, by omega, hlt, hslope, ?_⟩
    show b.x + b.slope = _
    rw [hx]
    show _ = (v i).x + (row + 1 - start) * b.slope
    ring

theorem Border.comesDown_turnAt {direction start : Fin 4} {edges left : ℕ} (htop : top ≤ row)
    (h : turnAt v direction row start edges = some (b, left)) : b.ComesDown v top row := by
  induction edges generalizing start with
  | zero => exact absurd h (by simp [turnAt])
  | succ edges ih =>
    rw [turnAt] at h
    dsimp only at h
    split_ifs at h with hturn
    · obtain ⟨rfl, -⟩ := Prod.mk.inj (Option.some.inj h)
      exact ⟨start, start + direction, row, ⟨htop, le_rfl⟩, hturn, rfl, by simp⟩
    · exact ih h

theorem Border.IsReady.at (h : b.IsReady v top row) (htop : top ≤ row) {direction : Fin 4}
    {edges left : ℕ} (hat : b.at v direction row edges = some (b', left)) :
    b'.ComesDown v top row := by
  rw [Border.at] at hat
  split_ifs at hat with hturn
  · exact comesDown_turnAt htop hat
  · obtain ⟨rfl, -⟩ := Prod.mk.inj (Option.some.inj hat)
    exact h.resolve_left hturn

/-! ### Rows -/

theorem bounds_of_covers_betweenBorders {a : Border}
    (h : Span.Covers (betweenBorders row a b) x y) :
    row = y ∧ toPixel (min a.x b.x) ≤ x ∧ x ≤ toPixel (max a.x b.x) := by
  rw [betweenBorders] at h
  split_ifs at h with habove hcrossed
  · exact absurd h (Span.not_covers_nil x y)
  · rw [min_eq_right hcrossed.le, max_eq_left hcrossed.le]
    simpa [Span.Covers, Span.Holds] using h
  · rw [min_eq_left (not_lt.1 hcrossed), max_eq_right (not_lt.1 hcrossed)]
    simpa [Span.Covers, Span.Holds] using h

/-- **What the rows between two borders cover**, from a row on that both can enter. -/
theorem bounds_of_covers_scanRows (hv : ∀ i, lo ≤ (v i).x ∧ (v i).x ≤ hi) {count edges : ℕ}
    {a b : Border} (htop : top ≤ row) (ha : a.IsReady v top row) (hb : b.IsReady v top row)
    (h : Span.Covers (scanRows v count row edges a b) x y) :
    (row ≤ y ∧ y < row + count) ∧ toPixel lo ≤ x ∧ x ≤ toPixel (hi + (y - top) / 2) := by
  induction count generalizing row edges a b with
  | zero => exact absurd h (Span.not_covers_nil x y)
  | succ count ih =>
    rw [scanRows] at h
    cases hata : a.at v 1 row edges with
    | none =>
      rw [hata] at h
      exact absurd h (Span.not_covers_nil x y)
    | some turned =>
      obtain ⟨a', edges'⟩ := turned
      cases hatb : b.at v 3 row edges' with
      | none =>
        simp only [hata, hatb] at h
        exact absurd h (Span.not_covers_nil x y)
      | some turned =>
        obtain ⟨b', edges''⟩ := turned
        simp only [hata, hatb, Span.covers_append] at h
        have ha' := ha.at htop hata
        have hb' := hb.at htop hatb
        rcases h with h | h
        · obtain ⟨rfl, hleft, hright⟩ := bounds_of_covers_betweenBorders h
          have hax := ha'.bounds hv
          have hbx := hb'.bounds hv
          exact ⟨by omega, (toPixel_mono (by omega)).trans hleft,
            hright.trans (toPixel_mono (by omega))⟩
        · obtain ⟨hrows, hcolumns⟩ := ih (by omega) ha'.down hb'.down h
          exact ⟨by omega, hcolumns⟩

/-- A pixel is at most as far out as points that are `d` outside the rectangle of `p` and `q` are when
they are rounded to pixels, but for half a unit to the right in each row. -/
structure NearlyInBox (d : ℤ) (p q : Point) (x y : ℤ) : Prop where
  upper : toPixel (min p.y q.y - d) ≤ y
  lower : y ≤ toPixel (max p.y q.y + d)
  left : toPixel (min p.x q.x - d) ≤ x
  right : x ≤ toPixel (max p.x q.x + d + (y - toPixel (min p.y q.y - d)) / 2)

theorem nearlyInBox_fillRows {width height : ℕ} {d : ℤ} (hv : ∀ i, InBox d p q (v i))
    (h : Span.Covers (fillRows width height v) x y) : NearlyInBox d p q x y := by
  rw [fillRows] at h
  dsimp only at h
  split_ifs at h with houtside
  · exact absurd h (Span.not_covers_nil x y)
  · have hready : ∀ top, Border.IsReady v top top ⟨topCorner v, -unit, 0, top⟩ :=
      fun top => .inl le_rfl
    obtain ⟨hrows, hleft, hright⟩ :=
      bounds_of_covers_scanRows (fun i => (hv i).1) le_rfl (hready _) (hready _) h
    have htop : toPixel (min p.y q.y - d) ≤
        toPixel (min (min (v 0).y (v 1).y) (min (v 2).y (v 3).y)) :=
      toPixel_mono (le_min (le_min (hv 0).2.1 (hv 1).2.1) (le_min (hv 2).2.1 (hv 3).2.1))
    have hbottom : toPixel (max (max (v 0).y (v 1).y) (max (v 2).y (v 3).y)) ≤
        toPixel (max p.y q.y + d) :=
      toPixel_mono (max_le (max_le (hv 0).2.2 (hv 1).2.2) (max_le (hv 2).2.2 (hv 3).2.2))
    exact ⟨by omega, by omega, hleft, hright.trans (toPixel_mono (by omega))⟩

/-- **Where a four-sided area is**, if its corners are in a rectangle. -/
theorem nearlyInBox_quadrangle {width height : ℕ} (hwidth : 0 < width) (hheight : 0 < height)
    {d : ℤ} (hv : ∀ i, InBox d p q (v i)) (hshort : ∀ i j, IsShort (v i) (v j))
    (h : Span.Covers (quadrangle width height v) x y) : NearlyInBox d p q x y := by
  have hedge : ∀ i j, Span.Covers (edgeLine width height (v i) (v j)) x y →
      NearlyInBox d p q x y := by
    intro i j hcovers
    obtain ⟨r, hr, rfl, rfl⟩ := exists_of_covers_edgeLine hwidth hheight (hshort i j) hcovers
    obtain ⟨⟨hleft, hright⟩, hupper, hlower⟩ := (hv i).between (hv j) hr
    have htop := toPixel_mono hupper
    exact ⟨htop, toPixel_mono hlower, toPixel_mono hleft, toPixel_mono (by omega)⟩
  simp only [quadrangle, Span.covers_append] at h
  rcases h with (((h | h) | h) | h) | h
  · exact hedge 3 0 h
  · exact hedge 0 1 h
  · exact hedge 1 2 h
  · exact hedge 2 3 h
  · exact nearlyInBox_fillRows hv h

end Raster

end TurtleCanvas
